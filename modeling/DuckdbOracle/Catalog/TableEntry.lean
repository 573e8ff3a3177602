import Mathlib.Data.List.TakeWhile
import DuckdbOracle.Catalog.State
import DuckdbOracle.Duckdb.Columns
import DuckdbOracle.Oracle.Condition
import DuckdbOracle.Oracle.Dictionary

/-!
# The entry of an Oracle table

`OracleTableEntry::Create` reads the columns of a table out of `all_tab_columns` and
keeps them, with the names it was given, in a catalog entry.  `GetScanFunction` then
writes a query with these names in quotes.

The two treat letter case differently: the dictionary is asked for `UPPER` of both
names, the query quotes them as they are.  That is all this file says about it; which
names an entry is made with is decided by the generator.
-/

namespace DuckdbOracle
namespace Catalog

open Duckdb Oracle

/-! ## Texts -/

/-- `StringUtil::StartsWith`. -/
def startsWith (text start : String) : Bool := start.toList.isPrefixOf text.toList

/-- The null character. -/
def nullChar : Char := '\x00'

/-- `c_str()`, as `StringUtil::Format` reads it. -/
def cString (s : String) : String := String.ofList (s.toList.takeWhile (· ≠ nullChar))

/-- `StringUtil::Contains`, which is `find(…) != npos`. -/
def contains (text part : String) : Bool := text.toList.tails.any part.toList.isPrefixOf

/-- `std::stoll`: white space, a sign, digits; whatever follows is ignored.  `none` is
an exception. -/
def stoll (text : List Char) : Option ℤ :=
  let text := text.dropWhile fun c => c ∈ [' ', '\t', '\n', '\x0b', '\x0c', '\r']
  let (negative, text) := match text with
    | '-' :: rest => (true, rest)
    | '+' :: rest => (false, rest)
    | rest => (false, rest)
  let digits := text.takeWhile Char.isDigit
  if digits = [] then none
  else
    let magnitude : ℤ := Nat.ofDigitChars 10 digits 0
    let value := if negative then -magnitude else magnitude
    if isInt64 value then some value else none

/-- `parse_idx` of `LoadColumns`. -/
def parseIdx (s : String) : ℕ :=
  if s = "" then 0 else ((stoll s.toList).map castIdx).getD 0

/-- Neither white space nor a sign. -/
def startsNumber (c : Char) : Prop :=
  c ∉ [' ', '\t', '\n', '\x0b', '\x0c', '\r'] ∧ c ≠ '-' ∧ c ≠ '+'

instance (c : Char) : Decidable (startsNumber c) := inferInstanceAs (Decidable (_ ∧ _ ∧ _))

/-- **`std::stoll` reads the digits at the front**, after a minus sign or none. -/
theorem stoll_signed (negative : Bool) {digits rest : List Char}
    (hdigits : ∀ c ∈ digits, c.isDigit = true)
    (hrest : ∀ c, rest.head? = some c → c.isDigit = false)
    (hstart : ∀ c, (digits ++ rest).head? = some c → startsNumber c) :
    stoll ((if negative then ['-'] else []) ++ (digits ++ rest)) =
      if digits = [] then none
      else
        let magnitude : ℤ := Nat.ofDigitChars 10 digits 0
        let value := if negative then -magnitude else magnitude
        if isInt64 value then some value else none := by
  have htake : (digits ++ rest).takeWhile Char.isDigit = digits :=
    (takeWhile_digits hdigits hrest).1
  cases negative with
  | true =>
    have hdrop : ('-' :: (digits ++ rest)).dropWhile
        (fun c => c ∈ [' ', '\t', '\n', '\x0b', '\x0c', '\r']) = '-' :: (digits ++ rest) :=
      List.dropWhile_cons_of_neg (by decide)
    simp only [stoll, if_true, List.singleton_append, hdrop, htake]
  | false =>
    cases htext : digits ++ rest with
    | nil =>
      rw [(List.append_eq_nil_iff.mp htext).1]
      rfl
    | cons c text =>
      obtain ⟨hspace, hminus, hplus⟩ := hstart c (by rw [htext]; rfl)
      have hdrop : (c :: text).dropWhile
          (fun c => c ∈ [' ', '\t', '\n', '\x0b', '\x0c', '\r']) = c :: text :=
        List.dropWhile_cons_of_neg (by simpa using hspace)
      rw [htext] at htake
      simp only [stoll, Bool.false_eq_true, if_false, List.nil_append, hdrop]
      split
      · next heq => exact absurd (List.cons.inj heq).1 hminus
      · next heq => exact absurd (List.cons.inj heq).1 hplus
      · simp only [htake, Bool.false_eq_true, if_false]

/-! ## Columns -/

/-- `MapOracleColumn`. -/
def mapOracleColumn (dataType : String) (precision scale : ℕ) (settings : OracleSettings) :
    LogicalType :=
  let type := upper dataType
  if type = "VECTOR" ∨ startsWith type "VECTOR(" then
    if settings.vectorToList then .list .float else .varchar
  else if type = "SDO_GEOMETRY" ∨ type = "MDSYS.SDO_GEOMETRY" then
    if settings.enableSpatialTypes then .user "geometry" else .varchar
  else if type = "JSON" then .varchar
  else if type = "XMLTYPE" ∨ type = "SYS.XMLTYPE" then .varchar
  else if type = "NUMBER" then
    if precision = 0 then .double
    else if precision > 38 then .double
    else .decimal precision (scale % 256)
  else if type = "FLOAT" ∨ type = "BINARY_FLOAT" ∨ type = "BINARY_DOUBLE" then .double
  else if type = "DATE" ∨ contains type "TIMESTAMP" then .timestamp
  else if contains type "CHAR" ∨ contains type "CLOB" ∨ contains type "VARCHAR" ∨
      contains type "NCHAR" then .varchar
  else if contains type "BLOB" ∨ contains type "RAW" ∨ contains type "BFILE" then .blob
  else .varchar

/-- `OracleTypeCategory`. -/
inductive OracleTypeCategory where
  | standard
  | numeric
  | temporal
  | spatial
  | vector
  | json
  | lobClob
  | lobBlob
  | raw
  | xml
  | unknown
  deriving DecidableEq

/-- `OracleColumnMetadata`. -/
structure OracleColumnMetadata where
  columnName : String
  oracleDataType : String
  category : OracleTypeCategory
  needsServerConversion : Bool
  deriving DecidableEq

/-- The category of a data type, and whether it always needs a conversion. -/
def classify (dataType : String) : OracleTypeCategory × Bool :=
  let type := upper dataType
  if type = "SDO_GEOMETRY" ∨ type = "MDSYS.SDO_GEOMETRY" then (.spatial, true)
  else if type = "VECTOR" ∨ startsWith type "VECTOR(" then (.vector, true)
  else if type = "JSON" then (.json, true)
  else if type = "BLOB" ∨ type = "BFILE" then (.lobBlob, false)
  else if type = "CLOB" ∨ type = "NCLOB" then (.lobClob, false)
  else if type = "RAW" ∨ startsWith type "RAW(" then (.raw, false)
  else if type = "XMLTYPE" ∨ type = "SYS.XMLTYPE" then (.xml, true)
  else if type = "NUMBER" ∨ type = "FLOAT" ∨ type = "BINARY_FLOAT" ∨ type = "BINARY_DOUBLE" ∨
      startsWith type "NUMBER(" then (.numeric, false)
  else if type = "DATE" ∨ contains type "TIMESTAMP" then (.temporal, false)
  else if contains type "CHAR" ∨ contains type "VARCHAR" then (.standard, false)
  else (.unknown, false)

/-- The constructor of `OracleColumnMetadata`. -/
def oracleColumnMetadata (column : DictionaryColumn) : OracleColumnMetadata where
  columnName := column.columnName
  oracleDataType := column.dataType
  category := (classify column.dataType).1
  needsServerConversion := (classify column.dataType).2

/-- The definition of a column, as `LoadColumns` makes it. -/
def columnDefinition (settings : OracleSettings) (column : DictionaryColumn) :
    ColumnDefinition where
  name := column.columnName
  type := mapOracleColumn column.dataType (parseIdx column.dataPrecision)
    (parseIdx column.dataScale) settings

/-- What `LoadColumns` makes of columns. -/
def loaded (settings : OracleSettings) (columns : List DictionaryColumn) :
    List ColumnDefinition × List OracleColumnMetadata :=
  (columns.map (columnDefinition settings), columns.map oracleColumnMetadata)

/-- `LoadColumns`: the query asks for `UPPER` of the owner and of the name. -/
def loadColumns (db : Database) (settings : OracleSettings) (schema table : String) :
    List ColumnDefinition × List OracleColumnMetadata :=
  loaded settings (db.dictionary.columnsOf (db.upper schema) (db.upper table))

/-! ## The entry -/

/-- `OracleTableEntry`, with the names that its `CreateTableInfo` has. -/
structure OracleTableEntry where
  schema : String
  name : String
  columns : List ColumnDefinition
  schemaName : String
  tableName : String
  columnMetadata : List OracleColumnMetadata
  deriving DecidableEq

/-- `OracleTableEntry::Create`. -/
def OracleTableEntry.create (db : Database) (settings : OracleSettings)
    (schema schemaName tableName duckdbEntryName : String) : Except String OracleTableEntry := do
  let (cols, metadata) := loadColumns db settings schemaName tableName
  let columns ← cols.foldlM addColumn []
  return {
    schema := schema
    name := if duckdbEntryName = "" then tableName else duckdbEntryName
    columns := columns
    schemaName := schemaName
    tableName := tableName
    columnMetadata := metadata }

/-- `OracleColumnMetadata::RequiresQueryRewrite`. -/
def OracleColumnMetadata.requiresQueryRewrite (column : OracleColumnMetadata)
    (version : OracleVersionInfo) (tryNativeLobs : Bool) : Bool :=
  match column.category with
  | .spatial | .xml | .vector => true
  | .json => version.supportsJsonType
  | .lobBlob | .raw => !tryNativeLobs || column.needsServerConversion
  | .lobClob => column.needsServerConversion
  | _ => false

/-- `GetConversionExpression`. -/
def conversionExpression (quotedCol : String) (column : OracleColumnMetadata)
    (version : OracleVersionInfo) : String :=
  match column.category with
  | .spatial => "SDO_UTIL.TO_WKTGEOMETRY(" ++ cString quotedCol ++ ")"
  | .vector => "VECTOR_SERIALIZE(" ++ cString quotedCol ++ ")"
  | .json =>
    if version.supportsJsonType then
      "JSON_SERIALIZE(" ++ cString quotedCol ++ " RETURNING VARCHAR2(32767))"
    else quotedCol
  | .xml => "XMLSERIALIZE(CONTENT " ++ cString quotedCol ++ " AS CLOB)"
  | .lobBlob | .raw =>
    if column.needsServerConversion then "RAWTOHEX(" ++ cString quotedCol ++ ")" else quotedCol
  | .lobClob =>
    if column.needsServerConversion then "TO_CHAR(" ++ cString quotedCol ++ ")" else quotedCol
  | _ => quotedCol

/-- One column of the query. -/
def OracleTableEntry.selectColumn (entry : OracleTableEntry) (version : OracleVersionInfo)
    (settings : OracleSettings) (column : ColumnDefinition × ℕ) : String :=
  let quotedCol := writeQuoted column.1.name
  match entry.columnMetadata[column.2]? with
  | some metadata =>
    if settings.enableTypeConversion &&
        metadata.requiresQueryRewrite version settings.tryNativeLobs then
      cString (conversionExpression quotedCol metadata version) ++ " AS " ++ cString quotedCol
    else quotedCol
  | none => quotedCol

/-- What the query reads from.  The names of an entry have no null character, or else Oracle has
no object of that name. -/
def OracleTableEntry.fromClause (entry : OracleTableEntry) : String :=
  writeQuoted entry.schemaName ++ "." ++ writeQuoted entry.tableName

/-- The query of `GetScanFunction`. -/
def OracleTableEntry.scanQuery (entry : OracleTableEntry) (version : OracleVersionInfo)
    (settings : OracleSettings) : String :=
  "SELECT " ++ cString (join ", " (entry.columns.zipIdx.map
    (entry.selectColumn version settings))) ++ " FROM " ++
      cString (writeQuoted entry.schemaName) ++ "." ++ cString (writeQuoted entry.tableName)

/-! ## C strings -/

theorem toList_cString (s : String) :
    (cString s).toList = s.toList.takeWhile (· ≠ nullChar) := String.toList_ofList

/-- A C string has no null character. -/
theorem not_mem_cString (s : String) : nullChar ∉ (cString s).toList := by
  rw [toList_cString]
  intro h
  have hne := @List.mem_takeWhile_imp _ (fun c => decide (c ≠ nullChar)) _ _ h
  exact of_decide_eq_true hne rfl

/-- A string without a null character is itself as a C string. -/
theorem cString_eq {s : String} (h : nullChar ∉ s.toList) : cString s = s := by
  have hall : s.toList.takeWhile (· ≠ nullChar) = s.toList :=
    List.takeWhile_eq_self_iff.mpr fun c hc => decide_eq_true fun heq => h (heq ▸ hc)
  rw [cString, hall, String.ofList_toList]

theorem nullChar_mem_writeQuoted (name : String) :
    nullChar ∈ (writeQuoted name).toList ↔ nullChar ∈ name.toList := by
  rw [writeQuoted, String.toList_ofList]
  exact QuotedText.mem_quote (by decide) name.toList

theorem cString_writeQuoted {name : String} (h : nullChar ∉ name.toList) :
    cString (writeQuoted name) = writeQuoted name :=
  cString_eq (mt (nullChar_mem_writeQuoted name).mp h)

/-- A character of a joined text is in one of the texts, or separates them. -/
theorem not_mem_join {c : Char} {sep : String} (hsep : c ∉ sep.toList) :
    ∀ {ss : List String}, (∀ s ∈ ss, c ∉ s.toList) → c ∉ (join sep ss).toList
  | [], _ => by simp [join]
  | [s], h => h s List.mem_cons_self
  | s :: t :: ss, h => by
    obtain ⟨hs, hrest⟩ := List.forall_mem_cons.mp h
    rw [join, String.toList_append, String.toList_append, List.mem_append, List.mem_append]
    exact not_or.mpr ⟨not_or.mpr ⟨hs, hsep⟩, not_mem_join hsep hrest⟩

/-- No name in the query of an entry has a null character. -/
structure OracleTableEntry.NullFree (entry : OracleTableEntry) : Prop where
  schemaName : nullChar ∉ entry.schemaName.toList
  tableName : nullChar ∉ entry.tableName.toList
  columns : ∀ column ∈ entry.columns, nullChar ∉ column.name.toList

theorem not_mem_conversionExpression {quotedCol : String} (h : nullChar ∉ quotedCol.toList)
    (column : OracleColumnMetadata) (version : OracleVersionInfo) :
    nullChar ∉ (conversionExpression quotedCol column version).toList := by
  have hwrapped : ∀ opening closing : String, nullChar ∉ opening.toList →
      nullChar ∉ closing.toList →
        nullChar ∉ (opening ++ cString quotedCol ++ closing).toList := by
    intro opening closing hopening hclosing
    rw [String.toList_append, String.toList_append, List.mem_append, List.mem_append]
    exact not_or.mpr ⟨not_or.mpr ⟨hopening, not_mem_cString quotedCol⟩, hclosing⟩
  unfold conversionExpression
  split
  case h_3 =>
    split
    · exact hwrapped _ _ (by decide) (by decide)
    · exact h
  case h_5 | h_6 | h_7 =>
    split
    · exact hwrapped _ _ (by decide) (by decide)
    · exact h
  case h_1 | h_2 | h_4 => exact hwrapped _ _ (by decide) (by decide)
  case h_8 => exact h

theorem not_mem_selectColumn (entry : OracleTableEntry) (version : OracleVersionInfo)
    (settings : OracleSettings) {column : ColumnDefinition × ℕ}
    (h : nullChar ∉ column.1.name.toList) :
    nullChar ∉ (entry.selectColumn version settings column).toList := by
  have hquoted := mt (nullChar_mem_writeQuoted column.1.name).mp h
  unfold OracleTableEntry.selectColumn
  split
  · split
    · rw [String.toList_append, String.toList_append, List.mem_append, List.mem_append]
      exact not_or.mpr ⟨not_or.mpr ⟨not_mem_cString _, by decide⟩, not_mem_cString _⟩
    · exact hquoted
  · exact hquoted

/-- **The query of an entry** without null characters is put together as it is written. -/
theorem scanQuery_eq {entry : OracleTableEntry} (h : entry.NullFree)
    (version : OracleVersionInfo) (settings : OracleSettings) :
    entry.scanQuery version settings =
      "SELECT " ++ join ", " (entry.columns.zipIdx.map (entry.selectColumn version settings)) ++
        " FROM " ++ entry.fromClause := by
  have hcolumns : nullChar ∉
      (join ", " (entry.columns.zipIdx.map (entry.selectColumn version settings))).toList := by
    refine not_mem_join (by decide) fun s hs => ?_
    obtain ⟨column, hcolumn, rfl⟩ := List.mem_map.mp hs
    exact not_mem_selectColumn entry version settings
      (h.columns column.1 (List.fst_mem_of_mem_zipIdx hcolumn))
  rw [OracleTableEntry.scanQuery, OracleTableEntry.fromClause, cString_eq hcolumns,
    cString_writeQuoted h.schemaName, cString_writeQuoted h.tableName]
  simp only [String.append_assoc]

/-! ## What an entry is made of, and what it reads -/

/-- **An entry has the columns that are stored under its names in upper case**, and it
is made exactly if their names differ in more than letter case. -/
theorem create_eq_ok_iff {db : Database} {settings : OracleSettings}
    {schema schemaName tableName duckdbEntryName : String} {entry : OracleTableEntry} :
    OracleTableEntry.create db settings schema schemaName tableName duckdbEntryName = .ok entry ↔
      DistinctNames ((db.dictionary.columnsOf (db.upper schemaName)
          (db.upper tableName)).map (·.columnName)) ∧
        entry = {
          schema := schema
          name := if duckdbEntryName = "" then tableName else duckdbEntryName
          columns := (loadColumns db settings schemaName tableName).1
          schemaName := schemaName
          tableName := tableName
          columnMetadata := (loadColumns db settings schemaName tableName).2 } := by
  have hnames : (loadColumns db settings schemaName tableName).1.map (·.name) =
      (db.dictionary.columnsOf (db.upper schemaName) (db.upper tableName)).map (·.columnName) := by
    rw [loadColumns, loaded, List.map_map]
    rfl
  rw [← hnames]
  unfold OracleTableEntry.create
  cases hadd : (loadColumns db settings schemaName tableName).1.foldlM addColumn [] with
  | error e =>
    simp only [bind, Except.bind, hadd]
    constructor
    · intro h
      cases h
    · rintro ⟨hdistinct, -⟩
      rw [addColumns_eq_ok_iff.mpr ⟨rfl, hdistinct⟩] at hadd
      cases hadd
  | ok columns =>
    simp only [bind, Except.bind, hadd, pure, Except.pure]
    obtain ⟨rfl, hdistinct⟩ := addColumns_eq_ok_iff.mp hadd
    constructor
    · intro h
      exact ⟨hdistinct, (Except.ok.inj h).symm⟩
    · rintro ⟨-, rfl⟩
      rfl

/-- The object that the query of an entry reads. -/
def OracleTableEntry.Scans (db : Database) (entry : OracleTableEntry) (o : DictionaryObject) :
    Prop :=
  ∃ p, readQualified? entry.fromClause.toList = some p ∧ db.dictionary.Resolves p o

/-- The names in the query are the names of the entry. -/
theorem scans_iff {db : Database} {entry : OracleTableEntry} {o : DictionaryObject} :
    entry.Scans db o ↔ db.dictionary.Resolves (entry.schemaName, entry.tableName) o := by
  unfold OracleTableEntry.Scans OracleTableEntry.fromClause
  rw [readQualified?_writeQuoted]
  constructor
  · rintro ⟨p, hp, hresolves⟩
    obtain rfl := Option.some.inj hp
    exact hresolves
  · intro h
    exact ⟨_, rfl, h⟩

end Catalog
end DuckdbOracle
