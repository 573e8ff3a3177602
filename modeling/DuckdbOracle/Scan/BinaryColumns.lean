import DuckdbOracle.Catalog.TableEntry
import DuckdbOracle.Scan.RowsOnce
import DuckdbOracle.Scan.Truncation

/-!
# Binary columns

With `try_native_lobs` off, a `BLOB` or `RAW` column "requires a query rewrite": its bytes
are to come as hexadecimal digits.  The rewriting is asked a second time, though, and what
it asks then is `needs_server_conversion`, which no binary type has.  So the expression is
the column itself under either setting, `RAWTOHEX` never reaches the server, and
`DecodeHexToBlob`, which would undo it, has no caller.

What is left is one path.  Oracle describes the column by its own type, the scan defines it
as `SQLT_BIN`, and the cell gets the bytes as they are (`binary_scan_exact`).
-/

namespace DuckdbOracle
namespace Scan

open Catalog Duckdb Oracle

/-! ## Hexadecimal digits -/

/-- `RAWTOHEX`: two upper-case digits for a byte. -/
def rawToHex (bytes : List UInt8) : List Char :=
  bytes.flatMap fun b => [hexDigit (b.toNat / 16), hexDigit (b.toNat % 16)]

/-- `hex_digit` of `DecodeHexToBlob`. -/
def hexValue (c : Char) : ℕ :=
  if '0' ≤ c ∧ c ≤ '9' then c.toNat - '0'.toNat
  else if 'A' ≤ c ∧ c ≤ 'F' then c.toNat - 'A'.toNat + 10
  else if 'a' ≤ c ∧ c ≤ 'f' then c.toNat - 'a'.toNat + 10
  else 0

/-- `DecodeHexToBlob`; the last of an odd number of digits is left out. -/
def decodeHexToBlob : List Char → List UInt8
  | high :: low :: rest =>
    UInt8.ofNat (hexValue high <<< 4 ||| hexValue low) :: decodeHexToBlob rest
  | _ => []

theorem hexValue_hexDigit {n : ℕ} (h : n < 16) : hexValue (hexDigit n) = n := by
  have hall : ∀ d : Fin 16, hexValue (hexDigit d) = d := by decide
  exact hall ⟨n, h⟩

/-- **Decoding undoes `RAWTOHEX`**, for every byte string. -/
theorem decodeHexToBlob_rawToHex (bytes : List UInt8) :
    decodeHexToBlob (rawToHex bytes) = bytes := by
  induction bytes with
  | nil => rfl
  | cons b bytes ih =>
    have hlt := b.toNat_lt
    have hhigh : b.toNat / 16 < 16 := by omega
    have hlow : b.toNat % 16 < 2 ^ 4 := Nat.mod_lt _ (by decide)
    have hbyte : (b.toNat / 16) <<< 4 ||| b.toNat % 16 = b.toNat := by
      rw [← Nat.shiftLeft_add_eq_or_of_lt hlow, Nat.shiftLeft_eq]
      omega
    show UInt8.ofNat (hexValue (hexDigit (b.toNat / 16)) <<< 4 |||
      hexValue (hexDigit (b.toNat % 16))) :: decodeHexToBlob (rawToHex bytes) = b :: bytes
    rw [hexValue_hexDigit hhigh, hexValue_hexDigit hlow, hbyte, ih, UInt8.ofNat_toNat]

/-! ## What Oracle does -/

/-- The binary types; a `RAW` column has a length. -/
inductive BinaryType where
  | blob
  | raw (length : ℕ)

/-- `data_type` of the dictionary. -/
def BinaryType.dataType : BinaryType → String
  | .blob => "BLOB"
  | .raw _ => "RAW"

/-- The values of a column: a `RAW` has at most 32767 bytes. -/
def BinaryType.Holds : BinaryType → List UInt8 → Prop
  | .blob, _ => True
  | .raw length, bytes => length ≤ 32767 ∧ bytes.length ≤ length

/-- The two ways to read a binary column. -/
inductive BinaryRead where
  | native
  | hex

/-- The expression that reads the column. -/
def BinaryRead.expression (quotedCol : String) : BinaryRead → String
  | .native => quotedCol
  | .hex => "RAWTOHEX(" ++ cString quotedCol ++ ")"

/-- The type that is described: the column's own, or a text. -/
def BinaryRead.ociType : BinaryRead → BinaryType → OciType
  | .native, .blob => .blob
  | .native, .raw _ => .bin
  | .hex, _ => .chr

/-- What is delivered of a stored value: its bytes, or their digits. -/
def BinaryRead.value : BinaryRead → List UInt8 → List UInt8
  | .native, bytes => bytes
  | .hex, bytes => (rawToHex bytes).map fun c => UInt8.ofNat c.toNat

/-- **Oracle's answer to a select item** that reads a binary column with these stored
values, with an alias or without one. -/
structure Answers (type : BinaryType) (quotedCol item : String) (described : DescribedColumn)
    (stored values : List OciValue) : Prop where
  read : ∀ read : BinaryRead, item = read.expression quotedCol ∨
    item = cString (read.expression quotedCol) ++ " AS " ++ cString quotedCol →
      described.dataType = read.ociType type ∧ values = stored.map (Option.map read.value)
  /-- A `BLOB` has no size in characters. -/
  charSize : described.dataType = .blob → described.charSize = 0
  holds : ∀ bytes, some bytes ∈ stored → type.Holds bytes

/-! ## The query reads the column itself -/

theorem classify_binary (type : BinaryType) :
    ((classify type.dataType).1 = .lobBlob ∨ (classify type.dataType).1 = .raw) ∧
      (classify type.dataType).2 = false := by
  cases type with
  | blob => decide
  | raw length =>
    show ((classify "RAW").1 = .lobBlob ∨ (classify "RAW").1 = .raw) ∧ (classify "RAW").2 = false
    decide

theorem mapOracleColumn_binary (type : BinaryType) (precision scale : ℕ)
    (settings : OracleSettings) :
    mapOracleColumn type.dataType precision scale settings = .blob := by
  cases type with
  | blob => rfl
  | raw length =>
    show mapOracleColumn "RAW" precision scale settings = .blob
    rfl

/-- **The expression is the column**, whatever the settings. -/
theorem selectColumn_binary {type : BinaryType} {column : DictionaryColumn}
    (htype : column.dataType = type.dataType) {entry : OracleTableEntry} {c : ℕ}
    (hmetadata : entry.columnMetadata[c]? = some (oracleColumnMetadata column))
    (version : OracleVersionInfo) (settings : OracleSettings) {definition : ColumnDefinition}
    (hname : definition.name = column.columnName) :
    let quotedCol := writeQuoted column.columnName
    entry.selectColumn version settings (definition, c) = quotedCol ∨
      entry.selectColumn version settings (definition, c) =
        cString quotedCol ++ " AS " ++ cString quotedCol := by
  intro quotedCol
  obtain ⟨hcategory, hconversion⟩ := classify_binary type
  rw [← htype] at hcategory hconversion
  have hexpression :
      conversionExpression quotedCol (oracleColumnMetadata column) version = quotedCol := by
    unfold conversionExpression oracleColumnMetadata
    rcases hcategory with h | h <;> simp only [h, hconversion, Bool.false_eq_true, if_false]
  unfold OracleTableEntry.selectColumn
  simp only [hmetadata, hname]
  split
  · right
    rw [hexpression]
  · left
    rfl

/-! ## The cells -/

/-- The cell of a stored value. -/
def storedCell {ν : Type} : OciValue → OutputCell ν
  | none => .null
  | some bytes => .string bytes

theorem emittedCell_of_delivered {ν : Type} (convert : Duckdb.LogicalType → List UInt8 → Option ν)
    {define : Define} {value : OciValue}
    (h : ∀ bytes, value = some bytes → delivered define bytes = bytes) :
    emittedCell convert define .blob value = storedCell value := by
  cases value with
  | none => rfl
  | some bytes =>
    show OutputCell.string (delivered define bytes) = .string bytes
    rw [h bytes rfl]

theorem map_native (stored : List OciValue) :
    stored.map (Option.map BinaryRead.native.value) = stored := by
  rw [show BinaryRead.native.value = id from rfl, Option.map_id, List.map_id]

/-- **What fits the buffer arrives whole**: the column is defined as `SQLT_BIN`, and its
values fit the length array too. -/
theorem delivered_native {type : BinaryType} {bind : OracleBindData} {described : DescribedColumn}
    {c : ℕ} (htype : described.dataType = BinaryRead.native.ociType type)
    (hociType : bind.ociTypes[c]? = some described.dataType)
    (horiginal : bind.originalTypes[c]? = some described.returnType)
    (hsize : bind.ociSizes[c]? = some described.size)
    (hcharSize : described.dataType = .blob → described.charSize = 0) {bytes : List UInt8}
    (hholds : type.Holds bytes) (hfits : bytes.length ≤ (defineOf bind c).capacity) :
    delivered (defineOf bind c) bytes = bytes := by
  have hblob : described.returnType = .blob := by
    unfold DescribedColumn.returnType
    cases type <;> rw [htype] <;> rfl
  have hlt : c < bind.ociTypes.length := (List.getElem?_eq_some_iff.mp hociType).1
  have hbinary : (defineOf bind c).binary = true :=
    decide_eq_true ⟨horiginal.trans (congrArg some hblob), hlt⟩
  refine delivered_eq_iff.mpr ⟨hfits, ?_⟩
  cases type with
  | raw length => exact Nat.lt_of_le_of_lt (Nat.le_trans hholds.2 hholds.1) (by decide)
  | blob =>
    -- 4000 bytes are assumed for a column without a size
    have hdefine : (defineOf bind c).capacity = 16000 := by
      rw [Define.capacity, if_pos hbinary, defineOf, defineSize, hsize, DescribedColumn.size,
        hcharSize htype]
      rfl
    rw [hdefine] at hfits
    exact Nat.lt_of_le_of_lt hfits (by decide)

/-- What an entry has at the place of a dictionary column. -/
theorem create_column {db : Database} {settings : OracleSettings}
    {schema schemaName tableName duckdbEntryName : String} {entry : OracleTableEntry}
    (hcreate : OracleTableEntry.create db settings schema schemaName tableName duckdbEntryName =
      .ok entry) {c : ℕ} {column : DictionaryColumn}
    (hcolumn : (db.dictionary.columnsOf (db.upper schemaName) (db.upper tableName))[c]? =
      some column) :
    entry.columns[c]? = some (columnDefinition settings column) ∧
      entry.columnMetadata[c]? = some (oracleColumnMetadata column) ∧
      DistinctNames (entry.columns.map (·.name)) := by
  obtain ⟨hdistinct, rfl⟩ := create_eq_ok_iff.mp hcreate
  refine ⟨?_, ?_, ?_⟩
  · show (List.map _ _)[c]? = _
    rw [List.getElem?_map, hcolumn]
    rfl
  · show (List.map _ _)[c]? = _
    rw [List.getElem?_map, hcolumn]
    rfl
  · show DistinctNames ((List.map (columnDefinition settings) _).map (·.name))
    rw [List.map_map]
    exact hdistinct

/-- An output column is filled from its own query column, since no two names are equal. -/
theorem bufferIdx_of_distinct {bind : OracleBindData} {names : List String}
    (hcolumn : bind.columnNames = names) (horiginal : bind.originalNames = names)
    (hdistinct : DistinctNames names) {columnIds : List ℕ} (projectionIds : List ℕ) {i c : ℕ}
    (hi : columnIds[i]? = some c) (hc : c < names.length) :
    bufferIdx bind columnIds projectionIds i = some c := by
  have hname := List.getElem?_eq_getElem hc
  rw [bufferIdx_of_names hcolumn horiginal projectionIds hi hname, findIdx?_name_iff hname]
  intro j hj hsame
  have hnodup : names.Nodup := List.Nodup.of_map lower hdistinct
  rw [← hname] at hsame
  exact absurd ((List.getElem?_inj (Nat.lt_trans hj hc) hnodup).mp hsame) (Nat.ne_of_lt hj)

variable {ν : Type} (convert : Duckdb.LogicalType → List UInt8 → Option ν)

/-- **Binary columns do not depend on the fetch strategy.**  For every `BLOB` or `RAW` column
of an attached table and all settings, whatever `try_native_lobs` is: a scan emits a row for
every stored value, and its cell is NULL or exactly the stored bytes, if these fit the define
buffer. -/
theorem binary_scan_exact {db : Database} {attached settings bindSettings : OracleSettings}
    {schema schemaName tableName duckdbEntryName cs : String} {entry : OracleTableEntry}
    (hcreate : OracleTableEntry.create db attached schema schemaName tableName duckdbEntryName =
      .ok entry)
    -- a binary column of the table
    {type : BinaryType} {column : DictionaryColumn} (htype : column.dataType = type.dataType)
    {c : ℕ} (hcolumn : (db.dictionary.columnsOf (db.upper schemaName)
      (db.upper tableName))[c]? = some column)
    -- the describe of the query, and the calls of the planner
    {version : OracleVersionInfo} {columns : List DescribedColumn} {calls : List PushdownCall}
    {bind : OracleBindData}
    (hnames : columns.map (·.name) = entry.columns.map (·.name))
    (hcalls : ∀ call ∈ calls, call.get.projectionIds = [])
    (hbind : pushdownAll (oracleBindInternal cs (entry.scanQuery version settings) bindSettings
      columns) calls = .ok bind)
    (hsizes : DescribedSizes bind)
    -- the result set
    {R : List Row} (d : Delivery bind R) {item : String} {described : DescribedColumn}
    {stored : List OciValue}
    (hitem : (entry.columns.zipIdx.map (entry.selectColumn version settings))[c]? = some item)
    (hdescribed : columns[c]? = some described)
    (hanswers : Answers type (writeQuoted column.columnName) item described stored
      (R.map fun row => row.value c))
    -- the output column
    {columnIds projectionIds : List ℕ} {types : List Duckdb.LogicalType} {i : ℕ}
    (hi : columnIds[i]? = some c) (htypes : types[i]? = (entry.columns[c]?).map (·.type)) :
    let rows := emittedRows convert d.oci types (oracleInitGlobal bind columnIds projectionIds)
      (d.batches.length + 1)
    rows.length = stored.length ∧ ∀ (r : ℕ) (value : OciValue), stored[r]? = some value →
      (∀ bytes, value = some bytes → bytes.length ≤ (defineOf bind c).capacity) →
        ∃ row, rows[r]? = some row ∧ row[i]? = some (storedCell value) := by
  obtain ⟨hdefinition, hmetadata, hdistinct⟩ := create_column hcreate hcolumn
  -- the item is the column
  rw [List.getElem?_map, List.getElem?_zipIdx, hdefinition, Option.map_some, Nat.zero_add,
    Option.map_some] at hitem
  obtain rfl := Option.some.inj hitem
  obtain ⟨hnative, hvalues⟩ :=
    hanswers.read .native (selectColumn_binary htype hmetadata version settings rfl)
  have hblob : types[i]? = some .blob := by
    rw [htypes, hdefinition, Option.map_some, columnDefinition, htype, mapOracleColumn_binary]
  -- the binding is that of the describe
  obtain ⟨hociType, horiginal, hsize⟩ := described_pushdownAll hcalls hbind hdescribed
  obtain ⟨query, hfinal⟩ := query_pushdownAll hcalls rfl hbind
  have hbuffer : bufferIdx bind columnIds projectionIds i = some c := by
    refine bufferIdx_of_distinct (by rw [hfinal]; exact hnames) (by rw [hfinal]; exact hnames)
      hdistinct projectionIds hi ?_
    rw [List.length_map]
    exact (List.getElem?_eq_some_iff.mp hdefinition).1
  -- row by row
  intro rows
  rw [map_native] at hvalues
  have hrows : rows = R.map (emittedRow convert bind columnIds projectionIds types) :=
    emittedRows_all convert hsizes d columnIds projectionIds types
  refine ⟨by rw [hrows, ← hvalues, List.length_map, List.length_map], ?_⟩
  intro r value hr hfits
  have hmem : value ∈ stored := List.mem_of_getElem? hr
  rw [← hvalues, List.getElem?_map, Option.map_eq_some_iff] at hr
  obtain ⟨row, hrow, rfl⟩ := hr
  refine ⟨_, by rw [hrows, List.getElem?_map, hrow, Option.map_some], ?_⟩
  rw [emittedRow, List.getElem?_mapIdx, hblob, Option.map_some, hbuffer]
  refine congrArg some (emittedCell_of_delivered convert fun bytes hbytes => ?_)
  rw [hbytes] at hmem
  exact delivered_native hnative hociType horiginal hsize hanswers.charSize
    (hanswers.holds bytes hmem) (hfits bytes hbytes)

/-! ## A column of photos -/

/-- A table with a `BLOB` column. -/
def photoDatabase : Database where
  dictionary := {
    objects := [⟨"SCOTT", "PHOTOS", .table [⟨"ID", "NUMBER", "4", "0"⟩, ⟨"DATA", "BLOB", "", ""⟩]⟩]
    unique := by decide
    named := by decide }
  upper := upper

/-- No native LOBs. -/
def hexSettings : OracleSettings := { tryNativeLobs := false }

/-- The binding of a scan of the table. -/
def photoBind : OracleBindData :=
  oracleBindInternal "scott/tiger@db"
    "SELECT \"ID\", \"DATA\" AS \"DATA\" FROM \"SCOTT\".\"PHOTOS\"" hexSettings
    [{ name := "ID", dataType := .num, precision := 4 }, { name := "DATA", dataType := .blob }]

theorem describedSizes_photo : DescribedSizes photoBind := by
  intro ociSize hmem
  have hall : ∀ size ∈ photoBind.ociSizes, size = 4000 := by decide
  rw [hall ociSize hmem]
  decide

/-- Two rows, the second without a photo. -/
def photoDelivery :
    Delivery photoBind [[some [49], some [255, 216, 0]], [some [50], none]] :=
  splitDelivery describedSizes_photo [[[some [49], some [255, 216, 0]]]] [[some [50], none]]
    (by decide) (by decide)

/-- The second expression of the query is the column, so Oracle answers with the bytes. -/
theorem answers_photo :
    Answers .blob "\"DATA\"" "\"DATA\" AS \"DATA\"" { name := "DATA", dataType := .blob }
      [some [255, 216, 0], none] [some [255, 216, 0], none] where
  read read hitem := by
    cases read with
    | native => exact ⟨rfl, rfl⟩
    | hex => exact absurd hitem (by decide)
  charSize _ := rfl
  holds _ _ := trivial

/-- With native LOBs off, three bytes arrive as they are stored. -/
theorem binary_scan_exact_photo :
    ∃ row, (emittedRows (fun _ _ => (none : Option Unit)) photoDelivery.oci [.blob]
        (oracleInitGlobal photoBind [1] []) 2)[0]? = some row ∧
      row[0]? = some (.string [255, 216, 0]) := by
  obtain ⟨-, hcells⟩ := @binary_scan_exact Unit (fun _ _ => none) photoDatabase hexSettings
    hexSettings hexSettings "SCOTT" "SCOTT" "PHOTOS" "" "scott/tiger@db" _ rfl .blob
    ⟨"DATA", "BLOB", "", ""⟩ rfl 1 rfl {} _ [] photoBind rfl (by simp) rfl describedSizes_photo _
    photoDelivery _ _ _ rfl rfl answers_photo [1] [] [.blob] 0 rfl rfl
  exact hcells 0 (some [255, 216, 0]) rfl fun bytes hbytes => by
    obtain rfl := Option.some.inj hbytes
    decide

end Scan
end DuckdbOracle
