import Mathlib.Data.List.Induction
import Mathlib.Data.List.Sort
import DuckdbOracle.Catalog.TableEntry

/-!
# The table a COPY inspects, and the table it inserts into

`OracleWriteBind` splits the target at its point and asks `all_tab_columns` for the
owner in upper case and for the table as it is spelled or in upper case.  Of the tables
that come back it takes the one spelled like the target, or the first; the rows of that
table give the INSERT its column names and the types of its placeholders.  Then the
table's name takes the place of the target's, but its owner takes the place of the
schema only if the target has none.

`OracleWriteInitGlobal` writes the two names in quotes.  So the INSERT goes to the table
that was inspected exactly if the schema is spelled like the owner, or is not given
(`inserts_into_inspected_iff`).
-/

namespace DuckdbOracle
namespace Write

open Duckdb Oracle Catalog QuotedText

/-! ## The target -/

/-- The options of a `COPY`.  Their names are compared without letter case. -/
abbrev CopyOptions := List (String × List Value)

/-- The text of an option, or the one it defaults to. -/
def optionText (options : CopyOptions) (key default : String) : Except String String :=
  match options.find? fun op => lower op.1 = key with
  | none => .ok default
  | some (_, value :: _) => .ok value.toString
  | some (_, []) => .error "Attempted to access index 0 within vector of size 0"

/-- The connection string and the target of a `COPY`. -/
def readOptions (filePath : String) (options : CopyOptions) : Except String (String × String) :=
  match options.find? fun op => lower op.1 ≠ "connection_string" ∧ lower op.1 ≠ "table" with
  | some op => .error ("Unrecognized option for Oracle COPY: " ++ op.1)
  | none => do
    let connectionString ← optionText options "connection_string" ""
    let targetTable ← optionText options "table" filePath
    if targetTable = "" then
      .error "Oracle COPY TO requires a table name (use TO 'table' or TABLE 'table')"
    else return (connectionString, targetTable)

/-- `StringUtil::Split`, where the delimiter is a string: empty pieces are left out. -/
def split (delimiter : Char) (input : String) : List String :=
  match (input.toList.splitOn delimiter).filter (· ≠ []) with
  | [] => [input]
  | pieces => pieces.map String.ofList

/-- The schema and the object of a target. -/
def parseTarget (target : String) : String × String :=
  match split '.' target with
  | [schema, object] => (schema, object)
  | _ => ("", target)

/-! ## The metadata query -/

/-- The text of the metadata query. -/
def metadataQuery (schema object : String) : String :=
  "SELECT owner, table_name, column_name, data_type FROM all_tab_columns WHERE " ++
    (if schema = "" then "owner = SYS_CONTEXT('USERENV', 'CURRENT_SCHEMA')"
      else "owner = upper('" ++ schema ++ "')") ++
    " AND " ++ "(table_name = '" ++ object ++ "' OR table_name = upper('" ++ object ++ "'))" ++
    " ORDER BY owner, table_name, column_id"

/-- A row that the query returns. -/
structure MetadataRow where
  owner : String
  tableName : String
  columnName : String
  dataType : String
  deriving DecidableEq

/-- The cells of a row. -/
def MetadataRow.cells (row : MetadataRow) : List String :=
  [row.owner, row.tableName, row.columnName, row.dataType]

/-- A row of cells; one with fewer than four is skipped. -/
def MetadataRow.ofCells? : List String → Option MetadataRow
  | owner :: table :: col :: type :: _ => some ⟨owner, table, col, type⟩
  | _ => none

/-- The order of the query; the columns of a table come in order already. -/
def rowLe (a b : DictionaryObject × DictionaryColumn) : Prop :=
  a.1.owner < b.1.owner ∨ a.1.owner = b.1.owner ∧ a.1.name ≤ b.1.name

instance : DecidableRel rowLe := fun a b =>
  inferInstanceAs (Decidable (a.1.owner < b.1.owner ∨ a.1.owner = b.1.owner ∧ a.1.name ≤ b.1.name))

/-- The owner that the query asks for. -/
def inspectedOwner (db : Database) (schema : String) : String :=
  if schema = "" then db.currentSchema else db.upper schema

/-- What the query selects, if there is no quote in the two names. -/
def metadataRows (db : Database) (schema object : String) : List MetadataRow :=
  ((db.dictionary.allTabColumns.filter fun row =>
      row.1.owner = inspectedOwner db schema ∧
        (row.1.name = object ∨ row.1.name = db.upper object)).insertionSort rowLe).map fun row =>
    ⟨row.1.owner, row.1.name, row.2.columnName, row.2.dataType⟩

/-! ## The best table -/

/-- The variables of the loop over the rows.  `col_type_map` and `col_name_map` are kept
as the rows they have been filled with since they were cleared. -/
structure BestTable where
  bestTableName : String := ""
  bestOwner : String := ""
  foundExact : Bool := false
  filled : List MetadataRow := []

/-- The first row. -/
def BestTable.first (best : BestTable) (row : MetadataRow) : BestTable :=
  if best.bestTableName = "" then
    { best with bestTableName := row.tableName, bestOwner := row.owner }
  else best

/-- A row of another table may make that one the best; `none` is `continue`. -/
def BestTable.prefer (object : String) (best : BestTable) (row : MetadataRow) :
    Option BestTable :=
  if row.tableName ≠ best.bestTableName then
    if row.tableName = object ∧ best.foundExact = false then
      some ⟨row.tableName, row.owner, true, []⟩
    else if best.foundExact then none
    else some best
  else some best

/-- The maps take the rows of the best table. -/
def BestTable.fill (object : String) (best : BestTable) (row : MetadataRow) : BestTable :=
  { best with
    foundExact := best.foundExact || decide (row.tableName = object)
    filled := if row.tableName = best.bestTableName then best.filled ++ [row] else best.filled }

/-- One row. -/
def BestTable.step (object : String) (best : BestTable) (row : MetadataRow) : BestTable :=
  match (best.first row).prefer object row with
  | none => best.first row
  | some best => best.fill object row

/-- The loop over the rows. -/
def bestTable (object : String) (rows : List (List String)) : BestTable :=
  (rows.filterMap MetadataRow.ofCells?).foldl (BestTable.step object) {}

/-- `col_type_map`: the row that came last counts. -/
def BestTable.colType? (best : BestTable) (col : String) : Option String :=
  (best.filled.reverse.find? fun row => row.columnName = col).map (·.dataType)

/-- `col_name_map`. -/
def BestTable.colName? (best : BestTable) (colUpper : String) : Option String :=
  (best.filled.reverse.find? fun row => upper row.columnName = colUpper).map (·.columnName)

/-- `actual_name`, empty if the table has no such column. -/
def BestTable.actualName (best : BestTable) (name : String) : String :=
  match best.colName? (upper name) with
  | some actual => actual
  | none => if (best.colType? name).isSome then name else ""

/-- The name and the type that a column of the `COPY` is bound with. -/
def BestTable.column (best : BestTable) (name : String) : String × String :=
  if best.actualName name = "" then (name, "VARCHAR2")
  else (best.actualName name, (best.colType? (best.actualName name)).getD "VARCHAR2")

/-! ## Bind data and INSERT -/

/-- `OracleWriteBindData`. -/
structure OracleWriteBindData where
  tableName : String
  connectionString : String
  schemaName : String
  objectName : String
  columnNames : List String
  oracleTypes : List String
  deriving DecidableEq

/-- The bind data before Oracle is asked. -/
def defaultBindData (connectionString target : String) (names : List String) :
    OracleWriteBindData where
  tableName := target
  connectionString := connectionString
  schemaName := (parseTarget target).1
  objectName := (parseTarget target).2
  columnNames := names
  oracleTypes := names.map fun _ => "VARCHAR2"

/-- The fix-up of the names, the columns and the types. -/
def OracleWriteBindData.introspect (data : OracleWriteBindData) (names : List String)
    (best : BestTable) : OracleWriteBindData :=
  { data with
    objectName := if best.bestTableName = "" then data.objectName else best.bestTableName
    schemaName :=
      if best.bestTableName ≠ "" ∧ data.schemaName = "" then best.bestOwner else data.schemaName
    columnNames := names.map fun name => (best.column name).1
    oracleTypes := names.map fun name => (best.column name).2 }

/-- `OracleWriteBind`, where `server` answers queries.  An exception of the metadata query
leaves the defaults. -/
def oracleWriteBind (server : String → QueryAnswer) (filePath : String) (options : CopyOptions)
    (names : List String) : Except String OracleWriteBindData := do
  let (connectionString, target) ← readOptions filePath options
  let data := defaultBindData connectionString target names
  if connectionString = "" then return data
  else
    match server (metadataQuery data.schemaName data.objectName) with
    | .ok rows => return data.introspect names (bestTable data.objectName rows)
    | .error _ => return data

/-- The placeholder of a column. -/
def placeholder (position : ℕ) (oracleType : String) : String :=
  let type := upper oracleType
  let name := ":" ++ toString position
  if type = "DATE" then "TO_DATE(" ++ name ++ ", 'YYYY-MM-DD HH24:MI:SS')"
  else if contains type "TIMESTAMP" then
    "TO_TIMESTAMP(" ++ name ++ ", 'YYYY-MM-DD HH24:MI:SS.FF')"
  else if type = "SDO_GEOMETRY" ∨ type = "MDSYS.SDO_GEOMETRY" then
    "SDO_UTIL.FROM_WKTGEOMETRY(" ++ name ++ ")"
  else name

/-- What the INSERT starts with. -/
def insertInto : String := "INSERT /*+ APPEND_VALUES */ INTO "

/-- The columns and the values of the INSERT. -/
def OracleWriteBindData.insertValues (data : OracleWriteBindData) : String :=
  " (" ++ join ", " (data.columnNames.map writeQuoted) ++ ") VALUES (" ++
    join ", " ((List.range data.columnNames.length).map fun i =>
      placeholder (i + 1) (data.oracleTypes.getD i "")) ++ ")"

/-- The INSERT that `OracleWriteInitGlobal` generates. -/
def OracleWriteBindData.insertSql (data : OracleWriteBindData) : String :=
  insertInto ++ ((if data.schemaName ≠ "" then writeQuoted data.schemaName ++ "." else "") ++
    writeQuoted data.objectName) ++ data.insertValues

/-! ## The table the INSERT names -/

/-- The owner and the table that an INSERT names in quotes. -/
def insertTarget? (sql : String) : Option (String × String) :=
  match read? '"' (sql.toList.drop insertInto.toList.length) with
  | some (owner, '.' :: rest) =>
    match read? '"' rest with
    | some (name, _) => some (String.ofList owner, String.ofList name)
    | none => none
  | _ => none

/-- An INSERT with a schema names the two names of the bind data. -/
theorem insertTarget?_insertSql {data : OracleWriteBindData} (h : data.schemaName ≠ "") :
    insertTarget? data.insertSql = some (data.schemaName, data.objectName) := by
  have hobject := @read?_writeQuoted data.objectName data.insertValues.toList (by
    simp [OracleWriteBindData.insertValues])
  have hschema := @read?_writeQuoted data.schemaName
    ('.' :: ((writeQuoted data.objectName).toList ++ data.insertValues.toList)) (by simp)
  have hdrop : data.insertSql.toList.drop insertInto.toList.length =
      (writeQuoted data.schemaName).toList ++
        '.' :: ((writeQuoted data.objectName).toList ++ data.insertValues.toList) := by
    have hpoint : ".".toList = ['.'] := rfl
    simp only [OracleWriteBindData.insertSql, if_pos h, String.toList_append, List.append_assoc,
      List.drop_left, hpoint, List.cons_append, List.nil_append]
  simp only [insertTarget?, hdrop, hschema, hobject, String.ofList_toList]

/-! ## The rows of the best table -/

/-- The table that the rows are taken of: the one spelled like the object if it is among
them, else the first. -/
def preferredTable (object : String) (rows : List MetadataRow) : String :=
  if object ∈ rows.map (·.tableName) then object
  else (rows.head?.map (·.tableName)).getD ""

/-- The invariant of the loop, after the rows `rows`. -/
structure BestOf (object : String) (rows : List MetadataRow) (best : BestTable) : Prop where
  name : best.bestTableName = preferredTable object rows
  owner : best.bestOwner = (best.filled.head?.map (·.owner)).getD ""
  found : best.foundExact = decide (object ∈ rows.map (·.tableName))
  filled : best.filled = rows.filter fun row => row.tableName = preferredTable object rows

theorem preferredTable_mem (object : String) {rows : List MetadataRow} (h : rows ≠ []) :
    preferredTable object rows ∈ rows.map (·.tableName) := by
  unfold preferredTable
  split
  · assumption
  · cases rows with
    | nil => exact absurd rfl h
    | cons row rows => exact List.mem_cons_self

theorem preferredTable_concat (object : String) {rows : List MetadataRow} (h : rows ≠ [])
    (row : MetadataRow) :
    preferredTable object (rows ++ [row]) =
      if row.tableName = object then object else preferredTable object rows := by
  have hhead : (rows ++ [row]).head? = rows.head? := List.head?_append_of_ne_nil rows h
  simp only [preferredTable, List.map_append, List.map_cons, List.map_nil, List.mem_append,
    List.mem_singleton, hhead]
  by_cases hrow : row.tableName = object
  · simp [hrow]
  · simp [hrow, Ne.symm hrow]

theorem preferredTable_singleton (object : String) (row : MetadataRow) :
    preferredTable object [row] = row.tableName := by
  unfold preferredTable
  split
  · next h => exact List.mem_singleton.mp h
  · rfl

theorem filter_tableName_concat (table : String) (rows : List MetadataRow) (row : MetadataRow) :
    (rows ++ [row]).filter (fun r => r.tableName = table) =
      rows.filter (fun r => r.tableName = table) ++
        if row.tableName = table then [row] else [] := by
  rw [List.filter_append]
  congr 1
  by_cases h : row.tableName = table <;> simp [h]

theorem bestOf_nil (object : String) : BestOf object [] {} where
  name := by simp [preferredTable]
  owner := rfl
  found := by simp
  filled := rfl

/-- The first row. -/
theorem BestOf.step_first (object : String) (row : MetadataRow) :
    BestOf object [row] (BestTable.step object {} row) := by
  have hstep : BestTable.step object {} row =
      ⟨row.tableName, row.owner, decide (row.tableName = object), [row]⟩ := by
    simp [BestTable.step, BestTable.first, BestTable.prefer, BestTable.fill]
  rw [hstep]
  constructor
  · exact (preferredTable_singleton object row).symm
  · rfl
  · simp [eq_comm]
  · simp [preferredTable_singleton]

/-- A row of the best table. -/
theorem BestTable.step_same {object : String} {best : BestTable} {row : MetadataRow}
    (hnamed : best.bestTableName ≠ "") (h : row.tableName = best.bestTableName) :
    best.step object row =
      { best with
        foundExact := best.foundExact || decide (row.tableName = object)
        filled := best.filled ++ [row] } := by
  have hfirst : best.first row = best := if_neg hnamed
  have hprefer : best.prefer object row = some best := if_neg (not_not_intro h)
  simp only [step, hfirst, hprefer, fill, if_pos h]

/-- The first row of the table spelled like the object, after rows of others. -/
theorem BestTable.step_exact {object : String} {best : BestTable} {row : MetadataRow}
    (hnamed : best.bestTableName ≠ "") (h : row.tableName ≠ best.bestTableName)
    (hobject : row.tableName = object) (hfound : best.foundExact = false) :
    best.step object row = ⟨row.tableName, row.owner, true, [row]⟩ := by
  have hfirst : best.first row = best := if_neg hnamed
  have hprefer : best.prefer object row = some ⟨row.tableName, row.owner, true, []⟩ := by
    rw [prefer, if_pos h, if_pos ⟨hobject, hfound⟩]
  simp only [step, hfirst, hprefer, fill, if_pos, Bool.true_or, List.nil_append]

/-- A row of a table that is not the best. -/
theorem BestTable.step_other {object : String} {best : BestTable} {row : MetadataRow}
    (hnamed : best.bestTableName ≠ "") (h : row.tableName ≠ best.bestTableName)
    (hother : ¬ (row.tableName = object ∧ best.foundExact = false)) :
    best.step object row = best := by
  have hfirst : best.first row = best := if_neg hnamed
  cases hfound : best.foundExact with
  | true =>
    have hprefer : best.prefer object row = none := by
      rw [prefer, if_pos h, if_neg hother, if_pos hfound]
    simp only [step, hfirst, hprefer]
  | false =>
    have hobject : row.tableName ≠ object := fun hobject => hother ⟨hobject, hfound⟩
    have hprefer : best.prefer object row = some best := by
      rw [prefer, if_pos h, if_neg hother, if_neg (by simp [hfound])]
    simp only [step, hfirst, hprefer, fill, if_neg h, decide_eq_false hobject, Bool.or_false]

/-- The rows the loop keeps are those of the preferred table. -/
theorem BestOf.mem_filled {object : String} {rows : List MetadataRow} {best : BestTable}
    (hb : BestOf object rows best) {row : MetadataRow} :
    row ∈ best.filled ↔ row ∈ rows ∧ row.tableName = preferredTable object rows := by
  rw [hb.filled, List.mem_filter, decide_eq_true_eq]

theorem BestOf.filled_ne_nil {object : String} {rows : List MetadataRow} {best : BestTable}
    (hb : BestOf object rows best) (hrows : rows ≠ []) : best.filled ≠ [] := by
  obtain ⟨row, hrow, hname⟩ := List.mem_map.mp (preferredTable_mem object hrows)
  exact List.ne_nil_of_mem (hb.mem_filled.mpr ⟨hrow, hname⟩)

/-- Once the table spelled like the object has been met, it is the best. -/
theorem BestOf.of_foundExact {object : String} {rows : List MetadataRow} {best : BestTable}
    (hb : BestOf object rows best) (h : best.foundExact = true) : best.bestTableName = object := by
  rw [hb.found, decide_eq_true_eq] at h
  rw [hb.name]
  exact if_pos h

/-- A row of the best table: it stays the best. -/
theorem BestOf.same {object : String} {rows : List MetadataRow} {best : BestTable}
    (hb : BestOf object rows best) (hrows : rows ≠ []) (hnamed : best.bestTableName ≠ "")
    {row : MetadataRow} (h : row.tableName = best.bestTableName) :
    BestOf object (rows ++ [row]) (best.step object row) := by
  have hname : preferredTable object (rows ++ [row]) = best.bestTableName := by
    rw [preferredTable_concat object hrows]
    split
    · next hobject => rw [← hobject, h]
    · exact hb.name.symm
  rw [BestTable.step_same hnamed h]
  constructor
  · exact hname.symm
  · rw [List.head?_append_of_ne_nil _ (hb.filled_ne_nil hrows)]
    exact hb.owner
  · rw [hb.found]
    simp [eq_comm, Bool.decide_or]
  · rw [hname, filter_tableName_concat, if_pos h, hb.name, ← hb.filled]

/-- The first row of the table spelled like the object: it takes the place of another. -/
theorem BestOf.switch {object : String} {rows : List MetadataRow} {best : BestTable}
    (hb : BestOf object rows best) (hrows : rows ≠ []) (hnamed : best.bestTableName ≠ "")
    {row : MetadataRow} (h : row.tableName ≠ best.bestTableName)
    (hobject : row.tableName = object) (hnew : best.foundExact = false) :
    BestOf object (rows ++ [row]) (best.step object row) := by
  have hname : preferredTable object (rows ++ [row]) = object := by
    rw [preferredTable_concat object hrows, if_pos hobject]
  have hmem : object ∉ rows.map (·.tableName) := by
    rw [hb.found, decide_eq_false_iff_not] at hnew
    exact hnew
  have hnone : rows.filter (fun r => r.tableName = object) = [] := by
    rw [List.filter_eq_nil_iff]
    intro r hr hr'
    exact hmem (List.mem_map.mpr ⟨r, hr, of_decide_eq_true hr'⟩)
  rw [BestTable.step_exact hnamed h hobject hnew]
  constructor
  · rw [hname, hobject]
  · rfl
  · simp [hobject]
  · rw [hname, filter_tableName_concat, hnone, if_pos hobject]
    rfl

/-- A row of a table that is passed over. -/
theorem BestOf.other {object : String} {rows : List MetadataRow} {best : BestTable}
    (hb : BestOf object rows best) (hrows : rows ≠ []) (hnamed : best.bestTableName ≠ "")
    {row : MetadataRow} (h : row.tableName ≠ best.bestTableName)
    (hother : ¬ (row.tableName = object ∧ best.foundExact = false)) :
    BestOf object (rows ++ [row]) (best.step object row) := by
  have hobject : row.tableName ≠ object := by
    rintro rfl
    cases hfound : best.foundExact with
    | true => exact h (hb.of_foundExact hfound).symm
    | false => exact hother ⟨rfl, hfound⟩
  have hname : preferredTable object (rows ++ [row]) = preferredTable object rows := by
    rw [preferredTable_concat object hrows, if_neg hobject]
  rw [BestTable.step_other hnamed h hother]
  constructor
  · rw [hname, hb.name]
  · exact hb.owner
  · rw [hb.found]
    simp [Ne.symm hobject]
  · rw [hb.name] at h
    rw [hname, filter_tableName_concat, if_neg h, List.append_nil, ← hb.filled]

/-- A row after others. -/
theorem BestOf.step_next {object : String} {rows : List MetadataRow} {best : BestTable}
    (hb : BestOf object rows best) (hrows : rows ≠ []) (hnamed : best.bestTableName ≠ "")
    (row : MetadataRow) : BestOf object (rows ++ [row]) (best.step object row) := by
  by_cases hsame : row.tableName = best.bestTableName
  · exact hb.same hrows hnamed hsame
  · by_cases hexact : row.tableName = object ∧ best.foundExact = false
    · exact hb.switch hrows hnamed hsame hexact.1 hexact.2
    · exact hb.other hrows hnamed hsame hexact

/-- **What the loop takes**: all rows of the preferred table, and their first owner. -/
theorem bestOf_foldl (object : String) {rows : List MetadataRow}
    (hnamed : ∀ row ∈ rows, row.tableName ≠ "") :
    BestOf object rows (rows.foldl (BestTable.step object) {}) := by
  induction rows using List.reverseRecOn with
  | nil => exact bestOf_nil object
  | append_singleton rows row ih =>
    rw [List.foldl_append, List.foldl_cons, List.foldl_nil]
    by_cases hrows : rows = []
    · rw [hrows]
      exact BestOf.step_first object row
    · have hb := ih fun r hr => hnamed r (List.mem_append_left [row] hr)
      obtain ⟨r, hr, hname⟩ := List.mem_map.mp (preferredTable_mem object hrows)
      refine hb.step_next hrows ?_ row
      rw [hb.name, ← hname]
      exact hnamed r (List.mem_append_left [row] hr)

/-- The cells of rows are read back. -/
theorem bestTable_cells (object : String) (rows : List MetadataRow) :
    bestTable object (rows.map MetadataRow.cells) = rows.foldl (BestTable.step object) {} := by
  have hread : (rows.map MetadataRow.cells).filterMap MetadataRow.ofCells? = rows := by
    rw [List.filterMap_map]
    exact List.filterMap_some
  rw [bestTable, hread]

/-! ## The property and the condition -/

/-- The rows whose column names and types a binding uses. -/
def supplyingRows (server : String → QueryAnswer) (data : OracleWriteBindData) :
    List MetadataRow :=
  match server (metadataQuery (parseTarget data.tableName).1 (parseTarget data.tableName).2) with
  | .ok rows => (bestTable (parseTarget data.tableName).2 rows).filled
  | .error _ => []

/-- **The INSERT goes to the table that was inspected**: the owner and the table it quotes
are those of every row that supplied columns, and there is such a row. -/
def InsertsIntoInspected (server : String → QueryAnswer) (data : OracleWriteBindData) : Prop :=
  supplyingRows server data ≠ [] ∧ ∀ row ∈ supplyingRows server data,
    insertTarget? data.insertSql = some (row.owner, row.tableName)

/-- The rows of the preferred table have one owner, and the schema of the target, if there
is one, is spelled like it. -/
def SpelledLikeOwner (target : String) (rows : List MetadataRow) : Prop :=
  ∃ owner, ((parseTarget target).1 = "" ∨ (parseTarget target).1 = owner) ∧
    ∀ row ∈ rows, row.tableName = preferredTable (parseTarget target).2 rows → row.owner = owner

/-- What a binding is, when the metadata query returns rows. -/
theorem of_oracleWriteBind {server : String → QueryAnswer} {filePath : String}
    {options : CopyOptions} {names : List String} {data : OracleWriteBindData}
    {rows : List (List String)}
    (h : oracleWriteBind server filePath options names = .ok data)
    (hconnection : data.connectionString ≠ "")
    (hanswer : server (metadataQuery (parseTarget data.tableName).1
      (parseTarget data.tableName).2) = .ok rows) :
    data = (defaultBindData data.connectionString data.tableName names).introspect names
      (bestTable (parseTarget data.tableName).2 rows) := by
  unfold oracleWriteBind at h
  cases hoptions : readOptions filePath options with
  | error e =>
    rw [hoptions] at h
    cases h
  | ok p =>
    obtain ⟨connectionString, target⟩ := p
    rw [hoptions] at h
    simp only [bind, Except.bind, pure, Except.pure] at h
    by_cases hempty : connectionString = ""
    · rw [if_pos hempty] at h
      obtain rfl := Except.ok.inj h
      exact absurd hempty hconnection
    · rw [if_neg hempty] at h
      cases hserver : server (metadataQuery (parseTarget target).1 (parseTarget target).2) with
      | error e =>
        simp only [defaultBindData, hserver] at h
        obtain rfl := Except.ok.inj h
        rw [hanswer] at hserver
        cases hserver
      | ok rows' =>
        simp only [defaultBindData, hserver] at h
        obtain rfl := Except.ok.inj h
        obtain rfl := Except.ok.inj (hanswer.symm.trans hserver)
        rfl

/-- **What the INSERT names**: the preferred table, and the schema of the target, or the
owner of the first row that was kept if the target has none. -/
theorem BestOf.insertTarget {target : String} {rows : List MetadataRow} {best : BestTable}
    (hb : BestOf (parseTarget target).2 rows best) (connectionString : String)
    (names : List String) (hrows : rows ≠ [])
    (hnamed : ∀ row ∈ rows, row.owner ≠ "" ∧ row.tableName ≠ "") :
    ∃ first ∈ best.filled, insertTarget?
        ((defaultBindData connectionString target names).introspect names best).insertSql =
      some (if (parseTarget target).1 = "" then first.owner else (parseTarget target).1,
        preferredTable (parseTarget target).2 rows) := by
  obtain ⟨first, rest, hfilled⟩ := List.exists_cons_of_ne_nil (hb.filled_ne_nil hrows)
  have hfirst : first ∈ best.filled := hfilled ▸ List.mem_cons_self
  obtain ⟨hmem, hname⟩ := hb.mem_filled.mp hfirst
  have howner : best.bestOwner = first.owner := by
    rw [hb.owner, hfilled]
    rfl
  have hbest : best.bestTableName ≠ "" := by
    rw [hb.name, ← hname]
    exact (hnamed first hmem).2
  have hobject : ((defaultBindData connectionString target names).introspect names
      best).objectName = preferredTable (parseTarget target).2 rows := by
    rw [← hb.name]
    exact if_neg hbest
  have hschema : ((defaultBindData connectionString target names).introspect names
      best).schemaName =
        if (parseTarget target).1 = "" then first.owner else (parseTarget target).1 := by
    simp only [OracleWriteBindData.introspect, defaultBindData, howner, hbest, ne_eq,
      not_false_eq_true, true_and]
  refine ⟨first, hfirst, ?_⟩
  rw [insertTarget?_insertSql, hobject, hschema]
  rw [hschema]
  split
  · exact (hnamed first hmem).1
  · assumption

/-- **Which COPYs insert into the table they inspected.**  A binding whose metadata query
returns rows, of owners and tables that have names, inserts into the table it inspected
exactly if the rows of the preferred table have one owner, and the schema of the target is
empty or spelled like that owner. -/
theorem inserts_into_inspected_iff {server : String → QueryAnswer} {filePath : String}
    {options : CopyOptions} {names : List String} {data : OracleWriteBindData}
    {rows : List MetadataRow}
    (h : oracleWriteBind server filePath options names = .ok data)
    (hconnection : data.connectionString ≠ "")
    (hanswer : server (metadataQuery (parseTarget data.tableName).1
      (parseTarget data.tableName).2) = .ok (rows.map MetadataRow.cells))
    (hrows : rows ≠ []) (hnamed : ∀ row ∈ rows, row.owner ≠ "" ∧ row.tableName ≠ "") :
    InsertsIntoInspected server data ↔ SpelledLikeOwner data.tableName rows := by
  have hdata := of_oracleWriteBind h hconnection hanswer
  have hsupply : supplyingRows server data = (bestTable (parseTarget data.tableName).2
      (rows.map MetadataRow.cells)).filled := by
    simp only [supplyingRows, hanswer]
  rw [bestTable_cells] at hdata hsupply
  have hbest := bestOf_foldl (parseTarget data.tableName).2 fun row hr => (hnamed row hr).2
  obtain ⟨first, hfirst, htarget⟩ :=
    hbest.insertTarget data.connectionString names hrows hnamed
  rw [← hdata] at htarget
  unfold InsertsIntoInspected SpelledLikeOwner
  rw [hsupply, htarget]
  constructor
  · rintro ⟨-, hall⟩
    refine ⟨if (parseTarget data.tableName).1 = "" then first.owner
      else (parseTarget data.tableName).1, ?_, ?_⟩
    · split
      · exact Or.inl (by assumption)
      · exact Or.inr rfl
    · intro row hrow hname
      have hrow' := Option.some.inj (hall row (hbest.mem_filled.mpr ⟨hrow, hname⟩))
      exact (congrArg Prod.fst hrow').symm
  · rintro ⟨owner, hschema, hall⟩
    have howner : ∀ row ∈ (rows.foldl (BestTable.step (parseTarget data.tableName).2) {}).filled,
        row.owner = owner := by
      intro row hrow
      obtain ⟨hmem, hname⟩ := hbest.mem_filled.mp hrow
      exact hall row hmem hname
    refine ⟨List.ne_nil_of_mem hfirst, fun row hrow => ?_⟩
    rw [howner row hrow, (hbest.mem_filled.mp hrow).2, howner first hfirst]
    split
    · rfl
    · next hne => rw [hschema.resolve_left hne]

/-- A table of SCOTT. -/
def scottDatabase : Database where
  dictionary := {
    objects := [⟨"SCOTT", "EMP",
      .table [⟨"EMPNO", "NUMBER", "4", "0"⟩, ⟨"HIREDATE", "DATE", "", ""⟩]⟩]
    unique := by decide
    named := by decide }
  upper := upper
  currentSchema := "SCOTT"

/-- What that database answers to the metadata query for a target. -/
def scottRows (target : String) : List MetadataRow :=
  metadataRows scottDatabase (parseTarget target).1 (parseTarget target).2

/-- A `COPY` of two columns to a target. -/
def copyTo (target : String) : Except String OracleWriteBindData :=
  oracleWriteBind (fun _ => .ok ((scottRows target).map MetadataRow.cells)) target
    [("CONNECTION_STRING", [.varchar "scott/tiger@db"])] ["empno", "hiredate"]

/-- The binding of the target `emp`. -/
def boundEmp : OracleWriteBindData :=
  ⟨"emp", "scott/tiger@db", "SCOTT", "EMP", ["EMPNO", "HIREDATE"], ["NUMBER", "DATE"]⟩

theorem inserts_into_inspected_emp :
    InsertsIntoInspected (fun _ => .ok ((scottRows "emp").map MetadataRow.cells)) boundEmp :=
  (inserts_into_inspected_iff (rfl : copyTo "emp" = .ok boundEmp) (by decide) rfl (by decide)
    (by decide)).mpr ⟨"SCOTT", Or.inl (by decide), by decide⟩

/-- The binding of the target `scott.emp`. -/
def boundScottEmp : OracleWriteBindData :=
  ⟨"scott.emp", "scott/tiger@db", "scott", "EMP", ["EMPNO", "HIREDATE"], ["NUMBER", "DATE"]⟩

/-- **A lower-case schema is not the owner**: for the target `scott.emp` the columns are
those of `SCOTT.EMP`, and the INSERT names `"scott"."EMP"`. -/
theorem lowerCaseSchema_not_inspected :
    copyTo "scott.emp" = .ok boundScottEmp ∧ scottRows "scott.emp" ≠ [] ∧
      insertTarget? boundScottEmp.insertSql = some ("scott", "EMP") ∧
      ¬ InsertsIntoInspected (fun _ => .ok ((scottRows "scott.emp").map MetadataRow.cells))
        boundScottEmp := by
  have htarget : insertTarget? boundScottEmp.insertSql = some ("scott", "EMP") :=
    insertTarget?_insertSql (by decide)
  refine ⟨rfl, by decide, htarget, ?_⟩
  rintro ⟨-, hall⟩
  have howner := hall ⟨"SCOTT", "EMP", "EMPNO", "NUMBER"⟩ (by decide)
  rw [htarget] at howner
  exact absurd howner (by decide)

/-! ## Targets without quotes -/

theorem of_mem_metadataRows {db : Database} {schema object : String} {row : MetadataRow}
    (h : row ∈ metadataRows db schema object) :
    row.owner = inspectedOwner db schema ∧ row.owner ≠ "" ∧ row.tableName ≠ "" := by
  obtain ⟨⟨o, column⟩, hmem, rfl⟩ := List.mem_map.mp h
  rw [List.mem_insertionSort, List.mem_filter, decide_eq_true_eq] at hmem
  obtain ⟨hcolumn, howner, -⟩ := hmem
  obtain ⟨o', hobject, hcolumn⟩ := List.mem_flatMap.mp hcolumn
  obtain ⟨column', -, heq⟩ := List.mem_map.mp hcolumn
  obtain rfl := (Prod.mk.inj heq).1
  exact ⟨howner, db.dictionary.named o' hobject⟩

/-- Of one owner the rows always are, so the schema alone decides. -/
theorem spelledLikeOwner_metadataRows_iff {db : Database} {target : String}
    (hrows : metadataRows db (parseTarget target).1 (parseTarget target).2 ≠ []) :
    SpelledLikeOwner target (metadataRows db (parseTarget target).1 (parseTarget target).2) ↔
      (parseTarget target).1 = "" ∨ db.upper (parseTarget target).1 = (parseTarget target).1 := by
  obtain ⟨row, hrow, hname⟩ :=
    List.mem_map.mp (preferredTable_mem (parseTarget target).2 hrows)
  constructor
  · rintro ⟨owner, hschema, hall⟩
    by_cases hempty : (parseTarget target).1 = ""
    · exact Or.inl hempty
    · right
      have howner := (of_mem_metadataRows hrow).1
      rw [hall row hrow hname, inspectedOwner, if_neg hempty] at howner
      rw [← howner, hschema.resolve_left hempty]
  · intro h
    refine ⟨inspectedOwner db (parseTarget target).1, ?_, fun r hr _ =>
      (of_mem_metadataRows hr).1⟩
    by_cases hempty : (parseTarget target).1 = ""
    · exact Or.inl hempty
    · rw [inspectedOwner, if_neg hempty, h.resolve_left hempty]
      exact Or.inr rfl

end Write
end DuckdbOracle
