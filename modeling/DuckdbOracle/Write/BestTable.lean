import DuckdbOracle.Foundations.StepRuns
import DuckdbOracle.Write.ColumnNames

/-!
# Which table a COPY takes

Oracle can have two tables whose names differ in letter case only, and the metadata query
of a `COPY` asks for both: the one spelled like the target, and the one in upper case.
Their rows come in the order that Oracle's collation has for the two names, so the loop
that picks the best table may meet either first, or both in turns.

It does not matter (`takes_exact_or_upper`): the table spelled like the target is taken if
it has a row, and the other one if only that has; the types of the columns are those of the
last rows of the table that is taken, and no row of the other table leaves anything behind.
-/

namespace DuckdbOracle
namespace Write

open Duckdb Catalog StepRuns

/-! ## The rows and the choice -/

/-- The rows with enough cells. -/
def usableRows (rows : List (List String)) : List MetadataRow := rows.filterMap MetadataRow.ofCells?

/-- The table that is to be taken: the one spelled like the target, if it has a row, else
the one in upper case. -/
def chosenTable? (object upperObject : String) (rows : List MetadataRow) : Option String :=
  if object ∈ rows.map (·.tableName) then some object
  else if upperObject ∈ rows.map (·.tableName) then some upperObject
  else none

/-- The type of a column in the last row that a table has for it. -/
def lastType? (table : Option String) (rows : List MetadataRow) (col : String) : Option String :=
  (rows.filter fun row => some row.tableName = table ∧ row.columnName = col).getLast?.map
    (·.dataType)

/-- The rows are of the two tables, and of one owner. -/
structure RowsOf (object upperObject owner : String) (rows : List MetadataRow) : Prop where
  table : ∀ row ∈ rows, row.tableName = object ∨ row.tableName = upperObject
  owner : ∀ row ∈ rows, row.owner = owner

/-- Of the rows of two tables the loop prefers the one that is to be taken. -/
theorem RowsOf.chosenTable? {object upperObject owner : String} {rows : List MetadataRow}
    (h : RowsOf object upperObject owner rows) (hrows : rows ≠ []) :
    chosenTable? object upperObject rows = some (preferredTable object rows) := by
  rw [Write.chosenTable?, preferredTable]
  by_cases hexact : object ∈ rows.map (·.tableName)
  · rw [if_pos hexact, if_pos hexact]
  · obtain ⟨first, rest, rfl⟩ := List.exists_cons_of_ne_nil hrows
    have hfirst : first.tableName = upperObject :=
      (h.table first List.mem_cons_self).resolve_left fun heq =>
        hexact (heq ▸ List.mem_map_of_mem List.mem_cons_self)
    have hupper : upperObject ∈ (first :: rest).map (·.tableName) :=
      hfirst ▸ List.mem_map_of_mem List.mem_cons_self
    rw [if_neg hexact, if_neg hexact, if_pos hupper, ← hfirst]
    rfl

/-! ## The target has a name -/

/-- No piece of a split target is empty, unless the target is. -/
theorem ne_empty_of_mem_split {delimiter : Char} {input piece : String} (hinput : input ≠ "")
    (h : piece ∈ split delimiter input) : piece ≠ "" := by
  have hpieces : ∀ chars ∈ (input.toList.splitOn delimiter).filter (· ≠ []), chars ≠ [] :=
    fun chars hmem => of_decide_eq_true (List.mem_filter.mp hmem).2
  unfold split at h
  split at h
  · rw [List.mem_singleton.mp h]
    exact hinput
  · obtain ⟨chars, hmem, rfl⟩ := List.mem_map.mp h
    exact fun hempty => hpieces chars hmem (String.ofList_eq_empty_iff.mp hempty)

/-- The object of a target has a name. -/
theorem parseTarget_object_ne {target : String} (h : target ≠ "") :
    (parseTarget target).2 ≠ "" := by
  unfold parseTarget
  split
  · next schema object hsplit =>
    have hmem : object ∈ split '.' target := by
      rw [hsplit]
      exact List.mem_cons_of_mem _ (List.mem_singleton_self _)
    exact ne_empty_of_mem_split h hmem
  · exact h

theorem target_ne_of_readOptions {filePath : String} {options : CopyOptions}
    {connectionString target : String}
    (h : readOptions filePath options = .ok (connectionString, target)) : target ≠ "" := by
  unfold readOptions at h
  split at h
  · cases h
  · obtain ⟨cs, -, h⟩ := bind_eq_ok.mp h
    obtain ⟨t, -, h⟩ := bind_eq_ok.mp h
    split at h
    · cases h
    · next hne =>
      obtain rfl := (Prod.mk.inj (Except.ok.inj h)).2
      exact hne

/-- A binding has a target. -/
theorem tableName_ne_of_oracleWriteBind {server : String → QueryAnswer} {filePath : String}
    {options : CopyOptions} {names : List String} {data : OracleWriteBindData}
    (h : oracleWriteBind server filePath options names = .ok data) : data.tableName ≠ "" := by
  obtain ⟨⟨connectionString, target⟩, hoptions, h⟩ := bind_eq_ok.mp h
  have htarget : data.tableName = target := by
    by_cases hempty : connectionString = ""
    · simp only [if_pos hempty] at h
      rw [← Except.ok.inj h]
      rfl
    · simp only [if_neg hempty] at h
      split at h
      · rw [← Except.ok.inj h]
        rfl
      · rw [← Except.ok.inj h]
        rfl
  rw [htarget]
  exact target_ne_of_readOptions hoptions

/-! ## What is taken -/

/-- **The table that a COPY takes**: its name, its owner as the schema if none was given, the
types of its columns and of no others; and nothing is changed without a usable row. -/
structure TakesChosen (object upperObject owner : String) (names : List String)
    (rows : List (List String)) (data : OracleWriteBindData) : Prop where
  table : data.objectName = (chosenTable? object upperObject (usableRows rows)).getD object
  schemaName : data.schemaName =
    if (parseTarget data.tableName).1 = "" ∧ usableRows rows ≠ [] then owner
    else (parseTarget data.tableName).1
  types : ∀ col, (bestTable object rows).colType? col =
    lastType? (chosenTable? object upperObject (usableRows rows)) (usableRows rows) col
  unchanged : usableRows rows = [] →
    data = defaultBindData data.connectionString data.tableName names

/-- The last type of a column among the rows that the loop keeps. -/
theorem BestOf.colType? {object : String} {rows : List MetadataRow} {best : BestTable}
    (hb : BestOf object rows best) (col : String) :
    best.colType? col = lastType? (some (preferredTable object rows)) rows col := by
  rw [BestTable.colType?, find?_reverse_eq, hb.filled, List.filter_filter, lastType?]
  congr 2
  refine List.filter_congr fun row _ => ?_
  simp only [Option.some.injEq, Bool.decide_and]
  exact Bool.and_comm _ _

/-- Without a usable row the loop finds nothing. -/
theorem introspect_empty (connectionString target : String) (names : List String) :
    (defaultBindData connectionString target names).introspect names {} =
      defaultBindData connectionString target names := by
  have hcolumn : ∀ name, (({} : BestTable)).column name = (name, "VARCHAR2") := fun name => rfl
  simp only [OracleWriteBindData.introspect, defaultBindData, hcolumn, if_pos, ne_eq,
    not_true_eq_false, false_and, if_false, List.map_id']

/-- **The table spelled like the target, or the one in upper case**, in whatever order their
rows come. -/
theorem takes_exact_or_upper {server : String → QueryAnswer} {filePath : String}
    {options : CopyOptions} {names : List String} {data : OracleWriteBindData}
    {rows : List (List String)} {sqlUpper : String → String} {owner : String}
    (h : oracleWriteBind server filePath options names = .ok data)
    (hconnection : data.connectionString ≠ "")
    (hanswer : server (metadataQuery (parseTarget data.tableName).1
      (parseTarget data.tableName).2) = .ok rows)
    (hupper : ∀ s, s ≠ "" → sqlUpper s ≠ "")
    (hrows : RowsOf (parseTarget data.tableName).2 (sqlUpper (parseTarget data.tableName).2) owner
      (usableRows rows)) :
    TakesChosen (parseTarget data.tableName).2 (sqlUpper (parseTarget data.tableName).2) owner names
      rows data := by
  have hdata := of_oracleWriteBind h hconnection hanswer
  have hobject := parseTarget_object_ne (tableName_ne_of_oracleWriteBind h)
  have hnamed : ∀ row ∈ usableRows rows, row.tableName ≠ "" := by
    intro row hrow
    rcases hrows.table row hrow with heq | heq
    · exact heq ▸ hobject
    · exact heq ▸ hupper _ hobject
  have hbest : BestOf (parseTarget data.tableName).2 (usableRows rows)
      (bestTable (parseTarget data.tableName).2 rows) := bestOf_foldl _ hnamed
  by_cases hempty : usableRows rows = []
  · have hnone : chosenTable? (parseTarget data.tableName).2
        (sqlUpper (parseTarget data.tableName).2) (usableRows rows) = none := by
      rw [hempty]
      rfl
    have hstart : bestTable (parseTarget data.tableName).2 rows = {} := by
      rw [bestTable, show rows.filterMap MetadataRow.ofCells? = [] from hempty]
      rfl
    rw [hstart, introspect_empty] at hdata
    constructor
    · rw [hnone, hdata]
      rfl
    · rw [if_neg fun hboth => hboth.2 hempty, hdata]
      rfl
    · intro col
      rw [hstart, hempty]
      rfl
    · exact fun _ => hdata
  · have hchosen := hrows.chosenTable? hempty
    obtain ⟨first, rest, hfilled⟩ := List.exists_cons_of_ne_nil (hbest.filled_ne_nil hempty)
    obtain ⟨hfirst, hname⟩ := hbest.mem_filled.mp (hfilled ▸ List.mem_cons_self)
    have howner : (bestTable (parseTarget data.tableName).2 rows).bestOwner = owner := by
      rw [hbest.owner, hfilled]
      exact hrows.owner first hfirst
    have hbestName : (bestTable (parseTarget data.tableName).2 rows).bestTableName ≠ "" := by
      rw [hbest.name, ← hname]
      exact hnamed first hfirst
    constructor
    · rw [hchosen, Option.getD_some, ← hbest.name, hdata]
      exact if_neg hbestName
    · have hschema := congrArg OracleWriteBindData.schemaName hdata
      have hcond : ((bestTable (parseTarget data.tableName).2 rows).bestTableName ≠ "" ∧
          (parseTarget data.tableName).1 = "") ↔
            (parseTarget data.tableName).1 = "" ∧ usableRows rows ≠ [] := by
        rw [and_iff_right hbestName, and_iff_left hempty]
      rw [hschema, ← howner]
      exact if_congr hcond rfl rfl
    · intro col
      rw [hchosen]
      exact hbest.colType? col
    · exact fun hnil => absurd hnil hempty

theorem upper_ne_empty {s : String} (h : s ≠ "") : upper s ≠ "" := by
  intro hupper
  have hnil := List.map_eq_nil_iff.mp (String.ofList_eq_empty_iff.mp hupper)
  exact h (String.toList_eq_nil_iff.mp hnil)

/-- Rows of two tables in turns, and a short one. -/
def mixedRows : List (List String) :=
  [["X", "EMP", "A", "NUMBER"], ["X", "emp", "A", "DATE"], ["X", "EMP"],
    ["X", "EMP", "B", "VARCHAR2"], ["X", "emp", "C", "CLOB"]]

/-- The binding of the target `emp`, which is the second table of the rows. -/
def boundMixed : OracleWriteBindData :=
  ⟨"emp", "scott/tiger@db", "X", "emp", ["A", "b"], ["DATE", "VARCHAR2"]⟩

theorem takes_exact_mixed : TakesChosen "emp" "EMP" "X" ["a", "b"] mixedRows boundMixed :=
  @takes_exact_or_upper (fun _ => .ok mixedRows) "emp"
    [("CONNECTION_STRING", [.varchar "scott/tiger@db"])] ["a", "b"] boundMixed mixedRows
    upper "X" rfl (by decide) rfl (fun _ => upper_ne_empty) ⟨by decide, by decide⟩

end Write
end DuckdbOracle
