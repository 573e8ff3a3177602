import DuckdbOracle.Write.Bind

/-!
# Which column a COPY writes to

`OracleWriteBind` looks an input name up twice: in `col_name_map`, by the name in upper
case, and, if there is nothing, in `col_type_map` by the name itself.  The first map
answers for every name that has any column but for letter case, and of several such
columns it keeps the last.  So the second lookup, which is meant for names that are told
apart by letter case only, never finds anything (`colType?_eq_none`), and every one of
those names goes to the last of the columns (`column_eq`).

That is the right column exactly if the last one is spelled like the name, or there is
no other (`columns_exact_iff`).
-/

namespace DuckdbOracle
namespace Write

open Duckdb Oracle Catalog

/-! ## What is meant -/

/-- The columns whose names agree with a name but for letter case. -/
def sameLetters (columns : List MetadataRow) (name : String) : List MetadataRow :=
  columns.filter fun column => upper column.columnName = upper name

/-- The column of exactly that name, or else the only one that agrees with it but for
letter case. -/
def intendedColumn? (columns : List MetadataRow) (name : String) : Option MetadataRow :=
  match columns.find? fun column => column.columnName = name with
  | some column => some column
  | none =>
    match sameLetters columns name with
    | [column] => some column
    | _ => none

/-- The name and the type to bind an input column with. -/
def intended (columns : List MetadataRow) (name : String) : String × String :=
  match intendedColumn? columns name with
  | some column => (column.columnName, column.dataType)
  | none => (name, "VARCHAR2")

/-- **Every input column goes to the column that is meant**, with the type of that very
column, and so no two input columns that have columns of exactly their names go to one. -/
structure ColumnsExact (columns : List MetadataRow) (names : List String)
    (data : OracleWriteBindData) : Prop where
  columnNames : data.columnNames = names.map fun name => (intended columns name).1
  oracleTypes : data.oracleTypes = names.map fun name => (intended columns name).2
  separate : ∀ (i j : ℕ) (name name' : String), names[i]? = some name → names[j]? = some name' →
    name ∈ columns.map (·.columnName) → name' ∈ columns.map (·.columnName) → name ≠ name' →
    data.columnNames[i]? ≠ data.columnNames[j]?

/-- Of the columns that agree with the name but for letter case, the last is spelled like
it, or it is the only one, or there is none. -/
def LastIsExact (columns : List MetadataRow) (name : String) : Prop :=
  (sameLetters columns name).length ≤ 1 ∨
    ∃ column, (sameLetters columns name).getLast? = some column ∧ column.columnName = name

/-! ## What the two maps answer -/

theorem find?_reverse_eq {α : Type*} (p : α → Bool) (l : List α) :
    l.reverse.find? p = (l.filter p).getLast? := by
  rw [← List.head?_filter, List.filter_reverse, List.head?_reverse]

/-- The columns of a table have different names. -/
theorem find?_columnName {columns : List MetadataRow} {column : MetadataRow}
    (hdistinct : (columns.map (·.columnName)).Nodup) (h : column ∈ columns) :
    columns.find? (fun c => c.columnName = column.columnName) = some column := by
  cases hfind : columns.find? fun c => c.columnName = column.columnName with
  | none =>
    have hnone := List.find?_eq_none.mp hfind column h
    exact absurd (decide_eq_true rfl) hnone
  | some c =>
    have hc := List.mem_of_find?_eq_some hfind
    have hname : c.columnName = column.columnName := by simpa using List.find?_some hfind
    rw [List.inj_on_of_nodup_map hdistinct hc h hname]

/-- `col_type_map` has the type of every column. -/
theorem colType?_of_mem {best : BestTable} {column : MetadataRow}
    (hdistinct : (best.filled.map (·.columnName)).Nodup) (h : column ∈ best.filled) :
    best.colType? column.columnName = some column.dataType := by
  have hreverse : (best.filled.reverse.map (·.columnName)).Nodup := by
    rw [List.map_reverse]
    exact List.nodup_reverse.mpr hdistinct
  rw [BestTable.colType?, find?_columnName hreverse (List.mem_reverse.mpr h), Option.map_some]

/-- `col_name_map` has the last column that agrees with a name but for letter case. -/
theorem colName?_eq (best : BestTable) (name : String) :
    best.colName? (upper name) =
      (sameLetters best.filled name).getLast?.map (·.columnName) := by
  rw [BestTable.colName?, find?_reverse_eq, sameLetters]

/-- **The exact lookup finds nothing** that the first one has not found. -/
theorem colType?_eq_none {best : BestTable} {name : String}
    (h : best.colName? (upper name) = none) : best.colType? name = none := by
  rw [colName?_eq, Option.map_eq_none_iff, List.getLast?_eq_none_iff, sameLetters,
    List.filter_eq_nil_iff] at h
  rw [BestTable.colType?, Option.map_eq_none_iff, List.find?_eq_none]
  intro column hmem hname
  have hexact : column.columnName = name := by simpa using hname
  have hupper := h column (List.mem_reverse.mp hmem)
  rw [hexact] at hupper
  exact hupper (decide_eq_true rfl)

/-- **What an input column is bound with**: the last column that agrees with it but for
letter case, if there is one. -/
theorem column_eq {best : BestTable} (hdistinct : (best.filled.map (·.columnName)).Nodup)
    (hnamed : ∀ column ∈ best.filled, column.columnName ≠ "") (name : String) :
    best.column name =
      match (sameLetters best.filled name).getLast? with
      | some column => (column.columnName, column.dataType)
      | none => (name, "VARCHAR2") := by
  have hlookup := colName?_eq best name
  cases hlast : (sameLetters best.filled name).getLast? with
  | none =>
    rw [hlast, Option.map_none] at hlookup
    have hactual : best.actualName name = "" := by
      rw [BestTable.actualName, hlookup]
      simp only [colType?_eq_none hlookup, Option.isSome_none, Bool.false_eq_true, if_false]
    rw [BestTable.column, if_pos hactual]
  | some column =>
    rw [hlast, Option.map_some] at hlookup
    have hmem : column ∈ best.filled :=
      (List.mem_filter.mp (List.mem_of_getLast? hlast)).1
    have hactual : best.actualName name = column.columnName := by
      rw [BestTable.actualName, hlookup]
    rw [BestTable.column, hactual, if_neg (hnamed column hmem), colType?_of_mem hdistinct hmem,
      Option.getD_some]

/-! ## When that is the column that is meant -/

/-- A column of exactly that name is among those that agree with it but for letter case. -/
theorem mem_sameLetters_of_find? {columns : List MetadataRow} {name : String}
    {column : MetadataRow}
    (h : columns.find? (fun column => column.columnName = name) = some column) :
    column ∈ sameLetters columns name ∧ column.columnName = name := by
  have hname : column.columnName = name := by simpa using List.find?_some h
  refine ⟨List.mem_filter.mpr ⟨List.mem_of_find?_eq_some h, ?_⟩, hname⟩
  rw [hname]
  exact decide_eq_true rfl

/-- A name with a column of exactly that name goes there. -/
theorem intended_exact {columns : List MetadataRow} {name : String}
    (h : name ∈ columns.map (·.columnName)) : (intended columns name).1 = name := by
  obtain ⟨column, hmem, hname⟩ := List.mem_map.mp h
  obtain ⟨c, hc⟩ : ∃ c, columns.find? (fun c => c.columnName = name) = some c := by
    rw [← Option.isSome_iff_exists, List.find?_isSome]
    exact ⟨column, hmem, decide_eq_true hname⟩
  rw [intended, intendedColumn?, hc]
  exact (mem_sameLetters_of_find? hc).2

/-- **When one input column is bound as it is meant.** -/
theorem column_eq_intended_iff {best : BestTable}
    (hdistinct : (best.filled.map (·.columnName)).Nodup)
    (hnamed : ∀ column ∈ best.filled, column.columnName ≠ "") (name : String) :
    best.column name = intended best.filled name ↔ LastIsExact best.filled name := by
  rw [column_eq hdistinct hnamed]
  unfold LastIsExact intended intendedColumn?
  cases hfind : best.filled.find? fun column => column.columnName = name with
  | some exact =>
    -- a column of exactly that name: the last one has to be it
    obtain ⟨hmem, hname⟩ := mem_sameLetters_of_find? hfind
    obtain ⟨column, hlast⟩ := Option.ne_none_iff_exists'.mp
      (mt List.getLast?_eq_none_iff.mp (List.ne_nil_of_mem hmem))
    have hcolumn := List.mem_of_getLast? hlast
    simp only [hlast]
    constructor
    · intro h
      exact Or.inr ⟨column, rfl, (congrArg Prod.fst h).trans hname⟩
    · rintro (hlen | ⟨c, hc, hcname⟩)
      · obtain ⟨only, honly⟩ := List.length_eq_one_iff.mp
          (le_antisymm hlen (List.length_pos_of_mem hmem))
        rw [honly] at hcolumn hmem
        rw [List.mem_singleton.mp hcolumn, List.mem_singleton.mp hmem]
      · rw [← Option.some.inj hc] at hcname
        rw [List.inj_on_of_nodup_map hdistinct (List.mem_filter.mp hcolumn).1
          (List.mem_of_find?_eq_some hfind) (hcname.trans hname.symm)]
  | none =>
    have hne : ∀ column ∈ sameLetters best.filled name, column.columnName ≠ name := by
      intro column hmem hname
      exact List.find?_eq_none.mp hfind column (List.mem_filter.mp hmem).1 (decide_eq_true hname)
    match hsame : sameLetters best.filled name with
    | [] => simp
    | [column] => simp
    | column :: next :: rest =>
      -- several columns, none of exactly that name: the last one gets the data
      obtain ⟨last, hlast⟩ := Option.ne_none_iff_exists'.mp
        (mt List.getLast?_eq_none_iff.mp (List.cons_ne_nil column (next :: rest)))
      have hlastname : last.columnName ≠ name := by
        refine hne last ?_
        rw [hsame]
        exact List.mem_of_getLast? hlast
      simp only [hlast]
      constructor
      · intro h
        exact absurd (congrArg Prod.fst h) hlastname
      · rintro (hlen | ⟨c, hc, hcname⟩)
        · exact absurd hlen (by simp)
        · rw [← Option.some.inj hc] at hcname
          exact absurd hcname hlastname

/-- **When a COPY writes each input column to the right table column.**  For every binding
whose metadata query returns rows: the columns and the types of the INSERT are those that
are meant exactly if of the columns of the inspected table that agree with an input name
but for letter case, the last is spelled like it, or there is at most one. -/
theorem columns_exact_iff {server : String → QueryAnswer} {filePath : String}
    {options : CopyOptions} {names : List String} {data : OracleWriteBindData}
    {rows columns : List MetadataRow}
    (h : oracleWriteBind server filePath options names = .ok data)
    (hconnection : data.connectionString ≠ "")
    (hanswer : server (metadataQuery (parseTarget data.tableName).1
      (parseTarget data.tableName).2) = .ok (rows.map MetadataRow.cells))
    (hnamed : ∀ row ∈ rows, row.tableName ≠ "" ∧ row.columnName ≠ "")
    (hcolumns : columns = rows.filter fun row =>
      row.tableName = preferredTable (parseTarget data.tableName).2 rows)
    (hdistinct : (columns.map (·.columnName)).Nodup) :
    ColumnsExact columns names data ↔ ∀ name ∈ names, LastIsExact columns name := by
  have hdata := of_oracleWriteBind h hconnection hanswer
  rw [bestTable_cells] at hdata
  have hbest := bestOf_foldl (parseTarget data.tableName).2 fun row hr => (hnamed row hr).1
  set best := rows.foldl (BestTable.step (parseTarget data.tableName).2) {}
  obtain rfl : best.filled = columns := hbest.filled.trans hcolumns.symm
  have hcolumn : ∀ column ∈ best.filled, column.columnName ≠ "" := fun column hmem =>
    (hnamed column (hbest.mem_filled.mp hmem).1).2
  have hiff := column_eq_intended_iff hdistinct hcolumn
  have hnames : data.columnNames = names.map fun name => (best.column name).1 := by rw [hdata]; rfl
  have htypes : data.oracleTypes = names.map fun name => (best.column name).2 := by rw [hdata]; rfl
  constructor
  · rintro ⟨hcolumnNames, horacleTypes, -⟩ name hname
    rw [hnames] at hcolumnNames
    rw [htypes] at horacleTypes
    refine (hiff name).mp (Prod.ext ?_ ?_)
    · exact List.map_inj_left.mp hcolumnNames name hname
    · exact List.map_inj_left.mp horacleTypes name hname
  · intro hall
    have heq : ∀ name ∈ names, best.column name = intended best.filled name :=
      fun name hname => (hiff name).mpr (hall name hname)
    have hexact : data.columnNames = names.map fun name => (intended best.filled name).1 := by
      rw [hnames]
      exact List.map_inj_left.mpr fun name hname => congrArg Prod.fst (heq name hname)
    refine ⟨hexact, ?_, ?_⟩
    · rw [htypes]
      exact List.map_inj_left.mpr fun name hname => congrArg Prod.snd (heq name hname)
    · intro i j name name' hi hj hname hname' hne hsame
      rw [hexact, List.getElem?_map, List.getElem?_map, hi, hj, Option.map_some,
        Option.map_some, intended_exact hname, intended_exact hname'] at hsame
      exact hne (Option.some.inj hsame)

/-- The columns of a table with `id` and `ID`. -/
def twoIds : List MetadataRow :=
  [⟨"SCOTT", "T", "id", "NUMBER"⟩, ⟨"SCOTT", "T", "ID", "DATE"⟩, ⟨"SCOTT", "T", "Name", "CLOB"⟩]

/-- A `COPY` into that table. -/
def copyColumns (names : List String) : Except String OracleWriteBindData :=
  oracleWriteBind (fun _ => .ok (twoIds.map MetadataRow.cells)) "T"
    [("CONNECTION_STRING", [.varchar "scott/tiger@db"])] names

/-- The binding of a `COPY` into that table. -/
def boundColumns (columnNames oracleTypes : List String) : OracleWriteBindData :=
  ⟨"T", "scott/tiger@db", "SCOTT", "T", columnNames, oracleTypes⟩

theorem columns_exact_idName :
    ColumnsExact twoIds ["ID", "NAME", "X"]
      (boundColumns ["ID", "Name", "X"] ["DATE", "CLOB", "VARCHAR2"]) :=
  (columns_exact_iff (rfl : copyColumns ["ID", "NAME", "X"] = .ok _) (by decide) rfl (by decide)
    (by decide) (by decide)).mpr <| by
      refine List.forall_mem_cons.mpr ⟨Or.inr ⟨_, rfl, rfl⟩, List.forall_mem_cons.mpr
        ⟨Or.inl (by decide), List.forall_mem_singleton.mpr (Or.inl (by decide))⟩⟩

/-- **Two input columns in one**: `id` and `ID` are both written to `ID`. -/
theorem ids_collide :
    copyColumns ["id", "ID"] = .ok (boundColumns ["ID", "ID"] ["DATE", "DATE"]) ∧
      ¬ ColumnsExact twoIds ["id", "ID"] (boundColumns ["ID", "ID"] ["DATE", "DATE"]) := by
  refine ⟨rfl, fun hexact => ?_⟩
  exact hexact.separate 0 1 "id" "ID" rfl rfl (by decide) (by decide) (by decide) rfl

end Write
end DuckdbOracle
