import DuckdbOracle.Scan.Pushdown

/-!
# Which buffer an output column is read from

Buffer `j` of a scan receives result column `j` of its query.  DuckDB asks for the
described columns `column_ids`, and `OracleInitGlobal` works out for each of them the
buffer to read: it takes the *name* of the described column and looks for it in
`column_names`, from the front.

While `column_names` lists the described columns in their order, buffer `c` holds
described column `c`.  Going through the name finds it exactly if no column before it
has the same name (`fillsFromOwn_iff`); a result with a repeated name delivers the
first column of that name in place of the others.
-/

namespace DuckdbOracle
namespace Scan

open Catalog

/-! ## The mapping -/

/-- The buffer for output column `i`, which is described column `colIdx`. -/
def mapColumn (bind : OracleBindData) (i colIdx : ℕ) : ℕ :=
  match bind.originalNames[colIdx]? with
  | some name =>
    match bind.columnNames.findIdx? (· = name) with
    | some j => j
    -- "should not happen if logic is correct"
    | none => i
  | none => i

/-- `column_mapping`, as `OracleInitGlobal` builds it. -/
def columnMapping (bind : OracleBindData) (columnIds projectionIds : List ℕ) : List ℕ :=
  if columnIds ≠ [] then columnIds.mapIdx (mapColumn bind)
  else projectionIds.mapIdx (mapColumn bind)

/-- The buffer `OracleQueryFunction` reads output column `colIdx` from; `none` when
there is no such buffer and the cell is left as it is. -/
def bufferIdx (bind : OracleBindData) (columnIds projectionIds : List ℕ) (colIdx : ℕ) :
    Option ℕ :=
  let buffer := ((columnMapping bind columnIds projectionIds)[colIdx]?).getD colIdx
  if buffer < bind.columnNames.length then some buffer else none

/-- **Output column `i` is filled from its own query column.** -/
def FillsFromOwn (bind : OracleBindData) (columnIds projectionIds : List ℕ) (i : ℕ) : Prop :=
  ∀ c, columnIds[i]? = some c → bufferIdx bind columnIds projectionIds i = some c

/-! ## Calls without projection -/

/-- A call without projection lists all columns again: at most the query is new. -/
theorem query_pushdown {call : PushdownCall} {bind : OracleBindData}
    {result : LogicalGet × OracleBindData × List Expression}
    (hids : call.get.projectionIds = []) (hnames : bind.columnNames = bind.originalNames)
    (h : oraclePushdownComplexFilter call.get bind call.expressions = .ok result) :
    ∃ query, result.2.1 = { bind with query := query } := by
  cases henabled : bind.settings.enablePushdown with
  | false =>
    unfold oraclePushdownComplexFilter at h
    rw [henabled] at h
    obtain rfl := Except.ok.inj h
    exact ⟨bind.query, rfl⟩
  | true =>
    obtain ⟨p, hp, hbind, -⟩ := oraclePushdownComplexFilter_spec henabled h
    rw [projection, if_pos hids] at hp
    obtain rfl := Except.ok.inj hp
    refine ⟨selectSQL bind.originalNames bind.baseQuery (clausesOf (bind, call)), ?_⟩
    rw [hbind, OracleBindData.pushed, ← hnames]

/-- Without projection, the columns stay what was described. -/
theorem query_pushdownAll {bind final : OracleBindData} {calls : List PushdownCall}
    (hids : ∀ call ∈ calls, call.get.projectionIds = [])
    (hnames : bind.columnNames = bind.originalNames) (h : pushdownAll bind calls = .ok final) :
    ∃ query, final = { bind with query := query } := by
  induction calls generalizing bind with
  | nil =>
    obtain rfl := Except.ok.inj h
    exact ⟨_, rfl⟩
  | cons call calls ih =>
    rw [pushdownAll] at h
    split at h
    · next get' bind' remaining hcall =>
      obtain ⟨query, hbind⟩ := query_pushdown (hids call List.mem_cons_self) hnames hcall
      obtain rfl : bind' = { bind with query := query } := hbind
      exact @ih { bind with query := query } (fun c hc => hids c (List.mem_cons_of_mem call hc))
        hnames h
    · cases h

/-- What the bind data keep of a described column. -/
theorem described_pushdownAll {cs query : String} {settings : OracleSettings}
    {columns : List DescribedColumn} {calls : List PushdownCall} {bind : OracleBindData}
    (hids : ∀ call ∈ calls, call.get.projectionIds = [])
    (h : pushdownAll (oracleBindInternal cs query settings columns) calls = .ok bind)
    {c : ℕ} {column : DescribedColumn} (hc : columns[c]? = some column) :
    bind.ociTypes[c]? = some column.dataType ∧ bind.originalTypes[c]? = some column.returnType ∧
      bind.ociSizes[c]? = some column.size := by
  obtain ⟨query', rfl⟩ := query_pushdownAll hids rfl h
  simp only [oracleBindInternal, List.getElem?_map, hc, Option.map_some, and_self]

/-! ## First match -/

/-- Looking a name up finds position `c` exactly if the name does not stand before. -/
theorem findIdx?_name_iff {names : List String} {c : ℕ} {name : String}
    (hc : names[c]? = some name) :
    names.findIdx? (· = name) = some c ↔ ∀ j < c, names[j]? ≠ some name := by
  obtain ⟨hlt, hname⟩ := List.getElem?_eq_some_iff.mp hc
  rw [List.findIdx?_eq_some_iff_getElem]
  constructor
  · rintro ⟨_, _, hbefore⟩ j hj hjname
    have hjlt : j < names.length := Nat.lt_trans hj hlt
    rw [List.getElem?_eq_getElem hjlt] at hjname
    exact hbefore j hj (decide_eq_true (Option.some.inj hjname))
  · intro hbefore
    refine ⟨hlt, decide_eq_true hname, fun j hj hjname => hbefore j hj ?_⟩
    rw [List.getElem?_eq_getElem (Nat.lt_trans hj hlt), of_decide_eq_true hjname]

/-- A name that stands somewhere is found. -/
theorem exists_findIdx?_name {names : List String} {c : ℕ} {name : String}
    (hc : names[c]? = some name) :
    ∃ j, names.findIdx? (· = name) = some j ∧ j < names.length := by
  cases hfind : names.findIdx? (· = name) with
  | none =>
    have hnone := List.findIdx?_eq_none_iff.mp hfind name (List.mem_of_getElem? hc)
    exact absurd hnone (by simp)
  | some j =>
    obtain ⟨hlt, -⟩ := List.findIdx?_eq_some_iff_getElem.mp hfind
    exact ⟨j, rfl, hlt⟩

/-- Output column `i` reads the first buffer whose column has the right name. -/
theorem bufferIdx_of_names {bind : OracleBindData} {names : List String}
    (hcolumn : bind.columnNames = names) (horiginal : bind.originalNames = names)
    {columnIds : List ℕ} (projectionIds : List ℕ) {i c : ℕ} {name : String}
    (hi : columnIds[i]? = some c) (hc : names[c]? = some name) :
    bufferIdx bind columnIds projectionIds i = names.findIdx? (· = name) := by
  obtain ⟨j, hfind, hlt⟩ := exists_findIdx?_name hc
  have hne : columnIds ≠ [] := by
    rintro rfl
    exact nomatch hi
  have hmap : mapColumn bind i c = j := by
    simp only [mapColumn, horiginal, hc, hcolumn, hfind]
  have hget : (columnMapping bind columnIds projectionIds)[i]? = some j := by
    rw [columnMapping, if_pos hne, List.getElem?_mapIdx, hi, Option.map_some, hmap]
  unfold bufferIdx
  rw [hget, Option.getD_some, hcolumn, hfind]
  exact if_pos hlt

/-- **When every output column is read from its own query column.**  For every describe
result, after any sequence of calls without projection, and for every list of columns
asked for: each output column is filled from its own query column exactly if none of
the columns asked for has a column of the same name before it. -/
theorem fillsFromOwn_iff {cs query : String} {settings : OracleSettings}
    {columns : List DescribedColumn} {calls : List PushdownCall} {bind : OracleBindData}
    {columnIds projectionIds : List ℕ}
    (hcalls : ∀ call ∈ calls, call.get.projectionIds = [])
    (hbind : pushdownAll (oracleBindInternal cs query settings columns) calls = .ok bind)
    (hids : ∀ c ∈ columnIds, c < columns.length) :
    (∀ i, FillsFromOwn bind columnIds projectionIds i) ↔
      ∀ c ∈ columnIds, ∀ j < c,
        (columns.map (·.name))[j]? ≠ (columns.map (·.name))[c]? := by
  obtain ⟨query, hfinal⟩ := query_pushdownAll hcalls rfl hbind
  -- what output column `i` reads, for each column asked for
  have hread : ∀ i c, columnIds[i]? = some c →
      (bufferIdx bind columnIds projectionIds i = some c ↔
        ∀ j < c, (columns.map (·.name))[j]? ≠ (columns.map (·.name))[c]?) := by
    intro i c hi
    have hlt : c < (columns.map (·.name)).length := by
      rw [List.length_map]
      exact hids c (List.mem_of_getElem? hi)
    have hc := List.getElem?_eq_getElem hlt
    have hcolumn : bind.columnNames = columns.map (·.name) := by rw [hfinal]; rfl
    have horiginal : bind.originalNames = columns.map (·.name) := by rw [hfinal]; rfl
    rw [bufferIdx_of_names hcolumn horiginal projectionIds hi hc, hc]
    exact findIdx?_name_iff hc
  constructor
  · intro hall c hc
    obtain ⟨i, hi⟩ := List.mem_iff_getElem?.mp hc
    exact (hread i c hi).mp (hall i c hi)
  · intro hdistinct i c hi
    exact (hread i c hi).mpr (hdistinct c (List.mem_of_getElem? hi))

/-- Two columns with different names, in the other order. -/
theorem fillsFromOwn_twoColumns :
    FillsFromOwn twoColumns [1, 0] [] 0 ∧ FillsFromOwn twoColumns [1, 0] [] 1 := by
  have hall : ∀ i, FillsFromOwn twoColumns [1, 0] [] i :=
    (@fillsFromOwn_iff _ _ _ _ [] _ _ _ (by decide) rfl (by decide)).mpr (by decide)
  exact ⟨hall 0, hall 1⟩

/-- **Of two columns of one name the second is filled from the first.** -/
theorem second_id_from_first :
    bufferIdx (oracleBindInternal "scott/tiger@db" "SELECT a.ID, b.ID FROM a, b" {}
        [{ name := "ID", dataType := .num }, { name := "ID", dataType := .num }]) [0, 1] [] 1 =
        some 0 ∧
      ¬ FillsFromOwn (oracleBindInternal "scott/tiger@db" "SELECT a.ID, b.ID FROM a, b" {}
        [{ name := "ID", dataType := .num }, { name := "ID", dataType := .num }]) [0, 1] [] 1 := by
  have hread : bufferIdx (oracleBindInternal "scott/tiger@db" "SELECT a.ID, b.ID FROM a, b" {}
      [{ name := "ID", dataType := .num }, { name := "ID", dataType := .num }]) [0, 1] [] 1 =
        some 0 := by decide
  refine ⟨hread, fun hfills => ?_⟩
  have hown := hfills 1 rfl
  rw [hread] at hown
  exact absurd hown (by decide)

end Scan
end DuckdbOracle
