import Mathlib.Data.Option.Basic
import DuckdbOracle.Scan.Fetch

/-!
# Are the columns of a projection in line?

A call of `OraclePushdownComplexFilter` with `projection_ids` selects some of the described
columns, in any order and as often as it likes.  It cuts `column_names`, `oci_types` and
`oci_sizes` to these columns, and leaves `original_names` and `original_types` as they are.

Two things follow.  The next call still looks names up by the number of a described column,
in `original_names`, but types and sizes in what the last call has left of the two other
arrays.  And `OracleInitGlobal` defines query column `j` as binary or as a string by
`original_types[j]`, which is the type of the described column `j`, and not of the one that
is selected there.  `aligned_iff` says for which calls all this comes to the same.
-/

namespace DuckdbOracle
namespace Scan

open Catalog StepRuns

/-! ## Calls in a row -/

/-- A call of the callback, on the bind data; it may throw. -/
def pushdownStep (bind : OracleBindData) (call : PushdownCall) : Option OracleBindData :=
  match oraclePushdownComplexFilter call.get bind call.expressions with
  | .ok (_, bind', _) => some bind'
  | .error _ => none

/-! ## The property and the condition -/

/-- How a column is defined, by its own type and size. -/
def DescribedColumn.define (column : DescribedColumn) : Define where
  size := max 4000 (column.size * 4 % 2 ^ 32)
  binary := column.returnType = .blob

/-- The described columns that a call selects, one for each query column. -/
def selectedColumns (columns : List DescribedColumn) (bind : OracleBindData)
    (call : PushdownCall) : List DescribedColumn :=
  if bind.settings.enablePushdown = false ∨ call.get.projectionIds = [] then columns
  else call.get.projectionIds.filterMap (columns[·]?)

/-- **The arrays are in line**: entry `j` of each, and the define of query column `j`, is
that of the `j`-th selected column. -/
structure Aligned (selected : List DescribedColumn) (bind : OracleBindData) : Prop where
  names : bind.columnNames = selected.map (·.name)
  ociTypes : bind.ociTypes = selected.map (·.dataType)
  ociSizes : bind.ociSizes = selected.map DescribedColumn.size
  defines : ∀ j column, selected[j]? = some column → defineOf bind j = column.define

/-- The call returns, and leaves the arrays in line. -/
def StaysAligned (columns : List DescribedColumn) (bind : OracleBindData) (call : PushdownCall) :
    Prop :=
  ∃ get' bind' remaining,
    oraclePushdownComplexFilter call.get bind call.expressions = .ok (get', bind', remaining) ∧
      Aligned (selectedColumns columns bind call) bind'

/-- The arrays that the last call has left still have type and size of each column that
this call selects, at the place of this column. -/
def KeepsColumns (columns : List DescribedColumn) (bind : OracleBindData) (ids : List ℕ) : Prop :=
  if ids = [] then
    bind.ociTypes = columns.map (·.dataType) ∧ bind.ociSizes = columns.map DescribedColumn.size
  else ∀ c ∈ ids, bind.ociTypes[c]? = (columns[c]?).map (·.dataType) ∧
    bind.ociSizes[c]? = (columns[c]?).map DescribedColumn.size

/-- Where a `BLOB` is selected, there is one among the described columns, and nowhere else. -/
def BlobsInPlace (columns selected : List DescribedColumn) : Prop :=
  ∀ (j : ℕ) (column : DescribedColumn), selected[j]? = some column →
    ((columns[j]?).map DescribedColumn.returnType = some .blob ↔ column.returnType = .blob)

/-- The call does nothing, or its columns are kept and `BLOB`s are in their places. -/
def InPlace (columns : List DescribedColumn) (bind : OracleBindData) (call : PushdownCall) :
    Prop :=
  bind.settings.enablePushdown = false ∨
    KeepsColumns columns bind call.get.projectionIds ∧
      BlobsInPlace columns (selectedColumns columns bind call)

/-! ## One call -/

/-- What no call changes: the original arrays, and everything if pushdown is off. -/
structure Described (columns : List DescribedColumn) (bind : OracleBindData) : Prop where
  originalNames : bind.originalNames = columns.map (·.name)
  originalTypes : bind.originalTypes = columns.map DescribedColumn.returnType
  disabled : bind.settings.enablePushdown = false → Aligned columns bind

/-- **The define of a query column is that of its own column exactly if a `BLOB` is in its
place.** -/
theorem defineOf_eq_iff {columns selected : List DescribedColumn} {bind : OracleBindData}
    (htypes : bind.originalTypes = columns.map DescribedColumn.returnType)
    (hociTypes : bind.ociTypes = selected.map (·.dataType))
    (hociSizes : bind.ociSizes = selected.map DescribedColumn.size) {j : ℕ}
    {column : DescribedColumn} (hj : selected[j]? = some column) :
    defineOf bind j = column.define ↔
      ((columns[j]?).map DescribedColumn.returnType = some .blob ↔ column.returnType = .blob) := by
  have hlt : j < selected.length := (List.getElem?_eq_some_iff.mp hj).1
  have hsize : defineSize bind j = column.define.size := by
    have hpos : column.size > 0 := by
      unfold DescribedColumn.size
      split <;> omega
    have hget : bind.ociSizes[j]? = some column.size := by
      rw [hociSizes, List.getElem?_map, hj, Option.map_some]
    rw [defineSize, hget]
    simp only [if_pos hpos, DescribedColumn.define]
    split <;> omega
  have hbinary : (defineOf bind j).binary = column.define.binary ↔
      ((columns[j]?).map DescribedColumn.returnType = some .blob ↔ column.returnType = .blob) := by
    have hlength : j < bind.ociTypes.length := by
      rw [hociTypes, List.length_map]
      exact hlt
    simp only [defineOf, DescribedColumn.define, htypes, List.getElem?_map, hlength, and_true,
      decide_eq_decide]
  rw [← hbinary]
  constructor
  · exact fun h => congrArg Define.binary h
  · intro h
    show (⟨defineSize bind j, (defineOf bind j).binary⟩ : Define) = column.define
    rw [hsize, h]

/-- What is kept of selected columns. -/
theorem map_selected {β : Type*} (f : DescribedColumn → β) {columns : List DescribedColumn}
    {ids : List ℕ} (hids : ∀ c ∈ ids, c < columns.length) :
    ((ids.filterMap (columns[·]?)).map f).map some = ids.map fun c => (columns[c]?).map f := by
  induction ids with
  | nil => rfl
  | cons c ids ih =>
    have hrest := ih fun c' hc' => hids c' (List.mem_cons_of_mem c hc')
    have hc := List.getElem?_eq_getElem (hids c List.mem_cons_self)
    rw [List.filterMap_cons, hc, List.map_cons, List.map_cons, List.map_cons, hrest, hc,
      Option.map_some]

/-- A projected array is that of the selected columns exactly if the array it is taken from
has these columns in their places. -/
theorem projected_eq_iff {β : Type*} {f : DescribedColumn → β} {columns : List DescribedColumn}
    {ids : List ℕ} (hids : ∀ c ∈ ids, c < columns.length) {array projected : List β}
    (h : projected.map some = ids.map (array[·]?)) :
    projected = (ids.filterMap (columns[·]?)).map f ↔
      ∀ c ∈ ids, array[c]? = (columns[c]?).map f := by
  have hinj : Function.Injective (List.map (some : β → Option β)) :=
    List.map_injective_iff.mpr (Option.some_injective β)
  rw [← hinj.eq_iff, h, map_selected f hids]
  exact List.map_inj_left

theorem selectedColumns_of_enabled {columns : List DescribedColumn} {bind : OracleBindData}
    {call : PushdownCall} (henabled : bind.settings.enablePushdown = true) :
    selectedColumns columns bind call = if call.get.projectionIds = [] then columns
      else call.get.projectionIds.filterMap (columns[·]?) := by
  rw [selectedColumns, henabled]
  exact if_congr (or_iff_right (by decide)) rfl rfl

/-- **The projection selects the columns exactly if they are kept.** -/
theorem projection_iff {columns : List DescribedColumn} {bind : OracleBindData}
    (h : Described columns bind) {ids : List ℕ} (hids : ∀ c ∈ ids, c < columns.length) :
    let selected := if ids = [] then columns else ids.filterMap (columns[·]?)
    (∃ p, projection bind ids = .ok p ∧ p.names = selected.map (·.name) ∧
        p.ociTypes = selected.map (·.dataType) ∧ p.ociSizes = selected.map DescribedColumn.size) ↔
      KeepsColumns columns bind ids := by
  unfold projection KeepsColumns
  by_cases hempty : ids = []
  · simp only [if_pos hempty]
    constructor
    · rintro ⟨p, hp, -, htypes, hsizes⟩
      obtain rfl := Except.ok.inj hp
      exact ⟨htypes, hsizes⟩
    · exact fun hkeeps => ⟨_, rfl, h.originalNames, hkeeps⟩
  · simp only [if_neg hempty]
    have hlength : bind.originalNames.length = columns.length := by
      rw [h.originalNames, List.length_map]
    have hall : ids.filter (· < bind.originalNames.length) = ids :=
      List.filter_eq_self.mpr fun c hc => decide_eq_true (hlength ▸ hids c hc)
    constructor
    · rintro ⟨p, hp, -, htypes, hsizes⟩ c hc
      have happends := appends_projectColumns hp
      rw [hall] at happends
      exact ⟨(projected_eq_iff hids happends.ociTypes).mp htypes c hc,
        (projected_eq_iff hids happends.ociSizes).mp hsizes c hc⟩
    · intro hkeeps
      obtain ⟨p, hp⟩ : ∃ p, ids.foldlM (projectColumn bind) {} = .ok p := by
        refine exists_projectColumns (fun c hc hlt => ?_) {}
        have hcolumn := List.getElem?_eq_getElem (hids c hc)
        obtain ⟨htype, hsize⟩ := hkeeps c hc
        rw [hcolumn, Option.map_some] at htype hsize
        refine ⟨?_, (List.getElem?_eq_some_iff.mp htype).1, (List.getElem?_eq_some_iff.mp hsize).1⟩
        rw [h.originalTypes, List.length_map]
        exact hids c hc
      have happends := appends_projectColumns hp
      rw [hall] at happends
      refine ⟨p, hp, (projected_eq_iff hids happends.names).mpr fun c _ => ?_,
        (projected_eq_iff hids happends.ociTypes).mpr fun c hc => (hkeeps c hc).1,
        (projected_eq_iff hids happends.ociSizes).mpr fun c hc => (hkeeps c hc).2⟩
      rw [h.originalNames, List.getElem?_map]

/-- What a call does when pushdown is on. -/
theorem call_iff_of_enabled {bind : OracleBindData} {call : PushdownCall}
    (henabled : bind.settings.enablePushdown = true) {Q : OracleBindData → Prop} :
    (∃ get' bind' remaining, oraclePushdownComplexFilter call.get bind call.expressions =
        .ok (get', bind', remaining) ∧ Q bind') ↔
      ∃ p, projection bind call.get.projectionIds = .ok p ∧
        Q (bind.pushed p (clausesOf (bind, call))) := by
  constructor
  · rintro ⟨get', bind', remaining, hcall, hQ⟩
    obtain ⟨p, hp, hbind, -⟩ := oraclePushdownComplexFilter_spec henabled hcall
    exact ⟨p, hp, hbind ▸ hQ⟩
  · rintro ⟨p, hp, hQ⟩
    exact ⟨_, _, _, oraclePushdownComplexFilter_of_projection henabled hp call.expressions, hQ⟩

/-- **When a call leaves the arrays in line.** -/
theorem staysAligned_iff {columns : List DescribedColumn} {bind : OracleBindData}
    (h : Described columns bind) {call : PushdownCall}
    (hids : ∀ c ∈ call.get.projectionIds, c < columns.length) :
    StaysAligned columns bind call ↔ InPlace columns bind call := by
  cases henabled : bind.settings.enablePushdown with
  | false =>
    have hselected : selectedColumns columns bind call = columns := if_pos (Or.inl henabled)
    have hcall : oraclePushdownComplexFilter call.get bind call.expressions =
        .ok (call.get, bind, call.expressions) := by
      rw [oraclePushdownComplexFilter, henabled]
      rfl
    refine iff_of_true ⟨_, _, _, hcall, ?_⟩ (Or.inl henabled)
    rw [hselected]
    exact h.disabled henabled
  | true =>
    have hprojection := projection_iff h hids
    dsimp only at hprojection
    have hon : ¬ bind.settings.enablePushdown = false := by
      rw [henabled]
      decide
    rw [← selectedColumns_of_enabled henabled] at hprojection
    rw [StaysAligned, InPlace, call_iff_of_enabled henabled, or_iff_right hon, ← hprojection]
    constructor
    · rintro ⟨p, hp, haligned⟩
      refine ⟨⟨p, hp, haligned.names, haligned.ociTypes, haligned.ociSizes⟩, fun j column hj => ?_⟩
      exact (@defineOf_eq_iff _ _ (bind.pushed p (clausesOf (bind, call))) h.originalTypes
        haligned.ociTypes haligned.ociSizes _ _ hj).mp (haligned.defines j column hj)
    · rintro ⟨⟨p, hp, hnames, hociTypes, hociSizes⟩, hblobs⟩
      refine ⟨p, hp, hnames, hociTypes, hociSizes, fun j column hj => ?_⟩
      exact (@defineOf_eq_iff _ _ (bind.pushed p (clausesOf (bind, call))) h.originalTypes hociTypes
        hociSizes _ _ hj).mpr (hblobs j column hj)

theorem described_pushdownStep {columns : List DescribedColumn} {bind bind' : OracleBindData}
    {call : PushdownCall} (h : Described columns bind)
    (hstep : pushdownStep bind call = some bind') : Described columns bind' := by
  unfold pushdownStep at hstep
  split at hstep
  · next get' bind'' remaining hcall =>
    obtain rfl := Option.some.inj hstep
    cases henabled : bind.settings.enablePushdown with
    | false =>
      rw [oraclePushdownComplexFilter, henabled] at hcall
      obtain rfl : bind = bind'' := congrArg (·.2.1) (Except.ok.inj hcall)
      exact h
    | true =>
      obtain ⟨p, -, hbind, -⟩ := oraclePushdownComplexFilter_spec henabled hcall
      obtain rfl : bind'' = bind.pushed p (clausesOf (bind, call)) := hbind
      refine ⟨h.originalNames, h.originalTypes, fun hdisabled => ?_⟩
      exact absurd (henabled.symm.trans hdisabled) (by decide)
  · cases hstep

/-! ## Runs -/

theorem described_oracleBindInternal (cs query : String) (settings : OracleSettings)
    (columns : List DescribedColumn) :
    Described columns (oracleBindInternal cs query settings columns) where
  originalNames := rfl
  originalTypes := rfl
  disabled _ :=
    ⟨rfl, rfl, rfl, fun j column hj => (@defineOf_eq_iff _ _
      (oracleBindInternal cs query settings columns) rfl rfl rfl _ _ hj).mpr
        (by rw [hj, Option.map_some, Option.some.injEq])⟩

/-- **When the columns of a projection are in line.**  For every describe result and any
sequence of calls whose `projection_ids` are numbers of described columns: each call
returns and leaves the arrays in line exactly if at each call pushdown is off, or the
columns it selects are kept and `BLOB`s are in their places. -/
theorem aligned_iff {cs query : String} {settings : OracleSettings}
    {columns : List DescribedColumn} {calls : List PushdownCall}
    (hids : ∀ call ∈ calls, ∀ c ∈ call.get.projectionIds, c < columns.length) :
    Guarded pushdownStep (StaysAligned columns) (oracleBindInternal cs query settings columns)
        calls ↔
      Guarded pushdownStep (InPlace columns) (oracleBindInternal cs query settings columns)
        calls :=
  guarded_congr (fun _ _ _ h hstep => described_pushdownStep h hstep)
    (fun _ h call hcall => staysAligned_iff h (hids call hcall))
    (described_oracleBindInternal cs query settings columns)


/-- A name and a photo. -/
def photoColumns : List DescribedColumn :=
  [{ name := "NAME", dataType := .chr, charSize := 20 }, { name := "PHOTO", dataType := .blob }]

/-- The call that selects these columns, without filters. -/
def selectCall (ids : List ℕ) : PushdownCall where
  get := { projectionIds := ids }
  expressions := []

/-- Selecting the first column leaves everything in line. -/
theorem aligned_name :
    Guarded pushdownStep (StaysAligned photoColumns)
      (oracleBindInternal "scott/tiger@db" "SELECT NAME, PHOTO FROM people" {} photoColumns)
      [selectCall [0]] := by
  refine (aligned_iff (by decide)).mpr (Guarded.cons (Or.inr ⟨?_, ?_⟩) fun _ _ => Guarded.nil)
  · intro c hc
    obtain rfl := List.mem_singleton.mp hc
    exact ⟨rfl, rfl⟩
  · intro j column hj
    cases j with
    | zero =>
      obtain rfl := Option.some.inj hj
      decide
    | succ j => cases hj

/-- **A photo that is selected first is fetched as a string.** -/
theorem photo_as_string :
    ¬ Guarded pushdownStep (StaysAligned photoColumns)
      (oracleBindInternal "scott/tiger@db" "SELECT NAME, PHOTO FROM people" {} photoColumns)
      [selectCall [1]] := by
  intro h
  have hcall := h [] _ (List.prefix_refl _) _ rfl
  rw [staysAligned_iff (described_oracleBindInternal _ _ _ _) (by decide)] at hcall
  obtain ⟨-, hblobs⟩ := hcall.resolve_left (by decide)
  exact absurd (hblobs 0 _ rfl) (by decide)

end Scan
end DuckdbOracle
