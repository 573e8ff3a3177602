import DuckdbOracle.Foundations.StepRuns
import DuckdbOracle.Scan.Bind

/-!
# Pushing filters down

`OraclePushdownComplexFilter` is called by the planner with the filters above a
scan.  It turns the ones it understands into clauses of a WHERE condition and
removes them from the list, so DuckDB does not apply them again.

Each call builds the query anew from the base query and the clauses of *this*
call.  The removal, on the other hand, adds up over the calls.  So whatever an
earlier call removed is lost when a later call builds the query
(`pushdownAll_query`), and the query stands for all filters exactly if only the
last call found any (`where_complete_iff`).
-/

namespace DuckdbOracle
namespace Scan

open Catalog Duckdb StepRuns

/-! ## Expressions -/

/-- The types of a `BoundComparisonExpression`. -/
inductive ComparisonType where
  | equal
  | notEqual
  | lessThan
  | greaterThan
  | lessThanOrEqual
  | greaterThanOrEqual
  | distinctFrom
  | notDistinctFrom
  deriving DecidableEq

/-- The types of a `BoundOperatorExpression`, as far as they are told apart. -/
inductive OperatorType where
  | isNull
  | other
  deriving DecidableEq

/-- A bound expression.  `other` stands for every class that is none of the first
five: conjunctions, functions, casts and so on. -/
inductive Expression where
  | boundRef (index : ℕ)
  /-- `BoundColumnRefExpression`, by the column of its binding. -/
  | boundColumnRef (columnIndex : ℕ)
  | constant (value : Value)
  | comparison (type : ComparisonType) (left right : Expression)
  | operator (type : OperatorType) (children : List Expression)
  | other (children : List Expression)

/-- `DConstants::INVALID_INDEX`. -/
def invalidIndex : ℕ := 2 ^ 64 - 1

/-- The column index of a column reference. -/
def Expression.columnIndex? : Expression → Option ℕ
  | .boundRef index => some index
  | .boundColumnRef columnIndex => some columnIndex
  | _ => none

/-- The value of a constant. -/
def Expression.constant? : Expression → Option Value
  | .constant value => some value
  | _ => none

/-- The operator for the two sides swapped. -/
def ComparisonType.flip : ComparisonType → ComparisonType
  | .greaterThan => .lessThan
  | .greaterThanOrEqual => .lessThanOrEqual
  | .lessThan => .greaterThan
  | .lessThanOrEqual => .greaterThanOrEqual
  | type => type

/-- How an operator is written; `none` for the ones that are not pushed. -/
def ComparisonType.sql? : ComparisonType → Option String
  | .equal => some "="
  | .greaterThan => some ">"
  | .greaterThanOrEqual => some ">="
  | .lessThan => some "<"
  | .lessThanOrEqual => some "<="
  | .notEqual | .distinctFrom | .notDistinctFrom => none

/-! ## Extraction -/

/-- `ColumnRefSQL`. -/
def columnRefSQL (name : String) : String := writeQuoted name

/-- The column with the index, if it is a column of the scan. -/
def indexedName (names : List String) (index : ℕ) : Option String :=
  if index = invalidIndex then none else names[index]?

/-- The column, the operator as seen from the column, and the constant of a
comparison of a column with a constant. -/
def comparisonParts (type : ComparisonType) (left right : Expression) :
    Option (ℕ × ComparisonType × Value) :=
  match left.columnIndex?, right.constant? with
  | some index, some value => some (index, type, value)
  | _, _ =>
    match right.columnIndex?, left.constant? with
    | some index, some value => some (index, type.flip, value)
    | _, _ => none

/-- The clause that compares a column with a constant. -/
def comparisonClause (name op : String) (value : Value) : String :=
  columnRefSQL name ++ " " ++ op ++ " " ++ String.ofList value.toSQLString

/-- `TryExtractComparison`. -/
def tryExtractComparison (names : List String) : Expression → Option String
  | .comparison type left right => do
    -- only the five comparisons that have a symbol
    let _ ← type.sql?
    let (index, op, value) ← comparisonParts type left right
    let name ← indexedName names index
    return comparisonClause name (← op.sql?) value
  | _ => none

/-- `TryExtractIsNull`. -/
def tryExtractIsNull (names : List String) : Expression → Option String
  | .operator .isNull [child] => do
    let name ← indexedName names (← child.columnIndex?)
    return columnRefSQL name ++ " IS NULL"
  | _ => none

/-- The clause of an expression that is pushed down. -/
def extractClause (names : List String) (e : Expression) : Option String :=
  (tryExtractComparison names e).or (tryExtractIsNull names e)

/-! ## The callback -/

/-- The part of `LogicalGet` that the callback and the scan read and write. -/
structure LogicalGet where
  columnIds : List ℕ := []
  projectionIds : List ℕ := []
  names : List String := []
  returnedTypes : List LogicalType := []
  deriving DecidableEq

/-- The columns a call selects. -/
structure Projection where
  names : List String := []
  types : List LogicalType := []
  ociTypes : List OciType := []
  ociSizes : List ℕ := []
  deriving DecidableEq

/-- Indexing a DuckDB `vector`, which throws when the index is out of range. -/
def vectorAt {α : Type*} (xs : List α) (i : ℕ) : Except String α :=
  match xs[i]? with
  | some x => .ok x
  | none => .error ("Attempted to access index " ++ toString i ++ " within vector of size " ++
      toString xs.length)

/-- One round of the projection loop; an index that is no column is skipped. -/
def projectColumn (bind : OracleBindData) (p : Projection) (idx : ℕ) :
    Except String Projection :=
  if idx ≥ bind.originalNames.length then .ok p
  else do
    return {
      names := p.names ++ [← vectorAt bind.originalNames idx]
      types := p.types ++ [← vectorAt bind.originalTypes idx]
      ociTypes := p.ociTypes ++ [← vectorAt bind.ociTypes idx]
      ociSizes := p.ociSizes ++ [← vectorAt bind.ociSizes idx] }

/-- The columns of the call: the projected ones, or all. -/
def projection (bind : OracleBindData) (projectionIds : List ℕ) : Except String Projection :=
  if projectionIds = [] then
    .ok ⟨bind.originalNames, bind.originalTypes, bind.ociTypes, bind.ociSizes⟩
  else projectionIds.foldlM (projectColumn bind) {}

/-- The WHERE part of the query. -/
def whereSQL (clauses : List String) : String :=
  if clauses = [] then "" else " WHERE " ++ join " AND " clauses

/-- The query that a call builds. -/
def selectSQL (names : List String) (baseQuery : String) (clauses : List String) : String :=
  "SELECT " ++ join ", " (names.map columnRefSQL) ++ " FROM (" ++ baseQuery ++ ")" ++
    whereSQL clauses

/-- The bind data with the columns and the query of a call. -/
def OracleBindData.pushed (bind : OracleBindData) (p : Projection) (clauses : List String) :
    OracleBindData :=
  { bind with
    columnNames := p.names
    ociTypes := p.ociTypes
    ociSizes := p.ociSizes
    query := selectSQL p.names bind.baseQuery clauses }

/-- `OraclePushdownComplexFilter`: the `LogicalGet` and the bind data afterwards, and
the expressions that are left to DuckDB. -/
def oraclePushdownComplexFilter (get : LogicalGet) (bind : OracleBindData)
    (expressions : List Expression) :
    Except String (LogicalGet × OracleBindData × List Expression) :=
  if !bind.settings.enablePushdown then .ok (get, bind, expressions)
  else do
    let clauses := expressions.filterMap (extractClause bind.columnNames)
    let remaining := expressions.filter fun e => (extractClause bind.columnNames e).isNone
    let p ← projection bind get.projectionIds
    let get' := if get.projectionIds = [] then get
      else { get with names := p.names, returnedTypes := p.types }
    return (get', bind.pushed p clauses, remaining)

/-! ## Sequences of calls -/

/-- One call of the callback. -/
structure PushdownCall where
  get : LogicalGet := {}
  expressions : List Expression

/-- The bind data after a sequence of calls. -/
def pushdownAll : OracleBindData → List PushdownCall → Except String OracleBindData
  | bind, [] => .ok bind
  | bind, call :: calls =>
    match oraclePushdownComplexFilter call.get bind call.expressions with
    | .ok (_, bind', _) => pushdownAll bind' calls
    | .error e => .error e

/-- The calls of a sequence, each with the bind data it meets. -/
def callsWithBind : OracleBindData → List PushdownCall → List (OracleBindData × PushdownCall)
  | _, [] => []
  | bind, call :: calls =>
    (bind, call) ::
      match oraclePushdownComplexFilter call.get bind call.expressions with
      | .ok (_, bind', _) => callsWithBind bind' calls
      | .error _ => []

/-- The clauses a call extracts; the expressions they come from are removed. -/
def clausesOf (call : OracleBindData × PushdownCall) : List String :=
  call.2.expressions.filterMap (extractClause call.1.columnNames)

/-- The clauses extracted in all calls, in their order. -/
def allClauses (bind : OracleBindData) (calls : List PushdownCall) : List String :=
  (callsWithBind bind calls).flatMap clausesOf

/-- The clauses extracted in the last call. -/
def lastClauses (bind : OracleBindData) (calls : List PushdownCall) : List String :=
  match (callsWithBind bind calls).getLast? with
  | some call => clausesOf call
  | none => []

/-- The query that stands for the clauses after these calls. -/
def queryFor (bind final : OracleBindData) (calls : List PushdownCall) (clauses : List String) :
    String :=
  if calls = [] then bind.query else selectSQL final.columnNames bind.baseQuery clauses

/-- **The WHERE part is complete**: it is the conjunction of the clauses of all
calls. -/
def WhereComplete (bind final : OracleBindData) (calls : List PushdownCall) : Prop :=
  final.query = queryFor bind final calls (allClauses bind calls)

/-- **Every row is filtered by all removed expressions**: whatever the clauses mean, a
row that the clauses of the query let through meets the clauses of all calls. -/
def RowsFiltered (bind : OracleBindData) (calls : List PushdownCall) : Prop :=
  ∀ holds : String → Prop, (∀ clause ∈ lastClauses bind calls, holds clause) →
    ∀ clause ∈ allClauses bind calls, holds clause

/-! ## What one call does -/

theorem vectorAt_eq_ok_iff {α : Type*} {xs : List α} {i : ℕ} {x : α} :
    vectorAt xs i = .ok x ↔ xs[i]? = some x := by
  unfold vectorAt
  split
  · next y hy => simp [hy]
  · next hnone => simp [hnone]

/-- `p'` is `p` with these columns behind. -/
structure Projection.Appends (bind : OracleBindData) (ids : List ℕ) (p p' : Projection) :
    Prop where
  names : p'.names.map some = p.names.map some ++ ids.map (bind.originalNames[·]?)
  types : p'.types.map some = p.types.map some ++ ids.map (bind.originalTypes[·]?)
  ociTypes : p'.ociTypes.map some = p.ociTypes.map some ++ ids.map (bind.ociTypes[·]?)
  ociSizes : p'.ociSizes.map some = p.ociSizes.map some ++ ids.map (bind.ociSizes[·]?)

theorem Projection.Appends.trans {bind : OracleBindData} {ids ids' : List ℕ}
    {p p' p'' : Projection} (h : Appends bind ids p p') (h' : Appends bind ids' p' p'') :
    Appends bind (ids ++ ids') p p'' where
  names := by rw [h'.names, h.names, List.append_assoc, List.map_append]
  types := by rw [h'.types, h.types, List.append_assoc, List.map_append]
  ociTypes := by rw [h'.ociTypes, h.ociTypes, List.append_assoc, List.map_append]
  ociSizes := by rw [h'.ociSizes, h.ociSizes, List.append_assoc, List.map_append]

/-- One round of the projection loop: it skips an index that is no column, and else
appends what is kept of the column. -/
theorem appends_projectColumn {bind : OracleBindData} {idx : ℕ} {p p' : Projection}
    (h : projectColumn bind p idx = .ok p') :
    p.Appends bind ([idx].filter (· < bind.originalNames.length)) p' := by
  unfold projectColumn at h
  by_cases hidx : idx ≥ bind.originalNames.length
  · rw [if_pos hidx] at h
    obtain rfl := Except.ok.inj h
    have hskip : [idx].filter (· < bind.originalNames.length) = [] := by simp [hidx]
    rw [hskip]
    exact ⟨by simp, by simp, by simp, by simp⟩
  · have hkeep : [idx].filter (· < bind.originalNames.length) = [idx] := by
      simp [Nat.lt_of_not_le hidx]
    rw [if_neg hidx] at h
    obtain ⟨name, hname, h⟩ := bind_eq_ok.mp h
    obtain ⟨type, htype, h⟩ := bind_eq_ok.mp h
    obtain ⟨ociType, hociType, h⟩ := bind_eq_ok.mp h
    obtain ⟨ociSize, hociSize, h⟩ := bind_eq_ok.mp h
    obtain rfl := Except.ok.inj h
    rw [vectorAt_eq_ok_iff] at hname htype hociType hociSize
    rw [hkeep]
    exact ⟨by simp [hname], by simp [htype], by simp [hociType], by simp [hociSize]⟩

/-- The projection loop appends the columns that it does not skip. -/
theorem appends_projectColumns {bind : OracleBindData} {ids : List ℕ} {p p' : Projection}
    (h : ids.foldlM (projectColumn bind) p = .ok p') :
    p.Appends bind (ids.filter (· < bind.originalNames.length)) p' := by
  induction ids generalizing p with
  | nil =>
    obtain rfl := Except.ok.inj h
    exact ⟨by simp, by simp, by simp, by simp⟩
  | cons idx ids ih =>
    rw [List.foldlM_cons] at h
    obtain ⟨p₁, hstep, h⟩ := bind_eq_ok.mp h
    have hsplit : (idx :: ids).filter (· < bind.originalNames.length) =
        [idx].filter (· < bind.originalNames.length) ++
          ids.filter (· < bind.originalNames.length) := List.filter_append [idx] ids
    rw [hsplit]
    exact (appends_projectColumn hstep).trans (ih h)

/-- If the arrays are long enough, the projection loop ends. -/
theorem exists_projectColumns {bind : OracleBindData} {ids : List ℕ}
    (h : ∀ c ∈ ids, c < bind.originalNames.length → c < bind.originalTypes.length ∧
      c < bind.ociTypes.length ∧ c < bind.ociSizes.length) (p : Projection) :
    ∃ p', ids.foldlM (projectColumn bind) p = .ok p' := by
  induction ids generalizing p with
  | nil => exact ⟨p, rfl⟩
  | cons idx ids ih =>
    have hstep : ∃ p₁, projectColumn bind p idx = .ok p₁ := by
      unfold projectColumn
      split
      · exact ⟨p, rfl⟩
      · next hidx =>
        have hlt : idx < bind.originalNames.length := Nat.lt_of_not_le hidx
        obtain ⟨htypes, hociTypes, hociSizes⟩ := h idx List.mem_cons_self hlt
        rw [vectorAt_eq_ok_iff.mpr (List.getElem?_eq_getElem hlt),
          vectorAt_eq_ok_iff.mpr (List.getElem?_eq_getElem htypes),
          vectorAt_eq_ok_iff.mpr (List.getElem?_eq_getElem hociTypes),
          vectorAt_eq_ok_iff.mpr (List.getElem?_eq_getElem hociSizes)]
        exact ⟨_, rfl⟩
    obtain ⟨p₁, hp₁⟩ := hstep
    obtain ⟨p₂, hp₂⟩ := ih (fun c hc => h c (List.mem_cons_of_mem idx hc)) p₁
    exact ⟨p₂, by rw [List.foldlM_cons, hp₁]; exact hp₂⟩

/-- What a call leaves of the bind data: all but the columns and the query. -/
theorem oraclePushdownComplexFilter_spec {call : PushdownCall} {bind : OracleBindData}
    {result : LogicalGet × OracleBindData × List Expression}
    (henabled : bind.settings.enablePushdown = true)
    (h : oraclePushdownComplexFilter call.get bind call.expressions = .ok result) :
    ∃ p, projection bind call.get.projectionIds = .ok p ∧
      result.2.1 = bind.pushed p (clausesOf (bind, call)) ∧
      result.2.2 = call.expressions.filter fun e => (extractClause bind.columnNames e).isNone := by
  unfold oraclePushdownComplexFilter at h
  rw [henabled] at h
  cases hp : projection bind call.get.projectionIds with
  | error e =>
    rw [hp] at h
    exact nomatch h
  | ok p =>
    rw [hp] at h
    obtain rfl := Except.ok.inj h
    exact ⟨p, rfl, rfl, rfl⟩

/-- A call whose projection succeeds returns. -/
theorem oraclePushdownComplexFilter_of_projection {get : LogicalGet} {bind : OracleBindData}
    {p : Projection} (henabled : bind.settings.enablePushdown = true)
    (hp : projection bind get.projectionIds = .ok p) (expressions : List Expression) :
    oraclePushdownComplexFilter get bind expressions = .ok
      (if get.projectionIds = [] then get
        else { get with names := p.names, returnedTypes := p.types },
      bind.pushed p (expressions.filterMap (extractClause bind.columnNames)),
      expressions.filter fun e => (extractClause bind.columnNames e).isNone) := by
  rw [oraclePushdownComplexFilter, henabled, hp]
  rfl

theorem lastClauses_cons {bind bind' : OracleBindData} {call : PushdownCall}
    {calls : List PushdownCall} {get' : LogicalGet} {remaining : List Expression}
    (hcall : oraclePushdownComplexFilter call.get bind call.expressions =
      .ok (get', bind', remaining)) (hne : calls ≠ []) :
    lastClauses bind (call :: calls) = lastClauses bind' calls := by
  obtain ⟨call', calls', rfl⟩ := List.exists_cons_of_ne_nil hne
  simp only [lastClauses, callsWithBind, hcall, List.getLast?_cons_cons]

/-- **Only the last call counts.**  After a sequence of calls the query is built from
the base query and the clauses of the last call. -/
theorem pushdownAll_query {bind final : OracleBindData} {calls : List PushdownCall}
    (henabled : bind.settings.enablePushdown = true) (h : pushdownAll bind calls = .ok final) :
    final.query = queryFor bind final calls (lastClauses bind calls) := by
  induction calls generalizing bind with
  | nil =>
    obtain rfl := Except.ok.inj h
    rfl
  | cons call calls ih =>
    rw [pushdownAll] at h
    split at h
    · next get' bind' remaining hcall =>
      obtain ⟨p, -, hbind, -⟩ := oraclePushdownComplexFilter_spec henabled hcall
      dsimp only at hbind
      rw [queryFor, if_neg (List.cons_ne_nil call calls)]
      by_cases hlast : calls = []
      · -- the last call: its own query
        subst hlast
        obtain rfl := Except.ok.inj h
        have hclauses : lastClauses bind [call] = clausesOf (bind, call) := by
          simp only [lastClauses, callsWithBind, hcall, List.getLast?_singleton]
        rw [hclauses, hbind]
        rfl
      · have hfinal := ih (by rw [hbind]; exact henabled) h
        rw [queryFor, if_neg hlast] at hfinal
        rw [hfinal, lastClauses_cons hcall hlast, hbind]
        rfl
    · exact nomatch h

/-! ## What a longer condition looks like -/

theorem join_append (sep : String) {xs ys : List String} (hx : xs ≠ []) (hy : ys ≠ []) :
    join sep (xs ++ ys) = join sep xs ++ sep ++ join sep ys := by
  induction xs with
  | nil => exact absurd rfl hx
  | cons x xs ih =>
    cases xs with
    | nil =>
      obtain ⟨y, ys', rfl⟩ := List.exists_cons_of_ne_nil hy
      rfl
    | cons x' xs =>
      have hrest := ih (List.cons_ne_nil x' xs)
      rw [List.cons_append, List.cons_append, join, ← List.cons_append, hrest, join]
      simp only [String.append_assoc]

/-- A condition gets longer by what is put before it. -/
theorem length_whereSQL_lt {xs : List String} (ys : List String) (hx : xs ≠ []) :
    (whereSQL ys).length < (whereSQL (xs ++ ys)).length := by
  have hsum : xs ++ ys ≠ [] := fun h => hx (List.append_eq_nil_iff.mp h).1
  unfold whereSQL
  rw [if_neg hsum]
  by_cases hy : ys = []
  · subst hy
    rw [if_pos rfl, String.length_append]
    exact Nat.lt_of_lt_of_le (by decide) (Nat.le_add_right _ _)
  · rw [if_neg hy, join_append " AND " hx hy]
    simp only [String.length_append]
    have : 0 < " AND ".length := by decide
    omega

/-- Two queries with the same columns over the same base have the same condition. -/
theorem whereSQL_of_selectSQL {names : List String} {baseQuery : String} {xs ys : List String}
    (h : selectSQL names baseQuery xs = selectSQL names baseQuery ys) :
    whereSQL xs = whereSQL ys := by
  have hlist := congrArg String.toList h
  simp only [selectSQL, String.toList_append, List.append_assoc, List.append_cancel_left_eq]
    at hlist
  exact String.toList_inj.mp hlist

/-! ## When nothing is lost -/

/-- The clauses of all calls are those of the earlier calls and those of the last. -/
theorem allClauses_eq (bind : OracleBindData) (calls : List PushdownCall) :
    allClauses bind calls =
      (callsWithBind bind calls).dropLast.flatMap clausesOf ++ lastClauses bind calls := by
  unfold allClauses lastClauses
  cases hlast : (callsWithBind bind calls).getLast? with
  | none =>
    rw [List.getLast?_eq_none_iff] at hlast
    rw [hlast]
    rfl
  | some call =>
    conv_lhs => rw [← List.dropLast_append_getLast? call hlast]
    rw [List.flatMap_append, List.flatMap_singleton]

/-- A call extracts nothing exactly if the extraction rejects all its expressions. -/
theorem clausesOf_eq_nil_iff {call : OracleBindData × PushdownCall} :
    clausesOf call = [] ↔ ∀ e ∈ call.2.expressions, extractClause call.1.columnNames e = none :=
  List.filterMap_eq_nil_iff

/-- **When no filter is lost.**  For every sequence of calls: the condition of the final
query is the conjunction of the clauses of all calls exactly if no call before the
last is given an expression that the extraction accepts; and every row is filtered by
all removed expressions exactly if each clause that an earlier call extracts is
extracted again by the last one. -/
theorem where_complete_iff {bind final : OracleBindData} {calls : List PushdownCall}
    (henabled : bind.settings.enablePushdown = true) (h : pushdownAll bind calls = .ok final) :
    (WhereComplete bind final calls ↔
      ∀ call ∈ (callsWithBind bind calls).dropLast, ∀ e ∈ call.2.expressions,
        extractClause call.1.columnNames e = none) ∧
    (RowsFiltered bind calls ↔
      ∀ call ∈ (callsWithBind bind calls).dropLast, ∀ clause ∈ clausesOf call,
        clause ∈ lastClauses bind calls) := by
  have hall := allClauses_eq bind calls
  constructor
  · unfold WhereComplete
    rw [pushdownAll_query henabled h]
    constructor
    · intro hquery call hcall
      -- text in front of the clauses of the last call would make the query longer
      by_contra hsome
      rw [← clausesOf_eq_nil_iff] at hsome
      have hearlier : (callsWithBind bind calls).dropLast.flatMap clausesOf ≠ [] :=
        fun hnil => hsome (List.flatMap_eq_nil_iff.mp hnil call hcall)
      have hne : calls ≠ [] := by
        rintro rfl
        exact absurd hcall (by simp [callsWithBind])
      rw [queryFor, queryFor, if_neg hne, if_neg hne, hall] at hquery
      have hlt := length_whereSQL_lt (lastClauses bind calls) hearlier
      rw [← whereSQL_of_selectSQL hquery] at hlt
      exact absurd hlt (lt_irrefl _)
    · intro hnone
      have hearlier : (callsWithBind bind calls).dropLast.flatMap clausesOf = [] :=
        List.flatMap_eq_nil_iff.mpr fun call hcall => clausesOf_eq_nil_iff.mpr (hnone call hcall)
      rw [hall, hearlier, List.nil_append]
  · constructor
    · intro hrows call hcall clause hclause
      refine hrows (· ∈ lastClauses bind calls) (fun _ hmem => hmem) clause ?_
      rw [hall]
      exact List.mem_append_left _ (List.mem_flatMap.mpr ⟨call, hcall, hclause⟩)
    · intro hagain holds hlast clause hclause
      rw [hall] at hclause
      rcases List.mem_append.mp hclause with hearlier | hlast'
      · obtain ⟨call, hcall, hmem⟩ := List.mem_flatMap.mp hearlier
        exact hlast clause (hagain call hcall clause hmem)
      · exact hlast clause hlast'

/-- A scan of two columns. -/
def twoColumns : OracleBindData :=
  oracleBindInternal "scott/tiger@db" "SELECT * FROM \"T\"" {}
    [{ name := "A", dataType := .num }, { name := "B", dataType := .chr }]

/-- The filter `A = 1`. -/
def filterA : Expression := .comparison .equal (.boundColumnRef 0) (.constant (.integer 1))

/-- The filter `B <> 2`, which no extraction accepts. -/
def filterB : Expression := .comparison .notEqual (.boundColumnRef 1) (.constant (.integer 2))

/-- A call that extracts nothing, and one that does. -/
theorem where_complete_two :
    ∃ final, pushdownAll twoColumns [{ expressions := [filterB] }, { expressions := [filterA] }] =
        .ok final ∧
      WhereComplete twoColumns final
        [{ expressions := [filterB] }, { expressions := [filterA] }] := by
  refine ⟨_, rfl, ((where_complete_iff rfl rfl).1).mpr fun call hcall e he => ?_⟩
  obtain rfl := List.mem_singleton.mp hcall
  obtain rfl := List.mem_singleton.mp he
  rfl

/-- **A second call without filters loses those of the first.** -/
theorem second_call_loses_filter :
    ∃ final, pushdownAll twoColumns [{ expressions := [filterA] }, { expressions := [] }] =
        .ok final ∧
      ¬ WhereComplete twoColumns final [{ expressions := [filterA] }, { expressions := [] }] ∧
      ¬ RowsFiltered twoColumns [{ expressions := [filterA] }, { expressions := [] }] := by
  refine ⟨_, rfl, ?_, fun hrows => ?_⟩
  · unfold WhereComplete
    decide
  · exact hrows (fun _ => False) (fun _ hclause => nomatch hclause) "\"A\" = 1" (by decide)

end Scan
end DuckdbOracle
