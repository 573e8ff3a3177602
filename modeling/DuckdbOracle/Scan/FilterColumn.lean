import Mathlib.Data.List.Nodup
import DuckdbOracle.Scan.Pushdown

/-!
# Which column a pushed filter is about

Three numberings meet in a pushed filter.  The column reference of an expression is
a position in the scan's `column_ids`; an entry of `column_ids` is a number of a
table column; and the extraction looks the reference up in `bind.column_names`, which
after the bind lists the table's columns in their order, and after a call with
projection the projected ones.

The extraction uses the position in `column_ids` as a position in `column_names`.  So
the clause names the right column exactly if the two lists agree at that position
(`filter_column_iff`).  For a fresh bind that is: the table column number `p` is
referenced at position `p`.
-/

namespace DuckdbOracle
namespace Scan

open Catalog Duckdb QuotedText

/-! ## Filters on one column -/

/-- The expressions that are filters on the column reference `p`: a comparison that
has a symbol, with a constant on the other side, or IS NULL. -/
inductive FilterOn (p : ℕ) : Expression → Prop where
  | columnLeft {type : ComparisonType} {column : Expression} {value : Value} {op : String}
      (hop : type.sql? = some op) (hc : column.columnIndex? = some p) :
      FilterOn p (.comparison type column (.constant value))
  | columnRight {type : ComparisonType} {column : Expression} {value : Value} {op : String}
      (hop : type.sql? = some op) (hc : column.columnIndex? = some p) :
      FilterOn p (.comparison type (.constant value) column)
  | isNull {column : Expression} (hc : column.columnIndex? = some p) :
      FilterOn p (.operator .isNull [column])

/-- A symbol has a mirror image. -/
theorem sql?_flip {type : ComparisonType} {op : String} (h : type.sql? = some op) :
    ∃ op', type.flip.sql? = some op' := by
  cases type <;> first | exact ⟨_, rfl⟩ | exact nomatch h

theorem eq_constant {e : Expression} {value : Value} (h : e.constant? = some value) :
    e = .constant value := by
  cases e with
  | constant v => rw [Option.some.inj h]
  | _ => exact nomatch h

/-- The two ways in which a comparison is one of a column with a constant. -/
theorem comparisonParts_eq_some {type op : ComparisonType} {left right : Expression} {p : ℕ}
    {value : Value} (h : comparisonParts type left right = some (p, op, value)) :
    (left.columnIndex? = some p ∧ right = .constant value ∧ op = type) ∨
      (right.columnIndex? = some p ∧ left = .constant value ∧ op = type.flip) := by
  unfold comparisonParts at h
  split at h
  · next index v hindex hv =>
    obtain ⟨rfl, rfl, rfl⟩ : index = p ∧ type = op ∧ v = value := by simpa using h
    exact Or.inl ⟨hindex, eq_constant hv, rfl⟩
  · split at h
    · next index v hindex hv =>
      obtain ⟨rfl, rfl, rfl⟩ : index = p ∧ type.flip = op ∧ v = value := by simpa using h
      exact Or.inr ⟨hindex, eq_constant hv, rfl⟩
    · exact nomatch h

theorem comparisonParts_left {type : ComparisonType} {column : Expression} {p : ℕ}
    (value : Value) (hc : column.columnIndex? = some p) :
    comparisonParts type column (.constant value) = some (p, type, value) := by
  simp only [comparisonParts, hc, Expression.constant?]

theorem comparisonParts_right {type : ComparisonType} {column : Expression} {p : ℕ}
    (value : Value) (hc : column.columnIndex? = some p) :
    comparisonParts type (.constant value) column = some (p, type.flip, value) := by
  have hconst : (Expression.constant value).columnIndex? = none := rfl
  simp only [comparisonParts, hconst, hc, Expression.constant?]

/-- A comparison that is extracted. -/
theorem tryExtractComparison_eq {names : List String} {type op : ComparisonType}
    {left right : Expression} {p : ℕ} {value : Value} {symbol symbol' : String}
    (htype : type.sql? = some symbol)
    (hparts : comparisonParts type left right = some (p, op, value))
    (hop : op.sql? = some symbol') :
    extractClause names (.comparison type left right) =
      (indexedName names p).map fun name => comparisonClause name symbol' value := by
  simp only [extractClause, tryExtractComparison, htype, hparts, hop, Option.bind_eq_bind,
    Option.bind_some, tryExtractIsNull, Option.or_none]
  cases indexedName names p <;> rfl

/-- **The clause of a filter** is the name at the position of its column reference,
followed by text that does not go on with a quote. -/
theorem FilterOn.extract {p : ℕ} {e : Expression} (h : FilterOn p e) :
    ∃ rest : String, rest.toList.head? ≠ some '"' ∧ ∀ names,
      extractClause names e = (indexedName names p).map (columnRefSQL · ++ rest) := by
  cases h with
  | @columnLeft type column value op hop hc =>
    refine ⟨" " ++ op ++ " " ++ String.ofList value.toSQLString, by simp, fun names => ?_⟩
    rw [tryExtractComparison_eq hop (comparisonParts_left value hc) hop]
    simp only [comparisonClause, String.append_assoc]
  | @columnRight type column value op hop hc =>
    obtain ⟨op', hop'⟩ := sql?_flip hop
    refine ⟨" " ++ op' ++ " " ++ String.ofList value.toSQLString, by simp, fun names => ?_⟩
    rw [tryExtractComparison_eq hop (comparisonParts_right value hc) hop']
    simp only [comparisonClause, String.append_assoc]
  | @isNull column hc =>
    refine ⟨" IS NULL", by decide, fun names => ?_⟩
    simp only [extractClause, tryExtractComparison, tryExtractIsNull, hc, Option.bind_eq_bind,
      Option.bind_some, Option.none_or]
    cases indexedName names p <;> rfl

/-! ## What `column_names` numbers -/

/-- `column_names` lists the table columns `sel`. -/
def Numbered (bind : OracleBindData) (sel : List ℕ) : Prop :=
  bind.columnNames.map some = sel.map (bind.originalNames[·]?)

/-- The table columns that `column_names` lists after a sequence of calls on a table
of `n` columns: all of them, or what the last call projected. -/
def selection (n : ℕ) (calls : List PushdownCall) : List ℕ :=
  match calls.getLast? with
  | none => List.range n
  | some call =>
    if call.get.projectionIds = [] then List.range n
    else call.get.projectionIds.filter (· < n)

theorem map_some_eq (xs : List String) : xs.map some = (List.range xs.length).map (xs[·]?) := by
  refine List.ext_getElem (by simp) fun i hi _ => ?_
  have hlt : i < xs.length := by simpa using hi
  simp [List.getElem?_eq_getElem hlt]

/-- The columns of a call. -/
theorem names_projection {bind : OracleBindData} {ids : List ℕ} {p : Projection}
    (h : projection bind ids = .ok p) :
    p.names.map some = (if ids = [] then List.range bind.originalNames.length
      else ids.filter (· < bind.originalNames.length)).map (bind.originalNames[·]?) := by
  unfold projection at h
  by_cases hids : ids = []
  · rw [if_pos hids] at h ⊢
    obtain rfl := Except.ok.inj h
    exact map_some_eq bind.originalNames
  · rw [if_neg hids] at h ⊢
    rw [(appends_projectColumns h).names]
    rfl

theorem selection_cons {n : ℕ} {call : PushdownCall} {calls : List PushdownCall}
    (hne : calls ≠ []) : selection n (call :: calls) = selection n calls := by
  obtain ⟨call', calls', rfl⟩ := List.exists_cons_of_ne_nil hne
  rw [selection, List.getLast?_cons_cons, selection]

/-- After at least one call, `column_names` lists what the last one projected. -/
theorem numbered_of_calls {bind final : OracleBindData} {calls : List PushdownCall}
    (henabled : bind.settings.enablePushdown = true) (hne : calls ≠ [])
    (h : pushdownAll bind calls = .ok final) :
    final.originalNames = bind.originalNames ∧
      Numbered final (selection bind.originalNames.length calls) := by
  induction calls generalizing bind with
  | nil => exact absurd rfl hne
  | cons call calls ih =>
    rw [pushdownAll] at h
    split at h
    · next get' bind' remaining hcall =>
      obtain ⟨p, hp, hbind, -⟩ := oraclePushdownComplexFilter_spec henabled hcall
      dsimp only at hbind
      by_cases hlast : calls = []
      · subst hlast
        obtain rfl := Except.ok.inj h
        have hnames := names_projection hp
        rw [hbind]
        exact ⟨rfl, hnames⟩
      · have hrest := ih (by rw [hbind]; exact henabled) hlast h
        rw [selection_cons hlast]
        rw [hbind] at hrest
        exact hrest
    · cases h

/-- **What `column_names` lists** after any sequence of calls on a fresh bind. -/
theorem numbered_pushdownAll {cs query : String} {settings : OracleSettings}
    {columns : List DescribedColumn} {final : OracleBindData} {calls : List PushdownCall}
    (henabled : settings.enablePushdown = true)
    (h : pushdownAll (oracleBindInternal cs query settings columns) calls = .ok final) :
    final.originalNames = columns.map (·.name) ∧
      Numbered final (selection columns.length calls) := by
  have hlen : (oracleBindInternal cs query settings columns).originalNames.length =
      columns.length := List.length_map ..
  by_cases hne : calls = []
  · subst hne
    obtain rfl := Except.ok.inj h
    rw [← hlen]
    exact ⟨rfl, map_some_eq _⟩
  · rw [← hlen]
    exact numbered_of_calls henabled hne h

/-! ## The property -/

/-- The column a clause names: what is read off its front as a quoted identifier. -/
def clauseColumn (clause : String) : Option String :=
  (read? '"' clause.toList).map fun r => String.ofList r.1

/-- **The clause of `e` is about the right column**: if one is emitted, it names the
table column that stands in `column_ids` at the position `p`. -/
def NamesRightColumn (bind : OracleBindData) (get : LogicalGet) (p : ℕ) (e : Expression) :
    Prop :=
  ∀ clause, extractClause bind.columnNames e = some clause →
    ∃ c name, get.columnIds[p]? = some c ∧ bind.originalNames[c]? = some name ∧
      clauseColumn clause = some name

theorem clauseColumn_columnRefSQL {rest : String} (h : rest.toList.head? ≠ some '"')
    (name : String) : clauseColumn (columnRefSQL name ++ rest) = some name := by
  rw [clauseColumn, String.toList_append, columnRefSQL, read?_writeQuoted name h,
    Option.map_some, String.ofList_toList]

/-- Distinct names have distinct positions. -/
theorem index_of_name {names : List String} (h : names.Nodup) {i j : ℕ} {name : String}
    (hi : names[i]? = some name) (hj : names[j]? = some name) : i = j := by
  obtain ⟨hilt, hi⟩ := List.getElem?_eq_some_iff.mp hi
  obtain ⟨hjlt, hj⟩ := List.getElem?_eq_some_iff.mp hj
  exact h.getElem_inj_iff.mp (hi.trans hj.symm)

theorem Numbered.getElem? {bind : OracleBindData} {sel : List ℕ} (h : Numbered bind sel) (p : ℕ) :
    (bind.columnNames[p]?).map some = (sel[p]?).map (bind.originalNames[·]?) := by
  rw [← List.getElem?_map, ← List.getElem?_map, h]

theorem Numbered.length {bind : OracleBindData} {sel : List ℕ} (h : Numbered bind sel) :
    bind.columnNames.length = sel.length := by
  have hlen := congrArg List.length h
  rwa [List.length_map, List.length_map] at hlen

/-- **When a pushed filter is about the right column.**  After any sequence of calls on
a bind of a table with distinct column names: the clause of a filter on the position
`p` of `column_ids` names the right column exactly if `column_names` lists, at the
position `p`, the table column that `column_ids` has there; or if `p` is no position of
`column_names`, in which case no clause is emitted. -/
theorem filter_column_iff {cs query : String} {settings : OracleSettings}
    {columns : List DescribedColumn} {calls : List PushdownCall} {bind : OracleBindData}
    {get : LogicalGet} {p : ℕ} {e : Expression}
    (hdistinct : (columns.map (·.name)).Nodup) (henabled : settings.enablePushdown = true)
    (hbind : pushdownAll (oracleBindInternal cs query settings columns) calls = .ok bind)
    (he : FilterOn p e) :
    NamesRightColumn bind get p e ↔
      (selection columns.length calls)[p]? = get.columnIds[p]? ∨
        (selection columns.length calls).length ≤ p ∨ p = invalidIndex := by
  obtain ⟨horiginal, hsel⟩ := numbered_pushdownAll henabled hbind
  obtain ⟨rest, hrest, hextract⟩ := he.extract
  have hget := hsel.getElem? p
  unfold NamesRightColumn
  rw [hextract, ← hsel.length]
  by_cases hinvalid : p = invalidIndex
  · have hnone : indexedName bind.columnNames p = none := if_pos hinvalid
    rw [hnone]
    exact ⟨fun _ => Or.inr (Or.inr hinvalid), fun _ clause h => nomatch h⟩
  · have hindexed : indexedName bind.columnNames p = bind.columnNames[p]? := if_neg hinvalid
    rw [hindexed]
    cases hname : bind.columnNames[p]? with
    | none =>
      have hout := List.getElem?_eq_none_iff.mp hname
      exact ⟨fun _ => Or.inr (Or.inl hout), fun _ clause h => nomatch h⟩
    | some name =>
      obtain ⟨hin, -⟩ := List.getElem?_eq_some_iff.mp hname
      rw [hname, Option.map_some] at hget
      obtain ⟨c₀, hc₀, hname₀⟩ := Option.map_eq_some_iff.mp hget.symm
      have hcolumn := clauseColumn_columnRefSQL hrest name
      rw [hc₀]
      constructor
      · intro hall
        obtain ⟨c, name', hc, hname', hcolumn'⟩ := hall _ rfl
        rw [hcolumn] at hcolumn'
        obtain rfl := Option.some.inj hcolumn'
        rw [horiginal] at hname₀ hname'
        rw [hc, index_of_name hdistinct hname₀ hname']
        exact Or.inl rfl
      · rintro (hsame | hout | hbad) clause hclause
        · obtain rfl := Option.some.inj hclause
          exact ⟨c₀, name, hsame.symm, hname₀, hcolumn⟩
        · exact absurd hout (Nat.not_le_of_lt hin)
        · exact absurd hbad hinvalid

/-- A scan of both columns, the second one first. -/
def secondFirst : LogicalGet := { columnIds := [1, 0], projectionIds := [1, 0] }

/-- Once a call has put the columns in that order, the filter on the second of them is about
the first one of the table. -/
theorem filter_column_second :
    ∃ bind, pushdownAll twoColumns [{ get := secondFirst, expressions := [] }] = .ok bind ∧
      NamesRightColumn bind secondFirst 1
        (.comparison .equal (.boundColumnRef 1) (.constant (.integer 1))) := by
  refine ⟨_, rfl, (@filter_column_iff "scott/tiger@db" "SELECT * FROM \"T\"" {}
    [{ name := "A", dataType := .num }, { name := "B", dataType := .chr }]
    [{ get := secondFirst, expressions := [] }] _ _ _ _ (by decide) rfl rfl
    (FilterOn.columnLeft rfl rfl)).mpr (Or.inl rfl)⟩

/-- **A filter on the second column, when only that one is read, names the first.** -/
theorem filter_names_other_column :
    ∃ clause, extractClause twoColumns.columnNames
        (.comparison .equal (.boundColumnRef 0) (.constant (.varchar "x"))) = some clause ∧
      clauseColumn clause = some "A" ∧
      ¬ NamesRightColumn twoColumns { columnIds := [1] } 0
        (.comparison .equal (.boundColumnRef 0) (.constant (.varchar "x"))) := by
  refine ⟨_, rfl, by decide, fun hall => ?_⟩
  obtain ⟨c, name, hc, hname, hclause⟩ := hall _ rfl
  obtain rfl := Option.some.inj hc
  obtain rfl := Option.some.inj hname
  exact absurd hclause (by decide)

end Scan
end DuckdbOracle
