import DuckdbOracle.Foundations.ThreeValued
import DuckdbOracle.Scan.FilterMeaning

/-!
# One pushdown call splits the filters

A call takes the filters apart: those that one of the extractions accepts become the
WHERE part of the query, one clause each, and the others stay with DuckDB.  A row then
passes if its WHERE condition is TRUE in Oracle and the remaining filters are TRUE in
DuckDB.

That this is the condition of all the filters together does not depend on what the
values and the other expressions are.  `Meaning` is any domain of values with an order
in which swapping the sides swaps the outcome, and `RowReading` any row and any truth
values for the expressions of which nothing is known, with a reading of the clauses in
which `"c" op lit` stands for `c op value`.  Then a clause has the truth value of the
filter it comes from (`clause_truth`), also when the constant was on the left and the
operator was flipped, and the split loses and adds nothing (`pushdown_splits`).
-/

namespace DuckdbOracle
namespace Scan

open Catalog Duckdb Oracle QuotedText ThreeValued

/-! ## Meanings -/

/-- A domain of values: what the constants denote, how two values compare (not at all
when one is `NULL`), and which are `NULL`. -/
structure Meaning (D : Type*) where
  datum : Value → D
  compare : D → D → Option Ordering
  compare_swap : ∀ a b, compare b a = (compare a b).map Ordering.swap
  isNull : D → Bool

/-- The truth value of a comparison of two values. -/
def Meaning.comparison {D : Type*} (M : Meaning D) (symbol : Symbol) (a b : D) : Truth :=
  (M.compare a b).map symbol.holds

/-- One row, and what the expressions and the clauses are on it: the values of the columns,
the values and truth values of the expressions of other classes, and the truth values of
the clauses. -/
structure RowReading {D : Type*} (M : Meaning D) (names : List String) where
  column : ℕ → D
  otherValue : Expression → D
  otherTruth : Expression → Truth
  clause : String → Truth
  /-- The text `"c" op lit` stands for `c op value`. -/
  clause_comparison : ∀ p name symbol value, names[p]? = some name →
    clause (comparisonClause name symbol.text value) =
      M.comparison symbol (column p) (M.datum value)
  /-- The text `"c" IS NULL` stands for `c IS NULL`. -/
  clause_isNull : ∀ p name, names[p]? = some name →
    clause (columnRefSQL name ++ " IS NULL") = some (M.isNull (column p))

section

variable {D : Type*} {M : Meaning D} {names : List String}

/-- The value of an expression on the row. -/
def RowReading.value (row : RowReading M names) : Expression → D
  | .boundRef index => row.column index
  | .boundColumnRef columnIndex => row.column columnIndex
  | .constant value => M.datum value
  | e => row.otherValue e

/-- The truth value that DuckDB gives an expression on the row. -/
def RowReading.truth (row : RowReading M names) : Expression → Truth
  | .comparison type left right =>
    match type.symbol? with
    | some symbol => M.comparison symbol (row.value left) (row.value right)
    | none => row.otherTruth (.comparison type left right)
  | .operator .isNull [child] => some (M.isNull (row.value child))
  | e => row.otherTruth e

/-- The WHERE condition is TRUE on the row. -/
def RowReading.SatisfiesWhere (row : RowReading M names) (clauses : List String) : Prop :=
  conj (clauses.map row.clause) = some true

/-- The conjunction of the expressions is TRUE on the row. -/
def RowReading.Satisfies (row : RowReading M names) (expressions : List Expression) : Prop :=
  conj (expressions.map row.truth) = some true

theorem value_of_columnIndex? (row : RowReading M names) {e : Expression} {p : ℕ}
    (h : e.columnIndex? = some p) : row.value e = row.column p := by
  cases e with
  | boundRef index => rw [← Option.some.inj h]; rfl
  | boundColumnRef index => rw [← Option.some.inj h]; rfl
  | _ => exact nomatch h

/-- Flipping the operator makes up for swapping the sides. -/
theorem comparison_flip {type : ComparisonType} {symbol symbol' : Symbol}
    (h : type.symbol? = some symbol) (h' : type.flip.symbol? = some symbol') (a b : D) :
    M.comparison symbol' b a = M.comparison symbol a b := by
  rw [Meaning.comparison, Meaning.comparison, M.compare_swap a b, Option.map_map]
  congr 1
  funext o
  exact holds_flip h h' o

theorem exists_symbol_of_flip {type : ComparisonType} {symbol : Symbol}
    (h : type.flip.symbol? = some symbol) : ∃ symbol', type.symbol? = some symbol' := by
  cases type <;> first | exact ⟨_, rfl⟩ | exact nomatch h

/-- The clause of a comparison. -/
theorem clause_truth_comparison (row : RowReading M names) {type : ComparisonType}
    {left right : Expression} {clause : String}
    (h : tryExtractComparison names (.comparison type left right) = some clause) :
    row.clause clause = row.truth (.comparison type left right) := by
  cases hparts : comparisonParts type left right with
  | none => simp [tryExtractComparison, hparts] at h
  | some parts =>
    obtain ⟨p, op, value⟩ := parts
    obtain ⟨name, symbol, hname, hsymbol, rfl⟩ := of_tryExtractComparison hparts h
    rw [row.clause_comparison p name symbol value hname]
    rcases comparisonParts_eq_some hparts with ⟨hc, rfl, rfl⟩ | ⟨hc, rfl, rfl⟩
    · rw [RowReading.truth, hsymbol, value_of_columnIndex? row hc, RowReading.value]
    · -- the constant is on the left
      obtain ⟨symbol', hsymbol'⟩ := exists_symbol_of_flip hsymbol
      rw [RowReading.truth, hsymbol', value_of_columnIndex? row hc, RowReading.value]
      exact comparison_flip hsymbol' hsymbol _ _

/-- The clause of an IS NULL. -/
theorem clause_truth_isNull (row : RowReading M names) {e : Expression} {clause : String}
    (h : tryExtractIsNull names e = some clause) : row.clause clause = row.truth e := by
  obtain ⟨child, p, name, rfl, hp, hname, rfl⟩ := of_tryExtractIsNull h
  rw [row.clause_isNull p name hname, RowReading.truth, value_of_columnIndex? row hp]

/-- **A clause has the truth value of the filter it comes from.** -/
theorem clause_truth (row : RowReading M names) {e : Expression} {clause : String}
    (h : extractClause names e = some clause) : row.clause clause = row.truth e := by
  rw [extractClause, Option.or_eq_some_iff] at h
  rcases h with h | ⟨-, h⟩
  · cases e with
    | comparison type left right => exact clause_truth_comparison row h
    | _ => cases h
  · exact clause_truth_isNull row h

/-- **The two parts together are the whole.** -/
theorem satisfies_split (row : RowReading M names) (expressions : List Expression) :
    row.SatisfiesWhere (expressions.filterMap (extractClause names)) ∧
        row.Satisfies (expressions.filter fun e => (extractClause names e).isNone) ↔
      row.Satisfies expressions := by
  unfold RowReading.SatisfiesWhere RowReading.Satisfies
  rw [← both_eq_true_iff, conj_split (fun _ => Option.isNone_iff_eq_none)
    fun e clause => clause_truth row]

end

/-! ## The split -/

/-- Neither extraction accepts the expression. -/
def Rejected (names : List String) (e : Expression) : Prop :=
  tryExtractComparison names e = none ∧ tryExtractIsNull names e = none

theorem isNone_extractClause {names : List String} {e : Expression} :
    (extractClause names e).isNone = true ↔ Rejected names e := by
  rw [Option.isNone_iff_eq_none, extractClause, Option.or_eq_none_iff, Rejected]

instance (names : List String) : DecidablePred (Rejected names) := fun _ =>
  decidable_of_iff _ isNone_extractClause

/-- How the expressions are split: the rejected ones are left, in their order, and every
other one contributes one clause, in their order as well. -/
structure Splits (names : List String) (expressions remaining : List Expression)
    (clauses : List String) : Prop where
  remaining : remaining = expressions.filter (Rejected names ·)
  clauses : List.Forall₂ (fun e clause => extractClause names e = some clause)
    (expressions.filter (¬ Rejected names ·)) clauses

theorem forall₂_filterMap {α β : Type*} (f : α → Option β) {accepted : α → Bool}
    (h : ∀ a, accepted a = true ↔ (f a).isSome = true) (l : List α) :
    List.Forall₂ (fun a b => f a = some b) (l.filter accepted) (l.filterMap f) := by
  induction l with
  | nil => exact List.Forall₂.nil
  | cons a l ih =>
    cases hf : f a with
    | none =>
      have hdrop : ¬ accepted a = true := by rw [h, hf]; simp
      rw [List.filterMap_cons_none hf, List.filter_cons_of_neg hdrop]
      exact ih
    | some b =>
      have hkeep : accepted a = true := by rw [h, hf]; rfl
      rw [List.filterMap_cons_some hf, List.filter_cons_of_pos hkeep]
      exact List.Forall₂.cons hf ih

theorem splits_filter (names : List String) (expressions : List Expression) :
    Splits names expressions (expressions.filter fun e => (extractClause names e).isNone)
      (expressions.filterMap (extractClause names)) where
  remaining := by
    refine List.filter_congr fun e _ => ?_
    rw [Bool.eq_iff_iff, isNone_extractClause, decide_eq_true_iff]
  clauses := by
    refine forall₂_filterMap (extractClause names) (fun e => ?_) expressions
    rw [decide_eq_true_iff, ← isNone_extractClause, Option.isNone_iff_eq_none,
      Option.isSome_iff_ne_none]

/-! ## A call on a fresh bind returns -/

theorem projection_fresh (cs query : String) (settings : OracleSettings)
    (columns : List DescribedColumn) (ids : List ℕ) :
    ∃ p, projection (oracleBindInternal cs query settings columns) ids = .ok p := by
  unfold projection
  split
  · exact ⟨_, rfl⟩
  · refine exists_projectColumns (fun c _ hc => ?_) {}
    simp only [oracleBindInternal, List.length_map] at hc ⊢
    exact ⟨hc, hc, hc⟩

/-! ## The call -/

/-- **One call splits the filters without changing the answer.**  On a fresh bind with
pushdown enabled the call returns.  The expressions are split; the query selects from the
base query, without a WHERE when there are no clauses, and else under the WHERE of all of
them; and on every row, whatever its values and the other expressions are, the WHERE
condition and the remaining expressions are TRUE exactly if all the expressions are. -/
theorem pushdown_splits.{u} (cs query : String) (settings : OracleSettings)
    (columns : List DescribedColumn) (get : LogicalGet) (expressions : List Expression)
    (henabled : settings.enablePushdown = true) :
    ∃ get' final remaining clauses,
      oraclePushdownComplexFilter get (oracleBindInternal cs query settings columns)
        expressions = .ok (get', final, remaining) ∧
      Splits (columns.map (·.name)) expressions remaining clauses ∧
      (clauses = [] → final.query =
        "SELECT " ++ join ", " (final.columnNames.map columnRefSQL) ++ " FROM (" ++ query ++ ")") ∧
      (clauses ≠ [] → final.query =
        "SELECT " ++ join ", " (final.columnNames.map columnRefSQL) ++ " FROM (" ++ query ++ ")" ++
          (" WHERE " ++ join " AND " clauses)) ∧
      ∀ (D : Type u) (M : Meaning D) (row : RowReading M (columns.map (·.name))),
        row.SatisfiesWhere clauses ∧ row.Satisfies remaining ↔ row.Satisfies expressions := by
  obtain ⟨p, hp⟩ := projection_fresh cs query settings columns get.projectionIds
  have hcall : oraclePushdownComplexFilter get (oracleBindInternal cs query settings columns)
      expressions = .ok
        (if get.projectionIds = [] then get
          else { get with names := p.names, returnedTypes := p.types },
        (oracleBindInternal cs query settings columns).pushed p
          (expressions.filterMap (extractClause (columns.map (·.name)))),
        expressions.filter fun e => (extractClause (columns.map (·.name)) e).isNone) :=
    oraclePushdownComplexFilter_of_projection henabled hp expressions
  refine ⟨_, _, _, _, hcall, splits_filter _ expressions, fun hnil => ?_, fun hcons => ?_,
    fun D M row => satisfies_split row expressions⟩
  · rw [OracleBindData.pushed, hnil]
    simp [selectSQL, whereSQL, oracleBindInternal]
  · rw [OracleBindData.pushed, selectSQL, whereSQL, if_neg hcons]
    rfl

/-! ## A reading -/

/-- The value of a literal. -/
def literalDatum : Literal → Datum
  | .null => .null
  | .number q => .number q
  | .text s => .text s

/-- The value of a constant. -/
def datumOf : Value → Datum
  | .null => .null
  | .integer i => .number i
  | .decimal n => .number n.value
  | .varchar s => .text s.toList
  | v => .other v

/-- Numbers and texts compare as they do in DuckDB; nothing is known of other values. -/
def plainMeaning : Meaning Datum where
  datum := datumOf
  compare := compareDatum fun _ _ => none
  compare_swap a b := by
    cases a <;> cases b <;> first
      | rfl
      | exact congrArg some (cmp_swap _ _).symm
  isNull
    | .null => true
    | _ => false

/-- A clause is read as a comparison with a literal, or else as an IS NULL. -/
def plainClause (names : List String) (column : ℕ → Datum) (clause : String) : Truth :=
  match readCondition? clause.toList with
  | some c => plainMeaning.comparison c.symbol (column (names.idxOf c.column))
      (literalDatum c.literal)
  | none =>
    match read? '"' clause.toList with
    | some (name, rest) =>
      if rest = " IS NULL".toList then
        some (plainMeaning.isNull (column (names.idxOf (String.ofList name))))
      else none
    | none => none

theorem plainClause_comparison {names : List String} {column : ℕ → Datum} {name : String}
    (symbol : Symbol) (value : Value) :
    plainClause names column (comparisonClause name symbol.text value) =
      plainMeaning.comparison symbol (column (names.idxOf name)) (datumOf value) := by
  rw [plainClause, readCondition?_clause]
  cases hliteral : literal? value with
  | some literal =>
    have hdatum : literalDatum literal = datumOf value := by
      cases value <;> first
        | (obtain rfl := Option.some.inj hliteral; rfl)
        | cases hliteral
    simp only [Option.map_some, hdatum]
  | none =>
    -- an operator is no IS NULL, and a constant without a literal compares with nothing
    have hread : read? '"' (comparisonClause name symbol.text value).toList =
        some (name.toList, ' ' :: (symbol.text.toList ++ ' ' :: value.toSQLString)) := by
      have htext : (comparisonClause name symbol.text value).toList =
          (writeQuoted name).toList ++ ' ' :: (symbol.text.toList ++ ' ' :: value.toSQLString) := by
        simp [comparisonClause, columnRefSQL, List.append_assoc]
      rw [htext, read?_writeQuoted name (by simp)]
    have hne : ' ' :: (symbol.text.toList ++ ' ' :: value.toSQLString) ≠ " IS NULL".toList := by
      cases symbol <;> simp [Symbol.text]
    have hother : plainMeaning.compare (column (names.idxOf name)) (datumOf value) = none := by
      cases value <;> first
        | (cases column (names.idxOf name) <;> rfl)
        | cases hliteral
    simp only [Option.map_none, hread, if_neg hne, Meaning.comparison, hother]

theorem plainClause_isNull {names : List String} {column : ℕ → Datum} {name : String} :
    plainClause names column (columnRefSQL name ++ " IS NULL") =
      some (plainMeaning.isNull (column (names.idxOf name))) := by
  have hread : read? '"' (columnRefSQL name ++ " IS NULL").toList =
      some (name.toList, " IS NULL".toList) := by
    rw [String.toList_append]
    exact read?_writeQuoted name (by decide)
  have hnone : readCondition? (columnRefSQL name ++ " IS NULL").toList = none := by
    rw [readCondition?, hread]
    rfl
  simp only [plainClause, hnone, hread, if_true, String.ofList_toList]

/-- The reading of a row of a table whose columns have different names. -/
def plainRow {names : List String} (hnames : names.Nodup) (column : ℕ → Datum) :
    RowReading plainMeaning names where
  column := column
  otherValue _ := .null
  otherTruth _ := none
  clause := plainClause names column
  clause_comparison p name symbol value hname := by
    obtain ⟨hlt, rfl⟩ := List.getElem?_eq_some_iff.mp hname
    rw [plainClause_comparison, hnames.idxOf_getElem p hlt]
    rfl
  clause_isNull p name hname := by
    obtain ⟨hlt, rfl⟩ := List.getElem?_eq_some_iff.mp hname
    rw [plainClause_isNull, hnames.idxOf_getElem p hlt]

/-- `1 < A`, `B IS NULL` and an expression of another class. -/
def mixedFilters : List Expression :=
  [.comparison .lessThan (.constant (.integer 1)) (.boundColumnRef 0), .other [],
    .operator .isNull [.boundRef 1]]

/-- A row with `A = 2` and no `B`. -/
def mixedRow : RowReading plainMeaning ["A", "B"] :=
  plainRow (by decide) fun p => if p = 0 then .number 2 else .null

/-- The constant on the left, on that row. -/
theorem pushdown_splits_mixed :
    ∃ get' final remaining clauses,
      oraclePushdownComplexFilter {} twoColumns mixedFilters = .ok (get', final, remaining) ∧
      Splits ["A", "B"] mixedFilters remaining clauses ∧
      (mixedRow.SatisfiesWhere clauses ∧ mixedRow.Satisfies remaining ↔
        mixedRow.Satisfies mixedFilters) := by
  obtain ⟨get', final, remaining, clauses, hcall, hsplits, -, -, hmeaning⟩ :=
    pushdown_splits "scott/tiger@db" "SELECT * FROM \"T\"" {}
      [{ name := "A", dataType := .num }, { name := "B", dataType := .chr }] {} mixedFilters rfl
  exact ⟨get', final, remaining, clauses, hcall, hsplits, hmeaning Datum plainMeaning mixedRow⟩

end Scan
end DuckdbOracle
