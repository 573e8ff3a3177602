import DuckdbOracle.Scan.PushdownSplit
import DuckdbOracle.Scan.SelectTexts

/-!
# Reading the query that a pushdown call builds

`OraclePushdownComplexFilter` wraps a query as an inline view, names the columns it
selects, and adds the clauses of the filters it found.  It does not look at the text that
it wraps, and for `oracle_query` that text is the user's.

The result reads back as the statement that was meant exactly if the text does not end in
a line comment, which would swallow the closing parenthesis, and closes what it opens
(`pushed_query_reads_iff`).  The query of a table does both, so there the result always
reads back (`pushed_scan_reads_back`).
-/

namespace DuckdbOracle
namespace Scan

open Catalog Duckdb Oracle QuotedText SqlTokens Write

/-! ## Numbers and texts -/

/-- A word is read as a word. -/
theorem readsAs_word {text : List Char} (hne : text ≠ [])
    (h : ∀ c ∈ text, isWordChar c = true) : ReadsAs text [.word text] := by
  intro rest hrest
  obtain ⟨d, ds, rfl⟩ := List.exists_cons_of_ne_nil hne
  have hfirst : Mode.idle.next d = ([], .word [d]) :=
    start_of_isWordChar (h d List.mem_cons_self)
  have hrun : SqlTokens.run .idle (d :: ds) = ([], .word (d :: ds).reverse) := by
    rw [run_cons, hfirst, run_word fun c hc => h c (List.mem_cons_of_mem d hc), List.reverse_cons]
    rfl
  rw [scan_append, hrun]
  cases rest with
  | nil =>
    simp only [scan, SqlTokens.run, Mode.finish, Option.map_some, List.nil_append,
      List.reverse_reverse, List.append_nil]
  | cons c rest =>
    have hnext : (Mode.word (d :: ds).reverse).next c = complete (.word (d :: ds)) c := by
      rw [Mode.next, if_neg (Bool.eq_false_iff.mp (hrest c rfl).1), List.reverse_reverse]
    rw [scan_cons, hnext, scan_cons, Option.map_map, Option.map_map]
    rfl

/-- A number is read behind a minus sign, unless it begins with one. -/
theorem readsAs_minus {c : Char} {text : List Char} {ts : List Token} (hc : c ≠ '-')
    (h : ReadsAs (c :: text) ts) : ReadsAs ('-' :: c :: text) (.symbol '-' :: ts) := by
  intro rest hrest
  have hdash : Mode.idle.next '-' = ([], .dash) := rfl
  have hnext : Mode.dash.next c = complete (.symbol '-') c := by
    rw [Mode.next, if_neg hc]
  have hidle := h rest hrest
  have hfirst : Mode.idle.next c = start c := rfl
  rw [List.cons_append, scan_cons, hfirst] at hidle
  rw [List.cons_append, List.cons_append, scan_cons, hdash, scan_cons, hnext, Option.map_map]
  calc (scan (complete (.symbol '-') c).2 (text ++ rest)).map _
      = ((scan (start c).2 (text ++ rest)).map ((start c).1 ++ ·)).map (.symbol '-' :: ·) := by
        rw [Option.map_map]
        rfl
    _ = ((scan .idle rest).map (ts ++ ·)).map (.symbol '-' :: ·) := by rw [hidle]
    _ = (scan .idle rest).map ((.symbol '-' :: ts) ++ ·) := by
        rw [Option.map_map]
        rfl

/-- The tokens of a number. -/
def numberTokens (n : PlainNumber) : List Token :=
  (if n.negative then [.symbol '-'] else []) ++ .word (Nat.toDigits 10 n.whole) ::
    if n.fraction = [] then [] else [.symbol '.', .word (fractionText n.fraction)]

theorem isWordChar_fractionText {ds : List (Fin 10)} :
    ∀ c ∈ fractionText ds, isWordChar c = true := by
  intro c hc
  obtain ⟨d, -, rfl⟩ := List.mem_map.mp hc
  have hdigit : ∀ d : Fin 10, isWordChar (Nat.digitChar d.val) = true := by decide
  exact hdigit d

theorem readsAs_number (n : PlainNumber) : ReadsAs n.text (numberTokens n) := by
  have hne : Nat.toDigits 10 n.whole ≠ [] := Nat.toDigits_ne_nil
  have hwhole : ReadsAs (Nat.toDigits 10 n.whole) [.word (Nat.toDigits 10 n.whole)] :=
    readsAs_word hne isWordChar_toDigits
  have hunsigned : ReadsAs
      (Nat.toDigits 10 n.whole ++ if n.fraction = [] then [] else '.' :: fractionText n.fraction)
      (.word (Nat.toDigits 10 n.whole) ::
        if n.fraction = [] then [] else [.symbol '.', .word (fractionText n.fraction)]) := by
    by_cases hnil : n.fraction = []
    · rw [if_pos hnil, if_pos hnil, List.append_nil]
      exact hwhole
    · rw [if_neg hnil, if_neg hnil]
      have hfraction : ReadsAs (fractionText n.fraction) [.word (fractionText n.fraction)] :=
        readsAs_word (by simpa [fractionText] using hnil) isWordChar_fractionText
      have hpoint : SqlTokens.run .idle ['.'] = ([.symbol '.'], .idle) := rfl
      have hstops : Stops ('.' :: fractionText n.fraction) := by
        intro c hc
        obtain rfl := Option.some.inj hc
        exact ⟨rfl, by decide⟩
      exact hwhole.append (ReadsAs.after_run hpoint hfraction) (List.cons_ne_nil _ _) hstops
  rw [PlainNumber.text, numberTokens, List.append_assoc]
  cases n.negative with
  | false => exact hunsigned
  | true =>
    obtain ⟨d, ds, hdigits⟩ := List.exists_cons_of_ne_nil hne
    have hd : d ≠ '-' := by
      rintro rfl
      have hword := isWordChar_toDigits '-' (hdigits ▸ List.mem_cons_self)
      exact absurd hword (by decide)
    rw [hdigits, List.cons_append] at hunsigned ⊢
    exact readsAs_minus hd hunsigned

/-- The tokens of a constant that Oracle has a literal for. -/
def valueTokens? : Value → Option (List Token)
  | .null => some [keyword "NULL"]
  | .integer i => some (numberTokens (PlainNumber.ofInt i))
  | .decimal n => some (numberTokens n)
  | .varchar s => some [.literal s.toList]
  | _ => none

theorem readsAs_null : ReadsAs "NULL".toList [keyword "NULL"] := by
  have hne : "NULL".toList ≠ [] := by decide
  have hall : "NULL".toList.all isWordChar = true := by decide
  exact readsAs_word hne (List.all_eq_true.mp hall)

theorem readsAs_value? {value : Value} {ts : List Token} (h : valueTokens? value = some ts) :
    ReadsAs value.toSQLString ts := by
  cases value with
  | null =>
    obtain rfl := Option.some.inj h
    exact readsAs_null
  | integer i =>
    obtain rfl := Option.some.inj h
    exact readsAs_number (PlainNumber.ofInt i)
  | decimal n =>
    obtain rfl := Option.some.inj h
    exact readsAs_number n
  | varchar s =>
    obtain rfl := Option.some.inj h
    exact readsAs_quote (Or.inr rfl) s.toList
  | _ => cases h

theorem texts_number (n : PlainNumber) : texts (numberTokens n) = n.text := by
  unfold numberTokens PlainNumber.text
  split_ifs <;> simp [Token.text]

/-- A constant is written as its tokens are, without a blank. -/
theorem texts_value? {value : Value} {ts : List Token} (h : valueTokens? value = some ts) :
    texts ts = value.toSQLString := by
  cases value with
  | null =>
    obtain rfl := Option.some.inj h
    rfl
  | integer i =>
    obtain rfl := Option.some.inj h
    exact texts_number (PlainNumber.ofInt i)
  | decimal n =>
    obtain rfl := Option.some.inj h
    exact texts_number n
  | varchar s =>
    obtain rfl := Option.some.inj h
    simp [texts, Token.text, Value.toSQLString]
  | _ => cases h

/-! ## Clauses -/

/-- The tokens of an operator. -/
def symbolTokens : Symbol → List Token
  | .eq => [.symbol '=']
  | .lt => [.symbol '<']
  | .gt => [.symbol '>']
  | .le => [.symbol '<', .symbol '=']
  | .ge => [.symbol '>', .symbol '=']

theorem texts_symbolTokens (symbol : Symbol) :
    texts (symbolTokens symbol) = symbol.text.toList := by
  cases symbol <;> rfl

/-- The condition that is meant by a filter. -/
inductive ConditionOf (names : List String) : Expression → List Token → Prop where
  | comparison {type op : ComparisonType} {left right : Expression} {p : ℕ} {value : Value}
      {name : String} {symbol : Symbol} {ts : List Token}
      (parts : comparisonParts type left right = some (p, op, value))
      (column : names[p]? = some name) (operator : op.symbol? = some symbol)
      (constant : valueTokens? value = some ts) :
      ConditionOf names (.comparison type left right)
        (.name name.toList :: (symbolTokens symbol ++ ts))
  | isNull {child : Expression} {p : ℕ} {name : String} (index : child.columnIndex? = some p)
      (column : names[p]? = some name) :
      ConditionOf names (.operator .isNull [child])
        [.name name.toList, keyword "IS", keyword "NULL"]

/-- The constant of a comparison, if it has one, has a literal. -/
def PlainConstant : Expression → Prop
  | .comparison type left right =>
    ∀ p op value, comparisonParts type left right = some (p, op, value) →
      (valueTokens? value).isSome = true
  | _ => True

/-- A clause is read as a condition, which ends where it ends. -/
structure ReadsClause (clause : String) (e : List Token) : Prop where
  reads : ReadsAs clause.toList e
  ne_nil : e ≠ []
  inside : inside endsCondition 0 e = some 0
  count : clause.toList.count ')' = (texts e).count ')'

theorem inside_symbolTokens (symbol : Symbol) :
    SqlTokens.inside endsCondition 0 (symbolTokens symbol) = some 0 := by
  cases symbol <;> rfl

/-- A word that begins with a digit is no keyword. -/
theorem within_digits {text : List Char} (h : ∀ c ∈ text, c.isDigit = true) :
    (Token.word text).within endsCondition 0 = some 0 := by
  have hand : isAnd (.word text) = false := by
    refine decide_eq_false fun heq => ?_
    obtain rfl := Token.word.inj heq
    exact absurd (h 'A' (by decide)) (by decide)
  rw [Token.within, if_neg (by simp [endsCondition, hand, isNone]), if_neg (by simp),
    if_neg (by simp)]

theorem inside_number (n : PlainNumber) :
    SqlTokens.inside endsCondition 0 (numberTokens n) = some 0 := by
  have hwhole : (Token.word (Nat.toDigits 10 n.whole)).within endsCondition 0 = some 0 :=
    within_digits fun c hc => Nat.isDigit_of_mem_toDigits (by decide) (by decide) hc
  have hfraction : (Token.word (fractionText n.fraction)).within endsCondition 0 = some 0 := by
    have hdigit : ∀ d : Fin 10, (Nat.digitChar d.val).isDigit = true := by decide
    refine within_digits fun c hc => ?_
    obtain ⟨d, -, rfl⟩ := List.mem_map.mp hc
    exact hdigit d
  have hbehind : SqlTokens.inside endsCondition 0
      (if n.fraction = [] then [] else [.symbol '.', .word (fractionText n.fraction)]) =
        some 0 := by
    split_ifs
    · rfl
    · exact inside_cons_eq_some_iff.mpr ⟨0, rfl, inside_cons_eq_some_iff.mpr ⟨0, hfraction, rfl⟩⟩
  have hsign : SqlTokens.inside endsCondition 0 (if n.negative then [.symbol '-'] else []) =
      some 0 := by
    split_ifs <;> rfl
  exact inside_append hsign (inside_cons_eq_some_iff.mpr ⟨0, hwhole, hbehind⟩)

theorem inside_value? {value : Value} {ts : List Token} (h : valueTokens? value = some ts) :
    SqlTokens.inside endsCondition 0 ts = some 0 := by
  cases value with
  | null =>
    obtain rfl := Option.some.inj h
    decide
  | integer i =>
    obtain rfl := Option.some.inj h
    exact inside_number (PlainNumber.ofInt i)
  | decimal n =>
    obtain rfl := Option.some.inj h
    exact inside_number n
  | varchar s =>
    obtain rfl := Option.some.inj h
    rfl
  | _ => cases h

theorem toList_comparisonClause (name : String) (symbol : Symbol) (value : Value) :
    (comparisonClause name symbol.text value).toList = (writeQuoted name).toList ++
      (" ".toList ++ (symbol.text.toList ++ (" ".toList ++ value.toSQLString))) := by
  simp only [comparisonClause, columnRefSQL, String.toList_append, String.toList_ofList,
    List.append_assoc]

/-- **The clause of a comparison says the comparison.** -/
theorem readsClause_comparison (name : String) (symbol : Symbol) {value : Value}
    {ts : List Token} (h : valueTokens? value = some ts) :
    ReadsClause (comparisonClause name symbol.text value)
      (.name name.toList :: (symbolTokens symbol ++ ts)) where
  reads := by
    have hblank : SqlTokens.run .idle " ".toList = ([], .idle) := rfl
    have hsymbol : SqlTokens.run .idle symbol.text.toList = (symbolTokens symbol, .idle) := by
      cases symbol <;> exact run_of_string rfl (by decide)
    have hvalue := ReadsAs.after_run hblank (readsAs_value? h)
    have hall := readsAs_append_fixed (readsAs_writeQuoted name) rfl rfl (by decide) hblank
      (ReadsAs.after_run hsymbol hvalue)
    rw [toList_comparisonClause]
    exact hall
  ne_nil := List.cons_ne_nil _ _
  inside := inside_cons_eq_some_iff.mpr
    ⟨0, rfl, inside_append (inside_symbolTokens symbol) (inside_value? h)⟩
  count := by
    have hblank : " ".toList.count ')' = 0 := by decide
    rw [toList_comparisonClause, texts_cons, texts_append, texts_symbolTokens, texts_value? h,
      writeQuoted, String.toList_ofList]
    simp only [List.count_append, hblank, Nat.zero_add, Token.text]

/-- **The clause of an IS NULL says the IS NULL.** -/
theorem readsClause_isNull (name : String) :
    ReadsClause (columnRefSQL name ++ " IS NULL")
      [.name name.toList, keyword "IS", keyword "NULL"] where
  reads := by
    have hrun : SqlTokens.run .idle " IS ".toList = ([keyword "IS"], .idle) :=
      run_of_string rfl (by decide)
    have htext : (columnRefSQL name ++ " IS NULL").toList =
        (writeQuoted name).toList ++ (" IS ".toList ++ "NULL".toList) := by
      rw [String.toList_append, columnRefSQL]
      rfl
    rw [htext]
    exact readsAs_append_fixed (readsAs_writeQuoted name) rfl rfl (by decide) hrun readsAs_null
  ne_nil := List.cons_ne_nil _ _
  inside := inside_cons_eq_some_iff.mpr ⟨0, rfl, by decide⟩
  count := by
    have hfixed : " IS NULL".toList.count ')' = 0 := by decide
    have htokens : (texts [keyword "IS", keyword "NULL"]).count ')' = 0 := by decide
    rw [String.toList_append, List.count_append, hfixed, texts_cons, List.count_append, htokens,
      columnRefSQL, writeQuoted, String.toList_ofList]
    rfl

/-- **A filter that is extracted is the condition that its clause says.** -/
theorem exists_conditionOf {names : List String} {e : Expression} {clause : String}
    (hplain : PlainConstant e) (h : extractClause names e = some clause) :
    ∃ ts, ConditionOf names e ts ∧ ReadsClause clause ts := by
  rw [extractClause, Option.or_eq_some_iff] at h
  rcases h with h | ⟨-, h⟩
  · cases e with
    | comparison type left right =>
      cases hparts : comparisonParts type left right with
      | none => simp [tryExtractComparison, hparts] at h
      | some parts =>
        obtain ⟨p, op, value⟩ := parts
        obtain ⟨name, symbol, hname, hsymbol, rfl⟩ := of_tryExtractComparison hparts h
        obtain ⟨ts, hts⟩ := Option.isSome_iff_exists.mp (hplain p op value hparts)
        exact ⟨_, .comparison hparts hname hsymbol hts, readsClause_comparison name symbol hts⟩
    | _ => cases h
  · obtain ⟨child, p, name, rfl, hp, hname, rfl⟩ := of_tryExtractIsNull h
    exact ⟨_, .isNull hp hname, readsClause_isNull name⟩

/-! ## The query that is built -/

/-- The query that wraps another one, as it is meant. -/
def wrapped (names : List String) (query : List Token) (conditions : List (List Token)) :
    SelectStatement where
  items := names.map fun name => [.name name.toList]
  source := .view query
  conditions := conditions

/-- The tokens in front of the query that is wrapped. -/
def viewTokens (names : List String) : List Token :=
  keyword "SELECT" :: (separated (.symbol ',') (names.map fun name => [.name name.toList]) ++
    [keyword "FROM", .symbol '('])

theorem scan_selectSQL (names : List String) (baseQuery : String) (clauses : List String) :
    scan .idle (selectSQL names baseQuery clauses).toList =
      (scan .idle (baseQuery.toList ++ ')' :: (whereSQL clauses).toList)).map
        (viewTokens names ++ ·) := by
  have hselect : SqlTokens.run .idle "SELECT ".toList = ([keyword "SELECT"], .idle) :=
    run_of_string rfl (by decide)
  have hfrom : SqlTokens.run .idle " FROM (".toList = ([keyword "FROM", .symbol '('], .idle) :=
    run_of_string rfl (by decide)
  have hcomma : SqlTokens.run .idle ", ".toList = ([.symbol ','], .idle) := rfl
  have hitems : ReadsAs (join ", " (names.map columnRefSQL)).toList
      (separated (.symbol ',') (names.map fun name => [.name name.toList])) := by
    refine readsAs_separated rfl rfl (by decide) hcomma ?_
    rw [List.forall₂_map_left_iff, List.forall₂_map_right_iff, List.forall₂_same]
    exact fun name _ => readsAs_writeQuoted name
  have htext : (selectSQL names baseQuery clauses).toList =
      "SELECT ".toList ++ ((join ", " (names.map columnRefSQL)).toList ++ (" FROM (".toList ++
        (baseQuery.toList ++ ')' :: (whereSQL clauses).toList))) := by
    simp only [selectSQL, String.toList_append, List.append_assoc]
    rfl
  rw [htext, scan_append_of_run hselect, scan_fixed hitems rfl rfl (by decide) hfrom,
    Option.map_map]
  rfl

/-- The clauses are read as the conditions. -/
theorem readsAs_whereSQL {clauses : List String} {es : List (List Token)}
    (h : List.Forall₂ ReadsClause clauses es) :
    ReadsAs (whereSQL clauses).toList (whereTokens es) := by
  have hwhere : SqlTokens.run .idle " WHERE ".toList = ([keyword "WHERE"], .idle) :=
    run_of_string rfl (by decide)
  have hand : SqlTokens.run .idle " AND ".toList = ([keyword "AND"], .idle) :=
    run_of_string rfl (by decide)
  have hclauses : ReadsAs (join " AND " clauses).toList (separated (keyword "AND") es) :=
    readsAs_separated rfl rfl (by decide) hand (h.imp fun _ _ hclause => hclause.reads)
  have hall := ReadsAs.after_run hwhere hclauses
  rw [← String.toList_append] at hall
  cases h with
  | nil => exact readsAs_nil
  | cons hfirst hrest => exact hall

/-- Every condition ends where it ends. -/
theorem conditions_end {clauses : List String} {es : List (List Token)}
    (h : List.Forall₂ ReadsClause clauses es) :
    ∀ e ∈ es, e ≠ [] ∧ SqlTokens.inside endsCondition 0 e = some 0 := by
  induction h with
  | nil => exact fun e he => nomatch he
  | cons hfirst hrest ih => exact List.forall_mem_cons.mpr ⟨⟨hfirst.ne_nil, hfirst.inside⟩, ih⟩

/-- A separator without the character adds none of it. -/
theorem count_join {sep : String} {c : Char} (hsep : sep.toList.count c = 0)
    (ss : List String) :
    (join sep ss).toList.count c = (ss.flatMap String.toList).count c := by
  induction ss with
  | nil => rfl
  | cons s ss ih =>
    rw [List.flatMap_cons, List.count_append, ← ih]
    cases ss with
    | nil => rfl
    | cons t ss =>
      rw [join, String.toList_append, String.toList_append, List.count_append, List.count_append,
        hsep, Nat.add_zero]

/-- The clauses have no parenthesis that the conditions do not have. -/
theorem count_whereSQL {clauses : List String} {es : List (List Token)}
    (h : List.Forall₂ ReadsClause clauses es) :
    (whereSQL clauses).toList.count ')' ≤ (texts es.flatten).count ')' := by
  have hwhere : " WHERE ".toList.count ')' = 0 := by decide
  have hand : " AND ".toList.count ')' = 0 := by decide
  have hall : (clauses.flatMap String.toList).count ')' = (texts es.flatten).count ')' := by
    induction h with
    | nil => rfl
    | cons hfirst hrest ih =>
      rw [List.flatMap_cons, List.count_append, ih, List.flatten_cons, texts_append,
        List.count_append, hfirst.count]
  rw [whereSQL]
  split_ifs
  · exact Nat.zero_le _
  · rw [String.toList_append, List.count_append, hwhere, count_join hand, hall, Nat.zero_add]

/-- Every item ends where it ends. -/
theorem items_end {names : List String} :
    ∀ e ∈ names.map fun name => [Token.name name.toList],
      e ≠ [] ∧ SqlTokens.inside endsItem 0 e = some 0 := by
  intro e he
  obtain ⟨name, -, rfl⟩ := List.mem_map.mp he
  exact ⟨List.cons_ne_nil _ _, rfl⟩

theorem wellFormed_wrapped {names : List String} {clauses : List String} {ts : List Token}
    {es : List (List Token)} (hnames : names ≠ [])
    (hview : SqlTokens.inside endsView 0 ts = some 0) (h : List.Forall₂ ReadsClause clauses es) :
    (wrapped names ts es).WellFormed where
  ne_nil := by simpa [wrapped] using hnames
  item := items_end
  view query hquery := by
    obtain rfl := Source.view.inj hquery
    exact hview
  condition := conditions_end h

/-- **What the wrapping of a text reads back as.** -/
theorem selectSQL_reads_iff {names : List String} {baseQuery : String} {clauses : List String}
    {ts : List Token} {es : List (List Token)}
    (hquery : tokens? baseQuery.toList = some ts) (h : List.Forall₂ ReadsClause clauses es) :
    (tokens? (selectSQL names baseQuery clauses).toList).bind readSelect? =
        some (wrapped names ts es) ↔
      names ≠ [] ∧ ¬ EndsInComment baseQuery.toList ∧ SqlTokens.inside endsView 0 ts = some 0 := by
  rw [SqlTokens.tokens?, scan_selectSQL]
  constructor
  · intro hread
    obtain ⟨tokens, htokens, hselect⟩ := Option.bind_eq_some_iff.mp hread
    obtain ⟨found, hfound, rfl⟩ := Option.map_eq_some_iff.mp htokens
    have hitems : (names.map fun name => [Token.name name.toList]) ≠ [] := items_ne_nil hselect
    have hnames : names ≠ [] := by simpa using hitems
    rw [viewTokens, List.cons_append, List.append_assoc, List.cons_append, List.singleton_append,
      readSelect?_of_items hitems fun e he => (items_end e he).2] at hselect
    obtain ⟨more, rfl, hview, hwhere⟩ := of_readBody?_view hselect
    refine ⟨hnames, fun hcomment => ?_, hview⟩
    -- the closing parenthesis would have to come from the clauses, which need all of theirs
    have hbehind := count_behind_comment hquery hcomment hfound ')'
    have hclauses := count_whereSQL h
    have hconditions := count_of_readWhere? hwhere ')'
    have hclosing : (texts (Token.symbol ')' :: more)).count ')' = (texts more).count ')' + 1 := by
      rw [texts_cons]
      exact List.count_cons_self
    omega
  · rintro ⟨hnames, hcomment, hview⟩
    have hwhere := (readsAs_whereSQL h).tokens?
    rw [SqlTokens.tokens?] at hwhere
    rw [scan_closing hquery hcomment, hwhere]
    have htokens : viewTokens names ++ ((ts ++ [.symbol ')']) ++ whereTokens es) =
        (wrapped names ts es).tokens := by
      simp [viewTokens, SelectStatement.tokens, wrapped, Source.tokens]
    rw [Option.map_some, Option.map_some, Option.bind_some, htokens]
    exact readSelect?_tokens (wellFormed_wrapped hnames hview h)

/-! ## Sequences of calls -/

/-- The filters that a call accepts are the conditions that its clauses say. -/
theorem exists_conditions {names : List String} {accepted : List Expression}
    {clauses : List String} (hplain : ∀ e ∈ accepted, PlainConstant e)
    (h : List.Forall₂ (fun e clause => extractClause names e = some clause) accepted clauses) :
    ∃ conditions, List.Forall₂ (ConditionOf names) accepted conditions ∧
      List.Forall₂ ReadsClause clauses conditions := by
  induction h with
  | nil => exact ⟨[], List.Forall₂.nil, List.Forall₂.nil⟩
  | @cons e clause accepted clauses hfirst hrest ih =>
    obtain ⟨condition, hcondition, hreads⟩ :=
      exists_conditionOf (hplain e List.mem_cons_self) hfirst
    obtain ⟨conditions, hconditions, hall⟩ := ih fun f hf => hplain f (List.mem_cons_of_mem e hf)
    exact ⟨condition :: conditions, hconditions.cons hcondition, hall.cons hreads⟩

/-- The query after a sequence of calls is built from clauses that say the filters that the
last call accepted. -/
theorem exists_selectSQL {bind final : OracleBindData} {calls : List PushdownCall}
    {last : OracleBindData × PushdownCall} (henabled : bind.settings.enablePushdown = true)
    (h : pushdownAll bind calls = .ok final)
    (hlast : (callsWithBind bind calls).getLast? = some last)
    (hplain : ∀ e ∈ last.2.expressions, PlainConstant e) :
    ∃ clauses conditions, final.query = selectSQL final.columnNames bind.baseQuery clauses ∧
      List.Forall₂ (ConditionOf last.1.columnNames)
        (last.2.expressions.filter (¬ Rejected last.1.columnNames ·)) conditions ∧
      List.Forall₂ ReadsClause clauses conditions := by
  have hne : calls ≠ [] := by
    rintro rfl
    exact nomatch hlast
  obtain ⟨conditions, hconditions, hreads⟩ :=
    exists_conditions (fun e he => hplain e (List.mem_of_mem_filter he))
      (splits_filter last.1.columnNames last.2.expressions).clauses
  have hclauses : lastClauses bind calls =
      last.2.expressions.filterMap (extractClause last.1.columnNames) := by
    rw [lastClauses, hlast]
    rfl
  have hfinal := pushdownAll_query henabled h
  rw [queryFor, if_neg hne, hclauses] at hfinal
  exact ⟨_, conditions, hfinal, hconditions, hreads⟩

/-- **When the query after a sequence of calls reads back.**  Whatever the names of the
columns and the texts of the filters contain, the query selects the columns of the last call
from the query that is wrapped, under the conditions of the filters that the last call
accepted, exactly if it selects a column at all, and the query that is wrapped closes what it
opens and does not end in a line comment. -/
theorem pushed_query_reads_iff {bind final : OracleBindData} {calls : List PushdownCall}
    {last : OracleBindData × PushdownCall} {ts : List Token}
    (henabled : bind.settings.enablePushdown = true) (h : pushdownAll bind calls = .ok final)
    (hlast : (callsWithBind bind calls).getLast? = some last)
    (hplain : ∀ e ∈ last.2.expressions, PlainConstant e)
    (hquery : tokens? bind.baseQuery.toList = some ts) :
    ∃ conditions,
      List.Forall₂ (ConditionOf last.1.columnNames)
        (last.2.expressions.filter (¬ Rejected last.1.columnNames ·)) conditions ∧
      ((tokens? final.query.toList).bind readSelect? =
          some (wrapped final.columnNames ts conditions) ↔
        final.columnNames ≠ [] ∧ ¬ EndsInComment bind.baseQuery.toList ∧
          SqlTokens.inside endsView 0 ts = some 0) := by
  obtain ⟨clauses, conditions, hfinal, hconditions, hreads⟩ :=
    exists_selectSQL henabled h hlast hplain
  refine ⟨conditions, hconditions, ?_⟩
  rw [hfinal]
  exact selectSQL_reads_iff hquery hreads

/-- The filters of `mixedFilters`, on a query that closes what it opens. -/
theorem pushed_query_reads_mixed :
    ∃ final conditions,
      pushdownAll twoColumns [{ expressions := mixedFilters }] = .ok final ∧
      List.Forall₂ (ConditionOf ["A", "B"]) (mixedFilters.filter (¬ Rejected ["A", "B"] ·))
        conditions ∧
      (tokens? final.query.toList).bind readSelect? = some (wrapped ["A", "B"]
        [keyword "SELECT", .symbol '*', keyword "FROM", .name "T".toList] conditions) := by
  have hquery : tokens? twoColumns.baseQuery.toList =
      some [keyword "SELECT", .symbol '*', keyword "FROM", .name "T".toList] := by
    decide
  have hplain : ∀ e ∈ mixedFilters, PlainConstant e := by
    intro e he
    simp only [mixedFilters, List.mem_cons, List.not_mem_nil, or_false] at he
    rcases he with rfl | rfl | rfl
    · intro p op value hparts
      obtain ⟨-, hrest⟩ := Prod.mk.inj (Option.some.inj hparts)
      obtain ⟨-, rfl⟩ := Prod.mk.inj hrest
      rfl
    · trivial
    · trivial
  obtain ⟨conditions, hconditions, hreads⟩ :=
    @pushed_query_reads_iff twoColumns _ [{ expressions := mixedFilters }] _ _ rfl rfl rfl
      hplain hquery
  exact ⟨_, conditions, rfl, hconditions,
    hreads.mpr ⟨List.cons_ne_nil _ _, by decide, by decide⟩⟩

/-- A query of a user that ends in a comment, and one that closes more than it opens. -/
example : EndsInComment "SELECT 1 FROM DUAL -- one row".toList := by decide

example : SqlTokens.inside endsView 0
    [keyword "SELECT", keyword "1", .symbol ')', keyword "UNION", .symbol '('] = none := by
  decide

/-- **The query of a table reads back after every sequence of calls** that leaves a column
to select: it closes what it opens, and does not end in a comment. -/
theorem pushed_scan_reads_iff {bind final : OracleBindData} {calls : List PushdownCall}
    {last : OracleBindData × PushdownCall} {entry : OracleTableEntry} (hnull : entry.NullFree)
    (version : OracleVersionInfo) (settings : OracleSettings)
    (hbase : bind.baseQuery = entry.scanQuery version settings)
    (henabled : bind.settings.enablePushdown = true) (h : pushdownAll bind calls = .ok final)
    (hlast : (callsWithBind bind calls).getLast? = some last)
    (hplain : ∀ e ∈ last.2.expressions, PlainConstant e) :
    ∃ conditions,
      List.Forall₂ (ConditionOf last.1.columnNames)
        (last.2.expressions.filter (¬ Rejected last.1.columnNames ·)) conditions ∧
      ((tokens? final.query.toList).bind readSelect? =
          some (wrapped final.columnNames (scanStatement entry version settings).tokens
            conditions) ↔
        final.columnNames ≠ []) := by
  obtain ⟨clauses, conditions, hfinal, hconditions, hreads⟩ :=
    exists_selectSQL henabled h hlast hplain
  have hscan := readsAs_scanQuery hnull version settings
  rw [← hbase] at hscan
  refine ⟨conditions, hconditions, ?_⟩
  rw [hfinal, selectSQL_reads_iff hscan.tokens? hreads]
  exact ⟨fun hall => hall.1, fun hnames =>
    ⟨hnames, hscan.not_endsInComment, inside_scanStatement entry version settings⟩⟩

/-- The scan of the quoted table, whose name ends in what would be a comment. -/
def quotedScan : OracleBindData :=
  oracleBindInternal "scott/tiger@db" (quotedEntry.scanQuery {} {}) {}
    [{ name := "A\", 1 \"B", dataType := .chr }, { name := "X\" FROM DUAL --", dataType := .chr }]

theorem pushed_scan_reads_quoted :
    ∃ final conditions, pushdownAll quotedScan [{ expressions := [] }] = .ok final ∧
      (tokens? final.query.toList).bind readSelect? = some (wrapped final.columnNames
        (scanStatement quotedEntry {} {}).tokens conditions) := by
  obtain ⟨conditions, -, hreads⟩ :=
    @pushed_scan_reads_iff quotedScan _ [{ expressions := [] }] _ quotedEntry
      nullFree_quotedEntry {} {} rfl rfl rfl rfl (fun e he => nomatch he)
  exact ⟨_, conditions, rfl, hreads.mpr (List.cons_ne_nil _ _)⟩

end Scan
end DuckdbOracle
