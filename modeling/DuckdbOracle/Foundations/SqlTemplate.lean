import DuckdbOracle.Foundations.SqlTokens

/-!
# Statements made from a template

A program writes a statement from fixed texts and from strings that it is given.  The
template says what is meant: fixed tokens, and string literals whose contents are the
given strings, where a list of strings is separated by commas.  How the program really
encloses given strings is a function of them; quoting each is the right one.

`tokens?_fill_iff` compares the two.  If given strings that are *not* enclosed as quoting
would do it lose a character of one kind by that, one that the fixed texts have only in
their tokens, then the statement reads as the template exactly if all given strings are
enclosed as quoting would do it, and the text behind the last of them reads as it should.
-/

namespace SqlTokens

open QuotedText

/-! ## Lists of literals -/

/-- Strings in quotes, separated by commas. -/
def quoteList : List (List Char) → List Char
  | [] => []
  | [s] => quote '\'' s
  | s :: t :: ss => quote '\'' s ++ ',' :: quoteList (t :: ss)

/-- The tokens of such a list. -/
def literalList : List (List Char) → List Token
  | [] => []
  | [s] => [.literal s]
  | s :: t :: ss => .literal s :: .symbol ',' :: literalList (t :: ss)

/-- The contents of a list of literals up to a closing parenthesis, which ends the text. -/
def readLiterals? : List Token → Option (List (List Char))
  | [.symbol ')'] => some []
  | [.delimited '\'' s, .symbol ')'] => some [s]
  | .delimited '\'' s :: .symbol ',' :: .delimited '\'' t :: rest =>
    (readLiterals? (.delimited '\'' t :: rest)).map (s :: ·)
  | _ => none

theorem texts_literalList (ss : List (List Char)) : texts (literalList ss) = quoteList ss := by
  induction ss with
  | nil => rfl
  | cons s ss ih =>
    cases ss with
    | nil => exact List.append_nil _
    | cons t ss =>
      rw [literalList, texts_cons, texts_cons, ih]
      rfl

theorem scan_quoteList (ss : List (List Char)) {rest : List Char} (h : rest.head? ≠ some '\'') :
    scan .idle (quoteList ss ++ rest) = (scan .idle rest).map (literalList ss ++ ·) := by
  induction ss with
  | nil => exact (congrFun Option.map_id (scan .idle rest)).symm
  | cons s ss ih =>
    cases ss with
    | nil => exact scan_quote (Or.inr rfl) s h
    | cons t ss =>
      have hcomma : Mode.idle.next ',' = ([.symbol ','], .idle) := rfl
      rw [quoteList, List.append_assoc, List.cons_append,
        scan_quote (Or.inr rfl) s (by simp), scan_cons, hcomma, ih, Option.map_map, Option.map_map]
      rfl

/-- A list of literals is read back. -/
theorem readLiterals?_literalList (ss : List (List Char)) :
    readLiterals? (literalList ss ++ [.symbol ')']) = some ss := by
  induction ss with
  | nil => rfl
  | cons s ss ih =>
    match ss, ih with
    | [], _ => rfl
    | [t], ih => exact congrArg (Option.map (s :: ·)) ih
    | t :: u :: ss, ih => exact congrArg (Option.map (s :: ·)) ih

theorem eq_of_readLiterals? {tokens : List Token} {ss : List (List Char)}
    (h : readLiterals? tokens = some ss) : tokens = literalList ss ++ [.symbol ')'] := by
  induction tokens using readLiterals?.induct generalizing ss with
  | case1 =>
    obtain rfl := Option.some.inj h
    rfl
  | case2 s =>
    obtain rfl := Option.some.inj h
    rfl
  | case3 s t rest ih =>
    obtain ⟨ts, hts, rfl⟩ := Option.map_eq_some_iff.mp h
    have hrest := ih hts
    match ts, hrest with
    | [], hrest => exact absurd (List.head_eq_of_cons_eq hrest) (by simp)
    | u :: us, hrest =>
      rw [hrest]
      rfl
  | case4 tokens h₁ h₂ h₃ =>
    rw [readLiterals?] at h
    · exact nomatch h
    · exact h₁
    · exact h₂
    · exact h₃

/-! ## Templates -/

/-- A part of a template. -/
inductive Piece where
  /-- A fixed text. -/
  | text (chars : List Char)
  /-- A list of given strings, mostly of one. -/
  | given (contents : List (List Char))

/-- What is meant by a part. -/
def Piece.tokens : Piece → List Token
  | .text chars => (tokens? chars).getD []
  | .given contents => literalList contents

/-- The tokens of a template. -/
def templateTokens (pieces : List Piece) : List Token := pieces.flatMap Piece.tokens

/-- A part as it is written, where `enclose` writes given strings. -/
def Piece.fill (enclose : List (List Char) → List Char) : Piece → List Char
  | .text chars => chars
  | .given contents => enclose contents

/-- The statement. -/
def fill (enclose : List (List Char) → List Char) (pieces : List Piece) : List Char :=
  pieces.flatMap (Piece.fill enclose)

/-- The text has the character only in its tokens, not in blanks or comments. -/
def OnlyInTokens (c : Char) (chars : List Char) : Prop :=
  (texts (Piece.text chars).tokens).count c = chars.count c

/-- A text of a template: it ends between two tokens and does not begin with a quote. -/
structure Separates (c : Char) (chars : List Char) : Prop where
  idle : (run .idle chars).2 = .idle
  ne_nil : chars ≠ []
  head : chars.head? ≠ some '\''
  only : OnlyInTokens c chars

/-- The last text of a template, which may also end in a token. -/
structure Ends (c : Char) (chars : List Char) : Prop where
  tokens : (tokens? chars).isSome
  head : chars.head? ≠ some '\''
  only : OnlyInTokens c chars

instance (c : Char) (chars : List Char) : Decidable (OnlyInTokens c chars) :=
  inferInstanceAs (Decidable (_ = _))

instance (c : Char) (chars : List Char) : Decidable (Separates c chars) :=
  decidable_of_iff ((run .idle chars).2 = .idle ∧ chars ≠ [] ∧ chars.head? ≠ some '\'' ∧
    OnlyInTokens c chars) ⟨fun ⟨h, h', h'', h'''⟩ => ⟨h, h', h'', h'''⟩,
      fun ⟨h, h', h'', h'''⟩ => ⟨h, h', h'', h'''⟩⟩

instance (c : Char) (chars : List Char) : Decidable (Ends c chars) :=
  decidable_of_iff ((tokens? chars).isSome ∧ chars.head? ≠ some '\'' ∧ OnlyInTokens c chars)
    ⟨fun ⟨h, h', h''⟩ => ⟨h, h', h''⟩, fun ⟨h, h', h''⟩ => ⟨h, h', h''⟩⟩

/-- The conditions are decided on the characters of a string literal. -/
theorem Separates.of_string {c : Char} {s : String} {chars : List Char}
    (h : s = String.ofList chars) (hchars : Separates c chars) : Separates c s.toList := by
  rw [h, String.toList_ofList]
  exact hchars

theorem Ends.of_string {c : Char} {s : String} {chars : List Char}
    (h : s = String.ofList chars) (hchars : Ends c chars) : Ends c s.toList := by
  rw [h, String.toList_ofList]
  exact hchars

/-- A string literal that goes on from another one. -/
theorem toList_of_append {s t : String} {chars more : List Char} (hs : s = String.ofList chars)
    (ht : t = String.ofList (chars ++ more)) : t.toList = s.toList ++ more := by
  rw [hs, ht, String.toList_ofList, String.toList_ofList]

/-- Given strings stand between texts. -/
inductive Closed (c : Char) : List Piece → Prop where
  | nil : Closed c []
  | text {chars : List Char} {pieces : List Piece} (h : Separates c chars)
      (hrest : Closed c pieces) : Closed c (.text chars :: pieces)
  | given {contents : List (List Char)} {pieces : List Piece}
      (hnext : ∀ ss, pieces.head? ≠ some (.given ss)) (hrest : Closed c pieces) :
      Closed c (.given contents :: pieces)

/-- A text, given strings, and the rest of the template. -/
theorem Closed.pair {c : Char} {chars : List Char} {contents : List (List Char)}
    {pieces : List Piece} (h : Separates c chars) (hnext : ∀ ss, pieces.head? ≠ some (.given ss))
    (hrest : Closed c pieces) : Closed c (.text chars :: .given contents :: pieces) :=
  .text h (.given hnext hrest)

/-! ## Given strings that are quoted -/

/-- A text of a template is read as its tokens. -/
theorem Separates.scan {c : Char} {chars : List Char} (h : Separates c chars)
    (rest : List Char) :
    scan .idle (chars ++ rest) =
      (scan .idle rest).map ((Piece.text chars).tokens ++ ·) := by
  have htokens : (Piece.text chars).tokens = (run .idle chars).1 := by
    rw [Piece.tokens, tokens?, SqlTokens.scan, h.idle]
    exact List.append_nil _
  rw [scan_append, h.idle, htokens]

/-- A text with a word at its end. -/
theorem Separates.append_word {c : Char} {chars word : List Char} (h : Separates c chars)
    (hne : word ≠ []) (hword : ∀ d ∈ word, isWordChar d = true) : Ends c (chars ++ word) := by
  have htokens : tokens? (chars ++ word) = some ((Piece.text chars).tokens ++ [.word word]) := by
    have hscan := h.scan word
    rw [show SqlTokens.scan .idle word = some [.word word] from tokens?_word hne hword] at hscan
    exact hscan
  refine ⟨?_, ?_, ?_⟩
  · rw [htokens]
    rfl
  · rw [List.head?_append_of_ne_nil _ h.ne_nil]
    exact h.head
  · rw [OnlyInTokens, Piece.tokens, htokens, Option.getD_some, texts_append, List.count_append,
      List.count_append, h.only]
    exact congrArg (chars.count c + ·) (congrArg (List.count c) (List.append_nil word))

theorem Closed.head_ne {c : Char} {pieces : List Piece} (h : Closed c pieces)
    (hnext : ∀ ss, pieces.head? ≠ some (.given ss)) {rest : List Char}
    (hrest : rest.head? ≠ some '\'') : (fill quoteList pieces ++ rest).head? ≠ some '\'' := by
  cases h with
  | nil => exact hrest
  | text hsep _ =>
    rw [fill, List.flatMap_cons, Piece.fill, List.append_assoc,
      List.head?_append_of_ne_nil _ hsep.ne_nil]
    exact hsep.head
  | @given contents => exact absurd rfl (hnext contents)

/-- **A statement whose given strings are quoted reads as its template**, whatever they
are. -/
theorem scan_fill_append {c : Char} {pieces : List Piece} (h : Closed c pieces)
    {rest : List Char} (hrest : rest.head? ≠ some '\'') :
    scan .idle (fill quoteList pieces ++ rest) =
      (scan .idle rest).map (templateTokens pieces ++ ·) := by
  induction h with
  | nil => exact (congrFun Option.map_id (scan .idle rest)).symm
  | @text chars pieces hsep _ ih =>
    have hfill : fill quoteList (.text chars :: pieces) ++ rest =
        chars ++ (fill quoteList pieces ++ rest) := List.append_assoc _ _ _
    rw [hfill, hsep.scan, ih, Option.map_map]
    congr 1
    funext ts
    exact (List.append_assoc _ _ ts).symm
  | @given contents pieces hnext hclosed ih =>
    have hfill : fill quoteList (.given contents :: pieces) ++ rest =
        quoteList contents ++ (fill quoteList pieces ++ rest) := List.append_assoc _ _ _
    rw [hfill, scan_quoteList contents (hclosed.head_ne hnext hrest), ih, Option.map_map]
    congr 1
    funext ts
    exact (List.append_assoc _ _ ts).symm

/-! ## Given strings that are enclosed in another way -/

/-- Enclosing strings otherwise than by quoting them writes the character less often. -/
def Loses (c : Char) (enclose : List (List Char) → List Char) : Prop :=
  ∀ ss, enclose ss ≠ quoteList ss → (enclose ss).count c < (quoteList ss).count c

theorem Loses.le {c : Char} {enclose : List (List Char) → List Char} (h : Loses c enclose)
    (ss : List (List Char)) : (enclose ss).count c ≤ (quoteList ss).count c := by
  by_cases heq : enclose ss = quoteList ss
  · exact Nat.le_of_eq (congrArg _ heq)
  · exact Nat.le_of_lt (h ss heq)

theorem count_texts_given (c : Char) (contents : List (List Char)) (pieces : List Piece) :
    (texts (templateTokens (.given contents :: pieces))).count c =
      (quoteList contents).count c + (texts (templateTokens pieces)).count c := by
  rw [templateTokens, List.flatMap_cons, texts_append, List.count_append, Piece.tokens,
    texts_literalList]
  rfl

theorem count_texts_text {c : Char} {chars : List Char} (h : OnlyInTokens c chars)
    (pieces : List Piece) :
    (texts (templateTokens (.text chars :: pieces))).count c =
      chars.count c + (texts (templateTokens pieces)).count c := by
  rw [templateTokens, List.flatMap_cons, texts_append, List.count_append, h]
  rfl

theorem count_fill_cons (c : Char) (enclose : List (List Char) → List Char) (piece : Piece)
    (pieces : List Piece) :
    (fill enclose (piece :: pieces)).count c =
      (piece.fill enclose).count c + (fill enclose pieces).count c := by
  rw [fill, List.flatMap_cons, List.count_append]
  rfl

/-- The statement has the character at most as often as the tokens of its template. -/
theorem count_fill_le {c : Char} {enclose : List (List Char) → List Char}
    (hlose : Loses c enclose) {pieces : List Piece} (h : Closed c pieces) :
    (fill enclose pieces).count c ≤ (texts (templateTokens pieces)).count c := by
  induction h with
  | nil => exact Nat.le_refl _
  | text h _ ih =>
    rw [count_fill_cons, count_texts_text h.only]
    exact Nat.add_le_add_left ih _
  | @given contents pieces _ _ ih =>
    rw [count_fill_cons, count_texts_given]
    exact Nat.add_le_add (hlose.le contents) ih

/-- It has it less often if given strings are not enclosed as quoting would do it. -/
theorem count_fill_lt {c : Char} {enclose : List (List Char) → List Char}
    (hlose : Loses c enclose) {pieces : List Piece} (h : Closed c pieces)
    {ss : List (List Char)} (hs : Piece.given ss ∈ pieces) (hne : enclose ss ≠ quoteList ss) :
    (fill enclose pieces).count c < (texts (templateTokens pieces)).count c := by
  induction h with
  | nil => exact absurd hs List.not_mem_nil
  | text h _ ih =>
    rcases List.mem_cons.mp hs with heq | hmem
    · exact nomatch heq
    · rw [count_fill_cons, count_texts_text h.only]
      exact Nat.add_lt_add_left (ih hmem) _
  | @given contents pieces _ hrest ih =>
    rw [count_fill_cons, count_texts_given]
    rcases List.mem_cons.mp hs with heq | hmem
    · obtain rfl := Piece.given.inj heq
      exact Nat.add_lt_add_of_lt_of_le (hlose ss hne) (count_fill_le hlose hrest)
    · exact Nat.add_lt_add_of_le_of_lt (hlose.le contents) (ih hmem)

theorem fill_eq {enclose : List (List Char) → List Char} {pieces : List Piece}
    (h : ∀ ss, Piece.given ss ∈ pieces → enclose ss = quoteList ss) :
    fill enclose pieces = fill quoteList pieces := by
  refine List.flatMap_congr fun piece hmem => ?_
  cases piece with
  | text chars => rfl
  | given contents => exact h contents hmem

/-- **When a statement reads as its template**, with the text `last` behind the last given
string: exactly if all given strings are enclosed as quoting would do it, and `last` reads
as it should. -/
theorem tokens?_fill_iff {c : Char} {enclose : List (List Char) → List Char}
    (hlose : Loses c enclose) {pieces : List Piece} (hclosed : Closed c pieces)
    {last : List Char} {ts : List Token} (hhead : last.head? ≠ some '\'')
    (hcount : last.count c ≤ (texts ts).count c) :
    tokens? (fill enclose pieces ++ last) = some (templateTokens pieces ++ ts) ↔
      (∀ ss, Piece.given ss ∈ pieces → enclose ss = quoteList ss) ∧ tokens? last = some ts := by
  have hquoted : (∀ ss, Piece.given ss ∈ pieces → enclose ss = quoteList ss) →
      tokens? (fill enclose pieces ++ last) =
        (tokens? last).map (templateTokens pieces ++ ·) := by
    intro h
    rw [fill_eq h]
    exact scan_fill_append hclosed hhead
  constructor
  · intro h
    have hall : ∀ ss, Piece.given ss ∈ pieces → enclose ss = quoteList ss := by
      intro ss hs
      by_contra hne
      have hle := count_texts_le h c
      have hlt := count_fill_lt hlose hclosed hs hne
      rw [texts_append, List.count_append, List.count_append] at hle
      omega
    rw [hquoted hall] at h
    obtain ⟨ts', hts', heq⟩ := Option.map_eq_some_iff.mp h
    rw [hts', List.append_cancel_left heq]
    exact ⟨hall, rfl⟩
  · rintro ⟨hall, hlast⟩
    rw [hquoted hall, hlast, Option.map_some]

/-- The tokens of a statement whose last text is fixed. -/
theorem tokens?_fill_iff_of_ends {c : Char} {enclose : List (List Char) → List Char}
    (hlose : Loses c enclose) {pieces : List Piece} (hclosed : Closed c pieces)
    {last : List Char} (hlast : Ends c last) :
    tokens? (fill enclose pieces ++ last) =
        some (templateTokens pieces ++ (Piece.text last).tokens) ↔
      ∀ ss, Piece.given ss ∈ pieces → enclose ss = quoteList ss := by
  obtain ⟨ts, hts⟩ := Option.isSome_iff_exists.mp hlast.tokens
  have htokens : tokens? last = some (Piece.text last).tokens := by
    rw [Piece.tokens, hts, Option.getD_some]
  rw [tokens?_fill_iff hlose hclosed hlast.head (Nat.le_of_eq hlast.only.symm),
    and_iff_left htokens]

end SqlTokens
