import DuckdbOracle.Foundations.QuotedText

/-!
# The tokens of an SQL text

A lexer for the part of SQL that generated statements are made of: words, quoted
identifiers and string literals, placeholders, and single symbols.  Blanks and comments
separate tokens and are none.

The lexer is a machine that reads one character at a time (`Mode.next`).  So the tokens of
an appended text are those of the first part, and then those of the second part from the
mode the first part ends in (`scan_append`), and a text that is put together from parts is
read part by part.

Two rules are about texts that someone else supplies.

* `scan_quote`: what is enclosed in its delimiter and has the delimiters inside doubled is
  one token, whatever it contains.
* `count_texts_le`: the tokens of a text have no character more often than the text has.
  That bounds what can be read out of a text that was *not* quoted that way.
-/

namespace SqlTokens

open QuotedText

/-! ## Tokens and modes -/

/-- A token. -/
inductive Token where
  /-- A keyword, an identifier without quotes, or the digits of a number. -/
  | word (text : List Char)
  /-- What stands between two delimiters, with the doubled ones inside taken as one. -/
  | delimited (delimiter : Char) (content : List Char)
  | placeholder (name : List Char)
  | symbol (c : Char)
  deriving DecidableEq

/-- A string literal. -/
abbrev Token.literal (content : List Char) : Token := .delimited '\'' content

/-- A quoted identifier. -/
abbrev Token.name (content : List Char) : Token := .delimited '"' content

/-- What a token is written like. -/
def Token.text : Token → List Char
  | .word text => text
  | .delimited delimiter content => quote delimiter content
  | .placeholder name => ':' :: name
  | .symbol c => [c]

/-- What the lexer is in the middle of; texts are kept in reverse. -/
inductive Mode where
  | idle
  | word (rev : List Char)
  | placeholder (rev : List Char)
  | inside (delimiter : Char) (rev : List Char)
  /-- A delimiter has been read, which ends the token unless there is another one. -/
  | closing (delimiter : Char) (rev : List Char)
  | slash
  | dash
  | comment
  | commentStar
  | lineComment
  deriving DecidableEq

/-- The characters of a word. -/
def isWordChar (c : Char) : Bool := c.isAlphanum || c == '_' || c == '$' || c == '#'

/-- The characters between tokens. -/
def isBlank (c : Char) : Bool := c ∈ [' ', '\t', '\n', '\x0b', '\x0c', '\r']

/-- The first character of a token. -/
def start (c : Char) : List Token × Mode :=
  if isBlank c then ([], .idle)
  else if c = '"' ∨ c = '\'' then ([], .inside c [])
  else if c = ':' then ([], .placeholder [])
  else if c = '/' then ([], .slash)
  else if c = '-' then ([], .dash)
  else if isWordChar c then ([], .word [c])
  else ([.symbol c], .idle)

/-- A token is complete, and the character starts the next one. -/
def complete (token : Token) (c : Char) : List Token × Mode :=
  (token :: (start c).1, (start c).2)

/-- One character: the tokens it completes, and the mode after it. -/
def Mode.next : Mode → Char → List Token × Mode
  | .idle, c => start c
  | .word rev, c =>
    if isWordChar c then ([], .word (c :: rev)) else complete (.word rev.reverse) c
  | .placeholder rev, c =>
    if isWordChar c then ([], .placeholder (c :: rev)) else complete (.placeholder rev.reverse) c
  | .inside q rev, c => ([], if c = q then .closing q rev else .inside q (c :: rev))
  | .closing q rev, c =>
    if c = q then ([], .inside q (q :: rev)) else complete (.delimited q rev.reverse) c
  | .slash, c => if c = '*' then ([], .comment) else complete (.symbol '/') c
  | .dash, c => if c = '-' then ([], .lineComment) else complete (.symbol '-') c
  | .comment, c => ([], if c = '*' then .commentStar else .comment)
  | .commentStar, c => ([], if c = '/' then .idle else if c = '*' then .commentStar else .comment)
  | .lineComment, c => ([], if c = '\n' then .idle else .lineComment)

/-- The end of the text; a delimiter or a comment may be missing its end. -/
def Mode.finish : Mode → Option (List Token)
  | .idle => some []
  | .word rev => some [.word rev.reverse]
  | .placeholder rev => some [.placeholder rev.reverse]
  | .inside _ _ => none
  | .closing q rev => some [.delimited q rev.reverse]
  | .slash => some [.symbol '/']
  | .dash => some [.symbol '-']
  | .comment => none
  | .commentStar => none
  | .lineComment => some []

/-- The tokens that a text completes, and the mode it ends in. -/
def run : Mode → List Char → List Token × Mode
  | mode, [] => ([], mode)
  | mode, c :: cs =>
    ((mode.next c).1 ++ (run (mode.next c).2 cs).1, (run (mode.next c).2 cs).2)

/-- The tokens of a text, from a mode on. -/
def scan (mode : Mode) (text : List Char) : Option (List Token) :=
  (run mode text).2.finish.map ((run mode text).1 ++ ·)

/-- **The tokens of a text**; there are none if a delimiter or a comment does not end. -/
def tokens? (text : List Char) : Option (List Token) := scan .idle text

/-! ## Appended texts -/

theorem run_cons (mode : Mode) (c : Char) (cs : List Char) :
    run mode (c :: cs) =
      ((mode.next c).1 ++ (run (mode.next c).2 cs).1, (run (mode.next c).2 cs).2) := rfl

theorem run_append (mode : Mode) (a b : List Char) :
    run mode (a ++ b) =
      ((run mode a).1 ++ (run (run mode a).2 b).1, (run (run mode a).2 b).2) := by
  induction a generalizing mode with
  | nil => rfl
  | cons c a ih => rw [List.cons_append, run_cons, ih, run_cons, List.append_assoc]

/-- **An appended text is read on from where the first part ends.** -/
theorem scan_append (mode : Mode) (a b : List Char) :
    scan mode (a ++ b) = (scan (run mode a).2 b).map ((run mode a).1 ++ ·) := by
  rw [scan, run_append, scan, Option.map_map]
  congr 1
  funext ts
  exact List.append_assoc _ _ ts

theorem scan_cons (mode : Mode) (c : Char) (cs : List Char) :
    scan mode (c :: cs) = (scan (mode.next c).2 cs).map ((mode.next c).1 ++ ·) := by
  have hone : run mode [c] = mode.next c := by
    rw [run_cons, run, List.append_nil]
  rw [← List.singleton_append, scan_append, hone]

/-- A part that ends between two tokens. -/
theorem scan_append_of_run {mode : Mode} {a : List Char} {ts : List Token} {mode' : Mode}
    (h : run mode a = (ts, mode')) (b : List Char) :
    scan mode (a ++ b) = (scan mode' b).map (ts ++ ·) := by
  rw [scan_append, h]

/-! ## Words and quoted texts -/

/-- A text of word characters is read into the word. -/
theorem run_word {text : List Char} (h : ∀ c ∈ text, isWordChar c = true) (rev : List Char) :
    run (.word rev) text = ([], .word (text.reverse ++ rev)) := by
  induction text generalizing rev with
  | nil => rfl
  | cons c text ih =>
    have hnext : (Mode.word rev).next c = ([], .word (c :: rev)) := by
      rw [Mode.next, if_pos (h c List.mem_cons_self)]
    rw [run_cons, hnext, ih (fun d hd => h d (List.mem_cons_of_mem c hd)), List.reverse_cons,
      List.append_assoc]
    rfl

/-- A word character starts a word. -/
theorem start_of_isWordChar {c : Char} (h : isWordChar c = true) : start c = ([], .word [c]) := by
  have hne : ∀ d, isWordChar d = false → c ≠ d := by
    rintro d hd rfl
    exact absurd h (Bool.eq_false_iff.mp hd)
  have hblank : ¬ isBlank c = true := by
    intro hb
    have hmem : c ∈ [' ', '\t', '\n', '\x0b', '\x0c', '\r'] := by simpa [isBlank] using hb
    have hall : [' ', '\t', '\n', '\x0b', '\x0c', '\r'].all (!isWordChar ·) = true := by decide
    have hnot := List.all_eq_true.mp hall c hmem
    rw [h] at hnot
    cases hnot
  have hquote : ¬ (c = '"' ∨ c = '\'') := by
    rintro (hc | hc)
    · exact hne '"' (by decide) hc
    · exact hne '\'' (by decide) hc
  rw [start, if_neg hblank, if_neg hquote, if_neg (hne ':' (by decide)),
    if_neg (hne '/' (by decide)), if_neg (hne '-' (by decide)), if_pos h]

/-- A number is written in word characters. -/
theorem isWordChar_toDigits {n : ℕ} : ∀ c ∈ Nat.toDigits 10 n, isWordChar c = true := by
  intro c hc
  have hdigit : c.isDigit = true := Nat.isDigit_of_mem_toDigits (by decide) (by decide) hc
  rw [isWordChar, Char.isAlphanum, hdigit, Bool.or_true]
  rfl

/-- A text of word characters is one word. -/
theorem tokens?_word {text : List Char} (hne : text ≠ []) (h : ∀ c ∈ text, isWordChar c = true) :
    tokens? text = some [.word text] := by
  obtain ⟨c, cs, rfl⟩ := List.exists_cons_of_ne_nil hne
  have hnext : Mode.idle.next c = ([], .word [c]) := start_of_isWordChar (h c List.mem_cons_self)
  rw [tokens?, scan_cons, hnext, scan, run_word fun d hd => h d (List.mem_cons_of_mem c hd),
    Mode.finish, List.reverse_append, List.reverse_reverse]
  rfl

theorem run_placeholder {text : List Char} (h : ∀ c ∈ text, isWordChar c = true)
    (rev : List Char) :
    run (.placeholder rev) text = ([], .placeholder (text.reverse ++ rev)) := by
  induction text generalizing rev with
  | nil => rfl
  | cons c text ih =>
    have hnext : (Mode.placeholder rev).next c = ([], .placeholder (c :: rev)) := by
      rw [Mode.next, if_pos (h c List.mem_cons_self)]
    rw [run_cons, hnext, ih (fun d hd => h d (List.mem_cons_of_mem c hd)), List.reverse_cons,
      List.append_assoc]
    rfl

/-- Inside of its delimiters a content stays inside when its delimiters are doubled. -/
theorem run_double (q : Char) (s rev : List Char) :
    run (.inside q rev) (double q s) = ([], .inside q (s.reverse ++ rev)) := by
  induction s generalizing rev with
  | nil => rfl
  | cons c s ih =>
    by_cases hc : c = q
    · have hfirst : (Mode.inside q rev).next q = ([], .closing q rev) := by
        rw [Mode.next, if_pos rfl]
      have hsecond : (Mode.closing q rev).next q = ([], .inside q (q :: rev)) := by
        rw [Mode.next, if_pos rfl]
      rw [hc, double_cons_delimiter, run_cons, hfirst, run_cons, hsecond, ih, List.reverse_cons,
        List.append_assoc]
      rfl
    · have hnext : (Mode.inside q rev).next c = ([], .inside q (c :: rev)) := by
        rw [Mode.next, if_neg hc]
      rw [double_cons_of_ne hc, run_cons, hnext, ih, List.reverse_cons, List.append_assoc]
      rfl

/-- The two delimiters. -/
def IsDelimiter (q : Char) : Prop := q = '"' ∨ q = '\''

instance (q : Char) : Decidable (IsDelimiter q) :=
  inferInstanceAs (Decidable (q = '"' ∨ q = '\''))

theorem run_quote {q : Char} (hq : IsDelimiter q) (s : List Char) :
    run .idle (quote q s) = ([], .closing q s.reverse) := by
  have hstart : Mode.idle.next q = ([], .inside q []) := by
    rcases hq with rfl | rfl <;> rfl
  have hclose : run (.inside q s.reverse) [q] = ([], .closing q s.reverse) := by
    rw [run_cons, Mode.next, if_pos rfl]
    rfl
  rw [quote, run_cons, hstart, run_append, run_double, List.append_nil, hclose]
  rfl

/-- **A quoted text is one token**, whatever it contains, unless the text after it begins
with its delimiter. -/
theorem scan_quote {q : Char} (hq : IsDelimiter q) (s : List Char) {rest : List Char}
    (h : rest.head? ≠ some q) :
    scan .idle (quote q s ++ rest) = (scan .idle rest).map (.delimited q s :: ·) := by
  rw [scan_append, run_quote hq]
  cases rest with
  | nil =>
    simp only [scan, run, Mode.finish, Option.map_some, List.nil_append, List.reverse_reverse]
  | cons c rest =>
    have hc : c ≠ q := fun hcq => h (by rw [hcq, List.head?_cons])
    have hnext : (Mode.closing q s.reverse).next c = complete (.delimited q s) c := by
      rw [Mode.next, if_neg hc, List.reverse_reverse]
    rw [scan_cons, hnext, scan_cons, Option.map_map, Option.map_map]
    rfl

/-! ## Texts that are put together -/

/-- A text goes on with a character that ends every token before it. -/
def Stops (rest : List Char) : Prop :=
  ∀ c, rest.head? = some c → isWordChar c = false ∧ ¬ IsDelimiter c

/-- A text is read as these tokens, if what follows does not go on with the last of them. -/
def ReadsAs (text : List Char) (tokens : List Token) : Prop :=
  ∀ rest, Stops rest → scan .idle (text ++ rest) = (scan .idle rest).map (tokens ++ ·)

theorem stops_append {text : List Char} (hne : text ≠ []) (h : Stops text) (rest : List Char) :
    Stops (text ++ rest) := by
  intro c hc
  rw [List.head?_append_of_ne_nil _ hne] at hc
  exact h c hc

/-- A text that ends between two tokens can go on in any way. -/
theorem ReadsAs.of_run {text : List Char} {tokens : List Token}
    (h : run .idle text = (tokens, .idle)) : ReadsAs text tokens :=
  fun rest _ => scan_append_of_run h rest

theorem readsAs_quote {q : Char} (hq : IsDelimiter q) (s : List Char) :
    ReadsAs (quote q s) [.delimited q s] :=
  fun _ hrest => scan_quote hq s fun hhead => (hrest q hhead).2 hq

/-- A placeholder ends where its name does. -/
theorem readsAs_placeholder {name : List Char} (h : ∀ c ∈ name, isWordChar c = true) :
    ReadsAs (':' :: name) [.placeholder name] := by
  intro rest hrest
  have hcolon : Mode.idle.next ':' = ([], .placeholder []) := rfl
  have hrun : run .idle (':' :: name) = ([], .placeholder name.reverse) := by
    simp only [run_cons, hcolon, run_placeholder h, List.append_nil]
  rw [scan_append, hrun]
  cases rest with
  | nil =>
    simp only [scan, run, Mode.finish, Option.map_some, List.nil_append, List.reverse_reverse,
      List.append_nil]
  | cons c rest =>
    have hnext : (Mode.placeholder name.reverse).next c = complete (.placeholder name) c := by
      rw [Mode.next, if_neg (Bool.eq_false_iff.mp (hrest c rfl).1), List.reverse_reverse]
    rw [scan_cons, hnext, scan_cons, Option.map_map, Option.map_map]
    rfl

/-- **A text and one that stops it** are read one after the other. -/
theorem ReadsAs.append {a b : List Char} {ts us : List Token} (ha : ReadsAs a ts)
    (hb : ReadsAs b us) (hne : b ≠ []) (hstops : Stops b) : ReadsAs (a ++ b) (ts ++ us) := by
  intro rest hrest
  rw [List.append_assoc, ha _ (stops_append hne hstops rest), hb rest hrest, Option.map_map]
  congr 1
  funext tokens
  exact (List.append_assoc ts us tokens).symm

/-- After a text that ends between two tokens anything is read on its own. -/
theorem ReadsAs.after_run {a b : List Char} {ts us : List Token}
    (ha : run .idle a = (ts, .idle)) (hb : ReadsAs b us) : ReadsAs (a ++ b) (ts ++ us) := by
  intro rest hrest
  rw [List.append_assoc, scan_append_of_run ha, hb rest hrest, Option.map_map]
  congr 1
  funext tokens
  exact (List.append_assoc ts us tokens).symm

/-- The tokens of a whole text. -/
theorem ReadsAs.tokens? {text : List Char} {ts : List Token} (h : ReadsAs text ts) :
    tokens? text = some ts := by
  have hnil := h [] fun c hc => nomatch hc
  rw [List.append_nil] at hnil
  rw [SqlTokens.tokens?, hnil]
  exact congrArg some (List.append_nil ts)

/-! ## What the tokens take from the text -/

/-- The tokens' texts, one after the other. -/
def texts (tokens : List Token) : List Char := tokens.flatMap Token.text

@[simp] theorem texts_nil : texts [] = [] := rfl

@[simp] theorem texts_cons (token : Token) (tokens : List Token) :
    texts (token :: tokens) = token.text ++ texts tokens := List.flatMap_cons

@[simp] theorem texts_append (xs ys : List Token) : texts (xs ++ ys) = texts xs ++ texts ys :=
  List.flatMap_append

/-- What has been read of the token that the lexer is in the middle of. -/
def Mode.text : Mode → List Char
  | .idle => []
  | .word rev => rev.reverse
  | .placeholder rev => ':' :: rev.reverse
  | .inside q rev => q :: double q rev.reverse
  | .closing q rev => q :: double q rev.reverse ++ [q]
  | .slash => ['/']
  | .dash => ['-']
  | .comment => []
  | .commentStar => []
  | .lineComment => []

theorem sublist_start (c : Char) : (texts (start c).1 ++ (start c).2.text).Sublist [c] := by
  unfold start
  split_ifs with hblank hquote hcolon hslash hdash hword
  · exact List.nil_sublist _
  · exact List.Sublist.refl _
  · rw [hcolon]
    exact List.Sublist.refl _
  · rw [hslash]
    exact List.Sublist.refl _
  · rw [hdash]
    exact List.Sublist.refl _
  · exact List.Sublist.refl _
  · exact List.Sublist.refl _

theorem sublist_complete (token : Token) (c : Char) :
    (texts (complete token c).1 ++ (complete token c).2.text).Sublist (token.text ++ [c]) := by
  rw [complete, texts_cons, List.append_assoc]
  exact (sublist_start c).append_left token.text

/-- **One character** is taken up, or left out. -/
theorem sublist_next (mode : Mode) (c : Char) :
    (texts (mode.next c).1 ++ (mode.next c).2.text).Sublist (mode.text ++ [c]) := by
  cases mode with
  | idle => exact sublist_start c
  | word rev =>
    rw [Mode.next]
    split
    · rw [Mode.text, Mode.text, List.reverse_cons]
      exact List.Sublist.refl _
    · exact sublist_complete _ c
  | placeholder rev =>
    rw [Mode.next]
    split
    · rw [Mode.text, Mode.text, List.reverse_cons]
      exact List.Sublist.refl _
    · exact sublist_complete _ c
  | inside q rev =>
    rw [Mode.next]
    split
    · next hc => rw [hc]; exact List.Sublist.refl _
    · next hc =>
      have hdouble : double q (rev.reverse ++ [c]) = double q rev.reverse ++ [c] := by
        rw [double_append, double_cons_of_ne hc, double_nil]
      rw [Mode.text, Mode.text, List.reverse_cons, hdouble]
      exact List.Sublist.refl _
  | closing q rev =>
    rw [Mode.next]
    split
    · next hc =>
      have hdouble : double q (rev.reverse ++ [q]) = double q rev.reverse ++ [q] ++ [q] := by
        rw [double_append, double_cons_delimiter, double_nil, List.append_assoc]
        rfl
      rw [Mode.text, Mode.text, List.reverse_cons, hdouble, hc]
      exact List.Sublist.refl _
    · exact sublist_complete _ c
  | slash =>
    rw [Mode.next]
    split
    · exact List.nil_sublist _
    · exact sublist_complete _ c
  | dash =>
    rw [Mode.next]
    split
    · exact List.nil_sublist _
    · exact sublist_complete _ c
  | comment =>
    rw [Mode.next]
    split <;> exact List.nil_sublist _
  | commentStar =>
    rw [Mode.next]
    split_ifs <;> exact List.nil_sublist _
  | lineComment =>
    rw [Mode.next]
    split <;> exact List.nil_sublist _

theorem sublist_run (mode : Mode) (text : List Char) :
    (texts (run mode text).1 ++ (run mode text).2.text).Sublist (mode.text ++ text) := by
  induction text generalizing mode with
  | nil => exact (List.append_nil mode.text).symm ▸ List.Sublist.refl mode.text
  | cons c text ih =>
    have hrest := (ih (mode.next c).2).append_left (texts (mode.next c).1)
    have hfirst := (sublist_next mode c).append_right text
    rw [List.append_assoc, List.append_assoc, List.singleton_append] at hfirst
    rw [run_cons, texts_append, List.append_assoc]
    exact hrest.trans hfirst

theorem sublist_finish {mode : Mode} {ts : List Token} (h : mode.finish = some ts) :
    (texts ts).Sublist mode.text := by
  cases mode <;> simp only [Mode.finish, Option.some.injEq, reduceCtorEq] at h <;>
    subst h <;> simp [Token.text, Mode.text, quote]

/-- **The tokens of a text are written in it**, one after the other. -/
theorem texts_sublist {text : List Char} {ts : List Token} (h : tokens? text = some ts) :
    (texts ts).Sublist text := by
  obtain ⟨last, hlast, rfl⟩ := Option.map_eq_some_iff.mp h
  rw [texts_append]
  exact ((sublist_finish hlast).append_left _).trans (sublist_run .idle text)

/-- **No character stands in the tokens more often than in the text.** -/
theorem count_texts_le {text : List Char} {ts : List Token} (h : tokens? text = some ts)
    (c : Char) : (texts ts).count c ≤ text.count c :=
  (texts_sublist h).count_le c

/-- A delimiter stands in a quoted text twice for each time it stands in the content, and
twice around it. -/
theorem count_quote (q : Char) (s : List Char) : (quote q s).count q = 2 * s.count q + 2 := by
  have hdouble : (double q s).count q = 2 * s.count q := by
    induction s with
    | nil => rfl
    | cons c s ih =>
      by_cases hc : c = q
      · rw [hc, double_cons_delimiter, List.count_cons_self, List.count_cons_self,
          List.count_cons_self, ih]
        omega
      · rw [double_cons_of_ne hc, List.count_cons_of_ne hc, List.count_cons_of_ne hc, ih]
  rw [quote, List.count_cons_self, List.count_append, hdouble, List.count_singleton_self]

end SqlTokens
