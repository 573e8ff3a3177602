import DuckdbOracle.Foundations.SqlInsert

/-!
# Reading and answering a SELECT

The tokens of a SELECT over one table or one inline view, and the statement they say.
An item of the list and a condition are expressions, of which the reader knows where
they end: at a separator or a keyword that is not inside of parentheses of the
expression itself.  An inline view is any query, and ends where its parenthesis is
closed.

What a statement writes, it reads (`readSelect?_tokens`).  For the inline view this has
a converse: a view that is read back is one whose parentheses match
(`inside_of_readParts?`), so a text that is wrapped without being looked at is read as
one view exactly if they do.

A parenthesis behind a text closes it (`scan_closing`), but not if the text ends in a line
comment (`count_behind_comment`).

`SelectStatement.answer` is the meaning of a statement: the rows of the source on which
all conditions are TRUE, in their order, cut to the columns of the list.  What a source
holds and what a condition means is left open.
-/

namespace SqlTokens

/-! ## Statements -/

/-- What a SELECT reads. -/
inductive Source where
  | table (schema object : List Char)
  | view (query : List Token)
  deriving DecidableEq

/-- A SELECT. -/
structure SelectStatement where
  items : List (List Token)
  source : Source
  conditions : List (List Token)
  deriving DecidableEq

/-- Expressions with a token between them. -/
def separated (sep : Token) : List (List Token) → List Token
  | [] => []
  | [e] => e
  | e :: f :: es => e ++ sep :: separated sep (f :: es)

def Source.tokens : Source → List Token
  | .table schema object => [.name schema, .symbol '.', .name object]
  | .view query => .symbol '(' :: (query ++ [.symbol ')'])

/-- The conditions, with the keyword if there are any. -/
def whereTokens (conditions : List (List Token)) : List Token :=
  if conditions = [] then [] else keyword "WHERE" :: separated (keyword "AND") conditions

/-- The tokens of a statement. -/
def SelectStatement.tokens (s : SelectStatement) : List Token :=
  keyword "SELECT" :: (separated (.symbol ',') s.items ++
    keyword "FROM" :: (s.source.tokens ++ whereTokens s.conditions))

/-! ## Reading -/

/-- The number of open parentheses of an expression after a token; there is none if the
token ends the expression. -/
def Token.within (ends : Token → Bool) (depth : ℕ) (token : Token) : Option ℕ :=
  if depth = 0 ∧ ends token = true then none
  else if token = .symbol '(' then some (depth + 1)
  else if token = .symbol ')' then if depth = 0 then none else some (depth - 1)
  else some depth

/-- The number of open parentheses after a part of an expression. -/
def inside (ends : Token → Bool) (depth : ℕ) (e : List Token) : Option ℕ :=
  e.foldlM (Token.within ends) depth

/-- The expressions up to a token that stops them, and what follows; `rev` has been read of
the first of them, and `depth` of its parentheses are open. -/
def readParts? (sep stop : Token → Bool) (depth : ℕ) (rev : List Token) :
    List Token → Option (List (List Token) × List Token)
  | [] => if depth = 0 then some ([rev.reverse], []) else none
  | token :: rest =>
    match token.within (fun t => sep t || stop t) depth with
    | some depth' => readParts? sep stop depth' (token :: rev) rest
    | none =>
      if sep token = true then
        (readParts? sep stop 0 [] rest).map fun p => (rev.reverse :: p.1, p.2)
      else if stop token = true then some ([rev.reverse], token :: rest)
      else none

def isComma (t : Token) : Bool := t = .symbol ','

def isFrom (t : Token) : Bool := t = keyword "FROM"

def isAnd (t : Token) : Bool := t = keyword "AND"

def isClosing (t : Token) : Bool := t = .symbol ')'

/-- No token at all. -/
def isNone (_ : Token) : Bool := false

/-- What ends an item, a view and a condition. -/
def endsItem (t : Token) : Bool := isComma t || isFrom t

def endsView (t : Token) : Bool := isNone t || isClosing t

def endsCondition (t : Token) : Bool := isAnd t || isNone t

/-- A source, and what follows it. -/
def readSource? : List Token → Option (Source × List Token)
  | .delimited '"' schema :: .symbol '.' :: .delimited '"' object :: rest =>
    some (.table schema object, rest)
  | .symbol '(' :: rest =>
    match readParts? isNone isClosing 0 [] rest with
    | some ([query], _ :: rest) => some (.view query, rest)
    | _ => none
  | _ => none

/-- The conditions up to the end. -/
def readWhere? : List Token → Option (List (List Token))
  | [] => some []
  | first :: rest =>
    if first = keyword "WHERE" then
      match readParts? isAnd isNone 0 [] rest with
      | some (conditions, []) => some conditions
      | _ => none
    else none

/-- What follows the items. -/
def readBody? (items : List (List Token)) (rest : List Token) : Option SelectStatement :=
  (readSource? rest).bind fun p =>
    (readWhere? p.2).bind fun conditions =>
      if [] ∈ items ∨ [] ∈ conditions then none else some ⟨items, p.1, conditions⟩

/-- **The statement that tokens say.** -/
def readSelect? : List Token → Option SelectStatement
  | [] => none
  | first :: rest =>
    if first = keyword "SELECT" then
      match readParts? isComma isFrom 0 [] rest with
      | some (items, _ :: rest) => readBody? items rest
      | _ => none
    else none

/-! ## What is written is read -/

section

variable {sep stop : Token → Bool} {depth depth' : ℕ}

theorem inside_cons_eq_some_iff {ends : Token → Bool} {t : Token} {e : List Token} :
    inside ends depth (t :: e) = some depth' ↔
      ∃ d, t.within ends depth = some d ∧ inside ends d e = some depth' :=
  Option.bind_eq_some_iff

theorem inside_append {ends : Token → Bool} {e f : List Token} {mid : ℕ}
    (he : inside ends depth e = some mid) (hf : inside ends mid f = some depth') :
    inside ends depth (e ++ f) = some depth' := by
  rw [inside, List.foldlM_append]
  exact Option.bind_eq_some_iff.mpr ⟨mid, he, hf⟩

/-- Expressions with a token between them that is within an expression as well. -/
theorem inside_separated {ends : Token → Bool} {t : Token} {es : List (List Token)}
    (ht : t.within ends 0 = some 0) (h : ∀ e ∈ es, inside ends 0 e = some 0) :
    inside ends 0 (separated t es) = some 0 := by
  induction es with
  | nil => rfl
  | cons e es ih =>
    have hfirst := h e List.mem_cons_self
    cases es with
    | nil => exact hfirst
    | cons f es =>
      have hrest := ih fun g hg => h g (List.mem_cons_of_mem e hg)
      exact inside_append hfirst (inside_cons_eq_some_iff.mpr ⟨0, ht, hrest⟩)

/-- Whatever ends an expression, an open parenthesis is closed by the expression itself, so
the expression stays within a view. -/
theorem inside_endsView {ends : Token → Bool} {e : List Token}
    (h : inside ends depth e = some depth') : inside endsView depth e = some depth' := by
  induction e generalizing depth with
  | nil => exact h
  | cons t e ih =>
    obtain ⟨d, hfirst, hrest⟩ := inside_cons_eq_some_iff.mp h
    refine inside_cons_eq_some_iff.mpr ⟨d, ?_, ih hrest⟩
    have hends : ¬ (depth = 0 ∧ ends t = true) := by
      intro hboth
      rw [Token.within, if_pos hboth] at hfirst
      exact nomatch hfirst
    rw [Token.within, if_neg hends] at hfirst
    rw [Token.within, if_neg ?_, hfirst]
    rintro ⟨hdepth, hclosing⟩
    have ht : t = .symbol ')' := by simpa [endsView, isNone, isClosing] using hclosing
    rw [ht, hdepth] at hfirst
    exact nomatch hfirst

/-- A part of an expression is read into the expression. -/
theorem readParts?_append {e : List Token}
    (h : inside (fun t => sep t || stop t) depth e = some depth') (rev rest : List Token) :
    readParts? sep stop depth rev (e ++ rest) =
      readParts? sep stop depth' (e.reverse ++ rev) rest := by
  induction e generalizing depth rev with
  | nil =>
    obtain rfl := Option.some.inj h
    rfl
  | cons t e ih =>
    obtain ⟨d, hfirst, hrest⟩ := inside_cons_eq_some_iff.mp h
    rw [List.cons_append, readParts?, hfirst, List.reverse_cons, List.append_assoc]
    exact ih hrest (t :: rev)

/-- What is read of one expression matches its parentheses. -/
theorem inside_of_readParts? {rev tokens query rest : List Token}
    (hsep : ∀ t, sep t = false)
    (h : readParts? sep stop depth rev tokens = some ([query], rest)) :
    ∃ e, query = rev.reverse ++ e ∧ tokens = e ++ rest ∧
      inside (fun t => sep t || stop t) depth e = some 0 := by
  induction tokens generalizing depth rev with
  | nil =>
    rw [readParts?] at h
    split at h
    · next hdepth =>
      obtain ⟨hquery, rfl⟩ := Prod.mk.inj (Option.some.inj h)
      refine ⟨[], ?_, rfl, by rw [hdepth]; rfl⟩
      rw [List.append_nil]
      exact (List.cons.inj hquery).1.symm
    · exact nomatch h
  | cons t tokens ih =>
    rw [readParts?] at h
    split at h
    · next d hwithin =>
      obtain ⟨e, hquery, htokens, hinside⟩ := ih h
      refine ⟨t :: e, ?_, by rw [htokens, List.cons_append], ?_⟩
      · rw [hquery, List.reverse_cons, List.append_assoc]
        rfl
      · exact inside_cons_eq_some_iff.mpr ⟨d, hwithin, hinside⟩
    · next hwithin =>
      rw [if_neg (by simp [hsep])] at h
      split at h
      · next hstop =>
        obtain ⟨hquery, rfl⟩ := Prod.mk.inj (Option.some.inj h)
        have hdepth : depth = 0 := by
          by_contra hne
          rw [Token.within, if_neg (by simp [hne])] at hwithin
          split at hwithin
          · exact nomatch hwithin
          · split at hwithin
            · exact nomatch hwithin
            · exact nomatch hwithin
        refine ⟨[], ?_, rfl, by rw [hdepth]; rfl⟩
        rw [List.append_nil]
        exact (List.cons.inj hquery).1.symm
      · exact nomatch h

/-- What stops a view is its closing parenthesis. -/
theorem closing_of_readParts? {rev tokens rest : List Token} {parts : List (List Token)}
    {t : Token} (h : readParts? isNone isClosing depth rev tokens = some (parts, t :: rest)) :
    t = .symbol ')' := by
  induction tokens generalizing depth rev with
  | nil =>
    rw [readParts?] at h
    split at h
    · obtain ⟨-, hrest⟩ := Prod.mk.inj (Option.some.inj h)
      exact nomatch hrest
    · exact nomatch h
  | cons u tokens ih =>
    rw [readParts?] at h
    split at h
    · exact ih h
    · rw [if_neg (by simp [isNone])] at h
      split at h
      · next hstop =>
        obtain ⟨-, hrest⟩ := Prod.mk.inj (Option.some.inj h)
        obtain ⟨rfl, -⟩ := List.cons.inj hrest
        exact of_decide_eq_true hstop
      · exact nomatch h

/-- A token that ends an expression at depth 0 is not within it. -/
theorem within_of_ends {ends : Token → Bool} {t : Token} (h : ends t = true) :
    t.within ends 0 = none :=
  if_pos ⟨rfl, h⟩

/-- Expressions are read up to the end, or up to a token that stops them. -/
theorem readParts?_separated {t : Token} {parts : List (List Token)} {rest : List Token}
    (hne : parts ≠ []) (hsep : sep t = true)
    (h : ∀ e ∈ parts, inside (fun t => sep t || stop t) 0 e = some 0)
    (hrest : ∀ u, rest.head? = some u → sep u = false ∧ stop u = true) :
    readParts? sep stop 0 [] (separated t parts ++ rest) = some (parts, rest) := by
  induction parts with
  | nil => exact absurd rfl hne
  | cons e parts ih =>
    have hfirst := h e List.mem_cons_self
    cases parts with
    | nil =>
      rw [separated, readParts?_append hfirst, List.append_nil]
      cases rest with
      | nil => rw [readParts?, if_pos rfl, List.reverse_reverse]
      | cons u rest =>
        obtain ⟨hu, hstop⟩ := hrest u rfl
        rw [readParts?, within_of_ends (by simp [hstop]), if_neg (by simp [hu]), if_pos hstop,
          List.reverse_reverse]
    | cons f parts =>
      have htail := ih (List.cons_ne_nil f parts) fun g hg => h g (List.mem_cons_of_mem e hg)
      rw [separated, List.append_assoc, readParts?_append hfirst, List.append_nil,
        List.cons_append, readParts?, within_of_ends (by simp [hsep]), if_pos hsep, htail,
        List.reverse_reverse]
      rfl

end

/-- A statement whose parts end where they end. -/
structure SelectStatement.WellFormed (s : SelectStatement) : Prop where
  ne_nil : s.items ≠ []
  item : ∀ e ∈ s.items, e ≠ [] ∧ inside endsItem 0 e = some 0
  view : ∀ query, s.source = .view query → inside endsView 0 query = some 0
  condition : ∀ e ∈ s.conditions, e ≠ [] ∧ inside endsCondition 0 e = some 0

theorem readSource?_tokens {source : Source}
    (h : ∀ query, source = .view query → inside endsView 0 query = some 0) (rest : List Token) :
    readSource? (source.tokens ++ rest) = some (source, rest) := by
  cases source with
  | table schema object => rfl
  | view query =>
    have hview : readParts? isNone isClosing 0 [] (query ++ .symbol ')' :: rest) =
        some ([query], .symbol ')' :: rest) := by
      rw [readParts?_append (h query rfl), List.append_nil, readParts?, within_of_ends rfl]
      show some ([query.reverse.reverse], _) = _
      rw [List.reverse_reverse]
    rw [Source.tokens, List.cons_append, List.append_assoc, List.singleton_append, readSource?,
      hview]

theorem readWhere?_tokens {conditions : List (List Token)}
    (h : ∀ e ∈ conditions, inside endsCondition 0 e = some 0) :
    readWhere? (whereTokens conditions) = some conditions := by
  by_cases hnil : conditions = []
  · rw [whereTokens, if_pos hnil, hnil]
    rfl
  · have hparts : readParts? isAnd isNone 0 [] (separated (keyword "AND") conditions ++ []) =
        some (conditions, []) := readParts?_separated hnil rfl h fun u hu => nomatch hu
    rw [List.append_nil] at hparts
    rw [whereTokens, if_neg hnil, readWhere?, if_pos rfl, hparts]

/-- The items and the rest of a statement are read one after the other. -/
theorem readSelect?_of_items {items : List (List Token)} (hne : items ≠ [])
    (h : ∀ e ∈ items, inside endsItem 0 e = some 0) (rest : List Token) :
    readSelect? (keyword "SELECT" :: (separated (.symbol ',') items ++ keyword "FROM" :: rest)) =
      readBody? items rest := by
  have hfrom : ∀ u, (keyword "FROM" :: rest).head? = some u →
      isComma u = false ∧ isFrom u = true := by
    intro u hu
    obtain rfl := Option.some.inj hu
    exact ⟨rfl, rfl⟩
  have hparts : readParts? isComma isFrom 0 []
      (separated (.symbol ',') items ++ keyword "FROM" :: rest) =
        some (items, keyword "FROM" :: rest) := readParts?_separated hne rfl h hfrom
  rw [readSelect?, if_pos rfl, hparts]

/-- **A statement that is written is read back.** -/
theorem readSelect?_tokens {s : SelectStatement} (h : s.WellFormed) :
    readSelect? s.tokens = some s := by
  have hnil : ¬ ([] ∈ s.items ∨ [] ∈ s.conditions) := by
    rintro (hmem | hmem)
    · exact (h.item [] hmem).1 rfl
    · exact (h.condition [] hmem).1 rfl
  rw [SelectStatement.tokens, readSelect?_of_items h.ne_nil fun e he => (h.item e he).2, readBody?,
    readSource?_tokens h.view, Option.bind_some, readWhere?_tokens fun e he => (h.condition e he).2,
    Option.bind_some, if_neg hnil]

/-- A statement over a view is read from its tokens only if the view's parentheses
match, and the conditions follow. -/
theorem of_readBody?_view {items items' conditions : List (List Token)}
    {query rest : List Token}
    (h : readBody? items (.symbol '(' :: rest) = some ⟨items', .view query, conditions⟩) :
    ∃ more, rest = query ++ .symbol ')' :: more ∧ inside endsView 0 query = some 0 ∧
      readWhere? more = some conditions := by
  obtain ⟨⟨source, after⟩, hsource, hbody⟩ := Option.bind_eq_some_iff.mp h
  obtain ⟨found, hwhere, hbody⟩ := Option.bind_eq_some_iff.mp hbody
  dsimp only at hbody hwhere
  split at hbody
  · exact nomatch hbody
  · obtain ⟨-, rfl, rfl⟩ := SelectStatement.mk.inj (Option.some.inj hbody)
    rw [readSource?] at hsource
    split at hsource
    · next query' token more hparts =>
      obtain ⟨hview, rfl⟩ := Prod.mk.inj (Option.some.inj hsource)
      obtain rfl := Source.view.inj hview
      obtain ⟨e, rfl, hrest, hinside⟩ := inside_of_readParts? (fun _ => rfl) hparts
      refine ⟨more, ?_, hinside, hwhere⟩
      rw [hrest, closing_of_readParts? hparts]
    · exact nomatch hsource

/-- There is always an expression to read, though it may be empty. -/
theorem ne_nil_of_readParts? {sep stop : Token → Bool} {depth : ℕ} {rev tokens rest : List Token}
    {parts : List (List Token)} (h : readParts? sep stop depth rev tokens = some (parts, rest)) :
    parts ≠ [] := by
  induction tokens generalizing depth rev parts with
  | nil =>
    rw [readParts?] at h
    split at h
    · obtain ⟨rfl, -⟩ := Prod.mk.inj (Option.some.inj h)
      exact List.cons_ne_nil _ _
    · exact nomatch h
  | cons t tokens ih =>
    rw [readParts?] at h
    split at h
    · exact ih h
    · split at h
      · obtain ⟨p, -, heq⟩ := Option.map_eq_some_iff.mp h
        obtain ⟨rfl, -⟩ := Prod.mk.inj heq
        exact List.cons_ne_nil _ _
      · split at h
        · obtain ⟨rfl, -⟩ := Prod.mk.inj (Option.some.inj h)
          exact List.cons_ne_nil _ _
        · exact nomatch h

/-- **No statement without items is read.** -/
theorem items_ne_nil {tokens : List Token} {s : SelectStatement}
    (h : readSelect? tokens = some s) : s.items ≠ [] := by
  cases tokens with
  | nil => exact nomatch h
  | cons first rest =>
    rw [readSelect?] at h
    split at h
    · split at h
      · next items token more hparts =>
        obtain ⟨source, -, hbody⟩ := Option.bind_eq_some_iff.mp h
        obtain ⟨conditions, -, hbody⟩ := Option.bind_eq_some_iff.mp hbody
        split at hbody
        · exact nomatch hbody
        · obtain rfl := Option.some.inj hbody
          exact ne_nil_of_readParts? hparts
      · exact nomatch h
    · exact nomatch h

/-! ## Closing a text -/

/-- The text ends in a line comment, which swallows what is written behind it. -/
def EndsInComment (text : List Char) : Prop := (run .idle text).2 = .lineComment

instance (text : List Char) : Decidable (EndsInComment text) :=
  inferInstanceAs (Decidable (_ = _))

/-- What the lexer is inside of began with a delimiter. -/
def Mode.Sound : Mode → Prop
  | .inside q _ => IsDelimiter q
  | .closing q _ => IsDelimiter q
  | _ => True

theorem sound_start (c : Char) : (start c).2.Sound := by
  unfold start
  split_ifs with hblank hquote hcolon hslash hdash hword
  · trivial
  · exact hquote
  · trivial
  · trivial
  · trivial
  · trivial
  · trivial

theorem sound_next {mode : Mode} (h : mode.Sound) (c : Char) : (mode.next c).2.Sound := by
  cases mode with
  | idle => exact sound_start c
  | word rev =>
    rw [Mode.next]
    split
    · trivial
    · exact sound_start c
  | placeholder rev =>
    rw [Mode.next]
    split
    · trivial
    · exact sound_start c
  | inside q rev =>
    rw [Mode.next]
    split
    · exact h
    · exact h
  | closing q rev =>
    rw [Mode.next]
    split
    · exact h
    · exact sound_start c
  | slash =>
    rw [Mode.next]
    split
    · trivial
    · exact sound_start c
  | dash =>
    rw [Mode.next]
    split
    · trivial
    · exact sound_start c
  | comment =>
    rw [Mode.next]
    split <;> trivial
  | commentStar =>
    rw [Mode.next]
    split_ifs <;> trivial
  | lineComment =>
    rw [Mode.next]
    split <;> trivial

theorem sound_run {mode : Mode} (h : mode.Sound) (text : List Char) :
    (run mode text).2.Sound := by
  induction text generalizing mode with
  | nil => exact h
  | cons c text ih => exact ih (sound_next h c)

/-- A parenthesis after the end of the tokens. -/
theorem next_closing {mode : Mode} {last : List Token} (h : mode.Sound)
    (hcomment : mode ≠ .lineComment) (hlast : mode.finish = some last) :
    mode.next ')' = (last ++ [.symbol ')'], .idle) := by
  cases mode with
  | closing q rev =>
    obtain rfl := Option.some.inj hlast
    rcases h with rfl | rfl <;> rfl
  | lineComment => exact absurd rfl hcomment
  | inside q rev => exact nomatch hlast
  | comment => exact nomatch hlast
  | commentStar => exact nomatch hlast
  | _ =>
    obtain rfl := Option.some.inj hlast
    rfl

/-- **A parenthesis behind a text closes it**, if it does not end in a line comment. -/
theorem scan_closing {text : List Char} {ts : List Token} (h : tokens? text = some ts)
    (hcomment : ¬ EndsInComment text) (rest : List Char) :
    scan .idle (text ++ ')' :: rest) = (scan .idle rest).map ((ts ++ [.symbol ')']) ++ ·) := by
  obtain ⟨last, hlast, rfl⟩ := Option.map_eq_some_iff.mp h
  have hsound : (run .idle text).2.Sound := sound_run (show Mode.idle.Sound from trivial) text
  rw [scan_append, scan_cons, next_closing hsound hcomment hlast, Option.map_map]
  congr 1
  funext tokens
  simp only [Function.comp_apply, List.append_assoc]

/-- A text that goes on in any way does not end in a line comment. -/
theorem ReadsAs.not_endsInComment {text : List Char} {ts : List Token} (h : ReadsAs text ts) :
    ¬ EndsInComment text := by
  intro hcomment
  have hstops : Stops [')'] := by
    intro c hc
    obtain rfl := Option.some.inj hc
    exact ⟨rfl, by decide⟩
  have hwhole := h.tokens?
  have hclosed := h [')'] hstops
  rw [SqlTokens.tokens?, scan, hcomment] at hwhole
  rw [scan_append, hcomment] at hclosed
  have hts : (run .idle text).1 = ts := by simpa [Mode.finish] using hwhole
  rw [hts] at hclosed
  simp [scan, run, Mode.next, Mode.finish, start, isBlank, isWordChar] at hclosed

/-- Behind a line comment the parenthesis is lost: no character stands in the tokens that
follow more often than in the text behind it. -/
theorem count_behind_comment {text rest : List Char} {ts more : List Token}
    (h : tokens? text = some ts) (hcomment : EndsInComment text)
    (hall : scan .idle (text ++ ')' :: rest) = some (ts ++ more)) (c : Char) :
    (texts more).count c ≤ rest.count c := by
  obtain ⟨last, hlast, rfl⟩ := Option.map_eq_some_iff.mp h
  rw [hcomment] at hlast
  obtain rfl := Option.some.inj hlast
  have hnext : Mode.lineComment.next ')' = ([], .lineComment) := rfl
  rw [scan_append, hcomment, scan_cons, hnext, Option.map_map] at hall
  obtain ⟨found, hfound, heq⟩ := Option.map_eq_some_iff.mp hall
  have hmore : found = more := by simpa using heq
  obtain ⟨end', hend, rfl⟩ := Option.map_eq_some_iff.mp hfound
  rw [← hmore, texts_append]
  exact (((sublist_finish hend).append_left _).trans (sublist_run .lineComment rest)).count_le c

/-- What is read of expressions was written. -/
theorem count_of_readParts? {sep stop : Token → Bool} {depth : ℕ} {rev tokens rest : List Token}
    {parts : List (List Token)} (h : readParts? sep stop depth rev tokens = some (parts, rest))
    (c : Char) :
    (texts parts.flatten).count c ≤ (texts rev.reverse).count c + (texts tokens).count c := by
  induction tokens generalizing depth rev parts with
  | nil =>
    rw [readParts?] at h
    split at h
    · obtain ⟨rfl, -⟩ := Prod.mk.inj (Option.some.inj h)
      simp
    · exact nomatch h
  | cons t tokens ih =>
    rw [readParts?] at h
    split at h
    · next d hwithin =>
      have hrest := ih h
      simp only [List.reverse_cons, texts_append, texts_cons, texts_nil, List.append_nil,
        List.count_append] at hrest ⊢
      omega
    · split at h
      · obtain ⟨⟨more, behind⟩, hmore, heq⟩ := Option.map_eq_some_iff.mp h
        obtain ⟨rfl, rfl⟩ := Prod.mk.inj heq
        have hrest := ih hmore
        simp only [List.reverse_nil, List.flatten_cons, texts_append, texts_cons, texts_nil,
          List.count_append, List.count_nil] at hrest ⊢
        omega
      · split at h
        · obtain ⟨rfl, -⟩ := Prod.mk.inj (Option.some.inj h)
          simp
        · exact nomatch h

/-- What is read of conditions was written. -/
theorem count_of_readWhere? {tokens : List Token} {conditions : List (List Token)}
    (h : readWhere? tokens = some conditions) (c : Char) :
    (texts conditions.flatten).count c ≤ (texts tokens).count c := by
  cases tokens with
  | nil =>
    obtain rfl := Option.some.inj h
    exact Nat.zero_le _
  | cons first rest =>
    rw [readWhere?] at h
    split at h
    · split at h
      · next found hparts =>
        obtain rfl := Option.some.inj h
        have hcount := count_of_readParts? hparts c
        rw [texts_cons, List.count_append]
        simp only [List.reverse_nil, texts_nil, List.count_nil] at hcount
        omega
      · exact nomatch h
    · exact nomatch h

/-! ## The answer to a statement -/

/-- A table: the names of its columns, and what each row has in a column. -/
structure Table (V : Type*) where
  columns : List (List Char)
  rows : List (List Char → V)

/-- The quoted name that a token is. -/
def Token.name? : Token → Option (List Char)
  | .delimited '"' c => some c
  | _ => none

/-- The column that an item is. -/
def itemColumn? : List Token → Option (List Char)
  | [token] => token.name?
  | _ => none

/-- The quoted names of the items and the conditions. -/
def SelectStatement.names (s : SelectStatement) : List (List Char) :=
  (s.items ++ s.conditions).flatten.filterMap Token.name?

section

variable {V : Type*} {table : Source → Option (Table V)}
  {condition : List Token → Option ((List Char → V) → Bool)}

/-- **The answer to a statement** whose items are columns: there is none unless every name
is that of one column of the source. -/
def SelectStatement.answer (table : Source → Option (Table V))
    (condition : List Token → Option ((List Char → V) → Bool)) (s : SelectStatement) :
    Option (List (List V)) :=
  (table s.source).bind fun t =>
    (s.items.mapM itemColumn?).bind fun columns =>
      (s.conditions.mapM condition).bind fun conditions =>
        if ∀ c ∈ s.names, t.columns.count c = 1 then
          some ((t.rows.filter fun row => conditions.all (· row)).map fun row => columns.map row)
        else none

end

end SqlTokens
