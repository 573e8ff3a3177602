import DuckdbOracle.Foundations.SqlTokens

/-!
# Reading an INSERT

The tokens of an INSERT of one row, and the statement they say: a table, with or without a
schema, the columns that it lists, and a value for each of them.  A value is an expression,
of which the reader only knows where it ends: at a comma or a closing parenthesis that is
not inside of parentheses of the expression itself (`after`).

What a statement writes, it reads (`readInsert?_tokens`).  A placeholder is bound by its
position among all placeholders of the statement, so `fed` lists, by position, the columns
whose values the placeholders stand in.
-/

namespace SqlTokens

/-! ## Statements -/

/-- An INSERT of one row. -/
structure InsertStatement where
  schema : Option (List Char)
  object : List Char
  columns : List (List Char)
  values : List (List Token)
  deriving DecidableEq

def keyword (s : String) : Token := .word s.toList

/-- Expressions, separated by commas. -/
def listTokens : List (List Token) → List Token
  | [] => []
  | [e] => e
  | e :: f :: es => e ++ .symbol ',' :: listTokens (f :: es)

/-- A table, with its schema if it has one. -/
def tableTokens (schema : Option (List Char)) (object : List Char) : List Token :=
  (schema.elim [] fun s => [.name s, .symbol '.']) ++ [.name object]

/-- The tokens of a statement. -/
def InsertStatement.tokens (s : InsertStatement) : List Token :=
  keyword "INSERT" :: keyword "INTO" :: (tableTokens s.schema s.object ++
    .symbol '(' :: (listTokens (s.columns.map fun c => [.name c]) ++
      .symbol ')' :: keyword "VALUES" :: .symbol '(' :: (listTokens s.values ++ [.symbol ')'])))

/-! ## Reading -/

/-- The columns, up to the parenthesis that closes them, and what follows. -/
def readColumns? : List Token → Option (List (List Char) × List Token)
  | .delimited '"' c :: .symbol ')' :: rest => some ([c], rest)
  | .delimited '"' c :: .symbol ',' :: rest => (readColumns? rest).map fun p => (c :: p.1, p.2)
  | _ => none

/-- The number of open parentheses of a value after a token; there is none if the token
ends the value. -/
def Token.depthAfter (depth : ℕ) : Token → Option ℕ
  | .symbol '(' => some (depth + 1)
  | .symbol ')' => if depth = 0 then none else some (depth - 1)
  | .symbol ',' => if depth = 0 then none else some depth
  | _ => some depth

/-- The values, up to the parenthesis that closes them and ends the statement; `rev` has been
read of the first of them, and `depth` of its parentheses are open. -/
def readValues? (depth : ℕ) (rev : List Token) : List Token → Option (List (List Token))
  | [] => none
  | token :: rest =>
    match token.depthAfter depth with
    | some depth' => readValues? depth' (token :: rev) rest
    | none =>
      if token = .symbol ',' then (readValues? 0 [] rest).map (rev.reverse :: ·)
      else if rest = [] then some [rev.reverse]
      else none

/-- What follows the table. -/
def readRow? (schema : Option (List Char)) (object : List Char) :
    List Token → Option InsertStatement
  | .symbol '(' :: rest =>
    match readColumns? rest with
    | some (columns, values :: .symbol '(' :: rest) =>
      if values = keyword "VALUES" then
        (readValues? 0 [] rest).map fun values => ⟨schema, object, columns, values⟩
      else none
    | _ => none
  | _ => none

/-- **The statement that tokens say.** -/
def readInsert? : List Token → Option InsertStatement
  | insert :: into :: .delimited '"' schema :: .symbol '.' :: .delimited '"' object :: rest =>
    if insert = keyword "INSERT" ∧ into = keyword "INTO" then readRow? (some schema) object rest
    else none
  | insert :: into :: .delimited '"' object :: rest =>
    if insert = keyword "INSERT" ∧ into = keyword "INTO" then readRow? none object rest else none
  | _ => none

/-! ## What is written is read -/

theorem readColumns?_listTokens {columns : List (List Char)} (h : columns ≠ [])
    (rest : List Token) :
    readColumns? (listTokens (columns.map fun c => [.name c]) ++ .symbol ')' :: rest) =
      some (columns, rest) := by
  induction columns with
  | nil => exact absurd rfl h
  | cons c columns ih =>
    cases columns with
    | nil => rfl
    | cons d columns =>
      have hrest := ih (List.cons_ne_nil d columns)
      show (readColumns? (listTokens ((d :: columns).map fun c => [.name c]) ++
        .symbol ')' :: rest)).map (fun p => (c :: p.1, p.2)) = _
      rw [hrest]
      rfl

/-- The number of open parentheses after a part of a value. -/
def after (depth : ℕ) (e : List Token) : Option ℕ := e.foldlM Token.depthAfter depth

/-- A part of a value is read into the value. -/
theorem readValues?_append {depth depth' : ℕ} {e : List Token} (h : after depth e = some depth')
    (rev rest : List Token) :
    readValues? depth rev (e ++ rest) = readValues? depth' (e.reverse ++ rev) rest := by
  induction e generalizing depth rev with
  | nil =>
    obtain rfl := Option.some.inj h
    rfl
  | cons token e ih =>
    obtain ⟨mid, hfirst, hrest⟩ := Option.bind_eq_some_iff.mp h
    rw [List.cons_append, readValues?, hfirst, List.reverse_cons, List.append_assoc]
    exact ih hrest (token :: rev)

/-- Values are read back, if each ends where it ends. -/
theorem readValues?_listTokens {values : List (List Token)} (hne : values ≠ [])
    (h : ∀ e ∈ values, after 0 e = some 0) :
    readValues? 0 [] (listTokens values ++ [.symbol ')']) = some values := by
  induction values with
  | nil => exact absurd rfl hne
  | cons e values ih =>
    have hfirst := h e List.mem_cons_self
    cases values with
    | nil =>
      rw [listTokens, readValues?_append hfirst, List.append_nil]
      exact congrArg (fun e => some [e]) e.reverse_reverse
    | cons f values =>
      have hrest := ih (List.cons_ne_nil f values) fun g hg => h g (List.mem_cons_of_mem e hg)
      have hcomma : readValues? 0 e.reverse
          (.symbol ',' :: (listTokens (f :: values) ++ [.symbol ')'])) =
            (readValues? 0 [] (listTokens (f :: values) ++ [.symbol ')'])).map
              (e.reverse.reverse :: ·) := rfl
      rw [listTokens, List.append_assoc, readValues?_append hfirst, List.append_nil,
        List.cons_append, hcomma, hrest, List.reverse_reverse]
      rfl

/-- **A statement that is written is read back.** -/
theorem readInsert?_tokens {s : InsertStatement} (hcolumns : s.columns ≠ [])
    (hvalues : s.values ≠ []) (h : ∀ e ∈ s.values, after 0 e = some 0) :
    readInsert? s.tokens = some s := by
  have hrow : ∀ schema object, readRow? schema object
      (.symbol '(' :: (listTokens (s.columns.map fun c => [.name c]) ++
        .symbol ')' :: keyword "VALUES" :: .symbol '(' :: (listTokens s.values ++
          [.symbol ')']))) = some ⟨schema, object, s.columns, s.values⟩ := by
    intro schema object
    rw [readRow?, readColumns?_listTokens hcolumns]
    show (if keyword "VALUES" = keyword "VALUES" then _ else _) = _
    rw [if_pos rfl, readValues?_listTokens hvalues h]
    rfl
  have htable : ∀ schema object rest, readInsert? (keyword "INSERT" :: keyword "INTO" ::
      (tableTokens schema object ++ .symbol '(' :: rest)) =
        readRow? schema object (.symbol '(' :: rest) := by
    intro schema object rest
    have hkeywords : (if keyword "INSERT" = keyword "INSERT" ∧ keyword "INTO" = keyword "INTO"
        then readRow? schema object (.symbol '(' :: rest) else none) =
          readRow? schema object (.symbol '(' :: rest) := if_pos ⟨rfl, rfl⟩
    cases schema with
    | none => exact hkeywords
    | some schema => exact hkeywords
  rw [InsertStatement.tokens, htable]
  exact hrow s.schema s.object

/-! ## Placeholders -/

def Token.placeholder? : Token → Option (List Char)
  | .placeholder name => some name
  | _ => none

/-- The placeholders of a value, in their order. -/
def placeholders (e : List Token) : List (List Char) := e.filterMap Token.placeholder?

/-- The columns whose values the placeholders of a statement stand in, in the order of the
placeholders: what is bound to a position goes to the column there. -/
def InsertStatement.fed (s : InsertStatement) : List (List Char) :=
  (s.columns.zip s.values).flatMap fun p => (placeholders p.2).map fun _ => p.1

/-- If every value has one placeholder, the positions are those of the columns. -/
theorem fed_eq_columns {s : InsertStatement} (hlength : s.values.length = s.columns.length)
    (h : ∀ e ∈ s.values, (placeholders e).length = 1) : s.fed = s.columns := by
  obtain ⟨schema, object, columns, values⟩ := s
  induction columns generalizing values with
  | nil => rfl
  | cons c columns ih =>
    cases values with
    | nil => exact absurd hlength (by simp)
    | cons e values =>
      obtain ⟨p, hp⟩ := List.length_eq_one_iff.mp (h e List.mem_cons_self)
      have hrest := ih values (Nat.succ.inj hlength) fun f hf => h f (List.mem_cons_of_mem e hf)
      rw [InsertStatement.fed, List.zip_cons_cons, List.flatMap_cons, hp]
      exact congrArg (c :: ·) hrest

end SqlTokens
