import Mathlib.Algebra.Order.Ring.Unbundled.Rat
import Mathlib.Algebra.Ring.Basic
import Mathlib.Algebra.Ring.Rat
import Mathlib.Data.Char
import Mathlib.Data.List.Lex
import Mathlib.Order.Compare
import DuckdbOracle.Duckdb.Value

/-!
# Oracle's reading of a pushed comparison

The part of Oracle's grammar that a comparison of a column with a literal needs: a
quoted identifier, an operator, and a literal with nothing after it.  A literal is a
number without exponent, a text in single quotes, or `NULL`.  There is no `::` cast,
no boolean literal and no list literal.

The meaning is three-valued.  The empty text is `NULL`, a comparison with `NULL` is
unknown, texts are compared by their codes.  A literal is a `CHAR`: against another one
the shorter text is filled up with blanks first.  A CLOB is compared with nothing.

`readLiteral?_toSQLString` says which DuckDB constants survive the change of dialect:
`NULL`, numbers and texts are read as what they are, and nothing else is read at all.
-/

namespace DuckdbOracle
namespace Oracle

open Duckdb QuotedText

/-! ## The grammar -/

/-- The comparison operators that both dialects write the same way. -/
inductive Symbol where
  | eq
  | lt
  | gt
  | le
  | ge
  deriving DecidableEq

/-- How an operator is written. -/
def Symbol.text : Symbol → String
  | .eq => "="
  | .lt => "<"
  | .gt => ">"
  | .le => "<="
  | .ge => ">="

/-- A literal. -/
inductive Literal where
  | null
  | number (q : ℚ)
  | text (s : List Char)
  deriving DecidableEq

/-- A comparison of a column with a literal. -/
structure Condition where
  column : String
  symbol : Symbol
  literal : Literal
  deriving DecidableEq

/-- The number with the sign. -/
def signed (negative : Bool) (q : ℚ) : ℚ := if negative then -q else q

/-- A number without sign: digits, and digits after a point. -/
def readUnsigned? (s : List Char) : Option ℚ :=
  let whole := s.takeWhile Char.isDigit
  if whole = [] then none
  else
    match s.dropWhile Char.isDigit with
    | [] => some ((Nat.ofDigitChars 10 whole 0 : ℕ) : ℚ)
    | '.' :: fraction =>
      if fraction ≠ [] ∧ fraction.all Char.isDigit = true then
        let unscaled : ℕ := Nat.ofDigitChars 10 fraction (Nat.ofDigitChars 10 whole 0)
        some ((unscaled : ℚ) / 10 ^ fraction.length)
      else none
    | _ => none

/-- A number, with a minus sign in front of it or not. -/
def readNumber? : List Char → Option ℚ
  | '-' :: s => (readUnsigned? s).map (signed true)
  | s => (readUnsigned? s).map (signed false)

/-- A literal that is the whole input. -/
def readLiteral? (s : List Char) : Option Literal :=
  if s = "NULL".toList then some .null
  else
    match read? '\'' s with
    | some (text, []) => some (.text text)
    | some (_, _ :: _) => none
    | none => (readNumber? s).map .number

/-- An operator at the front of an input. -/
def readSymbol? : List Char → Option (Symbol × List Char)
  | '=' :: s => some (.eq, s)
  | '<' :: '=' :: s => some (.le, s)
  | '>' :: '=' :: s => some (.ge, s)
  | '<' :: s => some (.lt, s)
  | '>' :: s => some (.gt, s)
  | _ => none

/-- Skip a blank. -/
def skipBlank : List Char → List Char
  | ' ' :: s => s
  | s => s

/-- A comparison of a column with a literal that is the whole input. -/
def readCondition? (s : List Char) : Option Condition := do
  let (column, s) ← read? '"' s
  let (symbol, s) ← readSymbol? (skipBlank s)
  let literal ← readLiteral? (skipBlank s)
  return ⟨String.ofList column, symbol, literal⟩

/-! ## The meaning -/

/-- Whether an operator holds of the order of its two sides. -/
def Symbol.holds : Symbol → Ordering → Bool
  | .eq, o => o = .eq
  | .lt, o => o = .lt
  | .gt, o => o = .gt
  | .le, o => o ≠ .gt
  | .ge, o => o ≠ .lt

/-- What a column of a row holds: a `NUMBER`, a text of a `VARCHAR2`, of a `CHAR` (with the
blanks at its end) or of a CLOB, or a value of any other type.  A `VARCHAR2` or a `CHAR` has
no empty text. -/
inductive Cell where
  | null
  | number (q : ℚ)
  | text (s : List Char) (nonempty : s ≠ [])
  | char (s : List Char) (nonempty : s ≠ [])
  | lob (s : List Char)
  | other (v : Value)

/-- The text, filled up with blanks. -/
def padTo (n : ℕ) (s : List Char) : List Char := s ++ List.replicate (n - s.length) ' '

@[simp] theorem padTo_cons (n : ℕ) (a : Char) (s : List Char) :
    padTo (n + 1) (a :: s) = a :: padTo n s := by
  simp [padTo]

@[simp] theorem padTo_nil (n : ℕ) : padTo n [] = List.replicate n ' ' := by
  simp [padTo]

theorem readSymbol?_text (symbol : Symbol) (s : List Char) :
    readSymbol? (symbol.text.toList ++ ' ' :: s) = some (symbol, ' ' :: s) := by
  cases symbol <;> rfl

theorem takeWhile_digits {ds rest : List Char} (h : ∀ c ∈ ds, c.isDigit = true)
    (hrest : ∀ c, rest.head? = some c → c.isDigit = false) :
    (ds ++ rest).takeWhile Char.isDigit = ds ∧ (ds ++ rest).dropWhile Char.isDigit = rest := by
  rw [List.takeWhile_append_of_pos h, List.dropWhile_append_of_pos h]
  cases rest with
  | nil => simp
  | cons c rest =>
    have hc := hrest c rfl
    rw [List.takeWhile_cons_of_neg (by simp [hc]), List.dropWhile_cons_of_neg (by simp [hc])]
    exact ⟨List.append_nil ds, rfl⟩

theorem isDigit_fractionText (ds : List (Fin 10)) : (fractionText ds).all Char.isDigit = true := by
  have hdigit : ∀ d : Fin 10, (Nat.digitChar d.val).isDigit = true := by decide
  rw [List.all_eq_true]
  intro c hc
  obtain ⟨d, -, rfl⟩ := List.mem_map.mp hc
  exact hdigit d

/-- The digits of the fraction go on from the whole part. -/
theorem ofDigitChars_fractionText (ds : List (Fin 10)) (whole : ℕ) :
    Nat.ofDigitChars 10 (fractionText ds) whole =
      ds.foldl (fun a d => 10 * a + d.val) whole := by
  induction ds generalizing whole with
  | nil => rfl
  | cons d ds ih =>
    rw [fractionText, List.map_cons, Nat.ofDigitChars_cons_digitChar_of_lt_ten d.isLt,
      List.foldl_cons]
    exact ih _

/-- The text of a number without its sign. -/
def unsignedText (n : PlainNumber) : List Char :=
  Nat.toDigits 10 n.whole ++ (if n.fraction = [] then [] else '.' :: fractionText n.fraction)

theorem readUnsigned?_text (n : PlainNumber) :
    readUnsigned? (unsignedText n) = some ((n.unscaled : ℚ) / 10 ^ n.fraction.length) := by
  have hdigits : ∀ c ∈ Nat.toDigits 10 n.whole, c.isDigit = true :=
    fun _ hc => Nat.isDigit_of_mem_toDigits (by decide) (by decide) hc
  by_cases hfraction : n.fraction = []
  · obtain ⟨htake, hdrop⟩ := @takeWhile_digits _ [] hdigits (by simp)
    have htext : unsignedText n = Nat.toDigits 10 n.whole ++ [] := by
      rw [unsignedText, if_pos hfraction]
    simp only [readUnsigned?, htext, htake, hdrop, if_neg Nat.toDigits_ne_nil]
    simp [PlainNumber.unscaled, hfraction]
  · obtain ⟨htake, hdrop⟩ := @takeWhile_digits _ ('.' :: fractionText n.fraction) hdigits
      (fun c hc => by obtain rfl := Option.some.inj hc; decide)
    have htext : unsignedText n = Nat.toDigits 10 n.whole ++ '.' :: fractionText n.fraction := by
      rw [unsignedText, if_neg hfraction]
    have hne : fractionText n.fraction ≠ [] := by
      simpa [fractionText] using hfraction
    simp only [readUnsigned?, htext, htake, hdrop, if_neg Nat.toDigits_ne_nil,
      if_pos (And.intro hne (isDigit_fractionText n.fraction)), Nat.ofDigitChars_ten_toDigits,
      ofDigitChars_fractionText]
    rw [fractionText, List.length_map, PlainNumber.unscaled]

/-- No number starts with a minus sign twice. -/
theorem head?_unsignedText (n : PlainNumber) :
    ∃ c, (unsignedText n).head? = some c ∧ c.isDigit = true := by
  obtain ⟨c, cs, hcs⟩ := List.exists_cons_of_ne_nil (@Nat.toDigits_ne_nil n.whole 10)
  have hc : c ∈ Nat.toDigits 10 n.whole := by
    rw [hcs]
    exact List.mem_cons_self
  refine ⟨c, by rw [unsignedText, hcs]; rfl, ?_⟩
  exact Nat.isDigit_of_mem_toDigits (by decide) (by decide) hc

theorem text_eq (n : PlainNumber) :
    n.text = (if n.negative then ['-'] else []) ++ unsignedText n := by
  rw [PlainNumber.text, unsignedText, List.append_assoc]

/-- **A plain number is read as its value.** -/
theorem readNumber?_text (n : PlainNumber) : readNumber? n.text = some n.value := by
  have hread := readUnsigned?_text n
  obtain ⟨c, hc, hdigit⟩ := head?_unsignedText n
  rw [text_eq]
  cases hneg : n.negative with
  | true =>
    have hvalue : n.value = signed true ((n.unscaled : ℚ) / 10 ^ n.fraction.length) := by
      rw [PlainNumber.value, hneg, signed, if_pos rfl, if_pos rfl, neg_div]
    rw [if_pos rfl, List.singleton_append, readNumber?, hread, Option.map_some, hvalue]
  | false =>
    have hvalue : n.value = signed false ((n.unscaled : ℚ) / 10 ^ n.fraction.length) := by
      rw [PlainNumber.value, hneg]
      rfl
    rw [if_neg (by simp), List.nil_append, hvalue]
    unfold readNumber?
    split
    · next rest heq =>
      rw [heq] at hc
      obtain rfl := Option.some.inj hc
      exact absurd hdigit (by decide)
    · rw [hread, Option.map_some]

theorem value_ofInt (i : ℤ) : (PlainNumber.ofInt i).value = i := by
  rw [PlainNumber.value, PlainNumber.ofInt]
  simp only [PlainNumber.unscaled, List.foldl_nil, List.length_nil, pow_zero, div_one]
  by_cases hi : i < 0
  · rw [if_pos (by simpa using hi)]
    have habs : (i.natAbs : ℤ) = -i := Int.ofNat_natAbs_of_nonpos (Int.le_of_lt hi)
    rw [← Int.cast_natCast, habs, Int.cast_neg, neg_neg]
  · rw [if_neg (by simpa using hi)]
    have habs : (i.natAbs : ℤ) = i := Int.natAbs_of_nonneg (Int.not_lt.mp hi)
    rw [← Int.cast_natCast, habs]

/-- The literal that stands for a DuckDB constant. -/
def literal? : Value → Option Literal
  | .null => some .null
  | .integer i => some (.number i)
  | .decimal n => some (.number n.value)
  | .varchar s => some (.text s.toList)
  | .boolean _ | .blob _ | .typed _ _ | .list _ => none

theorem ne_null {s : List Char} (h : s.head? ≠ some 'N') : s ≠ "NULL".toList := by
  rintro rfl
  exact h rfl

theorem readLiteral?_number (n : PlainNumber) :
    readLiteral? n.text = some (.number n.value) := by
  obtain ⟨c, hc, hdigit⟩ := head?_unsignedText n
  -- a number starts with a minus sign or a digit
  have hhead : ∃ c, n.text.head? = some c ∧ (c = '-' ∨ c.isDigit = true) := by
    rw [text_eq]
    cases n.negative with
    | true => exact ⟨'-', rfl, Or.inl rfl⟩
    | false => exact ⟨c, hc, Or.inr hdigit⟩
  obtain ⟨c, hc, hform⟩ := hhead
  have hne : ∀ d, ¬ (d = '-' ∨ d.isDigit = true) → n.text.head? ≠ some d := by
    intro d hd heq
    rw [hc] at heq
    exact hd (Option.some.inj heq ▸ hform)
  rw [readLiteral?, if_neg (ne_null (hne 'N' (by decide))), read?_of_head_ne (hne '\'' (by decide)),
    readNumber?_text]
  rfl

theorem readLiteral?_quote (s : List Char) :
    readLiteral? (quote '\'' s) = some (.text s) := by
  have hread : read? '\'' (quote '\'' s ++ []) = some (s, []) := read?_quote s (by simp)
  rw [List.append_nil] at hread
  rw [readLiteral?, if_neg (ne_null (by simp [quote])), hread]

/-- A cast after the text is not read. -/
theorem readLiteral?_cast {s : List Char} (h : '\'' ∉ s) (type : List Char) :
    readLiteral? ('\'' :: (s ++ '\'' :: ':' :: ':' :: type)) = none := by
  have hsql : '\'' :: (s ++ '\'' :: ':' :: ':' :: type) =
      quote '\'' s ++ ':' :: ':' :: type := by
    rw [quote, double_of_not_mem h]
    simp
  have hread : read? '\'' (quote '\'' s ++ ':' :: ':' :: type) = some (s, ':' :: ':' :: type) :=
    read?_quote s (by simp)
  rw [hsql, readLiteral?, if_neg (ne_null (by simp [quote])), hread]

theorem readLiteral?_typed (text : PlainText) (type : String) :
    readLiteral? (Value.typed text type).toSQLString = none := by
  have hsql : (Value.typed text type).toSQLString =
      '\'' :: (text.val.toList ++ '\'' :: ':' :: ':' :: type.toList) := by
    rw [Value.toSQLString]
    simp
  rw [hsql]
  exact readLiteral?_cast text.property type.toList

/-- The text of a blob has no single quote: that byte is not regular. -/
theorem quote_not_mem_blobText (bytes : List UInt8) : '\'' ∉ blobText bytes := by
  have hhex : ∀ n : Fin 16, hexDigit n.val ≠ '\'' := by decide
  intro hmem
  obtain ⟨b, -, hb⟩ := List.mem_flatMap.mp hmem
  have hlt : b.toNat < 256 := b.toNat_lt
  by_cases hregular : isRegularCharacter b = true
  · rw [if_pos hregular, List.mem_singleton] at hb
    have hvalid : b.toNat.isValidChar := Or.inl (by omega)
    have hnat : (Char.ofNat b.toNat).toNat = b.toNat := by
      rw [Char.ofNat, dif_pos hvalid]
      rfl
    rw [← hb] at hnat
    simp [isRegularCharacter, ← hnat] at hregular
  · rw [if_neg hregular] at hb
    simp only [List.mem_cons, List.not_mem_nil, or_false] at hb
    rcases hb with hb | hb | hb | hb
    · exact absurd hb (by decide)
    · exact absurd hb (by decide)
    · exact hhex ⟨b.toNat / 16, by omega⟩ hb.symm
    · exact hhex ⟨b.toNat % 16, by omega⟩ hb.symm

theorem readLiteral?_blob (bytes : List UInt8) :
    readLiteral? (Value.blob bytes).toSQLString = none := by
  rw [Value.toSQLString]
  exact readLiteral?_cast (quote_not_mem_blobText bytes) "BLOB".toList

theorem readLiteral?_list (elements : List Value) :
    readLiteral? (Value.list elements).toSQLString = none := by
  rw [Value.toSQLString, readLiteral?, if_neg (ne_null (by simp)), read?_of_head_ne (by simp)]
  rfl

/-- **What Oracle reads of a DuckDB constant**: `NULL`, numbers and texts as what they
are, and nothing else. -/
theorem readLiteral?_toSQLString (v : Value) : readLiteral? v.toSQLString = literal? v := by
  cases v with
  | null => rfl
  | boolean b => cases b <;> decide
  | integer i => rw [Value.toSQLString, readLiteral?_number, value_ofInt]; rfl
  | decimal n => rw [Value.toSQLString, readLiteral?_number]; rfl
  | varchar s => rw [Value.toSQLString, readLiteral?_quote]; rfl
  | blob bytes => exact readLiteral?_blob bytes
  | typed text type => exact readLiteral?_typed text type
  | list elements => exact readLiteral?_list elements

end Oracle
end DuckdbOracle
