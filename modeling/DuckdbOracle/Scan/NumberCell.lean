import Mathlib.Algebra.Order.Field.Basic
import Mathlib.Algebra.Order.Field.Power
import Mathlib.Algebra.Order.Field.Rat
import Mathlib.Tactic.Linarith
import Mathlib.Tactic.NormNum
import DuckdbOracle.Oracle.Condition
import DuckdbOracle.Scan.Conversions

/-!
# Numbers in a `BIGINT` column

A `NUMBER` column of scale 0 and at most 18 digits becomes a `BIGINT`.  But precision 0
means that none is declared: then scale 0 means nothing either, and the column may hold
any number, such as an average.

Its cells come as text, `std::stoll` reads the digits at the front of it, and what it
rejects becomes NULL.  So a cell is exact if and only if the number is an integer in the
range of `int64_t` and the digits at the front are all of it: there are some, nothing but
zeros after the point, and no exponent (`bigint_exact_iff`).
-/

namespace DuckdbOracle
namespace Scan

open Catalog Duckdb Oracle

/-! ## Texts of numbers -/

/-- The number that digits denote. -/
def digitsValue (ds : List (Fin 10)) : ℕ := ds.foldl (fun a d => 10 * a + d.val) 0

/-- How Oracle writes a number: a sign, digits, digits after a point or a comma, and an
exponent.  There is no digit before the point of a number below 1. -/
structure NumberText where
  negative : Bool := false
  whole : List (Fin 10)
  comma : Bool := false
  fraction : List (Fin 10) := []
  exponent : ℤ := 0

/-- The text of an exponent. -/
def exponentText (exponent : ℤ) : List Char :=
  if exponent = 0 then []
  else 'E' :: (if exponent < 0 then '-' else '+') :: Nat.toDigits 10 exponent.natAbs

/-- What follows the digits at the front. -/
def NumberText.rest (n : NumberText) : List Char :=
  (if n.fraction = [] then [] else (if n.comma then ',' else '.') :: fractionText n.fraction) ++
    exponentText n.exponent

/-- The text. -/
def NumberText.chars (n : NumberText) : List Char :=
  (if n.negative then ['-'] else []) ++ (fractionText n.whole ++ n.rest)

/-- The number without its sign. -/
def NumberText.magnitude (n : NumberText) : ℚ :=
  ((digitsValue n.whole : ℚ) + digitsValue n.fraction / 10 ^ n.fraction.length) * 10 ^ n.exponent

/-- The number. -/
def NumberText.value (n : NumberText) : ℚ := if n.negative then -n.magnitude else n.magnitude

/-- The integer that the digits at the front denote. -/
def NumberText.wholePart (n : NumberText) : ℤ :=
  if n.negative then -(digitsValue n.whole : ℤ) else digitsValue n.whole

/-! ## What `std::stoll` reads -/

theorem fractionText_eq_nil_iff {ds : List (Fin 10)} : fractionText ds = [] ↔ ds = [] := by
  rw [fractionText, List.map_eq_nil_iff]

theorem ofDigitChars_digits (ds : List (Fin 10)) :
    Nat.ofDigitChars 10 (fractionText ds) 0 = digitsValue ds :=
  ofDigitChars_fractionText ds 0

/-- What follows the digits at the front starts with a point, a comma or an `E`. -/
theorem rest_head (n : NumberText) {c : Char} (hc : n.rest.head? = some c) :
    c = '.' ∨ c = ',' ∨ c = 'E' := by
  unfold NumberText.rest exponentText at hc
  by_cases hfraction : n.fraction = []
  · by_cases hexponent : n.exponent = 0
    · simp [hfraction, hexponent] at hc
    · simp only [hfraction, hexponent, if_true, if_false, List.nil_append] at hc
      exact Or.inr (Or.inr (Option.some.inj hc).symm)
  · simp only [hfraction, if_false] at hc
    cases hcomma : n.comma with
    | true =>
      rw [hcomma] at hc
      exact Or.inr (Or.inl (Option.some.inj hc).symm)
    | false =>
      rw [hcomma] at hc
      exact Or.inl (Option.some.inj hc).symm

/-- No number starts with white space or a second sign. -/
theorem startsNumber_chars (n : NumberText) {c : Char}
    (hc : (fractionText n.whole ++ n.rest).head? = some c) : startsNumber c := by
  have hdigit : ∀ d : Fin 10, startsNumber (Nat.digitChar d.val) := by decide
  cases hwhole : n.whole with
  | cons d ds =>
    rw [hwhole] at hc
    rw [← Option.some.inj hc]
    exact hdigit d
  | nil =>
    rw [hwhole] at hc
    rcases rest_head n hc with rfl | rfl | rfl <;> decide

/-- **`std::stoll` reads the digits at the front.** -/
theorem stoll_chars (n : NumberText) :
    stoll n.chars =
      if n.whole = [] then none
      else if isInt64 n.wholePart then some n.wholePart else none := by
  have hread := stoll_signed n.negative (List.all_eq_true.mp (isDigit_fractionText n.whole))
    (fun c hc => by rcases rest_head n hc with rfl | rfl | rfl <;> decide)
    fun c hc => startsNumber_chars n hc
  rw [NumberText.chars, hread]
  by_cases hwhole : n.whole = []
  · rw [if_pos (fractionText_eq_nil_iff.mpr hwhole), if_pos hwhole]
  · rw [if_neg (mt fractionText_eq_nil_iff.mp hwhole), if_neg hwhole, ofDigitChars_digits]
    rfl

/-! ## When the digits at the front are all of it -/

/-- Digits denote less than the power of ten of their number. -/
theorem foldl_digits_lt (ds : List (Fin 10)) (a : ℕ) :
    ds.foldl (fun a d => 10 * a + d.val) a < (a + 1) * 10 ^ ds.length := by
  induction ds generalizing a with
  | nil => simp
  | cons d ds ih =>
    have hd := d.isLt
    have hstep : 10 * a + d.val + 1 ≤ (a + 1) * 10 := by omega
    calc (d :: ds).foldl (fun a d => 10 * a + d.val) a
        = ds.foldl (fun a d => 10 * a + d.val) (10 * a + d.val) := rfl
      _ < (10 * a + d.val + 1) * 10 ^ ds.length := ih _
      _ ≤ (a + 1) * 10 * 10 ^ ds.length := Nat.mul_le_mul_right _ hstep
      _ = (a + 1) * 10 ^ (d :: ds).length := by
        rw [List.length_cons, pow_succ, Nat.mul_assoc, Nat.mul_comm 10]

theorem le_foldl_digits (ds : List (Fin 10)) (a : ℕ) :
    a ≤ ds.foldl (fun a d => 10 * a + d.val) a := by
  induction ds generalizing a with
  | nil => exact le_rfl
  | cons d ds ih =>
    rw [List.foldl_cons]
    exact le_trans (by omega) (ih (10 * a + d.val))

/-- Only zeros denote zero. -/
theorem digitsValue_eq_zero_iff (ds : List (Fin 10)) : digitsValue ds = 0 ↔ ∀ d ∈ ds, d = 0 := by
  induction ds with
  | nil => simp [digitsValue]
  | cons d ds ih =>
    have hcons : digitsValue (d :: ds) = ds.foldl (fun a d => 10 * a + d.val) d.val := by
      rw [digitsValue, List.foldl_cons, Nat.mul_zero, Nat.zero_add]
    rw [hcons, List.forall_mem_cons, ← ih]
    constructor
    · intro h
      have hd : d.val = 0 := Nat.le_zero.mp (h ▸ le_foldl_digits ds d.val)
      rw [hd] at h
      exact ⟨Fin.ext hd, h⟩
    · rintro ⟨rfl, h⟩
      exact h

/-- The digits after the point. -/
def NumberText.fractionValue (n : NumberText) : ℚ :=
  (digitsValue n.fraction : ℚ) / 10 ^ n.fraction.length

theorem fractionValue_nonneg (n : NumberText) : 0 ≤ n.fractionValue :=
  div_nonneg (Nat.cast_nonneg _) (pow_nonneg (by norm_num) _)

theorem fractionValue_lt_one (n : NumberText) : n.fractionValue < 1 := by
  have hlt : digitsValue n.fraction < 10 ^ n.fraction.length := by
    simpa [digitsValue] using foldl_digits_lt n.fraction 0
  rw [NumberText.fractionValue, div_lt_one (pow_pos (by norm_num) _)]
  exact_mod_cast hlt

theorem fractionValue_eq_zero_iff (n : NumberText) :
    n.fractionValue = 0 ↔ ∀ d ∈ n.fraction, d = 0 := by
  have hpow : (10 : ℚ) ^ n.fraction.length ≠ 0 := pow_ne_zero _ (by norm_num)
  rw [NumberText.fractionValue, div_eq_zero_iff, or_iff_left hpow, Nat.cast_eq_zero,
    digitsValue_eq_zero_iff]

/-- A number is its whole part exactly if the fraction is zero, and the exponent as well
unless the number is. -/
theorem whole_eq_scaled_iff {W : ℕ} {f : ℚ} {e : ℤ} (hf : 0 ≤ f) (hf1 : f < 1) :
    (W : ℚ) = (W + f) * 10 ^ e ↔ f = 0 ∧ (e = 0 ∨ W = 0) := by
  have hW : (0 : ℚ) ≤ W := Nat.cast_nonneg W
  constructor
  · intro h
    rcases lt_trichotomy e 0 with he | rfl | he
    · -- at most a tenth is left
      have hpow : (10 : ℚ) ^ e ≤ 10 ^ (-1 : ℤ) := zpow_le_zpow_right₀ (by norm_num) (by omega)
      have hle : (W : ℚ) ≤ (W + f) * 10 ^ (-1 : ℤ) :=
        h.le.trans (mul_le_mul_of_nonneg_left hpow (by linarith))
      rw [zpow_neg_one] at hle
      have hlt : (W : ℚ) < 1 := by linarith
      have hzero : W = 0 := by
        have : W < 1 := by exact_mod_cast hlt
        omega
      subst hzero
      rw [Nat.cast_zero, zero_add, eq_comm, mul_eq_zero,
        or_iff_left (zpow_ne_zero e (by norm_num))] at h
      exact ⟨h, Or.inr rfl⟩
    · rw [zpow_zero, mul_one] at h
      exact ⟨by linarith, Or.inl rfl⟩
    · -- ten times as much, at least
      have hpow : (10 : ℚ) ^ (1 : ℤ) ≤ 10 ^ e := zpow_le_zpow_right₀ (by norm_num) (by omega)
      have hle : (W + f) * 10 ^ (1 : ℤ) ≤ (W : ℚ) :=
        (mul_le_mul_of_nonneg_left hpow (by linarith)).trans h.ge
      rw [zpow_one] at hle
      have hzero : (W : ℚ) = 0 := by linarith
      exact ⟨by linarith, Or.inr (by exact_mod_cast hzero)⟩
  · rintro ⟨rfl, rfl | rfl⟩
    · rw [zpow_zero, mul_one, add_zero]
    · simp

/-- **The digits at the front are all of the number.** -/
theorem wholePart_eq_value_iff (n : NumberText) :
    (n.wholePart : ℚ) = n.value ↔
      (∀ d ∈ n.fraction, d = 0) ∧ (n.exponent = 0 ∨ ∀ d ∈ n.whole, d = 0) := by
  have hsign : (n.wholePart : ℚ) = n.value ↔ (digitsValue n.whole : ℚ) = n.magnitude := by
    unfold NumberText.wholePart NumberText.value
    cases n.negative with
    | true => rw [if_pos rfl, if_pos rfl, Int.cast_neg, Int.cast_natCast, neg_inj]
    | false => rw [if_neg (by simp), if_neg (by simp), Int.cast_natCast]
  rw [hsign, ← fractionValue_eq_zero_iff, ← digitsValue_eq_zero_iff]
  exact whole_eq_scaled_iff (fractionValue_nonneg n) (fractionValue_lt_one n)

/-! ## The column and its cells -/

/-- The DuckDB type of an output column. -/
def LogicalType.output : LogicalType → Duckdb.LogicalType
  | .varchar => .varchar
  | .bigint => .bigint
  | .double => .double
  | .timestamp => .timestamp
  | .blob => .blob

/-- The columns that become `BIGINT`: of scale 0 and at most 18 digits, as far as OCI
knows. -/
theorem returnType_eq_bigint_iff {column : DescribedColumn}
    (h : column.dataType = .num ∨ column.dataType = .vnu) :
    column.returnType = .bigint ↔ column.scale = 0 ∧ column.precision ≤ 18 := by
  unfold DescribedColumn.returnType
  rcases h with h | h <;> rw [h] <;> dsimp only <;> split_ifs <;> simp [*] <;> omega

/-- **The cell is exact**: it is the integer that the number is. -/
def BigintExact {F D T : Type} (lib : Library F D T) (column : DescribedColumn) (n : NumberText)
    (val : List UInt8) : Prop :=
  ∃ i : ℤ, OutputCell.ofBytes (convertCell lib) column.returnType.output val =
      .value (.bigint i) ∧ (i : ℚ) = n.value

/-- The number is an integer in the range of `int64_t`, and written out: with digits before
the point, only zeros behind it, and no exponent (unless it is zero). -/
structure NumberText.WrittenOut (n : NumberText) : Prop where
  whole : n.whole ≠ []
  range : isInt64 n.wholePart = true
  fraction : ∀ d ∈ n.fraction, d = 0
  exponent : n.exponent = 0 ∨ ∀ d ∈ n.whole, d = 0

/-- **When a `BIGINT` cell is exact.**  For every `NUMBER` column of scale 0 and at most 18
digits, none declared included, and every number: exactly if the number is an integer in
the range of `int64_t` that is written out. -/
theorem bigint_exact_iff {F D T : Type} (lib : Library F D T) {column : DescribedColumn}
    (hnumber : column.dataType = .num ∨ column.dataType = .vnu) (hscale : column.scale = 0)
    (hprecision : column.precision ≤ 18) (n : NumberText) {val : List UInt8}
    (hval : cellText val = n.chars) :
    column.returnType = .bigint ∧ (BigintExact lib column n val ↔ n.WrittenOut) := by
  have hbigint := (returnType_eq_bigint_iff hnumber).mpr ⟨hscale, hprecision⟩
  refine ⟨hbigint, ?_⟩
  have hcell : OutputCell.ofBytes (convertCell lib) column.returnType.output val =
      .ofOption ((stoll n.chars).map ScanValue.bigint) := by
    rw [hbigint, ← hval]
    rfl
  unfold BigintExact
  rw [hcell, stoll_chars]
  constructor
  · rintro ⟨i, hi, hvalue⟩
    split_ifs at hi with hwhole hrange
    · cases hi
    · obtain ⟨rfl⟩ := ScanValue.bigint.inj (OutputCell.value.inj hi)
      obtain ⟨hfraction, hexponent⟩ := (wholePart_eq_value_iff n).mp hvalue
      exact ⟨hwhole, hrange, hfraction, hexponent⟩
    · cases hi
  · rintro ⟨hwhole, hrange, hfraction, hexponent⟩
    rw [if_neg hwhole, if_pos hrange]
    exact ⟨n.wholePart, rfl, (wholePart_eq_value_iff n).mpr ⟨hfraction, hexponent⟩⟩

/-- A library that converts nothing. -/
def noLibrary : Library Unit Unit Unit where
  stof _ := none
  stod _ := none
  fromString _ := none
  epoch := ()
  castDecimal _ _ _ := none
  castUser _ _ := none

/-- An expression like an average, of which no precision is declared. -/
def averageColumn : DescribedColumn := { name := "AVG(SAL)", dataType := .num }

theorem bigint_exact_integer :
    BigintExact noLibrary averageColumn { whole := [4, 2] } (asciiBytes "42") :=
  (bigint_exact_iff noLibrary (Or.inl rfl) rfl (by decide) _ (by decide)).2.mpr
    ⟨by decide, by decide, by decide, Or.inl rfl⟩

/-- **An average is cut, a fraction and a large number are lost**: 2.5 becomes 2, .5 and
`10^19` become NULL. -/
theorem average_not_exact :
    OutputCell.ofBytes (convertCell noLibrary) averageColumn.returnType.output
        (asciiBytes "2.5") = .value (.bigint 2) ∧
      OutputCell.ofBytes (convertCell noLibrary) averageColumn.returnType.output
        (asciiBytes ".5") = .null ∧
      OutputCell.ofBytes (convertCell noLibrary) averageColumn.returnType.output
        (asciiBytes "10000000000000000000") = .null ∧
      ¬ BigintExact noLibrary averageColumn { whole := [2], fraction := [5] }
        (asciiBytes "2.5") := by
  refine ⟨by decide, by decide, by decide, ?_⟩
  rintro ⟨i, hi, hvalue⟩
  have htwo : OutputCell.ofBytes (convertCell noLibrary) averageColumn.returnType.output
      (asciiBytes "2.5") = .value (.bigint 2) := by decide
  obtain ⟨rfl⟩ := ScanValue.bigint.inj (OutputCell.value.inj (hi.symm.trans htwo))
  norm_num [NumberText.value, NumberText.magnitude, digitsValue] at hvalue

end Scan
end DuckdbOracle
