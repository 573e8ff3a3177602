import Mathlib.Algebra.Order.Field.Rat
import Mathlib.Tactic.NormNum
import DuckdbOracle.Catalog.TableEntry

/-!
# The type of a `NUMBER` column

`LoadColumns` reads precision and scale as texts, through `std::stoll`, and casts both to
an `idx_t`.  `MapOracleColumn` rules out the precisions that a `DECIMAL` cannot have, and
takes the last eight bits of the scale as they come.

A scale of Oracle goes from -84 to 127, and that of a `DECIMAL` from 0 to its width.  A
scale that is both is kept, and then the two types have the very same numbers.  Any other
one makes a type that does not exist: -2 becomes 254 on the way, and a scale above the
precision stays what it is (`holdsNumbers_iff`).
-/

namespace DuckdbOracle
namespace Catalog

open Duckdb Oracle

/-! ## Texts of integers -/

/-- An integer in decimal digits. -/
def numberText (i : ℤ) : String :=
  String.ofList ((if i < 0 then ['-'] else []) ++ Nat.toDigits 10 i.natAbs)

theorem stoll_numberText {i : ℤ} (hi : isInt64 i) : stoll (numberText i).toList = some i := by
  have hdigits : ∀ c ∈ Nat.toDigits 10 i.natAbs, c.isDigit = true :=
    fun _ hc => Nat.isDigit_of_mem_toDigits (by decide) (by decide) hc
  have hstart : ∀ c : Char, c.isDigit = true → startsNumber c := by
    intro c hc
    refine ⟨fun hspace => ?_, ?_, ?_⟩
    · simp only [List.mem_cons, List.not_mem_nil, or_false] at hspace
      rcases hspace with rfl | rfl | rfl | rfl | rfl | rfl <;> exact absurd hc (by decide)
    · rintro rfl
      exact absurd hc (by decide)
    · rintro rfl
      exact absurd hc (by decide)
  have hread := @stoll_signed (decide (i < 0)) _ [] hdigits (fun _ hc => nomatch hc)
    fun c hc => hstart c (hdigits c (by
      rw [List.append_nil] at hc
      exact List.mem_of_mem_head? hc))
  rw [List.append_nil] at hread
  rw [numberText, String.toList_ofList]
  simp only [decide_eq_true_eq] at hread
  rw [hread, if_neg Nat.toDigits_ne_nil, Nat.ofDigitChars_ten_toDigits]
  have hvalue : (if i < 0 then -(i.natAbs : ℤ) else i.natAbs) = i := by
    split <;> omega
  rw [hvalue, if_pos hi]

theorem parseIdx_numberText {i : ℤ} (hi : isInt64 i) : parseIdx (numberText i) = castIdx i := by
  have hne : numberText i ≠ "" := by
    intro hempty
    have hread := stoll_numberText hi
    rw [hempty, show stoll "".toList = none by decide] at hread
    cases hread
  rw [parseIdx, if_neg hne, stoll_numberText hi]
  rfl

theorem isInt64_of_small {i : ℤ} (h : -84 ≤ i ∧ i ≤ 127) : isInt64 i = true := by
  simp only [isInt64, Bool.and_eq_true, decide_eq_true_eq]
  omega

/-! ## Types that hold numbers -/

/-- The types a `NUMBER` column may get: `DOUBLE`, and the `DECIMAL`s there are. -/
def ValidType : LogicalType → Prop
  | .double => True
  | .decimal width scale => 1 ≤ width ∧ width ≤ 38 ∧ scale ≤ width
  | _ => False

/-- The numbers of `NUMBER(p, s)`. -/
def FitsNumber (p : ℕ) (s : ℤ) (v : ℚ) : Prop := ∃ m : ℤ, |m| < 10 ^ p ∧ v = m * 10 ^ (-s)

/-- The numbers of `DECIMAL(width, scale)`. -/
def IsDecimal (width scale : ℕ) (v : ℚ) : Prop := ∃ m : ℤ, |m| < 10 ^ width ∧ v = m / 10 ^ scale

/-- **The type can hold the numbers** of a column. -/
structure HoldsNumbers (type : LogicalType) (p : ℕ) (s : ℤ) : Prop where
  valid : ValidType type
  exact : ∀ width scale, type = .decimal width scale → ∀ v, FitsNumber p s v →
    IsDecimal width scale v

/-- The last eight bits of a scale. -/
theorem castIdx_mod {s : ℤ} (hs : -84 ≤ s ∧ s ≤ 127) :
    ((castIdx s % 256 : ℕ) : ℤ) = if 0 ≤ s then s else s + 256 := by
  unfold castIdx
  split
  · omega
  · omega

theorem mapOracleColumn_number {p scale : ℕ} (hp : 1 ≤ p ∧ p ≤ 38) (settings : OracleSettings) :
    mapOracleColumn "NUMBER" p scale settings = .decimal p (scale % 256) := by
  have hnumber : mapOracleColumn "NUMBER" p scale settings =
      if p = 0 then .double
      else if p > 38 then .double
      else .decimal p (scale % 256) := rfl
  rw [hnumber, if_neg (by omega), if_neg (by omega)]

/-- With one scale, the two types have the same numbers. -/
theorem fitsNumber_iff_isDecimal {p k : ℕ} {v : ℚ} : FitsNumber p k v ↔ IsDecimal p k v := by
  unfold FitsNumber IsDecimal
  simp only [zpow_neg, zpow_natCast, div_eq_mul_inv]

/-- **When a `DECIMAL` holds the numbers of the column**: when its scale is a scale. -/
theorem holdsNumbers_decimal_iff {p : ℕ} {s : ℤ} (hp : 1 ≤ p ∧ p ≤ 38)
    (hs : -84 ≤ s ∧ s ≤ 127) :
    HoldsNumbers (.decimal p (castIdx s % 256)) p s ↔ 0 ≤ s ∧ s ≤ p := by
  have hscale := castIdx_mod hs
  constructor
  · intro h
    obtain ⟨-, -, hle⟩ : 1 ≤ p ∧ p ≤ 38 ∧ castIdx s % 256 ≤ p := h.valid
    split at hscale
    · omega
    · omega
  · rintro ⟨hnonneg, hle⟩
    rw [if_pos hnonneg] at hscale
    refine ⟨⟨hp.1, hp.2, by omega⟩, ?_⟩
    rintro width scale heq v hv
    obtain ⟨rfl, rfl⟩ := LogicalType.decimal.inj heq
    rw [← hscale] at hv
    exact fitsNumber_iff_isDecimal.mp hv

/-- **When a `NUMBER` column gets a type that can hold it.**  For every `NUMBER` column with
a declared precision and a scale that Oracle allows: if and only if the scale is not
negative and not larger than the precision. -/
theorem holdsNumbers_iff {db : Database} {schema table : String} {c : ℕ}
    {column : DictionaryColumn} {p : ℕ} {s : ℤ} (settings : OracleSettings)
    (hcolumn : (db.dictionary.columnsOf (db.upper schema) (db.upper table))[c]? = some column)
    (htype : column.dataType = "NUMBER") (hprecision : column.dataPrecision = numberText p)
    (hscale : column.dataScale = numberText s) (hp : 1 ≤ p ∧ p ≤ 38) (hs : -84 ≤ s ∧ s ≤ 127) :
    ∃ definition, (loadColumns db settings schema table).1[c]? = some definition ∧
      (HoldsNumbers definition.type p s ↔ 0 ≤ s ∧ s ≤ p) := by
  refine ⟨columnDefinition settings column, ?_, ?_⟩
  · rw [loadColumns, loaded, List.getElem?_map, hcolumn, Option.map_some]
  · have hcast : castIdx (p : ℤ) = p := by
      unfold castIdx
      omega
    rw [columnDefinition, htype, hprecision, hscale,
      parseIdx_numberText (isInt64_of_small (i := p) (by omega)),
      parseIdx_numberText (isInt64_of_small hs), hcast, mapOracleColumn_number hp]
    exact holdsNumbers_decimal_iff hp hs

/-! ## A column with a negative scale -/

/-- A table with prices in cents, and with sales in hundreds. -/
def salesDatabase : Database where
  dictionary := {
    objects := [⟨"SCOTT", "SALES", .table [⟨"PRICE", "NUMBER", "7", "2"⟩,
      ⟨"SALES", "NUMBER", "5", "-2"⟩]⟩]
    unique := by decide
    named := by decide }
  upper := upper

/-- `NUMBER(7, 2)` becomes `DECIMAL(7, 2)`. -/
theorem holdsNumbers_price : HoldsNumbers (.decimal 7 2) 7 2 := by
  obtain ⟨definition, hdefinition, hiff⟩ := @holdsNumbers_iff salesDatabase "SCOTT" "SALES" 0
    ⟨"PRICE", "NUMBER", "7", "2"⟩ 7 2 {} rfl rfl (by decide) (by decide) (by decide) (by decide)
  obtain rfl := Option.some.inj hdefinition
  exact hiff.mpr (by decide)

/-- **A type that does not exist**: `NUMBER(5, -2)` becomes `DECIMAL(5, 254)`. -/
theorem negativeScale_not_valid :
    (loadColumns salesDatabase {} "SCOTT" "SALES").1[1]? = some ⟨"SALES", .decimal 5 254⟩ ∧
      numberText 5 = "5" ∧ numberText (-2) = "-2" ∧ ¬ HoldsNumbers (.decimal 5 254) 5 (-2) := by
  refine ⟨by decide, by decide, by decide, fun h => ?_⟩
  obtain ⟨-, -, hle⟩ : 1 ≤ 5 ∧ 5 ≤ 38 ∧ 254 ≤ 5 := h.valid
  exact absurd hle (by decide)

end Catalog
end DuckdbOracle
