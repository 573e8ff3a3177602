import DuckdbOracle.Catalog.SessionSettings

/-!
# Are counts clamped?

Six settings are counts.  They are given as 64-bit integers with a sign and stored as
`idx_t`, which has none: three of them are raised to one, the other three to zero.  Before
a scan OCI is told two of them, as `ub4`, which has 32 bits.

A count that is raised to zero is compared before it is cast, and so it is clamped.  One
that is raised to one is cast first, and a negative number is a huge one by then.  The
conversion to `ub4` keeps the low bits.  `clamps_iff` says for which numbers all this is
what clamping would do, whether they are given at `ATTACH` or with `SET`.
-/

namespace DuckdbOracle
namespace Catalog

open Duckdb

/-! ## Counts -/

/-- The settings that are counts. -/
inductive Count where
  | prefetchRows
  | arraySize
  | connectionLimit
  | prefetchMemory
  | lobMaxSize
  | metadataResultLimit
  deriving DecidableEq

def Count.setting : Count → Setting
  | .prefetchRows => .prefetchRows
  | .arraySize => .arraySize
  | .connectionLimit => .connectionLimit
  | .prefetchMemory => .prefetchMemory
  | .lobMaxSize => .lobMaxSize
  | .metadataResultLimit => .metadataResultLimit

/-- The least value of a count. -/
def Count.least : Count → ℤ
  | .prefetchRows => 1
  | .arraySize => 1
  | .connectionLimit => 1
  | .prefetchMemory => 0
  | .lobMaxSize => 0
  | .metadataResultLimit => 0

def OracleSettings.count (settings : OracleSettings) : Count → ℕ
  | .prefetchRows => settings.prefetchRows
  | .arraySize => settings.arraySize
  | .connectionLimit => settings.connectionLimit
  | .prefetchMemory => settings.prefetchMemory
  | .lobMaxSize => settings.lobMaxSize
  | .metadataResultLimit => settings.metadataResultLimit

/-! ## What OCI is told -/

/-- The conversion of an `idx_t` to `ub4`. -/
def castUb4 (n : ℕ) : ℕ := n % 2 ^ 32

/-- What `OracleBindInternal` and `OracleInitGlobal` set on a statement:
`OCI_ATTR_PREFETCH_ROWS`, and `OCI_ATTR_PREFETCH_MEMORY` if there is a limit. -/
structure PrefetchAttributes where
  rows : ℕ
  memory : Option ℕ
  deriving DecidableEq

def prefetchAttributes (settings : OracleSettings) : PrefetchAttributes where
  rows := castUb4 settings.prefetchRows
  memory := if settings.prefetchMemory > 0 then some (castUb4 settings.prefetchMemory) else none

/-- The attribute that a count becomes. -/
def PrefetchAttributes.of? (attributes : PrefetchAttributes) : Count → Option ℕ
  | .prefetchRows => some attributes.rows
  | .prefetchMemory => attributes.memory
  | _ => none

/-! ## The property and the condition -/

/-- The two ways in which a value gets into the settings. -/
inductive Stored (c : Count) (val : Value) (settings : OracleSettings) : Prop where
  | applyOptions {before : OracleSettings} {options : List (String × Value)}
      (h : applyOptions before options = (settings, .ok ()))
      (hgiven : givenValue options c.setting = some val)
  | getOracleSettings {session : Session} {state : Option OracleSettings}
      (h : getOracleSettings session state = .ok settings) (hs : c.setting ∈ sessionSettings)
      (hquery : session.tryGetCurrentSetting c.setting.optionName = some val)

/-- **A count is clamped**: it is stored as the number, or its least value; and OCI is told
what is stored, or the most that it can be told. -/
def Clamps (settings : OracleSettings) (c : Count) (v : ℤ) : Prop :=
  (settings.count c : ℤ) = max c.least v ∧
    ∀ n, (prefetchAttributes settings).of? c = some n → n = min (settings.count c) (2 ^ 32 - 1)

/-- A count that is raised to one is not negative, and one that OCI is told fits into 32
bits, or has them all set. -/
def InRange (c : Count) (v : ℤ) : Prop :=
  (c.least = 1 → 0 ≤ v) ∧
    (c = .prefetchRows ∨ c = .prefetchMemory → v < 2 ^ 32 ∨ v % 2 ^ 32 = 2 ^ 32 - 1)

/-! ## When counts are clamped -/

theorem bounds_of_getInt64 {val : Value} {v : ℤ} (h : val.getInt64 = .ok v) :
    -(2 ^ 63) ≤ v ∧ v < 2 ^ 63 := by
  have hint : ∀ {i : ℤ} {e : String}, (if isInt64 i then Except.ok i else .error e) = .ok v →
      -(2 ^ 63) ≤ v ∧ v < 2 ^ 63 := by
    intro i e hi
    split at hi
    · next hrange =>
      obtain rfl := Except.ok.inj hi
      rw [isInt64, Bool.and_eq_true, decide_eq_true_iff, decide_eq_true_iff] at hrange
      exact hrange
    · cases hi
  cases val with
  | boolean b =>
    obtain rfl := Except.ok.inj h
    cases b <;> decide
  | integer i => exact hint h
  | varchar s =>
    rw [Value.getInt64] at h
    split at h
    · exact hint h
    · cases h
  | null => cases h
  | decimal n => cases h
  | blob bytes => cases h
  | typed text type => cases h
  | list elements => cases h

/-- A count that is raised to one, after the cast. -/
theorem atLeastOne_eq {v : ℤ} (hlow : -(2 ^ 63) ≤ v) (hhigh : v < 2 ^ 63) :
    (atLeastOne v : ℤ) = if 0 ≤ v then max 1 v else v + 2 ^ 64 := by
  rw [atLeastOne, castIdx]
  split <;> omega

/-- A count that is raised to zero, before the cast. -/
theorem atLeastZero_eq {v : ℤ} (hhigh : v < 2 ^ 63) : (atLeastZero v : ℤ) = max 0 v := by
  rw [atLeastZero, castIdx]
  split <;> omega

/-- What is stored for a number. -/
def Count.stored (c : Count) (v : ℤ) : ℕ :=
  if c.least = 1 then atLeastOne v else atLeastZero v

theorem count_of_convert {c : Count} {val : Value} {settings : OracleSettings} {v : ℤ}
    (h : c.setting.kind.convert val = .ok (settings.get c.setting)) (hv : val.getInt64 = .ok v) :
    settings.count c = c.stored v := by
  cases c
  all_goals
    have hmap : Except.map _ val.getInt64 = Except.ok _ := h
    rw [hv] at hmap
    exact (Except.ok.inj hmap).symm

theorem Stored.count {c : Count} {val : Value} {settings : OracleSettings} {v : ℤ}
    (h : Stored c val settings) (hv : val.getInt64 = .ok v) : settings.count c = c.stored v := by
  cases h with
  | applyOptions h hgiven =>
    have hget := get_applyOptions h c.setting
    rw [hgiven] at hget
    exact count_of_convert hget hv
  | getOracleSettings h hs hquery => exact count_of_convert (get_getOracleSettings h hs hquery) hv

/-- What OCI is told of a count is the count, or the most that it can be told. -/
theorem castUb4_eq_min_iff {n : ℕ} :
    castUb4 n = min n (2 ^ 32 - 1) ↔ n < 2 ^ 32 ∨ n % 2 ^ 32 = 2 ^ 32 - 1 := by
  rw [castUb4]
  omega

/-- The rows that OCI is told, whatever else is stored. -/
theorem rows_iff {settings : OracleSettings} :
    (∀ n, (prefetchAttributes settings).of? .prefetchRows = some n →
      n = min settings.prefetchRows (2 ^ 32 - 1)) ↔
      settings.prefetchRows < 2 ^ 32 ∨ settings.prefetchRows % 2 ^ 32 = 2 ^ 32 - 1 := by
  rw [← castUb4_eq_min_iff]
  exact ⟨fun h => h _ rfl, fun h n hn => Option.some.inj hn ▸ h⟩

/-- The memory that OCI is told; it is not told of no limit. -/
theorem memory_iff {settings : OracleSettings} :
    (∀ n, (prefetchAttributes settings).of? .prefetchMemory = some n →
      n = min settings.prefetchMemory (2 ^ 32 - 1)) ↔
      settings.prefetchMemory < 2 ^ 32 ∨ settings.prefetchMemory % 2 ^ 32 = 2 ^ 32 - 1 := by
  rw [← castUb4_eq_min_iff]
  show (∀ n, (if settings.prefetchMemory > 0 then some (castUb4 settings.prefetchMemory)
    else none) = some n → _) ↔ _
  by_cases hpos : settings.prefetchMemory > 0
  · rw [if_pos hpos]
    exact ⟨fun h => h _ rfl, fun h n hn => Option.some.inj hn ▸ h⟩
  · have hzero : settings.prefetchMemory = 0 := Nat.eq_zero_of_not_pos hpos
    rw [if_neg hpos, hzero]
    exact ⟨fun _ => rfl, fun _ => nofun⟩

theorem Count.least_eq (c : Count) : c.least = 1 ∨ c.least = 0 := by
  cases c <;> decide

/-- What is stored is what should be, unless a negative number is cast first. -/
theorem stored_eq_max_iff {c : Count} {v : ℤ} (hlow : -(2 ^ 63) ≤ v) (hhigh : v < 2 ^ 63) :
    (c.stored v : ℤ) = max c.least v ↔ (c.least = 1 → 0 ≤ v) := by
  rcases c.least_eq with hone | hzero
  · rw [Count.stored, if_pos hone, atLeastOne_eq hlow hhigh, hone]
    split <;> omega
  · rw [Count.stored, if_neg (by omega), atLeastZero_eq hhigh, hzero]
    omega

/-- **When a count is clamped**, given at `ATTACH` or with `SET`. -/
theorem clamps_iff {c : Count} {val : Value} {settings : OracleSettings} {v : ℤ}
    (h : Stored c val settings) (hv : val.getInt64 = .ok v) :
    Clamps settings c v ↔ InRange c v := by
  obtain ⟨hlow, hhigh⟩ := bounds_of_getInt64 hv
  have hfirst : (settings.count c : ℤ) = max c.least v ↔ (c.least = 1 → 0 ≤ v) := by
    rw [h.count hv]
    exact stored_eq_max_iff hlow hhigh
  rw [Clamps, InRange, ← hfirst]
  refine and_congr_right fun hcount => ?_
  cases c with
  | prefetchRows =>
    have hrows : (settings.prefetchRows : ℤ) = max 1 v := hcount
    refine rows_iff.trans ?_
    rw [forall_prop_of_true (Or.inl rfl)]
    omega
  | prefetchMemory =>
    have hmemory : (settings.prefetchMemory : ℤ) = max 0 v := hcount
    refine memory_iff.trans ?_
    rw [forall_prop_of_true (Or.inr rfl)]
    omega
  | _ => exact ⟨fun _ => nofun, fun _ => nofun⟩

/-- A count as it is given. -/
theorem clamps_limit : Clamps { connectionLimit := 4 } .connectionLimit 4 :=
  (clamps_iff (@Stored.applyOptions .connectionLimit (.integer 4) _ {}
    [("connection_limit", .integer 4)] rfl rfl) rfl).mpr ⟨fun _ => by decide, nofun⟩

/-- A negative limit is the largest one, and 2³² rows are none. -/
theorem limit_wraps :
    (applyOptions {} [("connection_limit", .integer (-1))] =
        ({ connectionLimit := 2 ^ 64 - 1 }, .ok ()) ∧
      ¬ Clamps { connectionLimit := 2 ^ 64 - 1 } .connectionLimit (-1)) ∧
    (getOracleSettings (.ofSet "oracle_prefetch_rows" (.integer (2 ^ 32))) none =
        .ok { prefetchRows := 2 ^ 32 } ∧
      (prefetchAttributes { prefetchRows := 2 ^ 32 }).rows = 0 ∧
      ¬ Clamps { prefetchRows := 2 ^ 32 } .prefetchRows (2 ^ 32)) := by
  refine ⟨⟨rfl, ?_⟩, rfl, rfl, ?_⟩
  · rintro ⟨hstored, -⟩
    exact absurd hstored (by decide)
  · rintro ⟨-, htold⟩
    exact absurd (htold 0 rfl) (by decide)

end Catalog
end DuckdbOracle
