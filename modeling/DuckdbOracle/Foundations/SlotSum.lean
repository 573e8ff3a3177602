import Mathlib.Algebra.BigOperators.Group.List.Basic
import Mathlib.Algebra.Order.Group.Multiset
import Mathlib.Data.List.Basic
import Mathlib.Tactic.Abel

/-!
# Sums over slots

Objects that come into being one after the other, and of which some are gone again, are kept
in a list of slots: a new object gets a slot at the end, and the slot of one that is gone is
empty.  What the objects hold together is a sum over the slots.

`slotSum_split` takes one object out of the sum and leaves the sum over the other slots, which
`slotSum_congr` shows to be the same whatever is written to that one.
-/

namespace SlotSum

variable {α M : Type*} [AddCommMonoid M]

/-- The sum of `f` over the objects in the slots, of which `f` is told the number. -/
def slotSum (l : List (Option α)) (f : ℕ → α → M) : M :=
  ((List.range l.length).map fun i =>
    match l[i]? with
    | some (some a) => f i a
    | _ => 0).sum

@[simp] theorem slotSum_nil (f : ℕ → α → M) : slotSum [] f = 0 := rfl

theorem slotSum_cons (o : Option α) (l : List (Option α)) (f : ℕ → α → M) :
    slotSum (o :: l) f = (match o with
      | some a => f 0 a
      | none => 0) + slotSum l fun i => f (i + 1) := by
  unfold slotSum
  rw [List.length_cons, List.range_succ_eq_map, List.map_cons, List.sum_cons, List.map_map]
  congr 1
  cases o <;> rfl

/-- The sum only asks for the objects that are there. -/
theorem slotSum_congr {l : List (Option α)} {f g : ℕ → α → M}
    (h : ∀ (i : ℕ) a, l[i]? = some (some a) → g i a = f i a) : slotSum l g = slotSum l f := by
  induction l generalizing f g with
  | nil => rfl
  | cons o l ih =>
    rw [slotSum_cons, slotSum_cons, ih fun i a ha => h (i + 1) a ha]
    cases o with
    | none => rfl
    | some a => exact congrArg (· + _) (h 0 a rfl)

/-- A new object at the end. -/
theorem slotSum_concat (l : List (Option α)) (a : α) (f : ℕ → α → M) :
    slotSum (l ++ [some a]) f = f l.length a + slotSum l f := by
  induction l generalizing f with
  | nil => rw [List.nil_append, slotSum_cons]; rfl
  | cons o l ih =>
    rw [List.cons_append, slotSum_cons, slotSum_cons, ih, List.length_cons]
    abel

/-- **An object is taken out of its slot.** -/
theorem slotSum_split {l : List (Option α)} {i : ℕ} {a : α} (h : l[i]? = some (some a))
    (f : ℕ → α → M) : slotSum l f = f i a + slotSum (l.set i none) f := by
  induction l generalizing i f with
  | nil => exact nomatch h
  | cons o l ih =>
    cases i with
    | zero =>
      obtain rfl : o = some a := Option.some.inj h
      rw [List.set_cons_zero, slotSum_cons, slotSum_cons, zero_add]
    | succ i =>
      rw [List.set_cons_succ, slotSum_cons, slotSum_cons, ih h]
      abel

/-- An object is put into a slot. -/
theorem slotSum_set {l : List (Option α)} {i : ℕ} (hi : i < l.length) (a : α) (f : ℕ → α → M) :
    slotSum (l.set i (some a)) f = f i a + slotSum (l.set i none) f := by
  have hget : (l.set i (some a))[i]? = some (some a) := by
    rw [List.getElem?_set_self hi]
  rw [slotSum_split hget, List.set_set]

/-- A sum over empty slots. -/
theorem slotSum_eq_zero {l : List (Option α)} {f : ℕ → α → M}
    (h : ∀ (i : ℕ) a, l[i]? ≠ some (some a)) : slotSum l f = 0 := by
  induction l generalizing f with
  | nil => rfl
  | cons o l ih =>
    rw [slotSum_cons, ih fun i a => h (i + 1) a, add_zero]
    cases o with
    | none => rfl
    | some a => exact absurd rfl (h 0 a)

/-- A homomorphism goes through a sum. -/
theorem map_slotSum {N : Type*} [AddCommMonoid N] (φ : M →+ N) (l : List (Option α))
    (f : ℕ → α → M) : φ (slotSum l f) = slotSum l fun i a => φ (f i a) := by
  induction l generalizing f with
  | nil => exact map_zero φ
  | cons o l ih =>
    rw [slotSum_cons, slotSum_cons, map_add, ih]
    cases o with
    | none => rw [map_zero]
    | some a => rfl

/-- The number of objects. -/
def live (l : List (Option α)) : ℕ := l.countP Option.isSome

/-- Objects that are worth the same. -/
theorem slotSum_const (l : List (Option α)) (m : ℕ) : (slotSum l fun _ _ => m) = live l * m := by
  unfold live
  induction l with
  | nil => exact (Nat.zero_mul m).symm
  | cons o l ih =>
    rw [slotSum_cons, ih, List.countP_cons, Nat.add_mul, add_comm]
    cases o with
    | none => simp
    | some _ => simp

/-- What stands in a sum of multisets stands in one of its slots. -/
theorem mem_slotSum {β : Type*} {l : List (Option α)} {f : ℕ → α → Multiset β} {b : β} :
    b ∈ slotSum l f ↔ ∃ (i : ℕ) (a : α), l[i]? = some (some a) ∧ b ∈ f i a := by
  induction l generalizing f with
  | nil => exact ⟨fun h => absurd h (Multiset.notMem_zero b), fun ⟨i, a, h, _⟩ => nomatch h⟩
  | cons o l ih =>
    rw [slotSum_cons, Multiset.mem_add, ih]
    constructor
    · rintro (hb | ⟨i, a, ha, hb⟩)
      · cases o with
        | none => exact absurd hb (Multiset.notMem_zero b)
        | some a => exact ⟨0, a, rfl, hb⟩
      · exact ⟨i + 1, a, ha, hb⟩
    · rintro ⟨i, a, ha, hb⟩
      cases i with
      | zero =>
        obtain rfl : o = some a := Option.some.inj ha
        exact Or.inl hb
      | succ i => exact Or.inr ⟨i, a, ha, hb⟩

end SlotSum
