import Mathlib.Algebra.BigOperators.Group.List.Basic
import Mathlib.Algebra.GroupWithZero.Nat
import Mathlib.Data.List.Basic
import Mathlib.Data.List.Induction

/-!
# Tallies over a list of slots

An accounting argument adds a number per slot of a list and asks what one update
of one slot does to the sum.  `tally f l` is that sum, and `tally_set` is the
update rule, stated additively so that no truncated subtraction appears: the new
tally plus the old slot's share is the old tally plus the new slot's share.
-/

namespace Tally

variable {α : Type*}

/-- The sum of `f` over the slots of `l`. -/
def tally (f : α → ℕ) (l : List α) : ℕ := (l.map f).sum

@[simp] theorem tally_nil (f : α → ℕ) : tally f [] = 0 := rfl

@[simp] theorem tally_cons (f : α → ℕ) (a : α) (l : List α) :
    tally f (a :: l) = f a + tally f l := by
  rw [tally, List.map_cons, List.sum_cons, tally]

@[simp] theorem tally_append (f : α → ℕ) (l m : List α) :
    tally f (l ++ m) = tally f l + tally f m := by
  rw [tally, List.map_append, List.sum_append, tally, tally]

/-- **The update rule.** -/
theorem tally_set (f : α → ℕ) {l : List α} {i : ℕ} {a : α} (h : l[i]? = some a) (b : α) :
    tally f (l.set i b) + f a = tally f l + f b := by
  induction l generalizing i with
  | nil => simp at h
  | cons c l ih =>
    cases i with
    | zero =>
      rw [List.getElem?_cons_zero] at h
      obtain rfl := Option.some.inj h
      rw [List.set_cons_zero, tally_cons, tally_cons]
      omega
    | succ i =>
      rw [List.getElem?_cons_succ] at h
      have hih := ih h
      rw [List.set_cons_succ, tally_cons, tally_cons]
      omega

/-- Updating a slot by an entry with the same share changes nothing. -/
theorem tally_set_eq (f : α → ℕ) {l : List α} {i : ℕ} {a b : α} (h : l[i]? = some a)
    (hab : f b = f a) : tally f (l.set i b) = tally f l := by
  have := tally_set f h b
  omega

/-- One slot's share is at most the tally. -/
theorem le_tally (f : α → ℕ) {l : List α} {i : ℕ} {a : α} (h : l[i]? = some a) :
    f a ≤ tally f l := by
  induction l generalizing i with
  | nil => simp at h
  | cons c l ih =>
    rw [tally_cons]
    cases i with
    | zero =>
      rw [List.getElem?_cons_zero] at h
      obtain rfl := Option.some.inj h
      omega
    | succ i =>
      rw [List.getElem?_cons_succ] at h
      have hih := ih h
      omega

/-- Two slots' shares together are at most the tally. -/
theorem add_le_tally (f : α → ℕ) {l : List α} {i j : ℕ} {a b : α} (hij : i ≠ j)
    (hi : l[i]? = some a) (hj : l[j]? = some b) : f a + f b ≤ tally f l := by
  induction l generalizing i j with
  | nil => simp at hi
  | cons c l ih =>
    rw [tally_cons]
    cases i with
    | zero =>
      obtain rfl := Option.some.inj hi
      cases j with
      | zero => exact absurd rfl hij
      | succ j =>
        rw [List.getElem?_cons_succ] at hj
        exact Nat.add_le_add_left (le_tally f hj) _
    | succ i =>
      cases j with
      | zero =>
        obtain rfl := Option.some.inj hj
        rw [List.getElem?_cons_succ] at hi
        rw [Nat.add_comm]
        exact Nat.add_le_add_left (le_tally f hi) _
      | succ j =>
        have hle := ih (fun h => hij (congrArg Nat.succ h)) hi hj
        omega

/-- When the tally is one at most, one slot at most has a share. -/
theorem index_unique {f : α → ℕ} {l : List α} (h : tally f l ≤ 1) {i j : ℕ} {a b : α}
    (hi : l[i]? = some a) (hj : l[j]? = some b) (ha : 0 < f a) (hb : 0 < f b) : i = j := by
  by_contra hij
  have := add_le_tally f hij hi hj
  omega

theorem tally_eq_zero {f : α → ℕ} {l : List α} (h : ∀ a ∈ l, f a = 0) : tally f l = 0 := by
  induction l with
  | nil => rfl
  | cons c l ih =>
    rw [tally_cons, h c List.mem_cons_self, ih fun a ha => h a (List.mem_cons_of_mem c ha)]

theorem eq_zero_of_tally {f : α → ℕ} {l : List α} (h : tally f l = 0) {a : α} (ha : a ∈ l) :
    f a = 0 := by
  obtain ⟨i, hi⟩ := List.mem_iff_getElem?.mp ha
  have := le_tally f hi
  omega

theorem tally_congr {f g : α → ℕ} {l : List α} (h : ∀ a ∈ l, f a = g a) :
    tally f l = tally g l := by
  rw [tally, tally, List.map_congr_left h]

/-! ## Reading a slot after an update -/

theorem of_getElem?_set {l : List α} {i j : ℕ} {a b : α} (h : (l.set i a)[j]? = some b) :
    (j = i ∧ b = a) ∨ (j ≠ i ∧ l[j]? = some b) := by
  rw [List.getElem?_set] at h
  split at h
  · next hij =>
    split at h
    · exact Or.inl ⟨hij.symm, (Option.some.inj h).symm⟩
    · exact absurd h (by simp)
  · next hij => exact Or.inr ⟨fun hji => hij hji.symm, h⟩

theorem of_getElem?_concat {l : List α} {j : ℕ} {a b : α} (h : (l ++ [a])[j]? = some b) :
    l[j]? = some b ∨ (j = l.length ∧ b = a) := by
  rw [List.getElem?_append] at h
  split at h
  · exact Or.inl h
  · rw [List.getElem?_singleton] at h
    split at h
    · exact Or.inr ⟨by omega, (Option.some.inj h).symm⟩
    · exact absurd h (by simp)

theorem getElem?_set_of {l : List α} {i : ℕ} {a : α} (h : l[i]? = some a) (b : α) :
    (l.set i b)[i]? = some b :=
  List.getElem?_set_self (List.getElem?_eq_some_iff.mp h).1

theorem getElem?_concat_of {l : List α} {i : ℕ} {a : α} (h : l[i]? = some a) (b : α) :
    (l ++ [b])[i]? = some a := by
  rw [List.getElem?_append_left (List.getElem?_eq_some_iff.mp h).1, h]

theorem getElem?_set_of_ne {l : List α} {i j : ℕ} (h : j ≠ i) (b : α) :
    (l.set i b)[j]? = l[j]? :=
  List.getElem?_set_ne h.symm

/-! ## Counting slots -/

/-- Slots with a share each are no more than the tally. -/
theorem length_le_tally (f : α → ℕ) {l : List α} {is : List ℕ} (hnodup : is.Nodup)
    (h : ∀ i ∈ is, ∃ a, l[i]? = some a ∧ 0 < f a) : is.length ≤ tally f l := by
  induction l using List.reverseRecOn generalizing is with
  | nil =>
    cases is with
    | nil => exact Nat.zero_le _
    | cons i is =>
      obtain ⟨a, ha, -⟩ := h i List.mem_cons_self
      exact absurd ha (by simp)
  | append_singleton l b ih =>
    -- all slots but the last one are slots of `l`
    have hold := ih (hnodup.erase l.length) fun i hi => by
      obtain ⟨hne, hmem⟩ := (hnodup.mem_erase_iff).mp hi
      obtain ⟨a, ha, hpos⟩ := h i hmem
      rcases of_getElem?_concat ha with hl | ⟨heq, -⟩
      · exact ⟨a, hl, hpos⟩
      · exact absurd heq hne
    rw [tally_append, tally_cons, tally_nil, Nat.add_zero]
    by_cases hlast : l.length ∈ is
    · obtain ⟨a, ha, hpos⟩ := h _ hlast
      rw [List.getElem?_concat_length] at ha
      obtain rfl := Option.some.inj ha
      rw [List.length_erase_of_mem hlast] at hold
      omega
    · rw [List.erase_of_not_mem hlast] at hold
      omega

end Tally
