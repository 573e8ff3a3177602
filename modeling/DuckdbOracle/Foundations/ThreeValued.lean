import Mathlib.Data.List.Basic

/-!
# Three-valued conjunctions

The logic of SQL has three truth values: TRUE, FALSE and unknown.  A conjunction is
FALSE when one of its parts is, TRUE when all are, and else unknown; a filter lets a
row through when its condition is TRUE.

`conj_split` is the rule for a condition that is evaluated in two places: when some
parts of a conjunction are replaced by others with the same truth value and moved, the
two conjunctions together have the truth value of the whole.
-/

namespace ThreeValued

/-- `none` is unknown. -/
abbrev Truth := Option Bool

/-- `AND`. -/
def both : Truth → Truth → Truth
  | some true, b => b
  | some false, _ => some false
  | none, some false => some false
  | none, some true => none
  | none, none => none

/-- The conjunction of a list; TRUE when it is empty. -/
def conj (parts : List Truth) : Truth := parts.foldr both (some true)

theorem both_comm (a b : Truth) : both a b = both b a := by
  rcases a with _ | _ | _ <;> rcases b with _ | _ | _ <;> rfl

theorem both_assoc (a b c : Truth) : both (both a b) c = both a (both b c) := by
  rcases a with _ | _ | _ <;> rcases b with _ | _ | _ <;> rcases c with _ | _ | _ <;> rfl

@[simp] theorem both_true (a : Truth) : both (some true) a = a := by cases a <;> rfl

theorem both_eq_true_iff {a b : Truth} :
    both a b = some true ↔ a = some true ∧ b = some true := by
  rcases a with _ | _ | _ <;> rcases b with _ | _ | _ <;> simp [both]

@[simp] theorem conj_nil : conj [] = some true := rfl

@[simp] theorem conj_cons (a : Truth) (parts : List Truth) :
    conj (a :: parts) = both a (conj parts) := rfl

/-- **A conjunction is split.**  The parts for which `f` has a replacement with the same
truth value go to one side, the others are kept. -/
theorem conj_split {α β : Type*} {f : α → Option β} {kept : α → Bool} {moved : β → Truth}
    {truth : α → Truth} (hkept : ∀ a, kept a = true ↔ f a = none)
    (h : ∀ a b, f a = some b → moved b = truth a) (parts : List α) :
    both (conj ((parts.filterMap f).map moved)) (conj ((parts.filter kept).map truth)) =
      conj (parts.map truth) := by
  induction parts with
  | nil => rfl
  | cons a parts ih =>
    rw [List.map_cons, conj_cons]
    cases hf : f a with
    | none =>
      rw [List.filterMap_cons_none hf, List.filter_cons_of_pos ((hkept a).mpr hf),
        List.map_cons, conj_cons, ← ih, ← both_assoc, both_comm _ (truth a), both_assoc]
    | some b =>
      have hdrop : ¬ kept a = true := by rw [hkept, hf]; simp
      rw [List.filterMap_cons_some hf, List.filter_cons_of_neg hdrop, List.map_cons, conj_cons,
        h a b hf, both_assoc, ih]

end ThreeValued
