import Mathlib.Data.Multiset.Filter
import Mathlib.Data.Multiset.MapFold
import Mathlib.Data.Multiset.UnionInter

/-!
# Tables of handles

A library that hands out numbered resources keeps a table of them: a number is
given out once, an entry stands in the table until its number is given back.

What stands in a table is a multiset of entries, `owned`, and this is the form in
which programs reason about it.  Whoever holds some of the entries writes the
table as a sum, `owned = mine + others`; an allocation adds an entry to the sum,
a release takes one out, and everything else in the sum is framed by addition.
That a number is never shared is `nodup`, a field of the table.
-/

namespace HandleTable

/-- Numbered entries; the next number is larger than all. -/
structure Table (K : Type) where
  entries : List (ℕ × K)
  next : ℕ
  lt_next : ∀ e ∈ entries, e.1 < next
  nodup : (entries.map Prod.fst).Nodup

variable {K : Type}

/-- The table without an entry. -/
def Table.empty : Table K where
  entries := []
  next := 0
  lt_next := by simp
  nodup := List.nodup_nil

/-- A new entry under the next number. -/
def Table.alloc (t : Table K) (k : K) : Table K where
  entries := (t.next, k) :: t.entries
  next := t.next + 1
  lt_next := by
    intro e he
    rcases List.mem_cons.mp he with rfl | he
    · exact Nat.lt_succ_self _
    · exact Nat.lt_succ_of_lt (t.lt_next e he)
  nodup := by
    rw [List.map_cons, List.nodup_cons]
    refine ⟨fun hmem => ?_, t.nodup⟩
    obtain ⟨e, he, heq⟩ := List.mem_map.mp hmem
    exact absurd (t.lt_next e he) (by rw [heq]; exact Nat.lt_irrefl _)

/-- Without the entry of a number. -/
def Table.free (t : Table K) (h : ℕ) : Table K where
  entries := t.entries.filter fun e => e.1 ≠ h
  next := t.next
  lt_next := fun e he => t.lt_next e (List.mem_of_mem_filter he)
  nodup := List.Nodup.sublist (List.filter_sublist.map Prod.fst) t.nodup

/-- Another entry for a number. -/
def Table.set (t : Table K) (h : ℕ) (k : K) : Table K where
  entries := t.entries.map fun e => if e.1 = h then (h, k) else e
  next := t.next
  lt_next := by
    intro e he
    obtain ⟨e', he', rfl⟩ := List.mem_map.mp he
    have hlt := t.lt_next e' he'
    split
    · next heq => exact heq ▸ hlt
    · exact hlt
  nodup := by
    have hfst : ((t.entries.map fun e => if e.1 = h then (h, k) else e).map Prod.fst) =
        t.entries.map Prod.fst := by
      rw [List.map_map]
      refine List.map_congr_left fun e _ => ?_
      show (if e.1 = h then (h, k) else e).1 = e.1
      split
      · next heq => exact heq.symm
      · rfl
    rw [hfst]
    exact t.nodup

/-- The entry of a number. -/
def Table.get? (t : Table K) (h : ℕ) : Option K := t.entries.lookup h

/-- **What stands in the table.** -/
def Table.owned (t : Table K) : Multiset (ℕ × K) := t.entries

@[simp] theorem owned_empty : (Table.empty : Table K).owned = 0 := rfl

@[simp] theorem next_alloc (t : Table K) (k : K) : (t.alloc k).next = t.next + 1 := rfl

@[simp] theorem next_free (t : Table K) (h : ℕ) : (t.free h).next = t.next := rfl

@[simp] theorem next_set (t : Table K) (h : ℕ) (k : K) : (t.set h k).next = t.next := rfl

/-- An allocation adds its entry. -/
@[simp] theorem owned_alloc (t : Table K) (k : K) :
    (t.alloc k).owned = {(t.next, k)} + t.owned := by
  rw [Multiset.singleton_add]
  rfl

theorem mem_owned {t : Table K} {e : ℕ × K} : e ∈ t.owned ↔ e ∈ t.entries := Multiset.mem_coe

theorem lookup_eq_some_iff {l : List (ℕ × K)} (hl : (l.map Prod.fst).Nodup) {h : ℕ} {k : K} :
    l.lookup h = some k ↔ (h, k) ∈ l := by
  induction l with
  | nil => simp
  | cons e l ih =>
    obtain ⟨h', k'⟩ := e
    rw [List.map_cons, List.nodup_cons] at hl
    rw [List.lookup_cons, List.mem_cons]
    by_cases heq : h = h'
    · subst heq
      have hnot : (h, k) ∉ l := fun hmem => hl.1 (List.mem_map.mpr ⟨(h, k), hmem, rfl⟩)
      simp [hnot, eq_comm]
    · have hbeq : (h == h') = false := beq_eq_false_iff_ne.mpr heq
      rw [hbeq]
      simp [ih hl.2, heq]

/-- The entry of a number is the one that is owned under it. -/
theorem get?_eq_some_iff {t : Table K} {h : ℕ} {k : K} :
    t.get? h = some k ↔ (h, k) ∈ t.owned := by
  rw [mem_owned]
  exact lookup_eq_some_iff t.nodup

theorem get?_of_owned {t : Table K} {h : ℕ} {k : K} {others : Multiset (ℕ × K)}
    (ht : t.owned = {(h, k)} + others) : t.get? h = some k := by
  rw [get?_eq_some_iff, ht, Multiset.singleton_add]
  exact Multiset.mem_cons_self _ _

/-- The others do not stand under the number of an entry. -/
theorem ne_of_mem_others {t : Table K} {h : ℕ} {k : K} {others : Multiset (ℕ × K)}
    (ht : t.owned = {(h, k)} + others) {e : ℕ × K} (he : e ∈ others) : e.1 ≠ h := by
  have hnodup : (t.owned.map Prod.fst).Nodup := by
    show ((t.entries.map Prod.fst : List ℕ) : Multiset ℕ).Nodup
    exact Multiset.coe_nodup.mpr t.nodup
  rw [ht, Multiset.singleton_add, Multiset.map_cons, Multiset.nodup_cons] at hnodup
  exact fun heq => hnodup.1 (Multiset.mem_map.mpr ⟨e, he, heq⟩)

/-- **A release takes its entry out, and nothing else.** -/
theorem owned_free {t : Table K} {h : ℕ} {k : K} {others : Multiset (ℕ × K)}
    (ht : t.owned = {(h, k)} + others) : (t.free h).owned = others := by
  have hfilter : (t.free h).owned = t.owned.filter fun e => e.1 ≠ h :=
    (Multiset.filter_coe _ _).symm
  rw [hfilter, ht, Multiset.singleton_add, Multiset.filter_cons_of_neg _ (by simp)]
  exact Multiset.filter_eq_self.mpr fun e he => ne_of_mem_others ht he

/-- **An update changes its entry, and nothing else.** -/
theorem owned_set {t : Table K} {h : ℕ} {k : K} {others : Multiset (ℕ × K)}
    (ht : t.owned = {(h, k)} + others) (k' : K) :
    (t.set h k').owned = {(h, k')} + others := by
  have hmap : (t.set h k').owned = t.owned.map fun e => if e.1 = h then (h, k') else e :=
    (Multiset.map_coe _ _).symm
  rw [hmap, ht, Multiset.map_add, Multiset.map_singleton, if_pos rfl]
  congr 1
  calc others.map (fun e => if e.1 = h then (h, k') else e)
      = others.map id :=
        Multiset.map_congr rfl fun e he => if_neg (ne_of_mem_others ht he)
    _ = others := Multiset.map_id others

end HandleTable
