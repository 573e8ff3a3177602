import Mathlib.Logic.Function.Basic
import Mathlib.Logic.Relation
import Mathlib.Order.BooleanAlgebra.Set
import DuckdbOracle.Foundations.StepRuns

/-!
# Lock order

Threads take and give back mutexes.  A thread is the list of the lock operations it
has still to do, and a call hands an idle thread such a list; the mutexes are not
recursive, so a thread that has to lock a held one waits, its own ones included.

A wait cycle is a chain of threads, each at a `lock` that the next one holds, that
comes back to its first.  There is none when the mutexes can be ranked so that every
thread only ever locks a mutex above all those it holds (`Ordered`): then the ranks of
the requested mutexes rise along the chain (`rank_lt_of_waits`).  That a list of
operations is ordered is checked along its structure, with one rule for each way in
which it is put together (`Balanced.append`, `Balanced.guarded`, `Balanced.relock`).

## What a state leaves out

Which data a thread reads and writes between its lock operations is not recorded.  A
list of operations is what one run of a program does, with every branch taken, so a
statement about all lists that a program may do is one about all of its runs.
-/

namespace LockOrder

open StepRuns

variable {T M : Type*}

/-! ## Lock operations and threads -/

/-- One lock operation. -/
inductive Action (M : Type*) where
  | lock (l : M)
  | unlock (l : M)
  deriving DecidableEq

/-- A scope that is guarded by a lock: the guard's destructor unlocks, however the scope
is left. -/
def guarded (l : M) (body : List (Action M)) : List (Action M) :=
  .lock l :: body ++ [.unlock l]

/-- Who holds what, and what each thread has still to do. -/
structure Threads (T M : Type*) where
  owner : M → Option T
  todo : T → List (Action M)

/-- No thread has begun. -/
def Threads.idle : Threads T M := ⟨fun _ => none, fun _ => []⟩

/-- An idle thread begins a call, or a thread does its next operation. -/
inductive Event (T M : Type*) where
  | call (t : T) (trace : List (Action M))
  | act (t : T)

section Step

variable [DecidableEq T] [DecidableEq M]

/-- The next operation of `t`.  To lock a held mutex is to wait: no step. -/
def act (c : Threads T M) (t : T) : Option (Threads T M) :=
  match c.todo t with
  | [] => none
  | .lock l :: rest =>
    match c.owner l with
    | some _ => none
    | none => some ⟨Function.update c.owner l (some t), Function.update c.todo t rest⟩
  | .unlock l :: rest =>
    if c.owner l = some t then
      some ⟨Function.update c.owner l none, Function.update c.todo t rest⟩
    else none

/-- One step of one thread. -/
def step (c : Threads T M) : Event T M → Option (Threads T M)
  | .call t trace =>
    if c.todo t = [] then some { c with todo := Function.update c.todo t trace } else none
  | .act t => act c t

end Step

/-! ## Waiting -/

/-- `t` is at the request of the mutex `l`. -/
def Requests (c : Threads T M) (t : T) (l : M) : Prop :=
  ∃ rest, c.todo t = .lock l :: rest

/-- `t` is at the request of a mutex that `u` holds. -/
def WaitsFor (c : Threads T M) (t u : T) : Prop :=
  ∃ l, Requests c t l ∧ c.owner l = some u

theorem Requests.unique {c : Threads T M} {t : T} {l m : M} (hl : Requests c t l)
    (hm : Requests c t m) : l = m := by
  obtain ⟨rest, hl⟩ := hl
  obtain ⟨rest', hm⟩ := hm
  rw [hl] at hm
  exact Action.lock.inj (List.cons.inj hm).1

/-- What `t` holds. -/
def held (c : Threads T M) (t : T) : Set M := {l | c.owner l = some t}

/-! ## Ordered lists of operations -/

section Rank

variable {R : Type*} [Preorder R] (rank : M → R)

/-- From the mutexes in `s` on: every lock is above all that is held, only what is held is
unlocked, and nothing is held in the end. -/
def Ordered : Set M → List (Action M) → Prop
  | s, [] => s = ∅
  | s, .lock l :: rest => (∀ m ∈ s, rank m < rank l) ∧ Ordered (insert l s) rest
  | s, .unlock l :: rest => l ∈ s ∧ Ordered (s \ {l}) rest

/-- A part of a list of operations that keeps the order, and leaves held what it finds
held. -/
def Balanced (s : Set M) (body : List (Action M)) : Prop :=
  ∀ rest, Ordered rank s rest → Ordered rank s (body ++ rest)

variable {rank}

/-- A mutex above all of `s` is not in `s`. -/
theorem insert_diff_of_lt {s : Set M} {l : M} (h : ∀ m ∈ s, rank m < rank l) :
    insert l s \ {l} = s :=
  Set.insert_sdiff_self_of_notMem fun hl => lt_irrefl _ (h l hl)

theorem Balanced.nil {s : Set M} : Balanced rank s [] := fun _ h => h

theorem Balanced.append {s : Set M} {a b : List (Action M)} (ha : Balanced rank s a)
    (hb : Balanced rank s b) : Balanced rank s (a ++ b) := by
  intro rest h
  rw [List.append_assoc]
  exact ha _ (hb _ h)

/-- A guarded scope is in order when its mutex is above all that is held, and its body is
in order with it. -/
theorem Balanced.guarded {s : Set M} {l : M} {body : List (Action M)}
    (hl : ∀ m ∈ s, rank m < rank l) (hbody : Balanced rank (insert l s) body) :
    Balanced rank s (guarded l body) := by
  intro rest h
  have hrest : Ordered rank (insert l s) (.unlock l :: rest) := by
    refine ⟨Set.mem_insert l s, ?_⟩
    rwa [insert_diff_of_lt hl]
  have hscope := hbody _ hrest
  rw [LockOrder.guarded, List.append_assoc]
  exact ⟨hl, hscope⟩

/-- To give a mutex back and lock it again, as a wait on a condition variable does, is in
order when it is above all the others that are held. -/
theorem Balanced.relock {s : Set M} {l : M} (hl : ∀ m ∈ s, rank m < rank l) :
    Balanced rank (insert l s) [.unlock l, .lock l] := by
  intro rest h
  refine ⟨Set.mem_insert l s, ?_⟩
  rw [insert_diff_of_lt hl]
  exact ⟨hl, h⟩

/-- Parts that are in order one by one are in order one after the other. -/
theorem Balanced.flatMap {α : Type*} {s : Set M} {parts : List α} {body : α → List (Action M)}
    (h : ∀ a ∈ parts, Balanced rank s (body a)) : Balanced rank s (parts.flatMap body) := by
  induction parts with
  | nil => exact Balanced.nil
  | cons a parts ih =>
    rw [List.flatMap_cons]
    exact (h a List.mem_cons_self).append (ih fun b hb => h b (List.mem_cons_of_mem a hb))

/-- A whole call starts and ends with nothing held. -/
theorem Balanced.ordered {body : List (Action M)} (h : Balanced rank ∅ body) :
    Ordered rank ∅ body := by
  have hnil : Ordered rank ∅ [] := rfl
  have hbody := h [] hnil
  rwa [List.append_nil] at hbody

/-! ## Runs of ordered calls -/

variable (rank) in
/-- **The invariant.**  What each thread has still to do is in order from what it holds. -/
def InOrder (c : Threads T M) : Prop := ∀ t, Ordered rank (held c t) (c.todo t)

theorem InOrder.idle : InOrder rank (Threads.idle : Threads T M) := by
  intro t
  refine Set.eq_empty_iff_forall_notMem.mpr fun l hl => ?_
  exact absurd hl (by simp [held, Threads.idle])

theorem lt_of_requests {c : Threads T M} (hc : InOrder rank c) {t : T} {l m : M}
    (hl : Requests c t l) (hm : c.owner m = some t) : rank m < rank l := by
  obtain ⟨rest, hl⟩ := hl
  have ht := hc t
  rw [hl] at ht
  exact ht.1 m hm

/-- **No thread requests a mutex that it holds.** -/
theorem not_owner_of_requests {c : Threads T M} (hc : InOrder rank c) {t : T} {l : M}
    (hl : Requests c t l) : c.owner l ≠ some t :=
  fun hown => lt_irrefl _ (lt_of_requests hc hl hown)

/-- The ranks of what is requested rise along a chain of waiting threads. -/
theorem rank_lt_of_waits {c : Threads T M} (hc : InOrder rank c) {t u : T}
    (h : Relation.TransGen (WaitsFor c) t u) {l m : M} (hl : Requests c t l)
    (hm : Requests c u m) : rank l < rank m := by
  induction h generalizing m with
  | single hwait =>
    obtain ⟨l', hl', hown⟩ := hwait
    rw [hl.unique hl']
    exact lt_of_requests hc hm hown
  | tail _ hwait ih =>
    obtain ⟨l', hl', hown⟩ := hwait
    exact (ih hl').trans (lt_of_requests hc hm hown)

/-- **No wait cycle.** -/
theorem not_waits_self {c : Threads T M} (hc : InOrder rank c) (t : T) :
    ¬ Relation.TransGen (WaitsFor c) t t := by
  intro h
  obtain ⟨u, ⟨l, hl, -⟩, -⟩ := Relation.TransGen.head'_iff.mp h
  exact lt_irrefl _ (rank_lt_of_waits hc h hl hl)

variable [DecidableEq T] [DecidableEq M]

/-- What a thread holds after `l` has changed hands. -/
theorem held_update (c : Threads T M) (l : M) (o : Option T) (todo : T → List (Action M))
    (t : T) :
    held (⟨Function.update c.owner l o, todo⟩ : Threads T M) t =
      if o = some t then insert l (held c t) else held c t \ {l} := by
  ext m
  by_cases hm : m = l
  · subst hm
    split
    · next h => simp [held, h]
    · next h => simp [held, h]
  · split <;> simp [held, hm]

/-- The step of one thread keeps the order of the others: it takes and gives back only
what they do not hold. -/
theorem held_of_act_other {c c' : Threads T M} {t u : T} (h : act c t = some c') (hu : u ≠ t) :
    held c' u = held c u ∧ c'.todo u = c.todo u := by
  have hne : some t ≠ some u := fun h => hu (Option.some.inj h).symm
  have hfree : ∀ {l : M} {o : Option T}, c.owner l = o → o ≠ some u →
      held c u \ {l} = held c u := by
    intro l o hl ho
    refine Set.sdiff_singleton_eq_self fun hmem => ho ?_
    exact hl.symm.trans hmem
  unfold act at h
  split at h
  · cases h
  · next l rest _ =>
    split at h
    · cases h
    · next hown =>
      obtain rfl := Option.some.inj h
      refine ⟨?_, Function.update_of_ne hu _ _⟩
      rw [held_update, if_neg hne, hfree hown (by simp)]
  · next l rest _ =>
    split at h
    · next hown =>
      obtain rfl := Option.some.inj h
      refine ⟨?_, Function.update_of_ne hu _ _⟩
      rw [held_update, if_neg (by simp), hfree hown hne]
    · cases h

/-- The step of a thread keeps its own order. -/
theorem ordered_of_act {c c' : Threads T M} {t : T} (hc : Ordered rank (held c t) (c.todo t))
    (h : act c t = some c') : Ordered rank (held c' t) (c'.todo t) := by
  unfold act at h
  split at h
  · cases h
  · next l rest htodo =>
    rw [htodo] at hc
    split at h
    · cases h
    · obtain rfl := Option.some.inj h
      rw [held_update, if_pos rfl]
      simpa using hc.2
  · next l rest htodo =>
    rw [htodo] at hc
    split at h
    · obtain rfl := Option.some.inj h
      rw [held_update, if_neg (by simp)]
      simpa using hc.2
    · cases h

/-- **A step keeps the order**, if a call that begins is in order. -/
theorem InOrder.step {c c' : Threads T M} {e : Event T M} (hc : InOrder rank c)
    (hcall : ∀ t trace, e = .call t trace → Ordered rank ∅ trace)
    (h : LockOrder.step c e = some c') : InOrder rank c' := by
  intro u
  cases e with
  | call t trace =>
    rw [LockOrder.step] at h
    split at h
    · next hidle =>
      obtain rfl := Option.some.inj h
      have hu : held { c with todo := Function.update c.todo t trace } u = held c u := rfl
      rw [hu]
      by_cases hut : u = t
      · subst hut
        have hempty : held c u = ∅ := by
          have hu := hc u
          rwa [hidle] at hu
        rw [hempty]
        simpa using hcall u trace rfl
      · simpa [Function.update_of_ne hut] using hc u
    · cases h
  | act t =>
    by_cases hut : u = t
    · subst hut
      exact ordered_of_act (hc u) h
    · obtain ⟨hheld, htodo⟩ := held_of_act_other h hut
      rw [hheld, htodo]
      exact hc u

end Rank

end LockOrder
