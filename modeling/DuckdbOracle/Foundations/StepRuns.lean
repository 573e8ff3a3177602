import Mathlib.Data.List.Basic
import Mathlib.Data.List.Infix

/-!
# Runs of a partial step function

A system is a partial function `step : S → E → Option S`: the event `e` is
enabled in `s` when `step s e` is defined, and everything the environment may
choose is part of the event.  A run is then a list of events, and "for every
interleaving" is a quantifier over lists.

Two rules carry everything that is proved about runs below.

* `run_invariant`: what one step preserves, a run preserves.
* `guarded_iff_reached`: when a property survives a step *exactly* if a guard
  admits that step, a run keeps the property in every state it reaches exactly
  if the guard admits all of its steps.  This is the rule for a defect: the
  guard is the condition under which the defect is not hit.
-/

namespace StepRuns

universe u v

variable {S E : Type*} {step : S → E → Option S}

/-- A computation that may throw returns when both of its parts do. -/
theorem bind_eq_ok {ε : Type u} {α β : Type v} {x : Except ε α} {f : α → Except ε β} {b : β} :
    x >>= f = .ok b ↔ ∃ a, x = .ok a ∧ f a = .ok b := by
  cases x with
  | error e =>
    constructor
    · exact fun h => nomatch h
    · rintro ⟨a, h, -⟩
      exact nomatch h
  | ok a =>
    constructor
    · exact fun h => ⟨a, rfl, h⟩
    · rintro ⟨a', h, hf⟩
      obtain rfl := Except.ok.inj h
      exact hf

/-- A computation that may throw does so in one of its parts. -/
theorem bind_eq_error {ε : Type u} {α β : Type v} {x : Except ε α} {f : α → Except ε β} {e : ε} :
    x >>= f = .error e ↔ x = .error e ∨ ∃ a, x = .ok a ∧ f a = .error e := by
  cases x with
  | error e' =>
    constructor
    · exact fun h => Or.inl (congrArg Except.error (Except.error.inj h))
    · rintro (h | ⟨a, h, -⟩)
      · exact congrArg Except.error (Except.error.inj h)
      · exact nomatch h
  | ok a =>
    constructor
    · exact fun h => Or.inr ⟨a, rfl, h⟩
    · rintro (h | ⟨a', h, hf⟩)
      · exact nomatch h
      · obtain rfl := Except.ok.inj h
        exact hf

/-- What is made of the value returns when the value does. -/
theorem map_eq_ok {ε : Type u} {α β : Type v} {x : Except ε α} {f : α → β} {b : β} :
    x.map f = .ok b ↔ ∃ a, x = .ok a ∧ f a = b := by
  cases x with
  | error e =>
    constructor
    · exact fun h => nomatch h
    · rintro ⟨a, h, -⟩
      exact nomatch h
  | ok a =>
    constructor
    · exact fun h => ⟨a, rfl, Except.ok.inj h⟩
    · rintro ⟨a', h, rfl⟩
      exact congrArg (Except.map f) h

/-- What is made of the value throws what the value throws. -/
theorem map_eq_error {ε : Type u} {α β : Type v} {x : Except ε α} {f : α → β} {e : ε} :
    x.map f = .error e ↔ x = .error e := by
  cases x with
  | error e' =>
    constructor
    · exact fun h => congrArg Except.error (Except.error.inj h)
    · exact fun h => congrArg Except.error (Except.error.inj h)
  | ok a =>
    constructor
    · exact fun h => nomatch h
    · exact fun h => nomatch h

/-- Run a list of events from a state; `none` when some event is not enabled. -/
def run (step : S → E → Option S) : S → List E → Option S
  | s, [] => some s
  | s, e :: es => (step s e).bind fun t => run step t es

@[simp] theorem run_nil (s : S) : run step s [] = some s := rfl

theorem run_cons (s : S) (e : E) (es : List E) :
    run step s (e :: es) = (step s e).bind fun t => run step t es := rfl

theorem run_append (s : S) (es fs : List E) :
    run step s (es ++ fs) = (run step s es).bind fun t => run step t fs := by
  induction es generalizing s with
  | nil => rfl
  | cons e es ih =>
    rw [List.cons_append, run_cons, run_cons, Option.bind_assoc]
    congr 1
    funext t
    exact ih t

theorem run_concat (s : S) (es : List E) (e : E) :
    run step s (es ++ [e]) = (run step s es).bind fun t => step t e := by
  rw [run_append]
  congr 1
  funext t
  rw [run_cons]
  cases step t e <;> rfl

/-- A run that ends in a step has a state before that step. -/
theorem exists_of_run_concat {s u : S} {es : List E} {e : E}
    (h : run step s (es ++ [e]) = some u) :
    ∃ t, run step s es = some t ∧ step t e = some u := by
  rw [run_concat] at h
  exact Option.bind_eq_some_iff.mp h

theorem run_concat_of {s t u : S} {es : List E} {e : E} (h : run step s es = some t)
    (he : step t e = some u) : run step s (es ++ [e]) = some u := by
  rw [run_concat, h, Option.bind_some, he]

/-- If every event is enabled in every state, every list of events is a run. -/
theorem exists_run_of_total (htotal : ∀ s e, ∃ t, step s e = some t) (s : S) (es : List E) :
    ∃ t, run step s es = some t := by
  induction es generalizing s with
  | nil => exact ⟨s, rfl⟩
  | cons e es ih =>
    obtain ⟨t, ht⟩ := htotal s e
    obtain ⟨u, hu⟩ := ih t
    exact ⟨u, by rw [run_cons, ht, Option.bind_some, hu]⟩

/-- A prefix of a run is a run. -/
theorem exists_run_of_prefix {s u : S} {pre es : List E} (hpre : pre <+: es)
    (h : run step s es = some u) : ∃ t, run step s pre = some t := by
  obtain ⟨post, rfl⟩ := hpre
  rw [run_append] at h
  obtain ⟨t, ht, -⟩ := Option.bind_eq_some_iff.mp h
  exact ⟨t, ht⟩

/-! ## Invariants -/

/-- **What one step preserves, a run preserves.** -/
theorem run_invariant {I : S → Prop}
    (hstep : ∀ s e t, I s → step s e = some t → I t)
    {s t : S} {es : List E} (h0 : I s) (h : run step s es = some t) : I t := by
  induction es generalizing s with
  | nil => exact Option.some.inj h ▸ h0
  | cons e es ih =>
    rw [run_cons] at h
    obtain ⟨u, hu, hrun⟩ := Option.bind_eq_some_iff.mp h
    exact ih (hstep s e u h0 hu) hrun

/-- A relation that contains every step and is a preorder contains every run. -/
theorem run_relation {R : S → S → Prop} (hrefl : ∀ s, R s s)
    (htrans : ∀ s t u, R s t → R t u → R s u)
    (hstep : ∀ s e t, step s e = some t → R s t)
    {s t : S} {es : List E} (h : run step s es = some t) : R s t := by
  refine run_invariant (I := fun u => R s u) ?_ (hrefl s) h
  intro u e v hsu huv
  exact htrans s u v hsu (hstep u e v huv)

/-! ## States on the way, and guards -/

/-- `t` is reached by the run of `es` from `s`, at its end or on the way. -/
def Reached (step : S → E → Option S) (s : S) (es : List E) (t : S) : Prop :=
  ∃ pre, pre <+: es ∧ run step s pre = some t

theorem Reached.of_run {s t : S} {es : List E} (h : run step s es = some t) :
    Reached step s es t :=
  ⟨es, List.prefix_refl es, h⟩

/-- The guard `G` admits every step of the run of `es` from `s`: `G t e` holds
whenever the run takes the event `e` in the state `t`. -/
def Guarded (step : S → E → Option S) (G : S → E → Prop) (s : S) (es : List E) : Prop :=
  ∀ pre e, pre ++ [e] <+: es → ∀ t, run step s pre = some t → G t e

theorem Guarded.of_prefix {G : S → E → Prop} {s : S} {es fs : List E} (hpre : es <+: fs)
    (h : Guarded step G s fs) : Guarded step G s es :=
  fun pre e hp => h pre e (hp.trans hpre)

theorem Guarded.last {G : S → E → Prop} {s t : S} {es : List E} {e : E}
    (h : Guarded step G s (es ++ [e])) (ht : run step s es = some t) : G t e :=
  h es e (List.prefix_refl _) t ht

theorem Guarded.nil {G : S → E → Prop} {s : S} : Guarded step G s [] := by
  intro pre e hp
  have hlength := hp.length_le
  simp at hlength

/-- A guard is checked step by step. -/
theorem Guarded.cons {G : S → E → Prop} {s : S} {e : E} {es : List E} (he : G s e)
    (hes : ∀ t, step s e = some t → Guarded step G t es) : Guarded step G s (e :: es) := by
  intro pre e' hp t ht
  cases pre with
  | nil =>
    obtain rfl := Option.some.inj ht
    obtain ⟨rfl, -⟩ := List.cons_prefix_cons.mp hp
    exact he
  | cons a pre =>
    obtain ⟨rfl, hrest⟩ := List.cons_prefix_cons.mp hp
    rw [run_cons] at ht
    obtain ⟨u, hu, hrun⟩ := Option.bind_eq_some_iff.mp ht
    exact hes u hu pre e' hrest t hrun

/-- **What an admitted step preserves, a guarded run preserves.** -/
theorem guarded_invariant {I : S → Prop} {G : S → E → Prop}
    (hstep : ∀ s e t, I s → G s e → step s e = some t → I t)
    {s t : S} {es : List E} (h0 : I s) (hG : Guarded step G s es)
    (h : run step s es = some t) : I t := by
  induction es using List.reverseRecOn generalizing t with
  | nil => exact Option.some.inj h ▸ h0
  | append_singleton es e ih =>
    obtain ⟨u, hu, hut⟩ := exists_of_run_concat h
    exact hstep u e t (ih (hG.of_prefix (List.prefix_append _ _)) hu) (hG.last hu) hut

theorem guarded_invariant_reached {I : S → Prop} {G : S → E → Prop}
    (hstep : ∀ s e t, I s → G s e → step s e = some t → I t)
    {s t : S} {es : List E} (h0 : I s) (hG : Guarded step G s es)
    (h : Reached step s es t) : I t := by
  obtain ⟨pre, hpre, ht⟩ := h
  exact guarded_invariant hstep h0 (hG.of_prefix hpre) ht

/-- Two guards that agree in the states of an invariant admit the same runs. -/
theorem guarded_congr {I : S → Prop} {G G' : S → E → Prop}
    (hI : ∀ s e t, I s → step s e = some t → I t) {s : S} {es : List E}
    (hG : ∀ t, I t → ∀ e ∈ es, (G t e ↔ G' t e)) (h0 : I s) :
    Guarded step G s es ↔ Guarded step G' s es := by
  have hagree : ∀ pre e, pre ++ [e] <+: es → ∀ t, run step s pre = some t → (G t e ↔ G' t e) :=
    fun pre e hp t ht => hG t (run_invariant hI h0 ht) e (hp.subset (by simp))
  constructor
  · exact fun h pre e hp t ht => (hagree pre e hp t ht).mp (h pre e hp t ht)
  · exact fun h pre e hp t ht => (hagree pre e hp t ht).mpr (h pre e hp t ht)

/-- **The exact guard of a property, on assumptions.**  Let the steps that `A`
admits preserve `I`, and let such a step from a state with `Q` lead to a state
with `Q` exactly when `G` admits it.  Then a run that `A` admits keeps `Q` in
every state it reaches exactly when `G` admits all of its steps. -/
theorem guarded_iff_reached_of {I Q : S → Prop} {A G : S → E → Prop}
    (hI : ∀ s e t, I s → A s e → step s e = some t → I t)
    (hQ : ∀ s e t, I s → A s e → Q s → step s e = some t → (Q t ↔ G s e))
    {s m : S} {es : List E} (hI0 : I s) (hQ0 : Q s) (hA : Guarded step A s es)
    (h : run step s es = some m) :
    (∀ t, Reached step s es t → Q t) ↔ Guarded step G s es := by
  constructor
  · intro hall pre e hp t ht
    obtain ⟨u, hu⟩ := exists_run_of_prefix hp h
    obtain ⟨t', ht', hstep⟩ := exists_of_run_concat hu
    rw [ht] at ht'
    obtain rfl := Option.some.inj ht'
    have hpre : pre <+: es := (List.prefix_append _ _).trans hp
    have hIt : I t := guarded_invariant hI hI0 (hA.of_prefix hpre) ht
    have hQt : Q t := hall t ⟨pre, hpre, ht⟩
    exact (hQ t e u hIt (hA pre e hp t ht) hQt hstep).mp (hall u ⟨_, hp, hu⟩)
  · intro hG t hreach
    have hboth : I t ∧ Q t := by
      refine guarded_invariant_reached (I := fun u => I u ∧ Q u)
        (G := fun u e => A u e ∧ G u e) ?_ ⟨hI0, hQ0⟩ ?_ hreach
      · rintro u e v ⟨hIu, hQu⟩ ⟨hAu, hGu⟩ hstep
        exact ⟨hI u e v hIu hAu hstep, (hQ u e v hIu hAu hQu hstep).mpr hGu⟩
      · exact fun pre e hp u hu => ⟨hA pre e hp u hu, hG pre e hp u hu⟩
    exact hboth.2

/-- **The exact guard of a property.**  The case without assumptions. -/
theorem guarded_iff_reached {I Q : S → Prop} {G : S → E → Prop}
    (hI : ∀ s e t, I s → step s e = some t → I t)
    (hQ : ∀ s e t, I s → Q s → step s e = some t → (Q t ↔ G s e))
    {s m : S} {es : List E} (hI0 : I s) (hQ0 : Q s) (h : run step s es = some m) :
    (∀ t, Reached step s es t → Q t) ↔ Guarded step G s es :=
  guarded_iff_reached_of (A := fun _ _ => True) (fun s e t hs _ => hI s e t hs)
    (fun s e t hs _ => hQ s e t hs) hI0 hQ0 (fun _ _ _ _ _ => trivial) h

end StepRuns
