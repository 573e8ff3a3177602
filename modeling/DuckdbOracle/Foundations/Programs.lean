import Mathlib.Logic.Basic

/-!
# Programs over a library with contracts

A call of a library changes a state and is undefined outside its contract: a
`Call` is a partial function of the state, and `none` is a call that was not
allowed.  A `Program` is made of calls and may throw; the state stays what it is
when it does.  Destructors are calls: they never throw, and they run on both
ways out of the scope they belong to.

`Returns` and `Ends` say that a call or a program stays within every contract,
and in what it ends.  Their rules are equivalences, one for each way of putting
programs together, so that a proof follows the text of the program.
-/

namespace Programs

variable {S E α β : Type}

/-- A library call. -/
abbrev Call (S : Type) := StateT S Option

/-- A program that makes calls and may throw an `E`. -/
abbrev Program (S E : Type) := ExceptT E (Call S)

/-- A contract: the call is undefined unless `p` holds. -/
def require (p : S → Bool) : Call S Unit := fun s => if p s then some ((), s) else none

/-- A call of a program. -/
def perform (c : Call S α) : Program S E α := ExceptT.lift c

/-- Run `x`, and then the destructor `d` whether `x` has returned or thrown. -/
def withDestructor (x : Program S E α) (d : Call S Unit) : Program S E α :=
  ExceptT.mk (x.run >>= fun r => d >>= fun _ => pure r)

/-- Run `x`, and the destructor `d` if `x` has thrown: `d` destroys what `x` was to hand on. -/
def unwinding (x : Program S E α) (d : Call S Unit) : Program S E α :=
  ExceptT.mk (x.run >>= fun r =>
    match r with
    | .ok a => pure (.ok a)
    | .error e => d >>= fun _ => pure (.error e))

/-- Make a call only if `c` holds. -/
def onlyIf (c : Bool) (x : Call S Unit) : Call S Unit := if c then x else pure ()

/-- Make a call and drop what it returns. -/
def ignore (x : Call S α) : Call S Unit := x >>= fun _ => pure ()

/-- Build an object step by step.  If a step throws, the object is destroyed as it was
before that step. -/
def construct {O : Type} (destroy : O → Call S Unit) :
    List (O → Program S E O) → O → Program S E O
  | [], o => pure o
  | step :: steps, o => unwinding (step o) (destroy o) >>= construct destroy steps

/-- A call on a part of a larger state. -/
def within {T : Type} (part : T → S) (put : S → T → T) (x : Call S α) : Call T α :=
  fun t => (x (part t)).map fun r => (r.1, put r.2 t)

/-- A program on a part of a larger state. -/
def inside {T : Type} (part : T → S) (put : S → T → T) (x : Program S E α) : Program T E α :=
  ExceptT.mk (within part put x.run)

/-! ## Calls -/

/-- The call `x` is allowed in `s` and ends in `Q`. -/
def Returns (x : Call S α) (s : S) (Q : α → S → Prop) : Prop :=
  ∃ a t, x s = some (a, t) ∧ Q a t

theorem Returns.mono {x : Call S α} {s : S} {Q R : α → S → Prop} (h : Returns x s Q)
    (hQR : ∀ a t, Q a t → R a t) : Returns x s R := by
  obtain ⟨a, t, hx, hQ⟩ := h
  exact ⟨a, t, hx, hQR a t hQ⟩

@[simp] theorem returns_pure {a : α} {s : S} {Q : α → S → Prop} :
    Returns (pure a : Call S α) s Q ↔ Q a s := by
  constructor
  · rintro ⟨b, t, hx, hQ⟩
    obtain ⟨rfl, rfl⟩ := Prod.mk.inj (Option.some.inj hx)
    exact hQ
  · exact fun h => ⟨a, s, rfl, h⟩

@[simp] theorem returns_bind {x : Call S α} {f : α → Call S β} {s : S} {Q : β → S → Prop} :
    Returns (x >>= f) s Q ↔ Returns x s fun a t => Returns (f a) t Q := by
  constructor
  · rintro ⟨b, u, hx, hQ⟩
    obtain ⟨⟨a, t⟩, ha, hb⟩ := Option.bind_eq_some_iff.mp hx
    exact ⟨a, t, ha, b, u, hb, hQ⟩
  · rintro ⟨a, t, ha, b, u, hb, hQ⟩
    exact ⟨b, u, Option.bind_eq_some_iff.mpr ⟨(a, t), ha, hb⟩, hQ⟩

@[simp] theorem returns_require {p : S → Bool} {s : S} {Q : Unit → S → Prop} :
    Returns (require p) s Q ↔ p s = true ∧ Q () s := by
  unfold Returns require
  by_cases hp : p s = true
  · rw [if_pos hp]
    constructor
    · rintro ⟨a, t, h, hQ⟩
      obtain ⟨rfl, rfl⟩ := Prod.mk.inj (Option.some.inj h)
      exact ⟨hp, hQ⟩
    · exact fun h => ⟨(), s, rfl, h.2⟩
  · rw [if_neg hp]
    constructor
    · rintro ⟨a, t, h, -⟩
      exact nomatch h
    · exact fun h => absurd h.1 hp

@[simp] theorem returns_get {s : S} {Q : S → S → Prop} :
    Returns (get : Call S S) s Q ↔ Q s s := by
  constructor
  · rintro ⟨a, t, hx, hQ⟩
    obtain ⟨rfl, rfl⟩ := Prod.mk.inj (Option.some.inj hx)
    exact hQ
  · exact fun h => ⟨s, s, rfl, h⟩

@[simp] theorem returns_set {s t : S} {Q : PUnit → S → Prop} :
    Returns (set t : Call S PUnit) s Q ↔ Q ⟨⟩ t := by
  constructor
  · rintro ⟨a, u, hx, hQ⟩
    obtain ⟨rfl, rfl⟩ := Prod.mk.inj (Option.some.inj hx)
    exact hQ
  · exact fun h => ⟨⟨⟩, t, rfl, h⟩

@[simp] theorem returns_modify {f : S → S} {s : S} {Q : PUnit → S → Prop} :
    Returns (modify f : Call S PUnit) s Q ↔ Q ⟨⟩ (f s) := by
  constructor
  · rintro ⟨a, u, hx, hQ⟩
    obtain ⟨rfl, rfl⟩ := Prod.mk.inj (Option.some.inj hx)
    exact hQ
  · exact fun h => ⟨⟨⟩, f s, rfl, h⟩

theorem returns_onlyIf {c : Bool} {x : Call S Unit} {s : S} {Q : Unit → S → Prop} :
    Returns (onlyIf c x) s Q ↔ if c then Returns x s Q else Q () s := by
  unfold onlyIf
  cases c with
  | true => exact Iff.rfl
  | false => exact returns_pure

@[simp] theorem returns_ignore {x : Call S α} {s : S} {Q : Unit → S → Prop} :
    Returns (ignore x) s Q ↔ Returns x s fun _ t => Q () t := by
  unfold ignore
  rw [returns_bind]
  constructor
  · exact fun h => h.mono fun _ t => returns_pure.mp
  · exact fun h => h.mono fun _ t => returns_pure.mpr

theorem returns_within {T : Type} {part : T → S} {put : S → T → T} {x : Call S α} {t : T}
    {Q : α → T → Prop} :
    Returns (within part put x) t Q ↔ Returns x (part t) fun a s => Q a (put s t) := by
  unfold Returns within
  constructor
  · rintro ⟨a, u, h, hQ⟩
    obtain ⟨⟨b, s⟩, hx, heq⟩ := Option.map_eq_some_iff.mp h
    obtain ⟨rfl, rfl⟩ := Prod.mk.inj heq
    exact ⟨b, s, hx, hQ⟩
  · rintro ⟨a, s, hx, hQ⟩
    exact ⟨a, put s t, by rw [hx]; rfl, hQ⟩

/-! ## Programs -/

/-- The program `x` started in `s` stays within every contract and ends in `Q`,
having returned or thrown. -/
def Ends (x : Program S E α) (s : S) (Q : Except E α → S → Prop) : Prop :=
  Returns x.run s Q

theorem Ends.mono {x : Program S E α} {s : S} {Q R : Except E α → S → Prop} (h : Ends x s Q)
    (hQR : ∀ r t, Q r t → R r t) : Ends x s R := Returns.mono h hQR

@[simp] theorem ends_pure {a : α} {s : S} {Q : Except E α → S → Prop} :
    Ends (pure a : Program S E α) s Q ↔ Q (.ok a) s := returns_pure

@[simp] theorem ends_throw {e : E} {s : S} {Q : Except E α → S → Prop} :
    Ends (throw e : Program S E α) s Q ↔ Q (.error e) s := returns_pure

@[simp] theorem ends_perform {c : Call S α} {s : S} {Q : Except E α → S → Prop} :
    Ends (perform c : Program S E α) s Q ↔ Returns c s fun a t => Q (.ok a) t := by
  unfold Ends perform
  rw [ExceptT.run_lift, ← bind_pure_comp, returns_bind]
  constructor
  · exact fun h => h.mono fun a t ht => returns_pure.mp ht
  · exact fun h => h.mono fun a t ht => returns_pure.mpr ht

/-- **Sequencing.**  What comes next runs only if nothing was thrown. -/
theorem ends_bind {x : Program S E α} {f : α → Program S E β} {s : S}
    {Q : Except E β → S → Prop} :
    Ends (x >>= f) s Q ↔
      Ends x s fun r t => match r with
        | .ok a => Ends (f a) t Q
        | .error e => Q (.error e) t := by
  unfold Ends
  rw [ExceptT.run_bind, returns_bind]
  constructor
  · refine fun h => h.mono fun r t ht => ?_
    cases r with
    | ok a => exact ht
    | error e =>
      have hpure : Returns (pure (.error e)) t Q := ht
      exact show Q (.error e) t from returns_pure.mp hpure
  · refine fun h => h.mono fun r t ht => ?_
    cases r with
    | ok a => exact ht
    | error e => exact show Returns (pure (.error e)) t Q from returns_pure.mpr ht

/-- Sequencing after a call, which throws nothing. -/
@[simp] theorem ends_perform_bind {c : Call S α} {f : α → Program S E β} {s : S}
    {Q : Except E β → S → Prop} :
    Ends (perform c >>= f) s Q ↔ Returns c s fun a t => Ends (f a) t Q :=
  ends_bind.trans ends_perform

/-- **Scopes.**  The destructor sees the state that either way out has left. -/
theorem ends_withDestructor {x : Program S E α} {d : Call S Unit} {s : S}
    {Q : Except E α → S → Prop} :
    Ends (withDestructor x d) s Q ↔ Ends x s fun r t => Returns d t fun _ u => Q r u := by
  unfold Ends withDestructor
  rw [ExceptT.run_mk, returns_bind]
  constructor
  · exact fun h => h.mono fun r t ht => (returns_bind.mp ht).mono fun _ u => returns_pure.mp
  · exact fun h => h.mono fun r t ht => returns_bind.mpr (ht.mono fun _ u => returns_pure.mpr)

/-- **Unwinding.**  The destructor runs on the way out of an exception only. -/
theorem ends_unwinding {x : Program S E α} {d : Call S Unit} {s : S}
    {Q : Except E α → S → Prop} :
    Ends (unwinding x d) s Q ↔
      Ends x s fun r t => match r with
        | .ok a => Q (.ok a) t
        | .error e => Returns d t fun _ u => Q (.error e) u := by
  unfold Ends unwinding
  rw [ExceptT.run_mk, returns_bind]
  constructor
  · refine fun h => h.mono fun r t ht => ?_
    cases r with
    | ok a =>
      have hpure : Returns (pure (.ok a)) t Q := ht
      exact show Q (.ok a) t from returns_pure.mp hpure
    | error e =>
      have hd : Returns (d >>= fun _ => pure (.error e)) t Q := ht
      exact (returns_bind.mp hd).mono fun _ u => returns_pure.mp
  · refine fun h => h.mono fun r t ht => ?_
    cases r with
    | ok a => exact show Returns (pure (.ok a)) t Q from returns_pure.mpr ht
    | error e =>
      refine show Returns (d >>= fun _ => pure (.error e)) t Q from ?_
      exact returns_bind.mpr (ht.mono fun _ u => returns_pure.mpr)

theorem ends_inside {T : Type} {part : T → S} {put : S → T → T} {x : Program S E α} {t : T}
    {Q : Except E α → T → Prop} :
    Ends (inside part put x) t Q ↔ Ends x (part t) fun r s => Q r (put s t) := by
  unfold Ends inside
  rw [ExceptT.run_mk, returns_within]

/-- **Building an object.**  Its first step, and then the others; a step that throws leaves
the object as it was to the destructor. -/
theorem ends_construct_cons {O : Type} {destroy : O → Call S Unit} {step : O → Program S E O}
    {steps : List (O → Program S E O)} {o : O} {s : S} {Q : Except E O → S → Prop} :
    Ends (construct destroy (step :: steps) o) s Q ↔
      Ends (step o) s fun r t => match r with
        | .ok o' => Ends (construct destroy steps o') t Q
        | .error e => Returns (destroy o) t fun _ u => Q (.error e) u := by
  show Ends (unwinding (step o) (destroy o) >>= construct destroy steps) s Q ↔ _
  rw [ends_bind, ends_unwinding]

/-! ## What a program keeps -/

/-- `x` stays within every contract from a state of `I`, and leaves `I` true on both ways out. -/
def Keeps (I : S → Prop) (x : Program S E α) : Prop :=
  ∀ s, I s → Ends x s fun _ t => I t

theorem Keeps.pure {I : S → Prop} (a : α) : Keeps I (pure a : Program S E α) :=
  fun _ hs => ends_pure.mpr hs

theorem Keeps.throw {I : S → Prop} (e : E) : Keeps I (throw e : Program S E α) :=
  fun _ hs => ends_throw.mpr hs

theorem Keeps.bind {I : S → Prop} {x : Program S E α} {f : α → Program S E β}
    (hx : Keeps I x) (hf : ∀ a, Keeps I (f a)) : Keeps I (x >>= f) := by
  intro s hs
  refine ends_bind.mpr ((hx s hs).mono fun r t ht => ?_)
  cases r with
  | ok a => exact hf a t ht
  | error e => exact ht

/-- A loop over a list keeps what its body keeps. -/
theorem Keeps.forM {I : S → Prop} {f : α → Program S E PUnit} (hf : ∀ a, Keeps I (f a)) :
    ∀ l : List α, Keeps I (l.forM f)
  | [] => Keeps.pure _
  | a :: l => Keeps.bind (hf a) fun _ => Keeps.forM hf l

end Programs
