import DuckdbOracle.Connection.HeldSessions

/-!
# Sessions do not cross a `Clear`

`OracleConnectionManager::Clear` empties the map and nothing else: the pool objects
it drops live on in handles and in calls of `Acquire`, and go on exchanging
sessions.  This file proves that the two generations never mix.

Fix a `Clear`, and let `n₀` be the number of pool objects and `k₀` the number of
calls there are at that moment.  Then in every later state (`Separated`)

* the map names only pool objects from `n₀` on;
* a call works on a pool object from `n₀` on exactly if it is a call from `k₀` on;
* a session that is idle in such a pool object, or held through it, was opened by a
  call from `k₀` on.

Sessions are numbered in the order in which `CreateConnection` returns them, so
the session `s` was opened by the call of the `s`-th `connected` event of the run
(`openers`).  A call from `k₀` on was not there before the `Clear`, so it cannot
have started to connect before it.

The same analysis of a step says where the session of a handle comes from
(`Issued`), and with it that a destroyed handle gives its session back to the pool
object it was taken from.
-/

namespace DuckdbOracle
namespace Connection

open Catalog StepRuns Tally

/-! ## Which call opened a session -/

/-- The call whose `CreateConnection` returns in this step. -/
def connectedCall : Event → Option ℕ
  | .connected c => some c
  | _ => none

/-- The calls that opened the sessions of a run, in the order of the sessions. -/
def openers (es : List Event) : List ℕ := es.filterMap connectedCall

theorem openers_concat (es : List Event) (e : Event) :
    openers (es ++ [e]) = openers es ++ (connectedCall e).toList := by
  rw [openers, List.filterMap_append, openers]
  cases e <;> rfl

/-- The call `c` is inside `CreateConnection`. -/
def Connecting (m : OracleConnectionManager) (c : ℕ) : Prop :=
  ∃ call, m.calls[c]? = some call ∧
    (call.phase = .standalone ∨ ∃ p, call.phase = .connecting p)

/-- In the run of `es` the call `c` has started `CreateConnection`. -/
def StartedConnecting (es : List Event) (c : ℕ) : Prop :=
  ∃ m, Reached step initial es m ∧ Connecting m c

/-- The session `s` was opened by a call from `k₀` on. -/
def OpenedBy (k₀ : ℕ) (opened : List ℕ) (s : ℕ) : Prop := ∃ c, opened[s]? = some c ∧ k₀ ≤ c

theorem OpenedBy.append {k₀ s : ℕ} {opened : List ℕ} (h : OpenedBy k₀ opened s)
    (more : List ℕ) : OpenedBy k₀ (opened ++ more) s := by
  obtain ⟨c, hc, hle⟩ := h
  exact ⟨c, by rw [List.getElem?_append_left (List.getElem?_eq_some_iff.mp hc).1, hc], hle⟩

/-- The next session is opened by the call that connects. -/
theorem OpenedBy.last {k₀ c : ℕ} (opened : List ℕ) (hle : k₀ ≤ c) :
    OpenedBy k₀ (opened ++ [c]) opened.length :=
  ⟨c, List.getElem?_concat_length .., hle⟩

/-! ## Where a handle comes from -/

/-- The step `e` makes a handle: a call that works on the pool object `p` takes an
idle session out of it, or has opened one for it; or a call without caching has
opened one for itself. -/
inductive Issued (m : OracleConnectionManager) : Event → Option ℕ → OracleContext → Prop where
  | taken {c p : ℕ} {call : AcquireCall} {pool : OracleConnectionPool} {ctx : OracleContext}
      (hc : m.calls[c]? = some call) (hphase : call.phase.pool? = some p)
      (hp : m.objects[p]? = some pool) (hidle : ctx ∈ pool.idle) :
      Issued m (.lock c) (some p) ctx
  | opened {c p : ℕ} {call : AcquireCall} (hc : m.calls[c]? = some call)
      (hphase : call.phase = .connecting p) :
      Issued m (.connected c) (some p) ⟨m.created, call.connectionString⟩
  | alone {c : ℕ} {call : AcquireCall} (hc : m.calls[c]? = some call)
      (hphase : call.phase = .standalone) :
      Issued m (.connected c) none ⟨m.created, call.connectionString⟩

theorem of_handles_concat {m m' : OracleConnectionManager} {e : Event} {p : Option ℕ}
    {ctx : OracleContext} {i : ℕ} {handle : OracleConnectionHandle} (hnew : Issued m e p ctx)
    (hhandles : m'.handles = m.handles ++ [some ⟨p, ctx⟩])
    (hi : m'.handles[i]? = some (some handle)) :
    m.handles[i]? = some (some handle) ∨
      (i = m.handles.length ∧ Issued m e handle.pool handle.ctx) := by
  rw [hhandles] at hi
  rcases of_getElem?_concat hi with hold | ⟨rfl, heq⟩
  · exact Or.inl hold
  · obtain rfl := Option.some.inj heq
    exact Or.inr ⟨rfl, hnew⟩

/-- **Every handle was there before or is issued by the step.** -/
theorem Transition.handle {m m' : OracleConnectionManager} {e : Event} (h : Transition m e m')
    {i : ℕ} {handle : OracleConnectionHandle} (hi : m'.handles[i]? = some (some handle)) :
    m.handles[i]? = some (some handle) ∨
      (i = m.handles.length ∧ Issued m e handle.pool handle.ctx) := by
  -- destroying a handle makes no other
  have hdestroyed : ∀ {n : ℕ}, (m.handles.set n none)[i]? = some (some handle) →
      m.handles[i]? = some (some handle) := by
    intro n hn
    rcases of_getElem?_set hn with ⟨-, heq⟩ | ⟨-, hold⟩
    · exact absurd heq (by simp)
    · exact hold
  cases h with
  | take hc hp hadm hidle =>
    refine of_handles_concat (Issued.taken hc hadm.pool? hp ?_) rfl hi
    rw [← hadm.idle, hidle]
    exact List.mem_cons_self
  | connected hc hphase => exact of_handles_concat (Issued.opened hc hphase) rfl hi
  | connectedAlone hc hphase => exact of_handles_concat (Issued.alone hc hphase) rfl hi
  | released _ _ _ | releasedAlone _ => exact Or.inl (hdestroyed hi)
  | _ => exact Or.inl hi

/-! ## What a step does to the calls and the idle sessions -/

/-- A call works on the pool object it worked on before, or is new and works on the
one the map names. -/
theorem Transition.call {m m' : OracleConnectionManager} {e : Event} (h : Transition m e m')
    {c p : ℕ} {call' : AcquireCall} (hc : m'.calls[c]? = some call')
    (hp : call'.phase.pool? = some p) :
    (∃ call, m.calls[c]? = some call ∧ call.phase.pool? = some p) ∨
      (c = m.calls.length ∧ m'.pools call'.connectionString = some p) := by
  -- one call moves to a phase that works on the same pool object, or on none
  have hset : ∀ {d : ℕ} {call : AcquireCall} {phase : AcquirePhase}, m.calls[d]? = some call →
      (m.calls.set d { call with phase := phase })[c]? = some call' →
      (∀ q, phase.pool? = some q → call.phase.pool? = some q) →
      ∃ call, m.calls[c]? = some call ∧ call.phase.pool? = some p := by
    intro d call phase hd hget hphase
    rcases of_getElem?_set hget with ⟨rfl, rfl⟩ | ⟨-, hold⟩
    · exact ⟨call, hd, hphase p hp⟩
    · exact ⟨call', hold, hp⟩
  have hnotify : ∀ {q : ℕ} {calls calls' : List AcquireCall}, Notify q calls calls' →
      calls'[c]? = some call' →
      ∃ call, calls[c]? = some call ∧ call.phase.pool? = some p := by
    intro q calls calls' hn hget
    cases hn with
    | nobody _ => exact ⟨call', hget, hp⟩
    | @woke w call hw hphase =>
      rcases of_getElem?_set hget with ⟨rfl, rfl⟩ | ⟨-, hold⟩
      · exact ⟨call, hw, by rw [hphase]; exact hp⟩
      · exact ⟨call', hold, hp⟩
  cases h with
  | standalone _ =>
    rcases of_getElem?_concat hc with hold | ⟨-, rfl⟩
    · exact Or.inl ⟨call', hold, hp⟩
    · exact absurd hp (by simp [AcquirePhase.pool?])
  | found _ hmap =>
    rcases of_getElem?_concat hc with hold | ⟨rfl, rfl⟩
    · exact Or.inl ⟨call', hold, hp⟩
    · exact Or.inr ⟨rfl, hmap.trans hp⟩
  | made _ _ =>
    rcases of_getElem?_concat hc with hold | ⟨rfl, rfl⟩
    · exact Or.inl ⟨call', hold, hp⟩
    · refine Or.inr ⟨rfl, ?_⟩
      dsimp only
      rw [Function.update_self]
      exact hp
  | take hd _ _ _ => exact Or.inl (hset hd hc fun _ hq => by cases hq)
  | reserve hd _ hadm _ _ | block hd _ hadm _ _ =>
    exact Or.inl (hset hd hc fun _ hq => hadm.pool?.trans hq)
  | timeout hd _ | threwAlone hd _ | connected hd _ | connectedAlone hd _ | late hd _ =>
    exact Or.inl (hset hd hc fun _ hq => by cases hq)
  | expired hd hphase | spurious hd hphase =>
    exact Or.inl (hset hd hc fun _ hq => by rw [hphase]; exact hq)
  | threw hd _ _ hn =>
    obtain ⟨call, hget, hpool⟩ := hnotify hn hc
    rcases of_getElem?_set hget with ⟨-, rfl⟩ | ⟨-, hold⟩
    · cases hpool
    · exact Or.inl ⟨call, hold, hpool⟩
  | released _ _ hn => exact Or.inl (hnotify hn hc)
  | releasedAlone _ | cleared => exact Or.inl ⟨call', hc, hp⟩

/-- An idle session was idle in the same pool object before, or was in a handle that
belongs to that pool object. -/
theorem Transition.idle {m m' : OracleConnectionManager} {e : Event} (h : Transition m e m')
    {p : ℕ} {pool' : OracleConnectionPool} (hp : m'.objects[p]? = some pool')
    {ctx : OracleContext} (hctx : ctx ∈ pool'.idle) :
    (∃ pool, m.objects[p]? = some pool ∧ ctx ∈ pool.idle) ∨
      some ⟨some p, ctx⟩ ∈ m.handles := by
  -- one object is written, with no idle session that was not there
  have hset : ∀ {q : ℕ} {pool₀ pool : OracleConnectionPool}, m.objects[q]? = some pool₀ →
      (m.objects.set q pool)[p]? = some pool' → (∀ ctx ∈ pool.idle, ctx ∈ pool₀.idle) →
      ∃ pool, m.objects[p]? = some pool ∧ ctx ∈ pool.idle := by
    intro q pool₀ pool hq hget hsub
    rcases of_getElem?_set hget with ⟨rfl, rfl⟩ | ⟨-, hold⟩
    · exact ⟨pool₀, hq, hsub ctx hctx⟩
    · exact ⟨pool', hold, hctx⟩
  cases h with
  | made _ _ =>
    rcases of_getElem?_concat hp with hold | ⟨-, rfl⟩
    · exact Or.inl ⟨pool', hold, hctx⟩
    · exact absurd hctx (by simp)
  | take _ hq hadm hidle =>
    refine Or.inl (hset hq hp fun ctx hmem => ?_)
    rw [← hadm.idle, hidle]
    exact List.mem_cons_of_mem _ hmem
  | reserve _ hq hadm _ _ | block _ hq hadm _ _ =>
    exact Or.inl (hset hq hp fun ctx hmem => hadm.idle ▸ hmem)
  | threw _ _ hq _ => exact Or.inl (hset hq hp fun _ hmem => hmem)
  | released hh hq _ =>
    rcases of_getElem?_set hp with ⟨rfl, rfl⟩ | ⟨-, hold⟩
    · rcases List.mem_cons.mp hctx with rfl | hmem
      · exact Or.inr (List.mem_of_getElem? hh)
      · exact Or.inl ⟨_, hq, hmem⟩
    · exact Or.inl ⟨pool', hold, hctx⟩
  | _ => exact Or.inl ⟨pool', hp, hctx⟩

/-! ## Two generations -/

/-- **The generations are apart.**  There were `n₀` pool objects and `k₀` calls at the
`Clear`; the sessions were opened by the calls `opened`. -/
structure Separated (n₀ k₀ : ℕ) (opened : List ℕ) (m : OracleConnectionManager) : Prop where
  created : m.created = opened.length
  calls : k₀ ≤ m.calls.length
  mapped : ∀ cs p, m.pools cs = some p → n₀ ≤ p
  objects : n₀ ≤ m.objects.length
  /-- A call works on a new pool object exactly if it is a new call. -/
  call : ∀ (c : ℕ) call p, m.calls[c]? = some call → call.phase.pool? = some p →
    (n₀ ≤ p ↔ k₀ ≤ c)
  idle : ∀ (p : ℕ) pool, n₀ ≤ p → m.objects[p]? = some pool →
    ∀ ctx ∈ pool.idle, OpenedBy k₀ opened ctx.id
  handle : ∀ (i p : ℕ) ctx, n₀ ≤ p → m.handles[i]? = some (some ⟨some p, ctx⟩) →
    OpenedBy k₀ opened ctx.id
  /-- A new call has returned a handle of a new session. -/
  returned : ∀ (c i : ℕ) call handle, k₀ ≤ c → m.calls[c]? = some call →
    call.phase = .returned i → m.handles[i]? = some (some handle) →
    OpenedBy k₀ opened handle.ctx.id

/-- Right after the `Clear` there is nothing new yet. -/
theorem separated_clear {m : OracleConnectionManager} {opened : List ℕ} (hk : Keyed m)
    (hcreated : m.created = opened.length) :
    Separated m.objects.length m.calls.length opened (clear m) where
  created := hcreated
  calls := le_rfl
  mapped _ _ h := absurd h (by simp [clear])
  objects := le_rfl
  call c call p hc hp := by
    obtain ⟨pool, hpool, -⟩ := hk.call call (List.mem_of_getElem? hc) p hp
    have hold : p < m.objects.length := (List.getElem?_eq_some_iff.mp hpool).1
    have hcall : c < m.calls.length := (List.getElem?_eq_some_iff.mp hc).1
    omega
  idle p pool hle hp := by
    have hlt : p < m.objects.length := (List.getElem?_eq_some_iff.mp hp).1
    omega
  handle i p ctx hle hi := by
    obtain ⟨pool, hpool, -⟩ := hk.handle _ (List.mem_of_getElem? hi) p rfl
    have hlt : p < m.objects.length := (List.getElem?_eq_some_iff.mp hpool).1
    omega
  returned c i call handle hle hc := by
    have hlt : c < m.calls.length := (List.getElem?_eq_some_iff.mp hc).1
    omega

theorem Transition.created {m m' : OracleConnectionManager} {e : Event} (h : Transition m e m') :
    m'.created = m.created + (connectedCall e).toList.length := by
  cases h <;> rfl

theorem Notify.length {p : ℕ} {calls calls' : List AcquireCall} (h : Notify p calls calls') :
    calls'.length = calls.length := by
  cases h with
  | nobody _ => rfl
  | woke _ _ => exact List.length_set

theorem Transition.calls_le {m m' : OracleConnectionManager} {e : Event}
    (h : Transition m e m') : m.calls.length ≤ m'.calls.length := by
  cases h with
  | threw _ _ _ hn => rw [hn.length, List.length_set]
  | released _ _ hn => rw [hn.length]
  | _ => simp

theorem Transition.objects_le {m m' : OracleConnectionManager} {e : Event}
    (h : Transition m e m') : m.objects.length ≤ m'.objects.length := by
  cases h <;> simp

/-- A session issued through a new pool object, or by a new call, is a new one. -/
theorem Separated.issued {n₀ k₀ : ℕ} {opened : List ℕ} {m : OracleConnectionManager}
    (hs : Separated n₀ k₀ opened m) {e : Event} {p : Option ℕ} {ctx : OracleContext}
    (h : Issued m e p ctx) :
    (∀ q, p = some q → n₀ ≤ q → OpenedBy k₀ (opened ++ (connectedCall e).toList) ctx.id) ∧
      ∀ c, (e = .lock c ∨ e = .connected c) → k₀ ≤ c →
        OpenedBy k₀ (opened ++ (connectedCall e).toList) ctx.id := by
  cases h with
  | taken hc hphase hp hidle =>
    refine ⟨fun q hq hle => ?_, fun c he hle => ?_⟩
    · obtain rfl := Option.some.inj hq
      exact (hs.idle _ _ hle hp _ hidle).append _
    · obtain rfl : _ = c := by simpa using he
      exact (hs.idle _ _ ((hs.call _ _ _ hc hphase).mpr hle) hp _ hidle).append _
  | opened hc hphase =>
    dsimp only [connectedCall, Option.toList]
    refine ⟨fun q hq hle => ?_, fun c he hle => ?_⟩
    · obtain rfl := Option.some.inj hq
      rw [hs.created]
      exact OpenedBy.last opened ((hs.call _ _ _ hc (by rw [hphase]; rfl)).mp hle)
    · obtain rfl : _ = c := by simpa using he
      rw [hs.created]
      exact OpenedBy.last opened hle
  | alone hc hphase =>
    dsimp only [connectedCall, Option.toList]
    refine ⟨fun q hq => absurd hq (by simp), fun c he hle => ?_⟩
    obtain rfl : _ = c := by simpa using he
    rw [hs.created]
    exact OpenedBy.last opened hle

/-- A call has returned before, or returns the next handle in this step. -/
theorem Transition.returned {m m' : OracleConnectionManager} {e : Event}
    (h : Transition m e m') {c i : ℕ} {call' : AcquireCall} (hc : m'.calls[c]? = some call')
    (hi : call'.phase = .returned i) :
    m.calls[c]? = some call' ∨
      (i = m.handles.length ∧ (e = .lock c ∨ e = .connected c)) := by
  -- a call that is new, or moves to a phase in which it has not returned
  have hother : ∀ {d : ℕ} {calls : List AcquireCall} {call : AcquireCall},
      (∀ n, call.phase ≠ .returned n) → (calls.set d call)[c]? = some call' →
      calls[c]? = some call' := by
    intro d calls call hphase hget
    rcases of_getElem?_set hget with ⟨-, rfl⟩ | ⟨-, hold⟩
    · exact absurd hi (hphase i)
    · exact hold
  have hnew : ∀ {call : AcquireCall}, (∀ n, call.phase ≠ .returned n) →
      (m.calls ++ [call])[c]? = some call' → m.calls[c]? = some call' := by
    intro call hphase hget
    rcases of_getElem?_concat hget with hold | ⟨-, rfl⟩
    · exact hold
    · exact absurd hi (hphase i)
  have hnotify : ∀ {q : ℕ} {calls calls' : List AcquireCall}, Notify q calls calls' →
      calls'[c]? = some call' → calls[c]? = some call' := by
    intro q calls calls' hn hget
    cases hn with
    | nobody _ => exact hget
    | woke _ _ => exact hother (by simp) hget
  cases h with
  | standalone _ | found _ _ | made _ _ => exact Or.inl (hnew (by simp) hc)
  | take _ _ _ _ | connected _ _ | connectedAlone _ _ =>
    rcases of_getElem?_set hc with ⟨rfl, rfl⟩ | ⟨-, hold⟩
    · exact Or.inr ⟨(AcquirePhase.returned.inj hi).symm, by simp⟩
    · exact Or.inl hold
  | reserve _ _ _ _ _ | block _ _ _ _ _ | timeout _ _ | threwAlone _ _ | expired _ _
  | spurious _ _ | late _ _ => exact Or.inl (hother (by simp) hc)
  | threw _ _ _ hn => exact Or.inl (hother (by simp) (hnotify hn hc))
  | released _ _ hn => exact Or.inl (hnotify hn hc)
  | releasedAlone _ | cleared => exact Or.inl hc

theorem Returned.lt {m : OracleConnectionManager} (hr : Returned m) {c i : ℕ}
    {call : AcquireCall} (hc : m.calls[c]? = some call) (hi : call.phase = .returned i) :
    i < m.handles.length := by
  have hle := le_tally (returnedShare i) hc
  have hbound := hr i
  rw [returnedShare, if_pos hi] at hle
  by_contra hlt
  rw [if_neg hlt] at hbound
  omega

/-- **Steps keep the generations apart.** -/
theorem Separated.step {n₀ k₀ : ℕ} {opened : List ℕ} {m m' : OracleConnectionManager}
    {e : Event} (hs : Separated n₀ k₀ opened m) (hr : Returned m) (h : Transition m e m') :
    Separated n₀ k₀ (opened ++ (connectedCall e).toList) m' := by
  have hmapped : ∀ cs p, m'.pools cs = some p → n₀ ≤ p := by
    intro cs p hp
    cases h with
    | @made cs' _ _ _ =>
      dsimp only at hp
      by_cases hcs : cs = cs'
      · rw [hcs, Function.update_self] at hp
        exact (Option.some.inj hp) ▸ hs.objects
      · rw [Function.update_of_ne hcs] at hp
        exact hs.mapped cs p hp
    | cleared => exact absurd hp (by simp)
    | _ => exact hs.mapped cs p hp
  constructor
  · rw [h.created, hs.created, List.length_append]
  · exact hs.calls.trans h.calls_le
  · exact hmapped
  · exact hs.objects.trans h.objects_le
  · intro c call p hc hp
    rcases h.call hc hp with ⟨call₀, hc₀, hp₀⟩ | ⟨rfl, hmap⟩
    · exact hs.call c call₀ p hc₀ hp₀
    · exact iff_of_true (hmapped _ p hmap) hs.calls
  · intro p pool hle hp ctx hctx
    rcases h.idle hp hctx with ⟨pool₀, hp₀, hctx₀⟩ | hmem
    · exact (hs.idle p pool₀ hle hp₀ ctx hctx₀).append _
    · obtain ⟨i, hi⟩ := List.mem_iff_getElem?.mp hmem
      exact (hs.handle i p ctx hle hi).append _
  · intro i p ctx hle hi
    rcases h.handle hi with hold | ⟨-, hissued⟩
    · exact (hs.handle i p ctx hle hold).append _
    · exact (hs.issued hissued).1 p rfl hle
  · intro c i call handle hle hc hphase hi
    rcases h.returned hc hphase with hc₀ | ⟨rfl, he⟩
    · have hlt := hr.lt hc₀ hphase
      rcases h.handle hi with hold | ⟨rfl, -⟩
      · exact (hs.returned c i call handle hle hc₀ hphase hold).append _
      · exact absurd hlt (lt_irrefl _)
    · rcases h.handle hi with hold | ⟨-, hissued⟩
      · exact absurd (List.getElem?_eq_some_iff.mp hold).1 (lt_irrefl _)
      · exact (hs.issued hissued).2 c he hle

/-! ## Runs -/

theorem accounted_returned_of_run {es : List Event} {m : OracleConnectionManager}
    (h : run step initial es = some m) : Accounted m ∧ Returned m := by
  refine run_invariant (I := fun m => Accounted m ∧ Returned m) ?_
    ⟨accounted_initial, returned_initial⟩ h
  rintro t e t' ⟨ha, hr⟩ hstep
  exact ⟨ha.step hstep, hr.step (transition_of_step hstep)⟩

theorem created_of_run {es : List Event} {m : OracleConnectionManager}
    (h : run step initial es = some m) : m.created = (openers es).length := by
  induction es using List.reverseRecOn generalizing m with
  | nil =>
    obtain rfl := Option.some.inj h
    rfl
  | append_singleton es e ih =>
    obtain ⟨t, ht, hstep⟩ := exists_of_run_concat h
    rw [(transition_of_step hstep).created, ih ht, openers_concat, List.length_append]

/-- After a `Clear` the generations stay apart. -/
theorem separated_of_run {pre post : List Event} {m₀ m : OracleConnectionManager}
    (h₀ : run step initial pre = some m₀) (h : run step (clear m₀) post = some m) :
    Separated m₀.objects.length m₀.calls.length (openers (pre ++ .clear :: post)) m := by
  have hclear : run step initial (pre ++ [.clear]) = some (clear m₀) := run_concat_of h₀ rfl
  induction post using List.reverseRecOn generalizing m with
  | nil =>
    obtain rfl := Option.some.inj h
    rw [openers_concat]
    exact separated_clear (accounted_returned_of_run h₀).1.keyed
      ((created_of_run h₀).trans (by simp [connectedCall]))
  | append_singleton post e ih =>
    obtain ⟨t, ht, hstep⟩ := exists_of_run_concat h
    have hrun : run step initial (pre ++ .clear :: post) = some t := by
      rw [List.append_cons, run_append, hclear]
      exact ht
    have hnext := (ih ht).step (accounted_returned_of_run hrun).2 (transition_of_step hstep)
    rw [← openers_concat] at hnext
    rw [List.append_assoc] at hnext
    exact hnext

theorem calls_le_of_run {es : List Event} {m m' : OracleConnectionManager}
    (h : run step m es = some m') : m.calls.length ≤ m'.calls.length :=
  run_relation (R := fun m m' => m.calls.length ≤ m'.calls.length) (fun _ => le_rfl)
    (fun _ _ _ => le_trans) (fun _ _ _ hstep => (transition_of_step hstep).calls_le) h

/-- A call that is there only later has not started to connect. -/
theorem not_startedConnecting {es : List Event} {m : OracleConnectionManager}
    (h : run step initial es = some m) {c : ℕ} (hc : m.calls.length ≤ c) :
    ¬ StartedConnecting es c := by
  rintro ⟨t, ⟨pre, ⟨post, rfl⟩, ht⟩, call, hcall, -⟩
  rw [run_append, ht] at h
  have hle := calls_le_of_run h
  have hlt : c < t.calls.length := (List.getElem?_eq_some_iff.mp hcall).1
  omega

/-! ## Where a released session goes -/

/-- The handle `i` was made in the run of `es`, of a session of the pool object `p`. -/
def TakenFrom (es : List Event) (i p : ℕ) (ctx : OracleContext) : Prop :=
  ∃ pre e post m, es = pre ++ e :: post ∧ run step initial pre = some m ∧
    m.handles.length = i ∧ Issued m e (some p) ctx

/-- All calls of `Acquire` are made with caching on. -/
def Caches (es : List Event) : Prop :=
  ∀ cs settings, .acquire cs settings ∈ es → settings.connectionCache = true

theorem not_standalone_of_run {es : List Event} {m : OracleConnectionManager} (hc : Caches es)
    (h : run step initial es = some m) : ∀ call ∈ m.calls, call.phase ≠ .standalone := by
  induction es using List.reverseRecOn generalizing m with
  | nil =>
    obtain rfl := Option.some.inj h
    exact fun call hmem => absurd hmem (by simp [initial])
  | append_singleton es e ih =>
    obtain ⟨t, ht, hstep⟩ := exists_of_run_concat h
    have hold := ih (fun cs settings hmem => hc cs settings (List.mem_append_left _ hmem)) ht
    have hset : ∀ {c : ℕ} {call : AcquireCall}, call.phase ≠ .standalone →
        ∀ call' ∈ t.calls.set c call, call'.phase ≠ .standalone := by
      intro c call hphase call' hmem
      rcases List.mem_or_eq_of_mem_set hmem with hmem | rfl
      · exact hold call' hmem
      · exact hphase
    have hconcat : ∀ {call : AcquireCall}, call.phase ≠ .standalone →
        ∀ call' ∈ t.calls ++ [call], call'.phase ≠ .standalone := by
      intro call hphase call' hmem
      rcases List.mem_append.mp hmem with hmem | hmem
      · exact hold call' hmem
      · exact List.mem_singleton.mp hmem ▸ hphase
    have hnotify : ∀ {p : ℕ} {calls calls' : List AcquireCall}, Notify p calls calls' →
        (∀ call ∈ calls, call.phase ≠ .standalone) →
        ∀ call ∈ calls', call.phase ≠ .standalone := by
      intro p calls calls' hn hcalls call hmem
      obtain ⟨call₀, hmem₀, -, -, heq | ⟨-, hnotified⟩⟩ := hn.mem hmem
      · rw [heq]
        exact hcalls call₀ hmem₀
      · rw [hnotified]
        simp
    cases transition_of_step hstep with
    | standalone hcache =>
      rw [hc _ _ (List.mem_append_right _ (List.mem_singleton.mpr rfl))] at hcache
      exact absurd hcache (by simp)
    | found _ _ | made _ _ => exact hconcat (by simp)
    | take _ _ _ _ | reserve _ _ _ _ _ | block _ _ _ _ _ | timeout _ _ | connected _ _
    | connectedAlone _ _ | threwAlone _ _ | expired _ _ | spurious _ _ | late _ _ =>
      exact hset (by simp)
    | threw _ _ _ hn => exact hnotify hn (hset (by simp))
    | released _ _ hn => exact hnotify hn hold
    | releasedAlone _ | cleared => exact hold

/-- Every handle was taken from the pool object it belongs to. -/
theorem takenFrom_of_run {es : List Event} {m : OracleConnectionManager} (hc : Caches es)
    (h : run step initial es = some m) {i : ℕ} {handle : OracleConnectionHandle}
    (hi : m.handles[i]? = some (some handle)) :
    ∃ p, handle.pool = some p ∧ TakenFrom es i p handle.ctx := by
  induction es using List.reverseRecOn generalizing m with
  | nil =>
    obtain rfl := Option.some.inj h
    exact absurd hi (by simp [initial])
  | append_singleton es e ih =>
    obtain ⟨t, ht, hstep⟩ := exists_of_run_concat h
    have hes : Caches es := fun cs settings hmem => hc cs settings (List.mem_append_left _ hmem)
    rcases (transition_of_step hstep).handle hi with hold | ⟨rfl, hissued⟩
    · obtain ⟨p, hp, pre, e', post, t', rfl, hrun, hlen, htaken⟩ := ih hes ht hold
      exact ⟨p, hp, pre, e', post ++ [e], t', by simp, hrun, hlen, htaken⟩
    · cases hpool : handle.pool with
      | some p =>
        rw [hpool] at hissued
        exact ⟨p, rfl, es, e, [], t, rfl, ht, rfl, hissued⟩
      | none =>
        rw [hpool] at hissued
        generalize handle.ctx = ctx at hissued
        cases hissued with
        | alone hcall hphase =>
          exact absurd hphase (not_standalone_of_run hes ht _ (List.mem_of_getElem? hcall))

/-- **Sessions do not cross a `Clear`**, in any interleaving: a call of `Acquire` that
starts after a `Clear` never returns a session whose `CreateConnection` was started
before it.  And a handle that is destroyed gives its session back to the pool object
it was taken from. -/
theorem sessions_after_clear {es : List Event} {m : OracleConnectionManager} (hc : Caches es)
    (h : run step initial es = some m) :
    (∀ pre post m₀ c handle, es = pre ++ .clear :: post → run step initial pre = some m₀ →
      m₀.calls.length ≤ c → handleOf m c = some handle →
      ∃ opener, (openers es)[handle.ctx.id]? = some opener ∧ ¬ StartedConnecting pre opener) ∧
    (∀ i woken m', step m (.release i woken) = some m' →
      ∃ p ctx pool, TakenFrom es i p ctx ∧ m.handles[i]? = some (some ⟨some p, ctx⟩) ∧
        m.objects[p]? = some pool ∧
        m'.objects = m.objects.set p { pool with idle := ctx :: pool.idle }) := by
  constructor
  · rintro pre post m₀ c handle rfl h₀ hle hhandle
    have hpost : run step (clear m₀) post = some m := by
      rw [run_append, h₀] at h
      exact h
    obtain ⟨call, i, hcall, hphase, hi⟩ := handleOf_eq_some_iff.mp hhandle
    obtain ⟨opener, hopener, hnew⟩ :=
      (separated_of_run h₀ hpost).returned c i call handle hle hcall hphase hi
    exact ⟨opener, hopener, not_startedConnecting h₀ hnew⟩
  · intro i woken m' hstep
    cases transition_of_step hstep with
    | @released _ p _ ctx pool calls hh hp hn =>
      obtain ⟨q, hq, htaken⟩ := takenFrom_of_run hc h hh
      obtain rfl := Option.some.inj hq
      exact ⟨p, ctx, pool, htaken, hh, hp, rfl⟩
    | releasedAlone hh =>
      obtain ⟨q, hq, -⟩ := takenFrom_of_run hc h hh
      exact absurd hq (by simp)

/-- A session is opened, the pool is cleared, and a second call opens its own. -/
def clearRun : List Event :=
  [.acquire "scott/tiger@db" {}, .lock 0, .connected 0, .clear,
    .acquire "scott/tiger@db" {}, .lock 1, .connected 1]

theorem sessions_after_clear_second :
    ∃ m handle, run step initial clearRun = some m ∧ handleOf m 1 = some handle ∧
      ∃ opener, (openers clearRun)[handle.ctx.id]? = some opener ∧
        ¬ StartedConnecting [.acquire "scott/tiger@db" {}, .lock 0, .connected 0] opener :=
  ⟨_, _, rfl, rfl, (@sessions_after_clear clearRun _ (by simp [Caches, clearRun]) rfl).1
    [.acquire "scott/tiger@db" {}, .lock 0, .connected 0]
    [.acquire "scott/tiger@db" {}, .lock 1, .connected 1] _ 1 _ rfl rfl (by decide) rfl⟩

end Connection
end DuckdbOracle
