import Mathlib.Logic.Function.Basic
import DuckdbOracle.Catalog.Settings
import DuckdbOracle.Foundations.StepRuns
import DuckdbOracle.Foundations.Tally

/-!
# The connection manager, one lock-protected step at a time

`OracleConnectionManager::Acquire` is not atomic: it looks its pool up under the
manager's mutex, works on the pool under the pool's lock, gives that lock back
while `CreateConnection` runs and while it waits on the condition variable, and
may then be overtaken by any other thread.  The model has one event for each
stretch between two lock operations, and a run is any list of events.

## The state

Objects are numbered in the order in which they come into being and are never
removed from the lists: pool objects (`Clear` drops a pool from the map, but
handles and waiting calls keep the object), handles (`none` once destroyed) and
calls of `Acquire` (with the phase each one is in).  An `OracleContext` carries
the connection string `CreateConnection` opened it with, and a pool object the
string it was created for; the code stores neither, and no step reads them.

## The condition variable

`notify_one` wakes one of the calls that are blocked on the pool, whichever the
implementation picks, and does nothing when none is.  A wait ends by that
notification or for no reason at all (`notified`) or, at any moment, by its deadline
(`expired`); either way the call leaves the wait set and needs the lock before it
goes on.  `wait_until` compares the clock with the deadline once it has the lock
back, so a woken call may find that it comes too late (`late`).  A call whose wait
reports `timeout` throws without looking at the pool again.
-/

namespace DuckdbOracle
namespace Connection

open Catalog StepRuns Tally

/-- `OracleContext`: one Oracle session. -/
structure OracleContext where
  id : ℕ
  connectionString : String
  deriving DecidableEq

/-- `OracleConnectionPool`.  The back of the vector `idle` is the head of the
list; `key` is the connection string the object was created for. -/
structure OracleConnectionPool where
  key : String
  idle : List OracleContext := []
  total : ℕ := 0
  limit : ℕ := 8
  deriving DecidableEq

/-- `OracleConnectionHandle`: the pool object the session goes back to, if any,
and the session. -/
structure OracleConnectionHandle where
  pool : Option ℕ
  ctx : OracleContext
  deriving DecidableEq

/-- Where a call of `Acquire` is. -/
inductive AcquirePhase where
  /-- Has looked its pool up and needs the pool's lock. -/
  | entering (p : ℕ)
  /-- Has reserved a slot, without the lock, in `CreateConnection`. -/
  | connecting (p : ℕ)
  /-- Blocked in `wait_until`. -/
  | waiting (p : ℕ)
  /-- Woken, needs the pool's lock. -/
  | notified (p : ℕ)
  /-- Past its deadline, needs the pool's lock. -/
  | expired (p : ℕ)
  /-- Caching disabled, in `CreateConnection`. -/
  | standalone
  /-- Has returned the handle `h`. -/
  | returned (h : ℕ)
  /-- Has thrown the pool-timeout exception of the pool `p`. -/
  | timedOut (p : ℕ)
  /-- Has rethrown the exception of `CreateConnection`. -/
  | connectThrew
  deriving DecidableEq

/-- A call of `Acquire`: its arguments and its phase. -/
structure AcquireCall where
  connectionString : String
  settings : OracleSettings
  phase : AcquirePhase
  deriving DecidableEq

/-- `OracleConnectionManager` with every object it has brought into being. -/
structure OracleConnectionManager where
  /-- `pools`, by number of the pool object. -/
  pools : String → Option ℕ
  objects : List OracleConnectionPool
  handles : List (Option OracleConnectionHandle)
  calls : List AcquireCall
  /-- How many sessions `CreateConnection` has opened. -/
  created : ℕ

/-- The manager at start-up. -/
def initial : OracleConnectionManager := ⟨fun _ => none, [], [], [], 0⟩

/-- What can happen next.  `lock c` gives call `c` the lock it needs, and `late c` does
so after the deadline of a woken call; `expire c` is the deadline of a waiting call,
`spurious c` the end of its wait without a notification, `release h` the destruction of
a handle.  The `woken` call is the one `notify_one` picks. -/
inductive Event where
  | acquire (connectionString : String) (settings : OracleSettings)
  | lock (c : ℕ)
  | connected (c : ℕ)
  | connectFailed (c : ℕ) (woken : Option ℕ)
  | expire (c : ℕ)
  | spurious (c : ℕ)
  | late (c : ℕ)
  | release (h : ℕ) (woken : Option ℕ)
  | clear
  deriving DecidableEq

/-! ## The pool's operations -/

/-- Update the limit from the settings: it is only ever raised. -/
def OracleConnectionPool.raiseLimit (pool : OracleConnectionPool) (connectionLimit : ℕ) :
    OracleConnectionPool :=
  if connectionLimit > pool.limit then { pool with limit := connectionLimit } else pool

/-- `notify_one` on the pool `p`. -/
def notifyOne (p : ℕ) (calls : List AcquireCall) : Option ℕ → Option (List AcquireCall)
  | none => if calls.any (fun call => call.phase = .waiting p) then none else some calls
  | some w =>
    match calls[w]? with
    | some call =>
      if call.phase = .waiting p then some (calls.set w { call with phase := .notified p })
      else none
    | none => none

/-! ## The steps -/

/-- `Acquire` up to the lookup of its pool under the manager's mutex. -/
def startAcquire (m : OracleConnectionManager) (connectionString : String)
    (settings : OracleSettings) : OracleConnectionManager :=
  if !settings.connectionCache then
    { m with calls := m.calls ++ [⟨connectionString, settings, .standalone⟩] }
  else
    match m.pools connectionString with
    | some p => { m with calls := m.calls ++ [⟨connectionString, settings, .entering p⟩] }
    | none =>
      { m with
        pools := Function.update m.pools connectionString (some m.objects.length)
        objects := m.objects ++ [{ key := connectionString }]
        calls := m.calls ++ [⟨connectionString, settings, .entering m.objects.length⟩] }

/-- The body of the loop of `Acquire`, run by call `c` under the lock of pool
object `p`, up to the point where it returns, unlocks or waits. -/
def acquireLoop (m : OracleConnectionManager) (c : ℕ) (call : AcquireCall) (p : ℕ)
    (pool : OracleConnectionPool) : OracleConnectionManager :=
  match pool.idle with
  | ctx :: rest =>
    { m with
      objects := m.objects.set p { pool with idle := rest }
      handles := m.handles ++ [some ⟨some p, ctx⟩]
      calls := m.calls.set c { call with phase := .returned m.handles.length } }
  | [] =>
    if pool.total < pool.limit then
      { m with
        objects := m.objects.set p { pool with total := pool.total + 1 }
        calls := m.calls.set c { call with phase := .connecting p } }
    else
      { m with
        objects := m.objects.set p pool
        calls := m.calls.set c { call with phase := .waiting p } }

/-- A call gets the lock of its pool. -/
def lockPool (m : OracleConnectionManager) (c : ℕ) : Option OracleConnectionManager :=
  match m.calls[c]? with
  | none => none
  | some call =>
    match call.phase with
    | .entering p =>
      (m.objects[p]?).map fun pool =>
        acquireLoop m c call p (pool.raiseLimit call.settings.connectionLimit)
    | .notified p => (m.objects[p]?).map fun pool => acquireLoop m c call p pool
    -- `wait_until` has returned `timeout`: throw, whatever the pool looks like now
    | .expired p => some { m with calls := m.calls.set c { call with phase := .timedOut p } }
    | _ => none

/-- `CreateConnection` returns a new session and `Acquire` wraps it in a handle. -/
def connectionCreated (m : OracleConnectionManager) (c : ℕ) : Option OracleConnectionManager :=
  match m.calls[c]? with
  | none => none
  | some call =>
    match call.phase with
    | .connecting p =>
      some { m with
        handles := m.handles ++ [some ⟨some p, ⟨m.created, call.connectionString⟩⟩]
        calls := m.calls.set c { call with phase := .returned m.handles.length }
        created := m.created + 1 }
    | .standalone =>
      some { m with
        handles := m.handles ++ [some ⟨none, ⟨m.created, call.connectionString⟩⟩]
        calls := m.calls.set c { call with phase := .returned m.handles.length }
        created := m.created + 1 }
    | _ => none

/-- `CreateConnection` throws: give the reservation back and rethrow. -/
def connectionThrew (m : OracleConnectionManager) (c : ℕ) (woken : Option ℕ) :
    Option OracleConnectionManager :=
  match m.calls[c]? with
  | none => none
  | some call =>
    match call.phase with
    | .connecting p =>
      match m.objects[p]?, notifyOne p (m.calls.set c { call with phase := .connectThrew }) woken
      with
      | some pool, some calls =>
        some { m with
          objects := m.objects.set p { pool with total := pool.total - 1 }
          calls := calls }
      | _, _ => none
    | .standalone =>
      if woken = none then
        some { m with calls := m.calls.set c { call with phase := .connectThrew } }
      else none
    | _ => none

/-- The deadline of a waiting call passes. -/
def deadline (m : OracleConnectionManager) (c : ℕ) : Option OracleConnectionManager :=
  match m.calls[c]? with
  | none => none
  | some call =>
    match call.phase with
    | .waiting p => some { m with calls := m.calls.set c { call with phase := .expired p } }
    | _ => none

/-- A wait ends before its deadline, and nobody has notified the call. -/
def spuriousWakeup (m : OracleConnectionManager) (c : ℕ) : Option OracleConnectionManager :=
  match m.calls[c]? with
  | none => none
  | some call =>
    match call.phase with
    | .waiting p => some { m with calls := m.calls.set c { call with phase := .notified p } }
    | _ => none

/-- A woken call gets the lock of its pool after its deadline: `wait_until` reports
`timeout`. -/
def lateTimeout (m : OracleConnectionManager) (c : ℕ) : Option OracleConnectionManager :=
  match m.calls[c]? with
  | none => none
  | some call =>
    match call.phase with
    | .notified p => some { m with calls := m.calls.set c { call with phase := .timedOut p } }
    | _ => none

/-- `OracleConnectionHandle::~OracleConnectionHandle`. -/
def destroyHandle (m : OracleConnectionManager) (h : ℕ) (woken : Option ℕ) :
    Option OracleConnectionManager :=
  match m.handles[h]? with
  | some (some ⟨some p, ctx⟩) =>
    match m.objects[p]?, notifyOne p m.calls woken with
    | some pool, some calls =>
      some { m with
        objects := m.objects.set p { pool with idle := ctx :: pool.idle }
        handles := m.handles.set h none
        calls := calls }
    | _, _ => none
  | some (some ⟨none, _⟩) =>
    if woken = none then some { m with handles := m.handles.set h none } else none
  | _ => none

/-- `OracleConnectionManager::Clear`. -/
def clear (m : OracleConnectionManager) : OracleConnectionManager :=
  { m with pools := fun _ => none }

/-- One lock-protected step. -/
def step (m : OracleConnectionManager) : Event → Option OracleConnectionManager
  | .acquire connectionString settings => some (startAcquire m connectionString settings)
  | .lock c => lockPool m c
  | .connected c => connectionCreated m c
  | .connectFailed c woken => connectionThrew m c woken
  | .expire c => deadline m c
  | .spurious c => spuriousWakeup m c
  | .late c => lateTimeout m c
  | .release h woken => destroyHandle m h woken
  | .clear => some (clear m)

/-! ## What a step can do -/

@[simp] theorem raiseLimit_idle (pool : OracleConnectionPool) (n : ℕ) :
    (pool.raiseLimit n).idle = pool.idle := by
  unfold OracleConnectionPool.raiseLimit; split <;> rfl

@[simp] theorem raiseLimit_total (pool : OracleConnectionPool) (n : ℕ) :
    (pool.raiseLimit n).total = pool.total := by
  unfold OracleConnectionPool.raiseLimit; split <;> rfl

@[simp] theorem raiseLimit_key (pool : OracleConnectionPool) (n : ℕ) :
    (pool.raiseLimit n).key = pool.key := by
  unfold OracleConnectionPool.raiseLimit; split <;> rfl

@[simp] theorem raiseLimit_limit (pool : OracleConnectionPool) (n : ℕ) :
    (pool.raiseLimit n).limit = max pool.limit n := by
  unfold OracleConnectionPool.raiseLimit
  split
  · next h => exact (max_eq_right (Nat.le_of_lt h)).symm
  · next h => exact (max_eq_left (Nat.le_of_not_lt h)).symm

/-- The calls after a `notify_one` on the pool `p`. -/
inductive Notify (p : ℕ) (calls : List AcquireCall) : List AcquireCall → Prop where
  | nobody (h : ∀ call ∈ calls, call.phase ≠ .waiting p) : Notify p calls calls
  | woke {w : ℕ} {call : AcquireCall} (hw : calls[w]? = some call)
      (hphase : call.phase = .waiting p) :
      Notify p calls (calls.set w { call with phase := .notified p })

theorem notify_of_notifyOne {p : ℕ} {calls calls' : List AcquireCall} {woken : Option ℕ}
    (h : notifyOne p calls woken = some calls') : Notify p calls calls' := by
  cases woken with
  | none =>
    rw [notifyOne] at h
    split at h
    · exact absurd h (by simp)
    · next hany =>
      obtain rfl := Option.some.inj h
      refine Notify.nobody fun call hcall hphase => hany ?_
      exact List.any_eq_true.mpr ⟨call, hcall, decide_eq_true hphase⟩
  | some w =>
    rw [notifyOne] at h
    split at h
    · next call hw =>
      split at h
      · next hphase =>
        obtain rfl := Option.some.inj h
        exact Notify.woke hw hphase
      · exact absurd h (by simp)
    · exact absurd h (by simp)

/-- The pool object as the loop of `Acquire` sees it: with the limit raised when
the call comes in, as it is when the call comes back from a wait. -/
def Admits (call : AcquireCall) (p : ℕ) (pool₀ pool : OracleConnectionPool) : Prop :=
  (call.phase = .entering p ∧ pool = pool₀.raiseLimit call.settings.connectionLimit) ∨
    (call.phase = .notified p ∧ pool = pool₀)

/-- **Everything a step can do.** -/
inductive Transition (m : OracleConnectionManager) :
    Event → OracleConnectionManager → Prop where
  | standalone {cs : String} {settings : OracleSettings}
      (hcache : settings.connectionCache = false) :
      Transition m (.acquire cs settings)
        { m with calls := m.calls ++ [⟨cs, settings, .standalone⟩] }
  | found {cs : String} {settings : OracleSettings} {p : ℕ}
      (hcache : settings.connectionCache = true) (hp : m.pools cs = some p) :
      Transition m (.acquire cs settings)
        { m with calls := m.calls ++ [⟨cs, settings, .entering p⟩] }
  | made {cs : String} {settings : OracleSettings}
      (hcache : settings.connectionCache = true) (hp : m.pools cs = none) :
      Transition m (.acquire cs settings)
        { m with
          pools := Function.update m.pools cs (some m.objects.length)
          objects := m.objects ++ [{ key := cs }]
          calls := m.calls ++ [⟨cs, settings, .entering m.objects.length⟩] }
  | take {c p : ℕ} {call : AcquireCall} {pool₀ pool : OracleConnectionPool}
      {ctx : OracleContext} {rest : List OracleContext}
      (hc : m.calls[c]? = some call) (hp : m.objects[p]? = some pool₀)
      (hadm : Admits call p pool₀ pool) (hidle : pool.idle = ctx :: rest) :
      Transition m (.lock c)
        { m with
          objects := m.objects.set p { pool with idle := rest }
          handles := m.handles ++ [some ⟨some p, ctx⟩]
          calls := m.calls.set c { call with phase := .returned m.handles.length } }
  | reserve {c p : ℕ} {call : AcquireCall} {pool₀ pool : OracleConnectionPool}
      (hc : m.calls[c]? = some call) (hp : m.objects[p]? = some pool₀)
      (hadm : Admits call p pool₀ pool) (hidle : pool.idle = [])
      (hlimit : pool.total < pool.limit) :
      Transition m (.lock c)
        { m with
          objects := m.objects.set p { pool with total := pool.total + 1 }
          calls := m.calls.set c { call with phase := .connecting p } }
  | block {c p : ℕ} {call : AcquireCall} {pool₀ pool : OracleConnectionPool}
      (hc : m.calls[c]? = some call) (hp : m.objects[p]? = some pool₀)
      (hadm : Admits call p pool₀ pool) (hidle : pool.idle = [])
      (hlimit : ¬ pool.total < pool.limit) :
      Transition m (.lock c)
        { m with
          objects := m.objects.set p pool
          calls := m.calls.set c { call with phase := .waiting p } }
  | timeout {c p : ℕ} {call : AcquireCall} (hc : m.calls[c]? = some call)
      (hphase : call.phase = .expired p) :
      Transition m (.lock c)
        { m with calls := m.calls.set c { call with phase := .timedOut p } }
  | connected {c p : ℕ} {call : AcquireCall} (hc : m.calls[c]? = some call)
      (hphase : call.phase = .connecting p) :
      Transition m (.connected c)
        { m with
          handles := m.handles ++ [some ⟨some p, ⟨m.created, call.connectionString⟩⟩]
          calls := m.calls.set c { call with phase := .returned m.handles.length }
          created := m.created + 1 }
  | connectedAlone {c : ℕ} {call : AcquireCall} (hc : m.calls[c]? = some call)
      (hphase : call.phase = .standalone) :
      Transition m (.connected c)
        { m with
          handles := m.handles ++ [some ⟨none, ⟨m.created, call.connectionString⟩⟩]
          calls := m.calls.set c { call with phase := .returned m.handles.length }
          created := m.created + 1 }
  | threw {c p : ℕ} {woken : Option ℕ} {call : AcquireCall} {pool : OracleConnectionPool}
      {calls : List AcquireCall} (hc : m.calls[c]? = some call)
      (hphase : call.phase = .connecting p) (hp : m.objects[p]? = some pool)
      (hn : Notify p (m.calls.set c { call with phase := .connectThrew }) calls) :
      Transition m (.connectFailed c woken)
        { m with
          objects := m.objects.set p { pool with total := pool.total - 1 }
          calls := calls }
  | threwAlone {c : ℕ} {woken : Option ℕ} {call : AcquireCall} (hc : m.calls[c]? = some call)
      (hphase : call.phase = .standalone) :
      Transition m (.connectFailed c woken)
        { m with calls := m.calls.set c { call with phase := .connectThrew } }
  | expired {c p : ℕ} {call : AcquireCall} (hc : m.calls[c]? = some call)
      (hphase : call.phase = .waiting p) :
      Transition m (.expire c)
        { m with calls := m.calls.set c { call with phase := .expired p } }
  | spurious {c p : ℕ} {call : AcquireCall} (hc : m.calls[c]? = some call)
      (hphase : call.phase = .waiting p) :
      Transition m (.spurious c)
        { m with calls := m.calls.set c { call with phase := .notified p } }
  | late {c p : ℕ} {call : AcquireCall} (hc : m.calls[c]? = some call)
      (hphase : call.phase = .notified p) :
      Transition m (.late c)
        { m with calls := m.calls.set c { call with phase := .timedOut p } }
  | released {h p : ℕ} {woken : Option ℕ} {ctx : OracleContext} {pool : OracleConnectionPool}
      {calls : List AcquireCall} (hh : m.handles[h]? = some (some ⟨some p, ctx⟩))
      (hp : m.objects[p]? = some pool) (hn : Notify p m.calls calls) :
      Transition m (.release h woken)
        { m with
          objects := m.objects.set p { pool with idle := ctx :: pool.idle }
          handles := m.handles.set h none
          calls := calls }
  | releasedAlone {h : ℕ} {woken : Option ℕ} {ctx : OracleContext}
      (hh : m.handles[h]? = some (some ⟨none, ctx⟩)) :
      Transition m (.release h woken) { m with handles := m.handles.set h none }
  | cleared : Transition m .clear { m with pools := fun _ => none }

theorem transition_acquireLoop {m : OracleConnectionManager} {c p : ℕ} {call : AcquireCall}
    {pool₀ pool : OracleConnectionPool} (hc : m.calls[c]? = some call)
    (hp : m.objects[p]? = some pool₀) (hadm : Admits call p pool₀ pool) :
    Transition m (.lock c) (acquireLoop m c call p pool) := by
  unfold acquireLoop
  split
  · next ctx rest hidle => exact Transition.take hc hp hadm hidle
  · next hidle =>
    split
    · next hlimit => exact Transition.reserve hc hp hadm hidle hlimit
    · next hlimit => exact Transition.block hc hp hadm hidle hlimit

theorem transition_startAcquire (m : OracleConnectionManager) (cs : String)
    (settings : OracleSettings) :
    Transition m (.acquire cs settings) (startAcquire m cs settings) := by
  unfold startAcquire
  split
  · next h => exact Transition.standalone (by simpa using h)
  · next h =>
    split
    · next p hp => exact Transition.found (by simpa using h) hp
    · next hp => exact Transition.made (by simpa using h) hp

theorem transition_lockPool {m m' : OracleConnectionManager} {c : ℕ}
    (h : lockPool m c = some m') : Transition m (.lock c) m' := by
  unfold lockPool at h
  split at h
  · exact absurd h (by simp)
  · next call hc =>
    split at h
    · next p hphase =>
      obtain ⟨pool, hp, rfl⟩ := Option.map_eq_some_iff.mp h
      exact transition_acquireLoop hc hp (Or.inl ⟨hphase, rfl⟩)
    · next p hphase =>
      obtain ⟨pool, hp, rfl⟩ := Option.map_eq_some_iff.mp h
      exact transition_acquireLoop hc hp (Or.inr ⟨hphase, rfl⟩)
    · next p hphase =>
      obtain rfl := Option.some.inj h
      exact Transition.timeout hc hphase
    · exact absurd h (by simp)

theorem transition_connectionCreated {m m' : OracleConnectionManager} {c : ℕ}
    (h : connectionCreated m c = some m') : Transition m (.connected c) m' := by
  unfold connectionCreated at h
  split at h
  · exact absurd h (by simp)
  · next call hc =>
    split at h
    · next p hphase =>
      obtain rfl := Option.some.inj h
      exact Transition.connected hc hphase
    · next hphase =>
      obtain rfl := Option.some.inj h
      exact Transition.connectedAlone hc hphase
    · exact absurd h (by simp)

theorem transition_connectionThrew {m m' : OracleConnectionManager} {c : ℕ} {woken : Option ℕ}
    (h : connectionThrew m c woken = some m') : Transition m (.connectFailed c woken) m' := by
  unfold connectionThrew at h
  split at h
  · exact absurd h (by simp)
  · next call hc =>
    split at h
    · next p hphase =>
      split at h
      · next pool calls hp hn =>
        obtain rfl := Option.some.inj h
        exact Transition.threw hc hphase hp (notify_of_notifyOne hn)
      · exact absurd h (by simp)
    · next hphase =>
      split at h
      · obtain rfl := Option.some.inj h
        exact Transition.threwAlone hc hphase
      · exact absurd h (by simp)
    · exact absurd h (by simp)

theorem transition_deadline {m m' : OracleConnectionManager} {c : ℕ}
    (h : deadline m c = some m') : Transition m (.expire c) m' := by
  unfold deadline at h
  split at h
  · exact absurd h (by simp)
  · next call hc =>
    split at h
    · next p hphase =>
      obtain rfl := Option.some.inj h
      exact Transition.expired hc hphase
    · exact absurd h (by simp)

theorem transition_spuriousWakeup {m m' : OracleConnectionManager} {c : ℕ}
    (h : spuriousWakeup m c = some m') : Transition m (.spurious c) m' := by
  unfold spuriousWakeup at h
  split at h
  · exact absurd h (by simp)
  · next call hc =>
    split at h
    · next p hphase =>
      obtain rfl := Option.some.inj h
      exact Transition.spurious hc hphase
    · exact absurd h (by simp)

theorem transition_lateTimeout {m m' : OracleConnectionManager} {c : ℕ}
    (h : lateTimeout m c = some m') : Transition m (.late c) m' := by
  unfold lateTimeout at h
  split at h
  · exact absurd h (by simp)
  · next call hc =>
    split at h
    · next p hphase =>
      obtain rfl := Option.some.inj h
      exact Transition.late hc hphase
    · exact absurd h (by simp)

theorem transition_destroyHandle {m m' : OracleConnectionManager} {h : ℕ} {woken : Option ℕ}
    (hd : destroyHandle m h woken = some m') : Transition m (.release h woken) m' := by
  unfold destroyHandle at hd
  split at hd
  · next p ctx hh =>
    split at hd
    · next pool calls hp hn =>
      obtain rfl := Option.some.inj hd
      exact Transition.released hh hp (notify_of_notifyOne hn)
    · exact absurd hd (by simp)
  · next ctx hh =>
    split at hd
    · obtain rfl := Option.some.inj hd
      exact Transition.releasedAlone hh
    · exact absurd hd (by simp)
  · exact absurd hd (by simp)

/-- **Inversion.**  Every step is one of the listed transitions. -/
theorem transition_of_step {m m' : OracleConnectionManager} {e : Event}
    (h : step m e = some m') : Transition m e m' := by
  cases e with
  | acquire cs settings => exact Option.some.inj h ▸ transition_startAcquire m cs settings
  | lock c => exact transition_lockPool h
  | connected c => exact transition_connectionCreated h
  | connectFailed c woken => exact transition_connectionThrew h
  | expire c => exact transition_deadline h
  | spurious c => exact transition_spuriousWakeup h
  | late c => exact transition_lateTimeout h
  | release h' woken => exact transition_destroyHandle h
  | clear => exact Option.some.inj h ▸ Transition.cleared

end Connection
end DuckdbOracle
