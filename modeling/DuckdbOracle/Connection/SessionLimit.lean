import Mathlib.Algebra.BigOperators.Group.Finset.Basic
import DuckdbOracle.Connection.PoolTimeout

/-!
# How many sessions a connection string has

`connection_limit` is meant to bound the sessions of a connection string.  Two
things stand between the option and that bound.  A pool object starts with the
built-in limit 8 and the option only ever raises it, so an option below 8 has no
effect.  And `Clear` forgets the pool object, with its count, while handles and
calls still use it, so the next call starts counting from zero.

Apart from these the bound holds.  As long as every `Clear` comes at a moment when
nobody uses the pool, the sessions of a connection string are what its one pool
object counts (`OnePool.sessions_eq`), and the option is respected exactly if no
call reserves a slot beyond it (`sessions_le_iff`).  An option from 8 on is
respected in every such run, and no smaller one is (`sessions_le_all_iff`).

A session counts when it is idle in a pool object that still exists, when a live
handle holds it, and while it is being opened.  A pool object exists as long as
the map, a live handle or a call refers to it; when the last reference goes, its
idle sessions are closed with it.
-/

namespace DuckdbOracle
namespace Connection

open Catalog StepRuns Tally

/-- A call that still works on the pool object `p` keeps it alive. -/
def workingShare (p : ℕ) (call : AcquireCall) : ℕ :=
  if call.phase.pool? = some p then 1 else 0

/-- The calls that still work on the pool object `p`. -/
def working (m : OracleConnectionManager) (p : ℕ) : ℕ := tally (workingShare p) m.calls

/-- The idle sessions of the pool object `p`, if it was created for `cs` and still
exists. -/
def idleSessions (m : OracleConnectionManager) (cs : String) (p : ℕ) : ℕ :=
  match m.objects[p]? with
  | some pool =>
    if pool.key = cs ∧ (m.pools cs = some p ∨ 0 < held m p ∨ 0 < working m p) then
      pool.idle.length
    else 0
  | none => 0

/-- A handle counts for the connection string of its session. -/
def sessionShare (cs : String) : Option OracleConnectionHandle → ℕ
  | some handle => if handle.ctx.connectionString = cs then 1 else 0
  | none => 0

/-- A call counts for the connection string whose session it is opening. -/
def openingShare (cs : String) (call : AcquireCall) : ℕ :=
  match call.phase with
  | .connecting _ | .standalone => if call.connectionString = cs then 1 else 0
  | _ => 0

/-- The Oracle sessions of a connection string: idle, held, or being opened. -/
def sessions (m : OracleConnectionManager) (cs : String) : ℕ :=
  ∑ p ∈ Finset.range m.objects.length, idleSessions m cs p +
    tally (sessionShare cs) m.handles + tally (openingShare cs) m.calls

/-- All calls of `Acquire` are for `cs`, with caching on and the limit `n`. -/
def AcquiresOnly (cs : String) (n : ℕ) (e : Event) : Prop :=
  ∀ cs' settings, e = .acquire cs' settings →
    cs' = cs ∧ settings.connectionCache = true ∧ settings.connectionLimit = n

/-- A `Clear` comes only while no live handle belongs to the pool of `cs` and no
call is between its lookup of that pool and its return. -/
def QuietClear (cs : String) (m : OracleConnectionManager) (e : Event) : Prop :=
  e = .clear → ∀ p, m.pools cs = some p → held m p = 0 ∧ working m p = 0

/-! ## One pool object at a time -/

/-- Everything in use belongs to the pool object that the map names for `cs`. -/
structure OnePool (cs : String) (n : ℕ) (m : OracleConnectionManager) : Prop where
  handle : ∀ handle, some handle ∈ m.handles →
    ∃ p, handle.pool = some p ∧ m.pools cs = some p
  call : ∀ call ∈ m.calls, call.settings.connectionLimit = n ∧ call.phase ≠ .standalone ∧
    ∀ p, call.phase.pool? = some p → m.pools cs = some p
  limit : ∀ (p : ℕ) pool, m.objects[p]? = some pool → pool.limit ≤ max 8 n

theorem onePool_initial (cs : String) (n : ℕ) : OnePool cs n initial where
  handle _ h := absurd h (by simp [initial])
  call _ h := absurd h (by simp [initial])
  limit _ _ h := absurd h (by simp [initial])

/-- One call moves to a phase that works on the same pool object, or on none. -/
theorem OnePool.call_set {cs : String} {n : ℕ} {m : OracleConnectionManager}
    (ho : OnePool cs n m) {c : ℕ} {call : AcquireCall} {phase : AcquirePhase}
    (hc : m.calls[c]? = some call) (halone : phase ≠ .standalone)
    (hphase : ∀ p, phase.pool? = some p → call.phase.pool? = some p) :
    ∀ call' ∈ m.calls.set c { call with phase := phase },
      call'.settings.connectionLimit = n ∧ call'.phase ≠ .standalone ∧
        ∀ p, call'.phase.pool? = some p → m.pools cs = some p := by
  intro call' hmem
  rcases List.mem_or_eq_of_mem_set hmem with hold | rfl
  · exact ho.call call' hold
  · obtain ⟨hlimit, -, hpool⟩ := ho.call call (List.mem_of_getElem? hc)
    exact ⟨hlimit, halone, fun p hp => hpool p (hphase p hp)⟩

theorem Notify.onePool {cs : String} {n p : ℕ} {pools : String → Option ℕ}
    {calls calls' : List AcquireCall} (hn : Notify p calls calls')
    (h : ∀ call ∈ calls, call.settings.connectionLimit = n ∧ call.phase ≠ .standalone ∧
      ∀ q, call.phase.pool? = some q → pools cs = some q) :
    ∀ call ∈ calls', call.settings.connectionLimit = n ∧ call.phase ≠ .standalone ∧
      ∀ q, call.phase.pool? = some q → pools cs = some q := by
  intro call hmem
  obtain ⟨call₀, hmem₀, -, hsettings, hphase⟩ := hn.mem hmem
  obtain ⟨hlimit, halone, hpool⟩ := h call₀ hmem₀
  rw [hsettings]
  rcases hphase with heq | ⟨hwait, hnotified⟩
  · rw [heq]
    exact ⟨hlimit, halone, hpool⟩
  · refine ⟨hlimit, by simp [hnotified], fun q hq => hpool q ?_⟩
    rw [hwait]
    rw [hnotified] at hq
    exact hq

theorem OnePool.limit_set {cs : String} {n : ℕ} {m : OracleConnectionManager}
    (ho : OnePool cs n m) {p : ℕ} {pool' : OracleConnectionPool}
    (hlimit : pool'.limit ≤ max 8 n) :
    ∀ (q : ℕ) pool, (m.objects.set p pool')[q]? = some pool → pool.limit ≤ max 8 n := by
  intro q pool hq
  rcases of_getElem?_set hq with ⟨-, rfl⟩ | ⟨-, hold⟩
  · exact hlimit
  · exact ho.limit q pool hold

theorem OnePool.admits {cs : String} {n : ℕ} {m : OracleConnectionManager}
    (ho : OnePool cs n m) {c p : ℕ} {call : AcquireCall} {pool₀ pool : OracleConnectionPool}
    (hc : m.calls[c]? = some call) (hp : m.objects[p]? = some pool₀)
    (hadm : Admits call p pool₀ pool) : pool.limit ≤ max 8 n ∧ m.pools cs = some p := by
  obtain ⟨hn, -, hpool⟩ := ho.call call (List.mem_of_getElem? hc)
  refine ⟨?_, hpool p hadm.pool?⟩
  have hlimit := ho.limit p pool₀ hp
  rcases hadm with ⟨-, rfl⟩ | ⟨-, rfl⟩
  · rw [raiseLimit_limit, hn]
    omega
  · exact hlimit

/-- When nothing uses the pool of `cs`, nothing is in use at all. -/
theorem OnePool.unused {cs : String} {n : ℕ} {m : OracleConnectionManager}
    (ho : OnePool cs n m)
    (h : ∀ p, m.pools cs = some p → held m p = 0 ∧ working m p = 0) :
    (∀ handle, some handle ∉ m.handles) ∧ ∀ call ∈ m.calls, call.phase.pool? = none := by
  constructor
  · intro handle hmem
    obtain ⟨p, hpool, hmap⟩ := ho.handle handle hmem
    have hzero := eq_zero_of_tally (h p hmap).1 hmem
    rw [heldShare, if_pos hpool] at hzero
    exact absurd hzero (by simp)
  · intro call hmem
    cases hpool : call.phase.pool? with
    | none => rfl
    | some p =>
      have hmap := (ho.call call hmem).2.2 p hpool
      have hzero := eq_zero_of_tally (h p hmap).2 hmem
      rw [workingShare, if_pos hpool] at hzero
      exact absurd hzero (by simp)

theorem OnePool.handle_concat {cs : String} {n : ℕ} {m : OracleConnectionManager}
    (ho : OnePool cs n m) {p : ℕ} (hmap : m.pools cs = some p) (ctx : OracleContext) :
    ∀ handle, some handle ∈ m.handles ++ [some ⟨some p, ctx⟩] →
      ∃ q, handle.pool = some q ∧ m.pools cs = some q := by
  intro handle hmem
  rcases List.mem_append.mp hmem with hold | hnew
  · exact ho.handle handle hold
  · obtain rfl := Option.some.inj (List.mem_singleton.mp hnew)
    exact ⟨p, rfl, hmap⟩

theorem OnePool.handle_set_none {cs : String} {n : ℕ} {m : OracleConnectionManager}
    (ho : OnePool cs n m) (h : ℕ) :
    ∀ handle, some handle ∈ m.handles.set h none →
      ∃ q, handle.pool = some q ∧ m.pools cs = some q := by
  intro handle hmem
  rcases List.mem_or_eq_of_mem_set hmem with hold | hnone
  · exact ho.handle handle hold
  · exact absurd hnone (by simp)

/-- The calls stay in one pool object when none of them works on any. -/
theorem OnePool.call_idle {cs : String} {n : ℕ} {m : OracleConnectionManager}
    (ho : OnePool cs n m) (hidle : ∀ call ∈ m.calls, call.phase.pool? = none)
    (pools : String → Option ℕ) :
    ∀ call ∈ m.calls, call.settings.connectionLimit = n ∧ call.phase ≠ .standalone ∧
      ∀ q, call.phase.pool? = some q → pools cs = some q := by
  intro call hmem
  obtain ⟨hlimit, halone, -⟩ := ho.call call hmem
  refine ⟨hlimit, halone, fun q hq => ?_⟩
  rw [hidle call hmem] at hq
  exact absurd hq (by simp)

/-- A new call works on the pool object that the map then names for `cs`. -/
theorem OnePool.call_concat {cs : String} {n p : ℕ} {pools : String → Option ℕ}
    {calls : List AcquireCall} {settings : OracleSettings}
    (h : ∀ call ∈ calls, call.settings.connectionLimit = n ∧ call.phase ≠ .standalone ∧
      ∀ q, call.phase.pool? = some q → pools cs = some q)
    (hn : settings.connectionLimit = n) (hp : pools cs = some p) :
    ∀ call ∈ calls ++ [⟨cs, settings, .entering p⟩],
      call.settings.connectionLimit = n ∧ call.phase ≠ .standalone ∧
        ∀ q, call.phase.pool? = some q → pools cs = some q := by
  intro call hmem
  rcases List.mem_append.mp hmem with hold | hnew
  · exact h call hold
  · obtain rfl := List.mem_singleton.mp hnew
    exact ⟨hn, by simp, fun q hq => by rw [hp]; exact hq⟩

theorem OnePool.acquire_step {cs cs' : String} {n : ℕ} {m m' : OracleConnectionManager}
    {settings : OracleSettings} (ho : OnePool cs n m)
    (hacq : AcquiresOnly cs n (.acquire cs' settings))
    (h : Transition m (.acquire cs' settings) m') : OnePool cs n m' := by
  obtain ⟨rfl, hon, hn⟩ := hacq _ _ rfl
  cases h with
  | standalone hcache =>
    rw [hcache] at hon
    exact absurd hon (by simp)
  | found _ hp => exact ⟨ho.handle, OnePool.call_concat ho.call hn hp, ho.limit⟩
  | made _ hp =>
    -- the map had no pool for the string, so nothing was in use
    obtain ⟨hhandles, hcalls⟩ := ho.unused fun p hmap => by
      rw [hp] at hmap
      exact absurd hmap (by simp)
    refine ⟨fun handle hmem => absurd hmem (hhandles handle),
      OnePool.call_concat (ho.call_idle hcalls _) hn (Function.update_self ..),
      fun q pool hq => ?_⟩
    rcases of_getElem?_concat hq with hold | ⟨-, rfl⟩
    · exact ho.limit q pool hold
    · exact le_max_left 8 n

theorem OnePool.lock_step {cs : String} {n c : ℕ} {m m' : OracleConnectionManager}
    (ho : OnePool cs n m) (h : Transition m (.lock c) m') : OnePool cs n m' := by
  cases h with
  | take hc hp hadm _ =>
    obtain ⟨hlimit, hmap⟩ := ho.admits hc hp hadm
    exact ⟨ho.handle_concat hmap _, ho.call_set hc (by simp) (by simp [AcquirePhase.pool?]),
      ho.limit_set hlimit⟩
  | reserve hc hp hadm _ _ | block hc hp hadm _ _ =>
    obtain ⟨hlimit, -⟩ := ho.admits hc hp hadm
    refine ⟨ho.handle, ho.call_set hc (by simp) fun q hq => ?_, ho.limit_set hlimit⟩
    rw [hadm.pool?]
    exact hq
  | timeout hc _ =>
    exact ⟨ho.handle, ho.call_set hc (by simp) (by simp [AcquirePhase.pool?]), ho.limit⟩

/-- **Steps keep everything in one pool object**, as long as a `Clear` is quiet. -/
theorem OnePool.step {cs : String} {n : ℕ} {m m' : OracleConnectionManager} {e : Event}
    (ho : OnePool cs n m) (hacq : AcquiresOnly cs n e) (hquiet : QuietClear cs m e)
    (h : Transition m e m') : OnePool cs n m' := by
  cases e with
  | acquire _ _ => exact ho.acquire_step hacq h
  | lock _ => exact ho.lock_step h
  | connected _ =>
    cases h with
    | @connected _ p call hc hphase =>
      have hmap := (ho.call call (List.mem_of_getElem? hc)).2.2 p (by rw [hphase]; rfl)
      exact ⟨ho.handle_concat hmap _, ho.call_set hc (by simp) (by simp [AcquirePhase.pool?]),
        ho.limit⟩
    | connectedAlone hc hphase =>
      exact absurd hphase (ho.call _ (List.mem_of_getElem? hc)).2.1
  | connectFailed _ _ =>
    cases h with
    | @threw _ p _ _ pool _ hc _ hp hn =>
      exact ⟨ho.handle, hn.onePool (ho.call_set hc (by simp) (by simp [AcquirePhase.pool?])),
        ho.limit_set (ho.limit p pool hp)⟩
    | threwAlone hc hphase => exact absurd hphase (ho.call _ (List.mem_of_getElem? hc)).2.1
  | expire _ =>
    cases h with
    | expired hc hphase =>
      refine ⟨ho.handle, ho.call_set hc (by simp) fun q hq => ?_, ho.limit⟩
      rw [hphase]
      exact hq
  | spurious _ =>
    cases h with
    | spurious hc hphase =>
      refine ⟨ho.handle, ho.call_set hc (by simp) fun q hq => ?_, ho.limit⟩
      rw [hphase]
      exact hq
  | late _ =>
    cases h with
    | late hc _ =>
      exact ⟨ho.handle, ho.call_set hc (by simp) (by simp [AcquirePhase.pool?]), ho.limit⟩
  | release _ _ =>
    cases h with
    | @released _ p _ _ pool _ _ hp hn =>
      exact ⟨ho.handle_set_none _, hn.onePool ho.call, ho.limit_set (ho.limit p pool hp)⟩
    | releasedAlone _ => exact ⟨ho.handle_set_none _, ho.call, ho.limit⟩
  | clear =>
    cases h with
    | cleared =>
      obtain ⟨hhandles, hcalls⟩ := ho.unused (hquiet rfl)
      exact ⟨fun handle hmem => absurd hmem (hhandles handle), ho.call_idle hcalls _, ho.limit⟩

/-! ## Counting the sessions of the one pool object -/

/-- A pool object that is not the one the map names for `cs` adds no idle session
of `cs`. -/
theorem OnePool.idleSessions_eq_zero {cs : String} {n : ℕ} {m : OracleConnectionManager}
    (ho : OnePool cs n m) {p : ℕ} (hp : m.pools cs ≠ some p) : idleSessions m cs p = 0 := by
  unfold idleSessions
  split
  · refine if_neg ?_
    rintro ⟨-, hmap | hheld | hworking⟩
    · exact hp hmap
    · refine absurd (tally_eq_zero fun handle? hmem => ?_) (Nat.pos_iff_ne_zero.mp hheld)
      cases handle? with
      | none => rfl
      | some handle =>
        obtain ⟨q, hpool, hmap⟩ := ho.handle handle hmem
        rw [heldShare, if_neg]
        rw [hpool]
        exact fun hqp => hp (hmap.trans hqp)
    · refine absurd (tally_eq_zero fun call hmem => ?_) (Nat.pos_iff_ne_zero.mp hworking)
      rw [workingShare, if_neg]
      exact fun hpool => hp ((ho.call call hmem).2.2 p hpool)
  · rfl

theorem OnePool.sessionShare_eq {cs : String} {n : ℕ} {m : OracleConnectionManager}
    (ho : OnePool cs n m) (hk : Keyed m) {p : ℕ} (hp : m.pools cs = some p) :
    tally (sessionShare cs) m.handles = held m p := by
  refine tally_congr fun handle? hmem => ?_
  cases handle? with
  | none => rfl
  | some handle =>
    obtain ⟨q, hpool, hmap⟩ := ho.handle handle hmem
    rw [hp] at hmap
    obtain rfl := Option.some.inj hmap
    have hcs := (hk.handle handle hmem p hpool).unique (hk.mapped cs p hp)
    rw [heldShare, if_pos hpool, sessionShare, if_pos hcs]

theorem OnePool.openingShare_eq {cs : String} {n : ℕ} {m : OracleConnectionManager}
    (ho : OnePool cs n m) (hk : Keyed m) {p : ℕ} (hp : m.pools cs = some p) :
    tally (openingShare cs) m.calls = reserved m p := by
  refine tally_congr fun call hmem => ?_
  obtain ⟨-, halone, hpool⟩ := ho.call call hmem
  unfold openingShare reservedShare
  split
  · next q hphase =>
    have hq : call.phase.pool? = some q := by rw [hphase]; rfl
    have hmap := hpool q hq
    rw [hp] at hmap
    obtain rfl := Option.some.inj hmap
    have hcs := (hk.call call hmem p hq).unique (hk.mapped cs p hp)
    rw [if_pos hcs, if_pos hphase]
  · next hphase => exact absurd hphase halone
  · next hconn _ => rw [if_neg (hconn p)]

/-- What the pool object that the map names for `cs` counts. -/
def mappedTotal (m : OracleConnectionManager) (cs : String) : ℕ :=
  match m.pools cs with
  | some p =>
    match m.objects[p]? with
    | some pool => pool.total
    | none => 0
  | none => 0

theorem mappedTotal_of {m : OracleConnectionManager} {cs : String} {p : ℕ}
    {pool : OracleConnectionPool} (hmap : m.pools cs = some p) (hp : m.objects[p]? = some pool) :
    mappedTotal m cs = pool.total := by
  simp only [mappedTotal, hmap, hp]

theorem mappedTotal_of_none {m : OracleConnectionManager} {cs : String}
    (hmap : m.pools cs = none) : mappedTotal m cs = 0 := by
  simp only [mappedTotal, hmap]

/-- **The sessions of a connection string are those its pool object counts.** -/
theorem OnePool.sessions_eq {cs : String} {n : ℕ} {m : OracleConnectionManager}
    (ho : OnePool cs n m) (ha : Accounted m) : sessions m cs = mappedTotal m cs := by
  unfold sessions
  cases hmap : m.pools cs with
  | none =>
    have hidle : ∑ p ∈ Finset.range m.objects.length, idleSessions m cs p = 0 :=
      Finset.sum_eq_zero fun p _ => ho.idleSessions_eq_zero (by rw [hmap]; simp)
    obtain ⟨hhandles, hcalls⟩ := ho.unused fun p hp => by
      rw [hmap] at hp
      exact absurd hp (by simp)
    have hheld : tally (sessionShare cs) m.handles = 0 := tally_eq_zero fun handle? hmem => by
      cases handle? with
      | none => rfl
      | some handle => exact absurd hmem (hhandles handle)
    have hopen : tally (openingShare cs) m.calls = 0 := tally_eq_zero fun call hmem => by
      have hnone := hcalls call hmem
      have halone := (ho.call call hmem).2.1
      unfold openingShare
      split
      · next hphase =>
        rw [hphase] at hnone
        exact absurd hnone (by simp [AcquirePhase.pool?])
      · next hphase => exact absurd hphase halone
      · rfl
    rw [hidle, hheld, hopen, mappedTotal_of_none hmap]
  | some p =>
    obtain ⟨pool, hp, hkey⟩ := ha.keyed.mapped cs p hmap
    have hidle : ∑ q ∈ Finset.range m.objects.length, idleSessions m cs q =
        idleSessions m cs p := by
      refine Finset.sum_eq_single_of_mem p ?_ fun q _ hqp => ho.idleSessions_eq_zero ?_
      · exact Finset.mem_range.mpr (List.getElem?_eq_some_iff.mp hp).1
      · rw [hmap]
        exact fun hpq => hqp (Option.some.inj hpq).symm
    have hlen : idleSessions m cs p = pool.idle.length := by
      unfold idleSessions
      rw [hp]
      exact if_pos ⟨hkey, Or.inl hmap⟩
    have htotal := (ha.counted p pool hp).1
    rw [hidle, hlen, ho.sessionShare_eq ha.keyed hmap, ho.openingShare_eq ha.keyed hmap,
      mappedTotal_of hmap hp, htotal]

/-! ## The bound -/

/-- A call that reserves a slot does so while the pool counts fewer than `n`
sessions. -/
def ReservesBelow (n : ℕ) (m : OracleConnectionManager) (e : Event) : Prop :=
  ∀ c call p pool₀ pool, e = .lock c → m.calls[c]? = some call → m.objects[p]? = some pool₀ →
    Admits call p pool₀ pool → pool.idle = [] → pool.total < pool.limit → pool.total < n

/-- Updating one object by one that counts no more does not raise the count. -/
theorem mappedTotal_set_le {m m' : OracleConnectionManager} {p : ℕ}
    {pool pool' : OracleConnectionPool} (hp : m.objects[p]? = some pool)
    (hpools : m'.pools = m.pools) (hobj : m'.objects = m.objects.set p pool')
    (htotal : pool'.total ≤ pool.total) (cs : String) : mappedTotal m' cs ≤ mappedTotal m cs := by
  unfold mappedTotal
  rw [hpools, hobj]
  cases m.pools cs with
  | none => exact le_rfl
  | some q =>
    dsimp only
    by_cases hqp : q = p
    · subst hqp
      rw [getElem?_set_of hp pool', hp]
      exact htotal
    · rw [getElem?_set_of_ne hqp]

theorem reservesBelow_of_ne_lock {n : ℕ} {m : OracleConnectionManager} {e : Event}
    (h : ∀ c, e ≠ .lock c) : ReservesBelow n m e :=
  fun c _ _ _ _ heq => absurd heq (h c)

/-- The call under the lock decides whether the step reserves below `n`. -/
theorem reservesBelow_lock_iff {n c p : ℕ} {m : OracleConnectionManager} {call : AcquireCall}
    {pool₀ pool : OracleConnectionPool} (hc : m.calls[c]? = some call)
    (hp : m.objects[p]? = some pool₀) (hadm : Admits call p pool₀ pool) :
    ReservesBelow n m (.lock c) ↔
      (pool.idle = [] → pool.total < pool.limit → pool.total < n) := by
  constructor
  · exact fun h => h c call p pool₀ pool rfl hc hp hadm
  · intro h c' call' p' pool₀' pool' heq hc' hp' hadm'
    obtain rfl := Event.lock.inj heq
    obtain ⟨-, rfl⟩ := hadm.unique hc hc' hp hp' hadm'
    exact h

/-- Outside the loop under the lock the count does not rise. -/
theorem mappedTotal_le_of_ne_lock {cs : String} {n : ℕ} {m m' : OracleConnectionManager}
    {e : Event} (hacq : AcquiresOnly cs n e) (hlock : ∀ c, e ≠ .lock c)
    (h : Transition m e m') : mappedTotal m' cs ≤ mappedTotal m cs := by
  cases h with
  | @made cs' settings _ hp =>
    obtain ⟨rfl, -, -⟩ := hacq _ _ rfl
    rw [mappedTotal_of (Function.update_self ..) (List.getElem?_concat_length ..)]
    exact Nat.zero_le _
  | take _ _ _ _ | reserve _ _ _ _ _ | block _ _ _ _ _ | timeout _ _ =>
    exact absurd rfl (hlock _)
  | threw _ _ hp _ =>
    refine mappedTotal_set_le hp (by rfl) (by rfl) ?_ cs
    exact Nat.sub_le _ 1
  | released _ hp _ =>
    refine mappedTotal_set_le hp (by rfl) (by rfl) ?_ cs
    exact le_rfl
  | cleared =>
    rw [mappedTotal_of_none rfl]
    exact Nat.zero_le _
  | _ => exact le_rfl

/-- Under the lock the count rises only when the call reserves a slot. -/
theorem OnePool.mappedTotal_lock {cs : String} {n c : ℕ} {m m' : OracleConnectionManager}
    (ho : OnePool cs n m) (hle : mappedTotal m cs ≤ n) (h : Transition m (.lock c) m') :
    mappedTotal m' cs ≤ n ↔ ReservesBelow n m (.lock c) := by
  cases h with
  | take hc hp hadm hidle =>
    rw [reservesBelow_lock_iff hc hp hadm, hidle]
    refine iff_of_true (le_trans (mappedTotal_set_le hp (by rfl) (by rfl) ?_ cs) hle)
      fun h => absurd h (by simp)
    exact hadm.total.le
  | @reserve _ p call pool₀ pool hc hp hadm hidle hlimit =>
    have hmap := (ho.admits hc hp hadm).2
    have htotal : mappedTotal
        { m with
          objects := m.objects.set p { pool with total := pool.total + 1 }
          calls := m.calls.set c { call with phase := .connecting p } } cs = pool.total + 1 := by
      simp only [mappedTotal, hmap, getElem?_set_of hp]
    rw [reservesBelow_lock_iff hc hp hadm, htotal]
    exact ⟨fun hlt _ _ => hlt, fun hbelow => hbelow hidle hlimit⟩
  | block hc hp hadm hidle hlimit =>
    rw [reservesBelow_lock_iff hc hp hadm]
    refine iff_of_true (le_trans (mappedTotal_set_le hp (by rfl) (by rfl) ?_ cs) hle)
      fun _ h => absurd h hlimit
    exact hadm.total.le
  | timeout hc hphase =>
    refine iff_of_true hle fun c' call' p' pool₀' pool' heq hc' _ hadm' _ _ => ?_
    obtain rfl := Event.lock.inj heq
    rw [hc] at hc'
    obtain rfl := Option.some.inj hc'
    rcases hadm' with ⟨hin, -⟩ | ⟨hin, -⟩ <;> rw [hphase] at hin <;> cases hin

/-- **When a step keeps the bound**: always, unless it reserves a slot. -/
theorem OnePool.mappedTotal_step {cs : String} {n : ℕ} {m m' : OracleConnectionManager}
    {e : Event} (ho : OnePool cs n m) (hacq : AcquiresOnly cs n e)
    (hle : mappedTotal m cs ≤ n) (h : Transition m e m') :
    mappedTotal m' cs ≤ n ↔ ReservesBelow n m e := by
  by_cases hlock : ∃ c, e = .lock c
  · obtain ⟨c, rfl⟩ := hlock
    exact ho.mappedTotal_lock hle h
  · have hne : ∀ c, e ≠ .lock c := fun c heq => hlock ⟨c, heq⟩
    exact iff_of_true ((mappedTotal_le_of_ne_lock hacq hne h).trans hle)
      (reservesBelow_of_ne_lock hne)

/-- What the runs below keep. -/
def OneCounted (cs : String) (n : ℕ) (m : OracleConnectionManager) : Prop :=
  OnePool cs n m ∧ Accounted m

theorem oneCounted_initial (cs : String) (n : ℕ) : OneCounted cs n initial :=
  ⟨onePool_initial cs n, accounted_initial⟩

theorem OneCounted.step {cs : String} {n : ℕ} {m m' : OracleConnectionManager} {e : Event}
    (h : OneCounted cs n m) (hadm : AcquiresOnly cs n e ∧ QuietClear cs m e)
    (hstep : Connection.step m e = some m') : OneCounted cs n m' :=
  ⟨h.1.step hadm.1 hadm.2 (transition_of_step hstep), h.2.step hstep⟩

/-- The assumptions on a run, step by step. -/
theorem guarded_assumptions {cs : String} {n : ℕ} {es : List Event}
    (hacq : ∀ e ∈ es, AcquiresOnly cs n e) (hquiet : Guarded step (QuietClear cs) initial es) :
    Guarded step (fun m e => AcquiresOnly cs n e ∧ QuietClear cs m e) initial es :=
  fun pre e hpre t ht => ⟨hacq e (hpre.subset (by simp)), hquiet pre e hpre t ht⟩

theorem oneCounted_of_reached {cs : String} {n : ℕ} {es : List Event}
    {m : OracleConnectionManager} (hacq : ∀ e ∈ es, AcquiresOnly cs n e)
    (hquiet : Guarded step (QuietClear cs) initial es) (h : Reached step initial es m) :
    OneCounted cs n m :=
  guarded_invariant_reached (fun _ _ _ hs hadm hstep => hs.step hadm hstep)
    (oneCounted_initial cs n) (guarded_assumptions hacq hquiet) h

/-- From the built-in limit on no call reserves a slot too many. -/
theorem reservesBelow_of_builtin {cs : String} {n : ℕ} {m : OracleConnectionManager}
    (ho : OnePool cs n m) (hn : 8 ≤ n) (e : Event) : ReservesBelow n m e := by
  intro c call p pool₀ pool _ hc hp hadm _ hlimit
  have hbound := (ho.admits hc hp hadm).1
  rw [max_eq_right hn] at hbound
  exact lt_of_lt_of_le hlimit hbound

/-- **When the limit is respected.**  With every `Clear` at a moment when nobody
uses the pool, the sessions of a connection string stay within the option `n` in
every state of a run exactly if no call of that run reserves a slot while the pool
already counts `n` sessions. -/
theorem sessions_le_iff {cs : String} {n : ℕ} {es : List Event} {m : OracleConnectionManager}
    (hacq : ∀ e ∈ es, AcquiresOnly cs n e) (hquiet : Guarded step (QuietClear cs) initial es)
    (h : run step initial es = some m) :
    (∀ t, Reached step initial es t → sessions t cs ≤ n) ↔
      Guarded step (ReservesBelow n) initial es := by
  refine guarded_iff_reached_of (I := OneCounted cs n) (Q := fun t => sessions t cs ≤ n)
    (fun s e t hs hadm hstep => hs.step hadm hstep) ?_ (oneCounted_initial cs n) ?_
    (guarded_assumptions hacq hquiet) h
  · intro s e t hs hadm hle hstep
    have ht := hs.step hadm hstep
    rw [ht.1.sessions_eq ht.2]
    rw [hs.1.sessions_eq hs.2] at hle
    exact hs.1.mappedTotal_step hadm.1 hle (transition_of_step hstep)
  · rw [(onePool_initial cs n).sessions_eq accounted_initial]
    exact Nat.zero_le n

/-- **The bound for every option.**  The built-in limit stands in for any smaller
one. -/
theorem sessions_le_max {cs : String} {n : ℕ} {es : List Event}
    {m : OracleConnectionManager} (hacq : ∀ e ∈ es, AcquiresOnly cs n e)
    (hquiet : Guarded step (QuietClear cs) initial es) (h : Reached step initial es m) :
    sessions m cs ≤ max 8 n := by
  obtain ⟨ho, ha⟩ := oneCounted_of_reached hacq hquiet h
  rw [ho.sessions_eq ha]
  cases hmap : m.pools cs with
  | none =>
    rw [mappedTotal_of_none hmap]
    exact Nat.zero_le _
  | some p =>
    obtain ⟨pool, hp, -⟩ := ha.keyed.mapped cs p hmap
    rw [mappedTotal_of hmap hp]
    exact (ha.counted p pool hp).2.trans (ho.limit p pool hp)

/-! ## Which options the bound respects -/

/-- The manager after `k` calls have each opened a session. -/
def opened (cs : String) (settings : OracleSettings) (k : ℕ) : OracleConnectionManager where
  pools := Function.update (fun _ => none) cs (some 0)
  objects := [{ key := cs, total := k, limit := max 8 settings.connectionLimit }]
  handles := (List.range k).map fun i => some ⟨some 0, ⟨i, cs⟩⟩
  calls := (List.range k).map fun i => ⟨cs, settings, .returned i⟩
  created := k

/-- The first call makes the pool object and opens its first session. -/
theorem run_openSessions_one {cs : String} {settings : OracleSettings}
    (hcache : settings.connectionCache = true) :
    run step initial (openSessions cs settings 1) = some (opened cs settings 1) := by
  have hstart : startAcquire initial cs settings =
      { initial with
        pools := Function.update initial.pools cs (some 0)
        objects := [{ key := cs }]
        calls := [⟨cs, settings, .entering 0⟩] } := by
    simp [startAcquire, hcache, initial]
  have hlock : lockPool (startAcquire initial cs settings) 0 = some
      { initial with
        pools := Function.update initial.pools cs (some 0)
        objects := [{ key := cs, total := 1, limit := max 8 settings.connectionLimit }]
        calls := [⟨cs, settings, .connecting 0⟩] } := by
    rw [hstart]
    simp [lockPool, initial, acquireLoop]
  simp only [openSessions, List.range_one, List.flatMap_singleton, run_cons, step,
    Option.bind_some, hlock]
  simp [connectionCreated, initial, opened]

/-- A further call opens a further session, while there is room. -/
theorem run_openSessions_succ {cs : String} {settings : OracleSettings}
    (hcache : settings.connectionCache = true) {k : ℕ}
    (hroom : k < max 8 settings.connectionLimit) :
    run step (opened cs settings k) [.acquire cs settings, .lock k, .connected k] =
      some (opened cs settings (k + 1)) := by
  have hstart : startAcquire (opened cs settings k) cs settings =
      { opened cs settings k with
        calls := (opened cs settings k).calls ++ [⟨cs, settings, .entering 0⟩] } := by
    simp [startAcquire, hcache, opened]
  have hlock : lockPool (startAcquire (opened cs settings k) cs settings) k = some
      { opened cs settings k with
        objects := (opened cs settings (k + 1)).objects
        calls := (opened cs settings k).calls ++ [⟨cs, settings, .connecting 0⟩] } := by
    rw [hstart]
    simp [lockPool, opened, acquireLoop, hroom]
  simp only [run_cons, step, Option.bind_some, hlock]
  simp [connectionCreated, opened, List.range_succ]

/-- **Calls open sessions until the pool's limit is reached**, whatever the
option says below the built-in limit. -/
theorem run_openSessions {cs : String} {settings : OracleSettings}
    (hcache : settings.connectionCache = true) {k : ℕ}
    (hroom : k < max 8 settings.connectionLimit) :
    run step initial (openSessions cs settings (k + 1)) = some (opened cs settings (k + 1)) := by
  induction k with
  | zero => exact run_openSessions_one hcache
  | succ k ih =>
    have hsplit : openSessions cs settings (k + 1 + 1) = openSessions cs settings (k + 1) ++
        [.acquire cs settings, .lock (k + 1), .connected (k + 1)] := by
      rw [openSessions, List.range_succ, List.flatMap_append, List.flatMap_singleton, openSessions]
    rw [hsplit, run_append, ih (by omega), Option.bind_some]
    exact run_openSessions_succ hcache hroom

theorem tally_opened (cs : String) (k : ℕ) :
    tally (sessionShare cs)
      ((List.range k).map fun i => some ⟨some 0, ⟨i, cs⟩⟩) = k := by
  induction k with
  | zero => rfl
  | succ k ih =>
    rw [List.range_succ, List.map_append, tally_append, ih]
    simp [sessionShare]

theorem le_sessions_opened (cs : String) (settings : OracleSettings) (k : ℕ) :
    k ≤ sessions (opened cs settings k) cs := by
  have hheld := tally_opened cs k
  unfold sessions
  dsimp only [opened] at *
  omega

theorem acquiresOnly_openSessions {cs : String} {settings : OracleSettings} {n : ℕ}
    (hcache : settings.connectionCache = true) (hlimit : settings.connectionLimit = n) (k : ℕ) :
    ∀ e ∈ openSessions cs settings k, AcquiresOnly cs n e := by
  intro e he cs' settings' heq
  obtain ⟨i, -, hi⟩ := List.mem_flatMap.mp he
  subst heq
  obtain ⟨rfl, rfl⟩ : cs' = cs ∧ settings' = settings := by simpa using hi
  exact ⟨rfl, hcache, hlimit⟩

theorem quiet_openSessions (cs : String) (settings : OracleSettings) (k : ℕ) :
    Guarded step (QuietClear cs) initial (openSessions cs settings k) := by
  intro pre e hpre t _ heq
  subst heq
  have hmem : Event.clear ∈ openSessions cs settings k := hpre.subset (by simp)
  obtain ⟨i, -, hi⟩ := List.mem_flatMap.mp hmem
  simp at hi

/-- With the option at the built-in limit, eight calls stay within it. -/
theorem sessions_le_eight :
    sessions (opened "scott/tiger@db" { connectionLimit := 8 } 8) "scott/tiger@db" ≤ 8 := by
  have hacq := @acquiresOnly_openSessions "scott/tiger@db" { connectionLimit := 8 } 8 rfl rfl 8
  have hquiet := quiet_openSessions "scott/tiger@db" { connectionLimit := 8 } 8
  have hrun := @run_openSessions "scott/tiger@db" { connectionLimit := 8 } rfl 7 (by decide)
  refine (sessions_le_iff hacq hquiet hrun).mpr ?_ _ (Reached.of_run hrun)
  intro pre e hpre t ht
  have hprefix := (List.prefix_append pre [e]).trans hpre
  exact reservesBelow_of_builtin
    (oneCounted_of_reached hacq hquiet ⟨pre, hprefix, ht⟩).1 (Nat.le_refl 8) e

/-- **For which options the limit is respected in every run.**  Exactly for those
from the built-in limit 8 on. -/
theorem sessions_le_all_iff (cs : String) (n : ℕ) :
    (∀ es, (∀ e ∈ es, AcquiresOnly cs n e) → Guarded step (QuietClear cs) initial es →
      ∀ m, Reached step initial es m → sessions m cs ≤ n) ↔ 8 ≤ n := by
  constructor
  · intro hall
    by_contra hlt
    have hle : sessions (opened cs { connectionLimit := n } 8) cs ≤ n :=
      hall (openSessions cs { connectionLimit := n } 8) (acquiresOnly_openSessions rfl rfl 8)
      (quiet_openSessions cs _ 8) _
      (Reached.of_run (run_openSessions rfl (by dsimp only; omega)))
    have hge := le_sessions_opened cs { connectionLimit := n } 8
    omega
  · intro hn es hacq hquiet m hm
    have hle := sessions_le_max hacq hquiet hm
    omega

/-- **The option is exceeded.**  With the limit 1 two calls open two sessions, and
with the limit 8 a `Clear` between eight calls and a ninth leaves nine. -/
theorem sessions_exceed_limit :
    (∃ m, run step initial (openSessions "scott/tiger@db" { connectionLimit := 1 } 2) = some m ∧
      1 < sessions m "scott/tiger@db") ∧
    ∃ m, run step initial (openSessions "scott/tiger@db" { connectionLimit := 8 } 8 ++
        [.clear, .acquire "scott/tiger@db" { connectionLimit := 8 }, .lock 8, .connected 8]) =
          some m ∧
      8 < sessions m "scott/tiger@db" :=
  ⟨⟨_, rfl, by decide⟩, ⟨_, rfl, by decide⟩⟩

end Connection
end DuckdbOracle
