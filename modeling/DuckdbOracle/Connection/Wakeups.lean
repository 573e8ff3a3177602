import DuckdbOracle.Connection.PoolTimeout

/-!
# Lost wake-ups

A call of `Acquire` that finds its pool exhausted sleeps on the pool's condition
variable.  Nothing wakes it but a `notify_one`, and there are two: one after a
session has gone back to the idle list, one after a reservation has been given
back.  Each of them makes room for one call and wakes one call, so one expects

    room in the pool  ≤  calls that are woken and on their way to the lock

as long as anybody sleeps at all.  `NoLostWakeup` is that inequality.

Two steps can break it.  A call that raises the limit makes room for several calls
and notifies none; what it does not take for itself stays unseen.  And a call that
was woken may get the lock after its deadline: `wait_until` then reports `timeout`
although the call was notified, the call throws without looking at the pool, and
the room it was woken for is handed to nobody.

`no_lost_wakeup_iff` says that the two are all there is.
-/

namespace DuckdbOracle
namespace Connection

open Catalog StepRuns Tally

/-! ## Sleepers, woken calls and room -/

/-- A call counts for the phase it is in. -/
def phaseShare (phase : AcquirePhase) (call : AcquireCall) : ℕ :=
  if call.phase = phase then 1 else 0

/-- The calls that sleep on the condition variable of the pool object `p`. -/
def sleeping (m : OracleConnectionManager) (p : ℕ) : ℕ :=
  tally (phaseShare (.waiting p)) m.calls

/-- The calls that were woken and have not got the lock of the pool object `p` yet. -/
def woken (m : OracleConnectionManager) (p : ℕ) : ℕ :=
  tally (phaseShare (.notified p)) m.calls

/-- How many calls the pool could serve: its idle sessions and its free slots. -/
def OracleConnectionPool.room (pool : OracleConnectionPool) : ℕ :=
  pool.idle.length + (pool.limit - pool.total)

/-- While somebody sleeps, the room in the pool is no more than there are calls on
their way to it. -/
def WellWoken (m : OracleConnectionManager) (p : ℕ) : Prop :=
  ∀ pool, m.objects[p]? = some pool → sleeping m p = 0 ∨ pool.room ≤ woken m p

/-- No pool has room that a sleeping call does not hear of. -/
def NoLostWakeup (m : OracleConnectionManager) : Prop :=
  ∀ p, WellWoken m p

/-- The steps that lose no wake-up.
* A call that comes in and raises the limit leaves, besides the one place it takes
  for itself, no more room than there are woken calls, unless nobody sleeps.
* A woken call comes too late only if the others that are woken suffice for the
  room there is, or nobody sleeps. -/
def KeepsWakeups (m : OracleConnectionManager) : Event → Prop
  | .lock c => ∀ call p pool, m.calls[c]? = some call → call.phase = .entering p →
      m.objects[p]? = some pool → sleeping m p = 0 ∨
        (pool.raiseLimit call.settings.connectionLimit).room ≤ woken m p + 1
  | .late c => ∀ call p pool, m.calls[c]? = some call → call.phase = .notified p →
      m.objects[p]? = some pool → sleeping m p = 0 ∨ pool.room < woken m p
  | _ => True

/-- A pool without room, and one whose counter is within its limit, is exhausted. -/
theorem exhausted_of_room {m : OracleConnectionManager} (ha : Accounted m) {p : ℕ}
    {pool : OracleConnectionPool} (hp : m.objects[p]? = some pool) (hroom : pool.room = 0) :
    Exhausted m p := by
  obtain ⟨-, hlimit⟩ := ha.counted p pool hp
  rw [OracleConnectionPool.room] at hroom
  exact ⟨pool, hp, List.length_eq_zero_iff.mp (by omega), by omega⟩

/-! ## How a step moves the counts -/

section

variable {calls : List AcquireCall} {c : ℕ} {call : AcquireCall} {s t : AcquirePhase}

theorem phaseShare_set (hc : calls[c]? = some call) :
    tally (phaseShare s) (calls.set c { call with phase := t }) +
        (if call.phase = s then 1 else 0) =
      tally (phaseShare s) calls + if t = s then 1 else 0 :=
  tally_set (phaseShare s) hc { call with phase := t }

theorem phaseShare_set_of_ne (hc : calls[c]? = some call) (hold : call.phase ≠ s)
    (hnew : t ≠ s) :
    tally (phaseShare s) (calls.set c { call with phase := t }) =
      tally (phaseShare s) calls :=
  tally_set_eq _ hc (by simp [phaseShare, hold, hnew])

theorem phaseShare_concat (hnew : call.phase ≠ s) :
    tally (phaseShare s) (calls ++ [call]) = tally (phaseShare s) calls := by
  simp [phaseShare, hnew]

end

/-- `notify_one` moves one sleeper to the woken calls, unless nobody sleeps. -/
theorem Notify.counts {p : ℕ} {calls calls' : List AcquireCall} (h : Notify p calls calls') :
    tally (phaseShare (.waiting p)) calls' = 0 ∨
      tally (phaseShare (.notified p)) calls' = tally (phaseShare (.notified p)) calls + 1 ∧
        tally (phaseShare (.waiting p)) calls ≠ 0 := by
  cases h with
  | nobody hnone =>
    exact Or.inl (tally_eq_zero fun call hmem => by simp [phaseShare, hnone call hmem])
  | @woke w call hw hphase =>
    have hset := phaseShare_set (t := .notified p) (s := .notified p) hw
    have hle := le_tally (phaseShare (.waiting p)) hw
    rw [phaseShare, if_pos hphase] at hle
    simp only [hphase, reduceCtorEq, if_false, if_true, Nat.add_zero] at hset
    exact Or.inr ⟨hset, by omega⟩

/-- `notify_one` on one pool object concerns no call of another. -/
theorem Notify.counts_other {p q : ℕ} {calls calls' : List AcquireCall}
    (h : Notify p calls calls') (hqp : q ≠ p) :
    tally (phaseShare (.waiting q)) calls' = tally (phaseShare (.waiting q)) calls ∧
      tally (phaseShare (.notified q)) calls' = tally (phaseShare (.notified q)) calls := by
  cases h with
  | nobody _ => exact ⟨rfl, rfl⟩
  | woke hw hphase =>
    exact ⟨phaseShare_set_of_ne hw (by simp [hphase, hqp.symm]) (by simp),
      phaseShare_set_of_ne hw (by simp [hphase]) (by simp [hqp.symm])⟩

/-- A pool object that is left alone, with its sleepers and its woken calls. -/
theorem WellWoken.of_eq {m m' : OracleConnectionManager} {p : ℕ} (h : WellWoken m p)
    (hobj : m'.objects[p]? = m.objects[p]?) (hsleeping : sleeping m' p = sleeping m p)
    (hwoken : woken m' p = woken m p) : WellWoken m' p := by
  intro pool hp
  rw [hobj] at hp
  rw [hsleeping, hwoken]
  exact h pool hp

/-- A step about the pool object `p` is decided there. -/
theorem NoLostWakeup.iff_at {m m' : OracleConnectionManager} (hQ : NoLostWakeup m) {p : ℕ}
    {pool : OracleConnectionPool} (hp : m'.objects[p]? = some pool)
    (hother : ∀ q, q ≠ p → m'.objects[q]? = m.objects[q]? ∧ sleeping m' q = sleeping m q ∧
      woken m' q = woken m q) :
    NoLostWakeup m' ↔ (sleeping m' p = 0 ∨ pool.room ≤ woken m' p) := by
  constructor
  · exact fun h => h p pool hp
  · intro h q
    by_cases hqp : q = p
    · subst hqp
      intro pool' hp'
      rw [hp] at hp'
      exact Option.some.inj hp' ▸ h
    · obtain ⟨hobj, hsleeping, hwoken⟩ := hother q hqp
      exact (hQ q).of_eq hobj hsleeping hwoken

/-- A step that leaves every pool object alone, its sleepers and its woken calls. -/
theorem NoLostWakeup.of_eq {m m' : OracleConnectionManager} (hQ : NoLostWakeup m)
    (hobj : m'.objects = m.objects)
    (hcounts : ∀ q, sleeping m' q = sleeping m q ∧ woken m' q = woken m q) : NoLostWakeup m' :=
  fun q => (hQ q).of_eq (by rw [hobj]) (hcounts q).1 (hcounts q).2

/-! ## A turn of the loop -/

theorem Admits.entering_or_notified {call : AcquireCall} {p : ℕ}
    {pool₀ pool : OracleConnectionPool} (h : Admits call p pool₀ pool) :
    call.phase = .entering p ∨ call.phase = .notified p :=
  h.imp And.left And.left

section

variable {m : OracleConnectionManager} {c p : ℕ} {call : AcquireCall}
  {pool₀ pool pool' : OracleConnectionPool} {phase : AcquirePhase}

/-- The guard of a call that gets its lock, on the pool as the loop sees it. -/
theorem keepsWakeups_loop (hc : m.calls[c]? = some call) (hp : m.objects[p]? = some pool₀)
    (hadm : Admits call p pool₀ pool) :
    KeepsWakeups m (.lock c) ↔ (call.phase = .entering p →
      sleeping m p = 0 ∨ pool.room ≤ woken m p + 1) := by
  constructor
  · intro h hphase
    obtain ⟨-, rfl⟩ | ⟨hnotified, -⟩ := hadm
    · exact h call p pool₀ hc hphase hp
    · rw [hnotified] at hphase
      exact nomatch hphase
  · intro h call' p' pool' hc' hphase hp'
    rw [hc] at hc'
    obtain rfl := Option.some.inj hc'
    obtain ⟨hentering, rfl⟩ | ⟨hnotified, -⟩ := hadm
    · rw [hentering] at hphase
      obtain rfl := AcquirePhase.entering.inj hphase
      rw [hp] at hp'
      exact Option.some.inj hp' ▸ h hentering
    · rw [hnotified] at hphase
      exact nomatch hphase

/-- The pool object `p`, its sleepers and its woken calls after a turn of the loop. -/
theorem NoLostWakeup.loop_iff (hQ : NoLostWakeup m) (hc : m.calls[c]? = some call)
    (hp : m.objects[p]? = some pool₀) (hadm : Admits call p pool₀ pool)
    (hother : ∀ q, q ≠ p → phase ≠ .waiting q) (hnotified : ∀ q, phase ≠ .notified q)
    {handles : List (Option OracleConnectionHandle)} :
    NoLostWakeup
        { m with
          objects := m.objects.set p pool'
          handles := handles
          calls := m.calls.set c { call with phase := phase } } ↔
      (sleeping m p + (if phase = .waiting p then 1 else 0) = 0 ∨
        pool'.room + (if call.phase = .notified p then 1 else 0) ≤ woken m p) := by
  have hawake : ∀ q, call.phase ≠ .waiting q := by
    rcases hadm.entering_or_notified with h | h <;> simp [h]
  have helsewhere : ∀ q, q ≠ p → call.phase ≠ .notified q := by
    intro q hqp
    rcases hadm.entering_or_notified with h | h <;> simp [h, hqp.symm]
  refine (hQ.iff_at (getElem?_set_of hp pool') fun q hqp => ?_).trans ?_
  · exact ⟨getElem?_set_of_ne hqp _, phaseShare_set_of_ne hc (hawake q) (hother q hqp),
      phaseShare_set_of_ne hc (helsewhere q hqp) (hnotified q)⟩
  · have hsleeping := phaseShare_set (t := phase) (s := .waiting p) hc
    have hwoken := phaseShare_set (t := phase) (s := .notified p) hc
    rw [if_neg (hawake p), Nat.add_zero] at hsleeping
    rw [if_neg (hnotified p), Nat.add_zero] at hwoken
    simp only [sleeping, woken]
    omega

/-- A call that takes one place of the room: for a woken call the inequality keeps its
balance, for a call that comes in it is the guard. -/
theorem NoLostWakeup.served_iff (hQ : NoLostWakeup m) (hc : m.calls[c]? = some call)
    (hp : m.objects[p]? = some pool₀) (hadm : Admits call p pool₀ pool)
    (hroom : pool'.room + 1 = pool.room) (hwaiting : ∀ q, phase ≠ .waiting q)
    (hnotified : ∀ q, phase ≠ .notified q) {handles : List (Option OracleConnectionHandle)} :
    NoLostWakeup
        { m with
          objects := m.objects.set p pool'
          handles := handles
          calls := m.calls.set c { call with phase := phase } } ↔
      KeepsWakeups m (.lock c) := by
  rw [hQ.loop_iff hc hp hadm (fun q _ => hwaiting q) hnotified, if_neg (hwaiting p),
    keepsWakeups_loop hc hp hadm]
  obtain ⟨hphase, rfl⟩ | ⟨hphase, rfl⟩ := hadm
  · simp only [hphase, reduceCtorEq, if_false, forall_const]
    omega
  · have hbalance := hQ p _ hp
    simp only [hphase, reduceCtorEq, if_true, IsEmpty.forall_iff, iff_true]
    omega

/-- A call that finds no room goes to sleep: there is none for the others either. -/
theorem NoLostWakeup.blocked (hQ : NoLostWakeup m) (hc : m.calls[c]? = some call)
    (hp : m.objects[p]? = some pool₀) (hadm : Admits call p pool₀ pool)
    (hroom : pool.room = 0) :
    NoLostWakeup
        { m with
          objects := m.objects.set p pool
          calls := m.calls.set c { call with phase := .waiting p } } ∧
      KeepsWakeups m (.lock c) := by
  constructor
  · refine (hQ.loop_iff hc hp hadm (fun q hqp => ?_) (by simp)).mpr (Or.inr ?_)
    · simpa using hqp.symm
    · have hle := le_tally (phaseShare (.notified p)) hc
      rw [phaseShare] at hle
      rw [hroom, Nat.zero_add]
      exact hle
  · refine (keepsWakeups_loop hc hp hadm).mpr fun _ => Or.inr ?_
    rw [hroom]
    exact Nat.zero_le _

end

/-! ## The exact guard -/

/-- A woken call that comes too late takes no room, so the others must suffice. -/
theorem noLostWakeup_late_iff {m : OracleConnectionManager} {c p : ℕ} {call : AcquireCall}
    (ha : Accounted m) (hQ : NoLostWakeup m) (hc : m.calls[c]? = some call)
    (hphase : call.phase = .notified p) :
    NoLostWakeup { m with calls := m.calls.set c { call with phase := .timedOut p } } ↔
      KeepsWakeups m (.late c) := by
  obtain ⟨pool, hp, -⟩ := ha.keyed.call call (List.mem_of_getElem? hc) p (by rw [hphase]; rfl)
  have hguard : KeepsWakeups m (.late c) ↔ (sleeping m p = 0 ∨ pool.room < woken m p) := by
    constructor
    · exact fun h => h call p pool hc hphase hp
    · intro h call' p' pool' hc' hphase' hp'
      rw [hc] at hc'
      obtain rfl := Option.some.inj hc'
      rw [hphase] at hphase'
      obtain rfl := AcquirePhase.notified.inj hphase'
      rw [hp] at hp'
      exact Option.some.inj hp' ▸ h
  have hsleeping := phaseShare_set (t := .timedOut p) (s := .waiting p) hc
  have hwoken := phaseShare_set (t := .timedOut p) (s := .notified p) hc
  simp only [hphase, reduceCtorEq, if_false, if_true, Nat.add_zero] at hsleeping hwoken
  have hp' : ({ m with
      calls := m.calls.set c { call with phase := .timedOut p } } :
        OracleConnectionManager).objects[p]? = some pool := hp
  rw [hguard]
  refine (hQ.iff_at hp' fun q hqp => ⟨rfl, ?_, ?_⟩).trans ?_
  · exact phaseShare_set_of_ne hc (by simp [hphase]) (by simp)
  · exact phaseShare_set_of_ne hc (by simp [hphase, hqp.symm]) (by simp)
  · simp only [sleeping, woken]
    omega

/-- A `notify_one` after one place has become free: somebody is on the way to it. -/
theorem NoLostWakeup.notified {m m' : OracleConnectionManager} (hQ : NoLostWakeup m) {p : ℕ}
    {pool₀ pool : OracleConnectionPool} {calls : List AcquireCall}
    (hp : m.objects[p]? = some pool₀) (hobj : m'.objects = m.objects.set p pool)
    (hroom : pool.room = pool₀.room + 1) (hn : Notify p calls m'.calls)
    (hcalls : ∀ q, tally (phaseShare (.waiting q)) calls = sleeping m q ∧
      tally (phaseShare (.notified q)) calls = woken m q) : NoLostWakeup m' := by
  have hp' : m'.objects[p]? = some pool := by rw [hobj]; exact getElem?_set_of hp pool
  refine (hQ.iff_at hp' fun q hqp => ⟨?_, ?_, ?_⟩).mpr ?_
  · rw [hobj, getElem?_set_of_ne hqp]
  · exact (hn.counts_other hqp).1.trans (hcalls q).1
  · exact (hn.counts_other hqp).2.trans (hcalls q).2
  · obtain ⟨hsleeping, hwoken⟩ := hcalls p
    rcases hn.counts with hnone | ⟨hone, hsome⟩
    · exact Or.inl hnone
    · have hbalance := hQ p pool₀ hp
      rw [hsleeping] at hsome
      rw [hwoken] at hone
      refine Or.inr ?_
      show pool.room ≤ tally (phaseShare (.notified p)) m'.calls
      rw [hone, hroom]
      omega

/-- **One step.**  From a state without a lost wake-up a step leads to such a state
exactly if the guard admits it. -/
theorem noLostWakeup_step_iff {m m' : OracleConnectionManager} {e : Event} (ha : Accounted m)
    (hQ : NoLostWakeup m) (hstep : step m e = some m') :
    NoLostWakeup m' ↔ KeepsWakeups m e := by
  cases transition_of_step hstep with
  | standalone _ | found _ _ =>
    exact iff_of_true (hQ.of_eq rfl fun q =>
      ⟨phaseShare_concat (by simp), phaseShare_concat (by simp)⟩) trivial
  | @made cs settings _ _ =>
    refine iff_of_true (fun q pool hq => ?_) trivial
    rcases of_getElem?_concat hq with hold | ⟨rfl, -⟩
    · refine (hQ q pool hold).imp (fun hnobody => ?_) fun hroom => ?_
      · exact (phaseShare_concat (by simp)).trans hnobody
      · exact hroom.trans_eq (phaseShare_concat (by simp)).symm
    · -- nobody can sleep on a pool object that was not there
      refine Or.inl ((phaseShare_concat (by simp)).trans (tally_eq_zero fun call hmem => ?_))
      rw [phaseShare, if_neg]
      intro hphase
      obtain ⟨pool', hsome, -⟩ := ha.keyed.call call hmem m.objects.length (by rw [hphase]; rfl)
      simp at hsome
  | @take c p call pool₀ pool ctx rest hc hp hadm hidle =>
    refine hQ.served_iff hc hp hadm ?_ (by simp) (by simp)
    simp only [OracleConnectionPool.room, hidle, List.length_cons]
    omega
  | @reserve c p call pool₀ pool hc hp hadm hidle hfree =>
    refine hQ.served_iff hc hp hadm ?_ (by simp) (by simp)
    simp only [OracleConnectionPool.room]
    omega
  | @block c p call pool₀ pool hc hp hadm hidle hfull =>
    have hroom : pool.room = 0 := by
      rw [OracleConnectionPool.room, hidle, List.length_nil]
      omega
    obtain ⟨hnext, hG⟩ := hQ.blocked hc hp hadm hroom
    exact iff_of_true hnext hG
  | @timeout c p call hc hphase =>
    refine iff_of_true (hQ.of_eq rfl fun q => ⟨?_, ?_⟩) fun call' q pool hc' hentering => ?_
    · exact phaseShare_set_of_ne hc (by simp [hphase]) (by simp)
    · exact phaseShare_set_of_ne hc (by simp [hphase]) (by simp)
    · rw [hc] at hc'
      obtain rfl := Option.some.inj hc'
      rw [hphase] at hentering
      exact nomatch hentering
  | connected hc hphase | connectedAlone hc hphase | threwAlone hc hphase =>
    exact iff_of_true (hQ.of_eq rfl fun q =>
      ⟨phaseShare_set_of_ne hc (by simp [hphase]) (by simp),
        phaseShare_set_of_ne hc (by simp [hphase]) (by simp)⟩) trivial
  | @threw c p woken call pool calls hc hphase hp hn =>
    -- the reservation was counted, so giving it back leaves a free slot
    obtain ⟨htotal, hlimit⟩ := ha.counted p pool hp
    have hres := le_tally (reservedShare p) hc
    rw [reservedShare, if_pos hphase] at hres
    refine iff_of_true (hQ.notified hp rfl ?_ hn fun q => ⟨?_, ?_⟩) trivial
    · simp only [reserved, OracleConnectionPool.room] at htotal ⊢
      omega
    · exact phaseShare_set_of_ne hc (by simp [hphase]) (by simp)
    · exact phaseShare_set_of_ne hc (by simp [hphase]) (by simp)
  | @expired c p call hc hphase =>
    refine iff_of_true (fun q pool hq => ?_) trivial
    have hsleeping := phaseShare_set (t := .expired p) (s := .waiting q) hc
    have hwoken := phaseShare_set_of_ne (t := .expired p) (s := .notified q) hc
      (by simp [hphase]) (by simp)
    have hbalance := hQ q pool hq
    simp only [reduceCtorEq, if_false, Nat.add_zero] at hsleeping
    simp only [sleeping, woken] at hbalance ⊢
    omega
  | @spurious c p call hc hphase =>
    -- a sleeper becomes a call on its way, which the inequality only gains from
    refine iff_of_true (fun q pool hq => ?_) trivial
    have hsleeping := phaseShare_set (t := .notified p) (s := .waiting q) hc
    have hwoken := phaseShare_set (t := .notified p) (s := .notified q) hc
    have hbalance := hQ q pool hq
    simp only [hphase, reduceCtorEq, if_false, Nat.add_zero] at hsleeping hwoken
    simp only [sleeping, woken] at hbalance ⊢
    omega
  | @late c p call hc hphase => exact noLostWakeup_late_iff ha hQ hc hphase
  | @released h p woken ctx pool calls hh hp hn =>
    refine iff_of_true (hQ.notified hp rfl ?_ hn fun q => ⟨rfl, rfl⟩) trivial
    simp only [OracleConnectionPool.room, List.length_cons]
    omega
  | releasedAlone hh | cleared => exact iff_of_true (hQ.of_eq rfl fun q => ⟨rfl, rfl⟩) trivial

theorem noLostWakeup_initial : NoLostWakeup initial :=
  fun _ _ hp => absurd hp (by simp [initial])

/-- A call that sleeps while nobody is on the way to its pool sleeps on an exhausted
pool. -/
theorem NoLostWakeup.exhausted {m : OracleConnectionManager} (ha : Accounted m)
    (hQ : NoLostWakeup m) {p : ℕ} (hsleeping : sleeping m p ≠ 0) (hwoken : woken m p = 0) :
    Exhausted m p := by
  obtain ⟨call, hmem, hshare⟩ : ∃ call ∈ m.calls, phaseShare (.waiting p) call ≠ 0 := by
    by_contra hnone
    push Not at hnone
    exact hsleeping (tally_eq_zero hnone)
  have hphase : call.phase = .waiting p := by
    by_contra hne
    exact hshare (if_neg hne)
  obtain ⟨pool, hp, -⟩ := ha.keyed.call call hmem p (by rw [hphase]; rfl)
  have hroom : pool.room = 0 := by
    have := (hQ p pool hp).resolve_left hsleeping
    omega
  exact exhausted_of_room ha hp hroom

/-- **Which runs lose no wake-up.**  In every state of a run the room of a pool with
sleepers is covered by woken calls exactly if no step of the run raises a limit past
them and no woken call that is needed comes too late; and then a call that sleeps
while nobody is on the way to its pool sleeps because the pool is exhausted. -/
theorem no_lost_wakeup_iff {es : List Event} {m : OracleConnectionManager}
    (h : run step initial es = some m) :
    ((∀ t, Reached step initial es t → NoLostWakeup t) ↔
      Guarded step KeepsWakeups initial es) ∧
    (Guarded step KeepsWakeups initial es → ∀ t, Reached step initial es t →
      ∀ p, sleeping t p ≠ 0 → woken t p = 0 → Exhausted t p) := by
  have hiff : (∀ t, Reached step initial es t → NoLostWakeup t) ↔
      Guarded step KeepsWakeups initial es :=
    guarded_iff_reached (fun _ _ _ ha hstep => Accounted.step ha hstep)
      (fun _ _ _ ha hQ hstep => noLostWakeup_step_iff ha hQ hstep)
      accounted_initial noLostWakeup_initial h
  refine ⟨hiff, fun hG t ht p hsleeping hwoken => ?_⟩
  obtain ⟨pre, -, hrun⟩ := id ht
  have ha : Accounted t :=
    run_invariant (fun _ _ _ ha hstep => Accounted.step ha hstep) accounted_initial hrun
  exact (hiff.mpr hG t ht).exhausted ha hsleeping hwoken

/-- Eight sessions are out, a ninth call sleeps, and a tenth one comes with the limit
12.  It takes one of the four new places and notifies nobody. -/
def tenthRaises : List Event :=
  openSessions "scott/tiger@db" {} 8 ++
    [.acquire "scott/tiger@db" {}, .lock 8,
      .acquire "scott/tiger@db" { connectionLimit := 12 }, .lock 9]

/-- The ninth call of `tenthRaises` sleeps on a pool with three free slots. -/
theorem no_lost_wakeup_tenthRaises : ¬ Guarded step KeepsWakeups initial tenthRaises := by
  intro hG
  obtain ⟨m, hm, hpool, hsleeping, hwoken⟩ : ∃ m, run step initial tenthRaises = some m ∧
      m.objects[0]? = some ⟨"scott/tiger@db", [], 9, 12⟩ ∧ sleeping m 0 = 1 ∧ woken m 0 = 0 :=
    ⟨_, rfl, rfl, rfl, rfl⟩
  obtain ⟨pool, hp, -, htotal⟩ := (no_lost_wakeup_iff hm).2 hG m (Reached.of_run hm) 0
    (by rw [hsleeping]; decide) hwoken
  rw [hpool] at hp
  obtain rfl := Option.some.inj hp
  exact absurd htotal (by decide)

/-! ## One limit for each connection string -/

/-- The call has been in the loop on the pool object `p` and has not left it. -/
def InLoop (p : ℕ) (call : AcquireCall) : Prop :=
  call.phase = .waiting p ∨ call.phase = .notified p

theorem InLoop.pool? {p : ℕ} {call : AcquireCall} (h : InLoop p call) :
    call.phase.pool? = some p := by
  rcases h with h | h <;> rw [h] <;> rfl

/-- A call that is in the loop was there before, or has just raised the limit to its
own. -/
theorem Transition.inLoop {m m' : OracleConnectionManager} {e : Event} (h : Transition m e m')
    {p : ℕ} {call : AcquireCall} (hmem : call ∈ m'.calls) (hin : InLoop p call) :
    (∃ call₀ ∈ m.calls, call₀.settings = call.settings ∧ InLoop p call₀) ∨
      ∃ pool, m'.objects[p]? = some pool ∧ call.settings.connectionLimit ≤ pool.limit := by
  -- the slot of one call is written with a phase outside the loop
  have hset : ∀ {calls : List AcquireCall} {c : ℕ} {call₁ : AcquireCall} {phase : AcquirePhase},
      call ∈ calls.set c { call₁ with phase := phase } → (∀ q, phase ≠ .waiting q) →
      (∀ q, phase ≠ .notified q) → call ∈ calls := by
    intro calls c call₁ phase hmem hwaiting hnotified
    rcases List.mem_or_eq_of_mem_set hmem with hold | rfl
    · exact hold
    · exact absurd hin (not_or.mpr ⟨hwaiting p, hnotified p⟩)
  -- a call wakes another one
  have hwoke : ∀ {q : ℕ} {calls : List AcquireCall}, Notify q calls m'.calls →
      ∃ call₀ ∈ calls, call₀.settings = call.settings ∧ InLoop p call₀ := by
    intro q calls hn
    obtain ⟨call₀, hmem₀, -, hsettings, hphase | ⟨hw, hnot⟩⟩ := hn.mem hmem
    · exact ⟨call₀, hmem₀, hsettings.symm, by rwa [InLoop, ← hphase]⟩
    · rcases hin with hin | hin
      · rw [hnot] at hin
        exact nomatch hin
      · rw [hnot] at hin
        obtain rfl := AcquirePhase.notified.inj hin
        exact ⟨call₀, hmem₀, hsettings.symm, Or.inl hw⟩
  cases h with
  | standalone _ | found _ _ | made _ _ =>
    rcases List.mem_append.mp hmem with hold | hnew
    · exact Or.inl ⟨call, hold, rfl, hin⟩
    · obtain rfl := List.mem_singleton.mp hnew
      exact absurd hin (by simp [InLoop])
  | take _ _ _ _ | reserve _ _ _ _ _ | timeout _ _ | connected _ _ | connectedAlone _ _
  | threwAlone _ _ | expired _ _ | late _ _ =>
    exact Or.inl ⟨call, hset hmem (by simp) (by simp), rfl, hin⟩
  | @spurious c q call₁ hc hphase =>
    rcases List.mem_or_eq_of_mem_set hmem with hold | rfl
    · exact Or.inl ⟨call, hold, rfl, hin⟩
    · have hqp : q = p := by simpa [InLoop] using hin
      exact Or.inl ⟨call₁, List.mem_of_getElem? hc, rfl, Or.inl (hqp ▸ hphase)⟩
  | @block c q call₁ pool₀ pool hc hq hadm _ _ =>
    rcases List.mem_or_eq_of_mem_set hmem with hold | rfl
    · exact Or.inl ⟨call, hold, rfl, hin⟩
    · have hqp : q = p := by simpa [InLoop] using hin
      subst hqp
      obtain ⟨-, rfl⟩ | ⟨hnotified, -⟩ := hadm
      · refine Or.inr ⟨_, getElem?_set_of hq _, ?_⟩
        rw [raiseLimit_limit]
        exact le_max_right _ _
      · exact Or.inl ⟨call₁, List.mem_of_getElem? hc, rfl, Or.inr hnotified⟩
  | @threw c q woken call₁ pool calls hc hphase _ hn =>
    obtain ⟨call₀, hmem₀, hsettings, hin₀⟩ := hwoke hn
    rcases List.mem_or_eq_of_mem_set hmem₀ with hold | rfl
    · exact Or.inl ⟨call₀, hold, hsettings, hin₀⟩
    · exact absurd hin₀ (by simp [InLoop])
  | released _ _ hn => exact Or.inl (hwoke hn)
  | releasedAlone _ | cleared => exact Or.inl ⟨call, hmem, rfl, hin⟩

/-- The arguments of a call are those it was made with. -/
theorem Transition.args {m m' : OracleConnectionManager} {e : Event} (h : Transition m e m')
    {call : AcquireCall} (hmem : call ∈ m'.calls) :
    (∃ call₀ ∈ m.calls, call₀.connectionString = call.connectionString ∧
      call₀.settings = call.settings) ∨ e = .acquire call.connectionString call.settings := by
  have hset : ∀ {c : ℕ} {call₁ : AcquireCall} {phase : AcquirePhase}, m.calls[c]? = some call₁ →
      call ∈ m.calls.set c { call₁ with phase := phase } →
      ∃ call₀ ∈ m.calls, call₀.connectionString = call.connectionString ∧
        call₀.settings = call.settings := by
    intro c call₁ phase hc hmem
    rcases List.mem_or_eq_of_mem_set hmem with hold | rfl
    · exact ⟨call, hold, rfl, rfl⟩
    · exact ⟨call₁, List.mem_of_getElem? hc, rfl, rfl⟩
  cases h with
  | standalone _ | found _ _ | made _ _ =>
    rcases List.mem_append.mp hmem with hold | hnew
    · exact Or.inl ⟨call, hold, rfl, rfl⟩
    · obtain rfl := List.mem_singleton.mp hnew
      exact Or.inr rfl
  | take hc _ _ _ | reserve hc _ _ _ _ | block hc _ _ _ _ | timeout hc _ | connected hc _
  | connectedAlone hc _ | threwAlone hc _ | expired hc _ | spurious hc _ | late hc _ =>
    exact Or.inl (hset hc hmem)
  | @threw c q woken call₁ pool calls hc hphase _ hn =>
    obtain ⟨call₀, hmem₀, hcs, hsettings, -⟩ := hn.mem hmem
    rcases List.mem_or_eq_of_mem_set hmem₀ with hold | rfl
    · exact Or.inl ⟨call₀, hold, hcs.symm, hsettings.symm⟩
    · exact Or.inl ⟨call₁, List.mem_of_getElem? hc, hcs.symm, hsettings.symm⟩
  | released _ _ hn =>
    obtain ⟨call₀, hmem₀, hcs, hsettings, -⟩ := hn.mem hmem
    exact Or.inl ⟨call₀, hmem₀, hcs.symm, hsettings.symm⟩
  | releasedAlone _ | cleared => exact Or.inl ⟨call, hmem, rfl, rfl⟩

/-- Every call has the limit of its connection string, and the pools of the calls in
the loop have been raised to it. -/
structure OneLimit (limitOf : String → ℕ) (m : OracleConnectionManager) : Prop where
  agree : ∀ call ∈ m.calls, call.settings.connectionLimit = limitOf call.connectionString
  raised : ∀ call ∈ m.calls, ∀ p pool, InLoop p call → m.objects[p]? = some pool →
    call.settings.connectionLimit ≤ pool.limit

theorem oneLimit_initial (limitOf : String → ℕ) : OneLimit limitOf initial where
  agree _ h := absurd h (by simp [initial])
  raised _ h := absurd h (by simp [initial])

/-- The calls come with the limit of their connection string, and no woken call comes
too late. -/
def CallsWith (limitOf : String → ℕ) : Event → Prop
  | .acquire cs settings => settings.connectionLimit = limitOf cs
  | .late _ => False
  | _ => True

theorem OneLimit.step {limitOf : String → ℕ} {m m' : OracleConnectionManager} {e : Event}
    (ho : OneLimit limitOf m) (hk : Keyed m) (he : CallsWith limitOf e)
    (h : Transition m e m') : OneLimit limitOf m' where
  agree call hmem := by
    rcases h.args hmem with ⟨call₀, hmem₀, hcs, hsettings⟩ | rfl
    · rw [← hcs, ← hsettings]
      exact ho.agree call₀ hmem₀
    · exact he
  raised call hmem p pool' hin hp' := by
    rcases h.inLoop hmem hin with ⟨call₀, hmem₀, hsettings, hin₀⟩ | ⟨pool, hp, hle⟩
    · obtain ⟨pool, hp, -⟩ := hk.call call₀ hmem₀ p hin₀.pool?
      obtain ⟨pool₁, hp₁, -, hlimit⟩ := h.object hp
      rw [hp'] at hp₁
      obtain rfl := Option.some.inj hp₁
      rw [← hsettings]
      exact (ho.raised call₀ hmem₀ p pool hin₀ hp).trans hlimit
    · rw [hp'] at hp
      obtain rfl := Option.some.inj hp
      exact hle

/-- A call that comes in while somebody sleeps on its pool finds the limit raised. -/
theorem OneLimit.keepsWakeups {limitOf : String → ℕ} {m : OracleConnectionManager}
    (ho : OneLimit limitOf m) (hk : Keyed m) (hQ : NoLostWakeup m) {e : Event}
    (he : CallsWith limitOf e) : KeepsWakeups m e := by
  cases e with
  | late c => exact absurd he id
  | lock c =>
    intro call p pool hc hphase hp
    by_cases hnobody : sleeping m p = 0
    · exact Or.inl hnobody
    · obtain ⟨call₁, hmem₁, hphase₁⟩ : ∃ call₁ ∈ m.calls, call₁.phase = .waiting p := by
        by_contra hnone
        push Not at hnone
        exact hnobody (tally_eq_zero fun call₁ hmem₁ => if_neg (hnone call₁ hmem₁))
      have hmem := List.mem_of_getElem? hc
      -- both calls were made with the connection string of the pool
      have hkey : call.connectionString = call₁.connectionString :=
        HasKey.unique (hk.call call hmem p (by rw [hphase]; rfl))
          (hk.call call₁ hmem₁ p (by rw [hphase₁]; rfl))
      have hle : call.settings.connectionLimit ≤ pool.limit := by
        rw [ho.agree call hmem, hkey, ← ho.agree call₁ hmem₁]
        exact ho.raised call₁ hmem₁ p pool (Or.inl hphase₁) hp
      have hroom := (hQ p pool hp).resolve_left hnobody
      refine Or.inr ?_
      rw [OracleConnectionPool.raiseLimit, if_neg (Nat.not_lt.mpr hle)]
      exact hroom.trans (Nat.le_succ _)
  | _ => exact trivial

/-- **With one limit for each connection string no wake-up is lost.**  A call that
sleeps while nobody is on the way to its pool then always sleeps because the pool is
exhausted, provided that no woken call comes too late. -/
theorem no_lost_wakeup_of_one_limit {limitOf : String → ℕ} {es : List Event}
    {m : OracleConnectionManager} (hes : ∀ e ∈ es, CallsWith limitOf e)
    (h : run step initial es = some m) :
    NoLostWakeup m ∧ ∀ p, sleeping m p ≠ 0 → woken m p = 0 → Exhausted m p := by
  have hall : Accounted m ∧ OneLimit limitOf m ∧ NoLostWakeup m := by
    refine guarded_invariant (I := fun t => Accounted t ∧ OneLimit limitOf t ∧ NoLostWakeup t)
      (G := fun _ e => CallsWith limitOf e) ?_
      ⟨accounted_initial, oneLimit_initial limitOf, noLostWakeup_initial⟩ ?_ h
    · rintro t e t' ⟨ha, ho, hQ⟩ he hstep
      refine ⟨ha.step hstep, ho.step ha.keyed he (transition_of_step hstep), ?_⟩
      · exact (noLostWakeup_step_iff ha hQ hstep).mpr (ho.keepsWakeups ha.keyed hQ he)
    · exact fun pre e hp t _ => hes e (hp.subset (by simp))
  exact ⟨hall.2.2, fun p hsleeping hwoken => hall.2.2.exhausted hall.1 hsleeping hwoken⟩

/-- Eight sessions are out, a ninth call sleeps, and a handle goes. -/
def ninthIsWoken : List Event :=
  openSessions "scott/tiger@db" {} 8 ++
    [.acquire "scott/tiger@db" {}, .lock 8, .release 0 (some 8)]

theorem no_lost_wakeup_ninthIsWoken :
    ∃ m, run step initial ninthIsWoken = some m ∧ NoLostWakeup m ∧
      ∀ p, sleeping m p ≠ 0 → woken m p = 0 → Exhausted m p := by
  refine ⟨_, rfl, @no_lost_wakeup_of_one_limit (fun _ => 8) ninthIsWoken _ ?_ rfl⟩
  simp [ninthIsWoken, openSessions, CallsWith, List.range_succ]

end Connection
end DuckdbOracle
