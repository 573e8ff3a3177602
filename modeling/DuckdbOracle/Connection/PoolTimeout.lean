import DuckdbOracle.Connection.PoolAccounting

/-!
# The pool timeout

`Acquire` throws its timeout exception as soon as `wait_until` reports `timeout`
and the lock is back.  It does not look at the pool again.  So whether the
exception is justified is decided by what happened while the call was on its way
from the wait to the lock.

A call that nobody has woken gives up when its deadline passes; what counts is whether
capacity turns up for it before it has the lock.  Capacity turns up on three routes: a
handle is released, a connection attempt fails, and a call raises the limit by more
than the one slot it takes for itself.  A fourth route is that the capacity is there
when the deadline passes, because the notification went to another waiter that has not
got the lock yet, or because there was none (a raised limit notifies nobody).  And a
call that was woken may get the lock only after its deadline; then it throws as well,
whatever it was woken for.  `KeepsExhausted` names these five, and
`no_spurious_timeout_iff` says that they are all there is.
-/

namespace DuckdbOracle
namespace Connection

open Catalog StepRuns Tally

/-- The pool object `p` has no idle session and no slot left. -/
def Exhausted (m : OracleConnectionManager) (p : ℕ) : Prop :=
  ∃ pool, m.objects[p]? = some pool ∧ pool.idle = [] ∧ pool.total = pool.limit

/-- Some call has waited for the pool object `p` past its deadline and throws as
soon as it gets the lock. -/
def HasExpired (m : OracleConnectionManager) (p : ℕ) : Prop :=
  ∃ call ∈ m.calls, call.phase = .expired p

/-- A call that is about to throw the pool timeout finds its pool exhausted. -/
def ExpiredExhausted (m : OracleConnectionManager) : Prop :=
  ∀ p, HasExpired m p → Exhausted m p

/-- The step throws the timeout exception of the pool object `p`: a call gets the lock
back, and its wait has ended by its deadline, or it was woken and comes too late. -/
def ThrowsTimeout (m : OracleConnectionManager) (p : ℕ) : Event → Prop
  | .lock c => ∃ call, m.calls[c]? = some call ∧ call.phase = .expired p
  | .late c => ∃ call, m.calls[c]? = some call ∧ call.phase = .notified p
  | _ => False

/-- If the step throws a timeout, it does so on an exhausted pool. -/
def JustifiedTimeout (m : OracleConnectionManager) (e : Event) : Prop :=
  ∀ p, ThrowsTimeout m p e → Exhausted m p

/-- Every pool timeout that the run of `es` throws is thrown, under the pool's
lock, on an exhausted pool. -/
def NoSpuriousTimeout (es : List Event) : Prop :=
  Guarded step JustifiedTimeout initial es

/-- The steps that leave no capacity behind a call that has stopped waiting.
* A deadline passes only while the pool is exhausted, and a woken call gets the lock
  after its deadline only while the pool is exhausted.
* While a call is past its deadline, no handle of its pool is released, no
  connection attempt of its pool fails, and no call raises the limit of its pool
  by more than one. -/
def KeepsExhausted (m : OracleConnectionManager) : Event → Prop
  | .expire c => ∀ call p, m.calls[c]? = some call → call.phase = .waiting p → Exhausted m p
  | .release h _ => ∀ ctx p, m.handles[h]? = some (some ⟨some p, ctx⟩) → ¬ HasExpired m p
  | .connectFailed c _ => ∀ call p, m.calls[c]? = some call → call.phase = .connecting p →
      ¬ HasExpired m p
  | .lock c => ∀ call p pool, m.calls[c]? = some call → call.phase = .entering p →
      m.objects[p]? = some pool → HasExpired m p →
      call.settings.connectionLimit ≤ pool.limit + 1
  | .late c => ∀ call p, m.calls[c]? = some call → call.phase = .notified p → Exhausted m p
  | _ => True

/-! ## The guard, event by event -/

section

variable {m : OracleConnectionManager} {c p : ℕ} {call : AcquireCall}

theorem keepsExhausted_expire (hc : m.calls[c]? = some call) (hphase : call.phase = .waiting p) :
    KeepsExhausted m (.expire c) ↔ Exhausted m p := by
  constructor
  · exact fun h => h call p hc hphase
  · intro hex call' p' hc' hphase'
    rw [hc] at hc'
    obtain rfl := Option.some.inj hc'
    obtain rfl : p = p' := by simpa [hphase] using hphase'
    exact hex

theorem keepsExhausted_connectFailed (hc : m.calls[c]? = some call)
    (hphase : call.phase = .connecting p) (woken : Option ℕ) :
    KeepsExhausted m (.connectFailed c woken) ↔ ¬ HasExpired m p := by
  constructor
  · exact fun h => h call p hc hphase
  · intro hnone call' p' hc' hphase'
    rw [hc] at hc'
    obtain rfl := Option.some.inj hc'
    obtain rfl : p = p' := by simpa [hphase] using hphase'
    exact hnone

theorem keepsExhausted_release {h : ℕ} {ctx : OracleContext}
    (hh : m.handles[h]? = some (some ⟨some p, ctx⟩)) (woken : Option ℕ) :
    KeepsExhausted m (.release h woken) ↔ ¬ HasExpired m p := by
  constructor
  · exact fun hG => hG ctx p hh
  · intro hnone ctx' p' hh'
    rw [hh] at hh'
    obtain ⟨rfl, -⟩ : p = p' ∧ ctx = ctx' := by simpa using hh'
    exact hnone

/-- The guard of a call that gets its lock, on any pool object it may be about. -/
theorem keepsExhausted_lock (hc : m.calls[c]? = some call) :
    KeepsExhausted m (.lock c) ↔ ∀ p pool, call.phase = .entering p →
      m.objects[p]? = some pool → HasExpired m p →
      call.settings.connectionLimit ≤ pool.limit + 1 := by
  constructor
  · exact fun h p pool => h call p pool hc
  · intro h call' p' pool' hc'
    rw [hc] at hc'
    obtain rfl := Option.some.inj hc'
    exact h p' pool'

/-- The guard of a call that goes into the loop on the pool object `p`. -/
theorem keepsExhausted_loop {pool₀ pool : OracleConnectionPool} (hc : m.calls[c]? = some call)
    (hp : m.objects[p]? = some pool₀) (hadm : Admits call p pool₀ pool) :
    KeepsExhausted m (.lock c) ↔ (call.phase = .entering p → HasExpired m p →
      call.settings.connectionLimit ≤ pool₀.limit + 1) := by
  rw [keepsExhausted_lock hc]
  constructor
  · exact fun h hphase => h p pool₀ hphase hp
  · intro h p' pool' hphase hp' hexp
    have hpp : some p = some p' := by
      rw [← hadm.pool?, hphase]
      rfl
    obtain rfl := Option.some.inj hpp
    rw [hp] at hp'
    obtain rfl := Option.some.inj hp'
    exact h hphase hexp

end

/-! ## How a step moves expired calls and exhausted pools -/

theorem exhausted_iff {m : OracleConnectionManager} {p : ℕ} {pool : OracleConnectionPool}
    (hp : m.objects[p]? = some pool) :
    Exhausted m p ↔ pool.idle = [] ∧ pool.total = pool.limit := by
  constructor
  · rintro ⟨pool', hp', hex⟩
    rw [hp] at hp'
    obtain rfl := Option.some.inj hp'
    exact hex
  · exact fun hex => ⟨pool, hp, hex⟩

theorem Exhausted.congr {m m' : OracleConnectionManager} {p : ℕ} (h : Exhausted m p)
    (hobj : m'.objects[p]? = m.objects[p]?) : Exhausted m' p := by
  obtain ⟨pool, hp, hrest⟩ := h
  exact ⟨pool, by rw [hobj, hp], hrest⟩

/-- If no call expires and the pools of the expired calls stay as they are, they
stay exhausted. -/
theorem ExpiredExhausted.of_unchanged {m m' : OracleConnectionManager}
    (hQ : ExpiredExhausted m)
    (h : ∀ p, HasExpired m' p → HasExpired m p ∧ m'.objects[p]? = m.objects[p]?) :
    ExpiredExhausted m' :=
  fun p hp => (hQ p (h p hp).1).congr (h p hp).2

/-- A step about the pool object `p` is decided there. -/
theorem ExpiredExhausted.iff_at {m m' : OracleConnectionManager} (hQ : ExpiredExhausted m)
    {p : ℕ} (hother : ∀ q, q ≠ p → HasExpired m' q →
      HasExpired m q ∧ m'.objects[q]? = m.objects[q]?) :
    ExpiredExhausted m' ↔ (HasExpired m' p → Exhausted m' p) := by
  constructor
  · exact fun hQ' => hQ' p
  · intro hp q hq
    by_cases hqp : q = p
    · subst hqp
      exact hp hq
    · obtain ⟨hold, hobj⟩ := hother q hqp hq
      exact (hQ q hold).congr hobj

/-- A step that leaves capacity in the pool object `p`. -/
theorem ExpiredExhausted.iff_of_not_exhausted {m m' : OracleConnectionManager}
    (hQ : ExpiredExhausted m) {p : ℕ} (hother : ∀ q, q ≠ p → HasExpired m' q →
      HasExpired m q ∧ m'.objects[q]? = m.objects[q]?)
    (hsame : HasExpired m' p ↔ HasExpired m p) (hfree : ¬ Exhausted m' p) :
    ExpiredExhausted m' ↔ ¬ HasExpired m p :=
  (hQ.iff_at hother).trans (imp_congr hsame (iff_of_false hfree id))

theorem hasExpired_concat_iff {calls : List AcquireCall} {call : AcquireCall} {p : ℕ}
    (hphase : call.phase ≠ .expired p) :
    (∃ call' ∈ calls ++ [call], call'.phase = .expired p) ↔
      ∃ call' ∈ calls, call'.phase = .expired p := by
  simp [hphase]

theorem HasExpired.of_set {calls : List AcquireCall} {c p : ℕ} {call : AcquireCall}
    {phase : AcquirePhase} (hphase : phase ≠ .expired p)
    (h : ∃ call' ∈ calls.set c { call with phase := phase }, call'.phase = .expired p) :
    ∃ call' ∈ calls, call'.phase = .expired p := by
  obtain ⟨call', hmem, hexp⟩ := h
  rcases List.mem_or_eq_of_mem_set hmem with hold | rfl
  · exact ⟨call', hold, hexp⟩
  · exact absurd hexp hphase

/-- A call that was not past its deadline, and is not now. -/
theorem hasExpired_set_iff {calls : List AcquireCall} {c p : ℕ} {call : AcquireCall}
    {phase : AcquirePhase} (hc : calls[c]? = some call) (hne : call.phase ≠ .expired p)
    (hphase : phase ≠ .expired p) :
    (∃ call' ∈ calls.set c { call with phase := phase }, call'.phase = .expired p) ↔
      ∃ call' ∈ calls, call'.phase = .expired p := by
  constructor
  · exact HasExpired.of_set hphase
  · rintro ⟨call', hmem, hexp⟩
    obtain ⟨i, hi⟩ := List.mem_iff_getElem?.mp hmem
    have hic : i ≠ c := by
      rintro rfl
      rw [hc] at hi
      exact hne (Option.some.inj hi ▸ hexp)
    exact ⟨call', List.mem_of_getElem? (by rw [getElem?_set_of_ne hic, hi]), hexp⟩

theorem Notify.hasExpired {p : ℕ} {calls calls' : List AcquireCall} (h : Notify p calls calls')
    (q : ℕ) :
    (∃ call ∈ calls', call.phase = .expired q) ↔ ∃ call ∈ calls, call.phase = .expired q := by
  cases h with
  | nobody _ => exact Iff.rfl
  | woke hw hphase => exact hasExpired_set_iff hw (by simp [hphase]) (by simp)

theorem HasExpired.object {m : OracleConnectionManager} (hk : Keyed m) {p : ℕ}
    (h : HasExpired m p) : ∃ pool, m.objects[p]? = some pool := by
  obtain ⟨call, hmem, hphase⟩ := h
  obtain ⟨pool, hp, -⟩ := hk.call call hmem p (by rw [hphase]; rfl)
  exact ⟨pool, hp⟩

/-- While a pool is exhausted, a call that gets its lock can reserve a slot only
by raising the limit. -/
theorem admits_of_exhausted {m : OracleConnectionManager} {p : ℕ} {call : AcquireCall}
    {pool₀ pool : OracleConnectionPool} (hp : m.objects[p]? = some pool₀)
    (hadm : Admits call p pool₀ pool) (hex : Exhausted m p) (hroom : pool.total < pool.limit) :
    call.phase = .entering p ∧ pool.limit = call.settings.connectionLimit ∧
      pool.total = pool₀.limit := by
  obtain ⟨-, htotal⟩ := (exhausted_iff hp).mp hex
  rcases hadm with ⟨hphase, rfl⟩ | ⟨-, rfl⟩
  · rw [raiseLimit_total, raiseLimit_limit] at hroom
    rw [raiseLimit_total, raiseLimit_limit]
    exact ⟨hphase, by omega, htotal⟩
  · omega

/-! ## The exact guard -/

section

variable {m : OracleConnectionManager} {c p : ℕ} {call : AcquireCall}
  {pool₀ pool pool' : OracleConnectionPool} {phase : AcquirePhase}

/-- The pool object `p` and the call `c` after a turn of the loop. -/
theorem ExpiredExhausted.loop_iff (hQ : ExpiredExhausted m) (hc : m.calls[c]? = some call)
    (hp : m.objects[p]? = some pool₀) (hadm : Admits call p pool₀ pool)
    (hphase : ∀ q, phase ≠ .expired q) {handles : List (Option OracleConnectionHandle)} :
    ExpiredExhausted
        { m with
          objects := m.objects.set p pool'
          handles := handles
          calls := m.calls.set c { call with phase := phase } } ↔
      (HasExpired m p → pool'.idle = [] ∧ pool'.total = pool'.limit) := by
  have hne : ∀ q, call.phase ≠ .expired q := by
    rcases hadm with ⟨hcall, -⟩ | ⟨hcall, -⟩ <;> simp [hcall]
  refine (hQ.iff_at (p := p) fun q hqp hq => ?_).trans ?_
  · exact ⟨HasExpired.of_set (hphase q) hq, getElem?_set_of_ne hqp _⟩
  · exact imp_congr (hasExpired_set_iff hc (hne p) (hphase p))
      (exhausted_iff (getElem?_set_of hp pool'))

/-- A call that takes an idle session: nobody has given up on its pool. -/
theorem keepsExhausted_take (hQ : ExpiredExhausted m) (hc : m.calls[c]? = some call)
    (hp : m.objects[p]? = some pool₀) (hadm : Admits call p pool₀ pool)
    (hidle : pool.idle ≠ []) : ¬ HasExpired m p ∧ KeepsExhausted m (.lock c) := by
  have hnone : ¬ HasExpired m p := fun hexp =>
    hidle (hadm.idle.trans ((exhausted_iff hp).mp (hQ p hexp)).1)
  exact ⟨hnone, (keepsExhausted_loop hc hp hadm).mpr fun _ hexp => absurd hexp hnone⟩

/-- A call that reserves a slot takes the only one there is exactly if it has raised the
limit by no more than one. -/
theorem reserve_iff (hQ : ExpiredExhausted m) (hc : m.calls[c]? = some call)
    (hp : m.objects[p]? = some pool₀) (hadm : Admits call p pool₀ pool) (hidle : pool.idle = [])
    (hroom : pool.total < pool.limit) :
    (HasExpired m p → pool.idle = [] ∧ pool.total + 1 = pool.limit) ↔
      KeepsExhausted m (.lock c) := by
  rw [keepsExhausted_loop hc hp hadm]
  constructor
  · intro hfull _ hexp
    obtain ⟨-, hlimit, htotal⟩ := admits_of_exhausted hp hadm (hQ p hexp) hroom
    obtain ⟨-, heq⟩ := hfull hexp
    omega
  · intro hG hexp
    obtain ⟨hphase, hlimit, htotal⟩ := admits_of_exhausted hp hadm (hQ p hexp) hroom
    have hle := hG hphase hexp
    exact ⟨hidle, by omega⟩

/-- A call that finds no room leaves an exhausted pool, and has not raised the limit above
what is counted. -/
theorem block_spec (ha : Accounted m) (hc : m.calls[c]? = some call)
    (hp : m.objects[p]? = some pool₀) (hadm : Admits call p pool₀ pool)
    (hfull : ¬ pool.total < pool.limit) :
    pool.total = pool.limit ∧ KeepsExhausted m (.lock c) := by
  obtain ⟨-, hbound⟩ := ha.counted p pool₀ hp
  have htotal := hadm.total
  have hlimit := hadm.limit_le
  refine ⟨by omega, (keepsExhausted_loop hc hp hadm).mpr fun hphase _ => ?_⟩
  rcases hadm with ⟨-, rfl⟩ | ⟨hnotified, -⟩
  · rw [raiseLimit_total, raiseLimit_limit] at hfull
    omega
  · rw [hnotified] at hphase
    exact absurd hphase (by simp)

end

/-- **One step.**  From a state in which the pools of the expired calls are
exhausted, a step whose timeout is justified leads to such a state exactly if it leaves
no capacity behind an expired call. -/
theorem expiredExhausted_step_iff {m m' : OracleConnectionManager} {e : Event}
    (ha : Accounted m) (hJ : JustifiedTimeout m e) (hQ : ExpiredExhausted m)
    (hstep : step m e = some m') : ExpiredExhausted m' ↔ KeepsExhausted m e := by
  cases transition_of_step hstep with
  | standalone _ | found _ _ =>
    refine iff_of_true (hQ.of_unchanged fun p hp => ⟨?_, rfl⟩) trivial
    exact (hasExpired_concat_iff (by simp)).mp hp
  | made _ _ =>
    refine iff_of_true (hQ.of_unchanged fun p hp => ?_) trivial
    have hold : HasExpired m p := (hasExpired_concat_iff (by simp)).mp hp
    obtain ⟨pool, hpool⟩ := hold.object ha.keyed
    exact ⟨hold, by rw [getElem?_concat_of hpool, hpool]⟩
  | @take c p call pool₀ pool ctx rest hc hp hadm hidle =>
    obtain ⟨hnone, hG⟩ := keepsExhausted_take hQ hc hp hadm (by simp [hidle])
    exact iff_of_true ((hQ.loop_iff hc hp hadm (by simp)).mpr fun hexp => absurd hexp hnone) hG
  | @reserve c p call pool₀ pool hc hp hadm hidle hroom =>
    exact (hQ.loop_iff hc hp hadm (by simp)).trans (reserve_iff hQ hc hp hadm hidle hroom)
  | @block c p call pool₀ pool hc hp hadm hidle hfull =>
    obtain ⟨htotal, hG⟩ := block_spec ha hc hp hadm hfull
    exact iff_of_true ((hQ.loop_iff hc hp hadm (by simp)).mpr fun _ => ⟨hidle, htotal⟩) hG
  | @timeout c p call hc hphase =>
    refine iff_of_true (hQ.of_unchanged fun q hq => ⟨HasExpired.of_set (by simp) hq, rfl⟩) ?_
    refine (keepsExhausted_lock hc).mpr fun q pool hentering => ?_
    rw [hphase] at hentering
    exact absurd hentering (by simp)
  | connected hc hphase | connectedAlone hc hphase =>
    exact iff_of_true
      (hQ.of_unchanged fun q hq => ⟨HasExpired.of_set (by simp) hq, rfl⟩) trivial
  | @threw c p woken call pool calls hc hphase hp hn =>
    -- the reservation was counted, so giving it back leaves a free slot
    have hres := le_tally (reservedShare p) hc
    rw [reservedShare, if_pos hphase] at hres
    obtain ⟨htotal, hbound⟩ := ha.counted p pool hp
    simp only [reserved] at htotal
    have hset : ∀ q, (∃ call' ∈ calls, call'.phase = .expired q) ↔ HasExpired m q := fun q =>
      (hn.hasExpired q).trans (hasExpired_set_iff hc (by simp [hphase]) (by simp))
    rw [keepsExhausted_connectFailed hc hphase]
    refine hQ.iff_of_not_exhausted (fun q hqp hq => ?_) (hset p) fun hfull => ?_
    · exact ⟨(hset q).mp hq, getElem?_set_of_ne hqp _⟩
    · have heq : pool.total - 1 = pool.limit := ((exhausted_iff (getElem?_set_of hp _)).mp hfull).2
      omega
  | @threwAlone c woken call hc hphase =>
    refine iff_of_true (hQ.of_unchanged fun q hq => ⟨HasExpired.of_set (by simp) hq, rfl⟩) ?_
    intro call' p' hc' hphase'
    rw [hc] at hc'
    obtain rfl := Option.some.inj hc'
    rw [hphase] at hphase'
    exact absurd hphase' (by simp)
  | @expired c p call hc hphase =>
    have hnew : HasExpired { m with calls := m.calls.set c { call with phase := .expired p } } p :=
      ⟨_, List.mem_of_getElem? (getElem?_set_of hc _), rfl⟩
    rw [keepsExhausted_expire hc hphase]
    refine (hQ.iff_at (p := p) fun q hqp hq => ?_).trans (forall_prop_of_true hnew)
    exact ⟨HasExpired.of_set (by simpa using Ne.symm hqp) hq, rfl⟩
  | @spurious c p call hc hphase =>
    exact iff_of_true
      (hQ.of_unchanged fun q hq => ⟨HasExpired.of_set (by simp) hq, rfl⟩) trivial
  | @late c p call hc hphase =>
    refine iff_of_true (hQ.of_unchanged fun q hq => ⟨HasExpired.of_set (by simp) hq, rfl⟩) ?_
    exact fun call' p' hc' hphase' => hJ p' ⟨call', hc', hphase'⟩
  | @released h p woken ctx pool calls hh hp hn =>
    rw [keepsExhausted_release hh]
    refine hQ.iff_of_not_exhausted (fun q hqp hq => ?_) (hn.hasExpired p) fun hfull => ?_
    · exact ⟨(hn.hasExpired q).mp hq, getElem?_set_of_ne hqp _⟩
    · have hidle : ctx :: pool.idle = [] := ((exhausted_iff (getElem?_set_of hp _)).mp hfull).1
      exact absurd hidle (by simp)
  | @releasedAlone h woken ctx hh =>
    refine iff_of_true (hQ.of_unchanged fun q hq => ⟨hq, rfl⟩) ?_
    intro ctx' p' hh'
    rw [hh] at hh'
    exact absurd hh' (by simp)
  | cleared => exact iff_of_true (hQ.of_unchanged fun q hq => ⟨hq, rfl⟩) trivial

theorem expiredExhausted_initial : ExpiredExhausted initial := by
  rintro p ⟨call, hmem, -⟩
  exact absurd hmem (by simp [initial])

/-- What throws in an admitted step throws on an exhausted pool. -/
theorem KeepsExhausted.justified {m : OracleConnectionManager} {e : Event}
    (hG : KeepsExhausted m e) (hQ : ExpiredExhausted m) : JustifiedTimeout m e := by
  intro p hthrows
  cases e with
  | lock c =>
    obtain ⟨call, hc, hphase⟩ := hthrows
    exact hQ p ⟨call, List.mem_of_getElem? hc, hphase⟩
  | late c =>
    obtain ⟨call, hc, hphase⟩ := hthrows
    exact hG call p hc hphase
  | _ => exact absurd hthrows id

/-- **Which runs are free of spurious timeouts.**  Every timeout that a run throws is
thrown on an exhausted pool, and in every state of the run the calls that are about to
throw find their pool exhausted, exactly if no step of the run leaves capacity behind
such a call and no woken call comes too late for capacity that is there. -/
theorem no_spurious_timeout_iff {es : List Event} {m : OracleConnectionManager}
    (h : run step initial es = some m) :
    (NoSpuriousTimeout es ∧ ∀ t, Reached step initial es t → ExpiredExhausted t) ↔
      Guarded step KeepsExhausted initial es := by
  constructor
  · rintro ⟨hjustified, hall⟩
    exact (guarded_iff_reached_of (fun _ _ _ ha _ hstep => Accounted.step ha hstep)
      (fun _ _ _ ha hJ hQ hstep => expiredExhausted_step_iff ha hJ hQ hstep)
      accounted_initial expiredExhausted_initial hjustified h).mp hall
  · intro hG
    have hall : ∀ t, Reached step initial es t → Accounted t ∧ ExpiredExhausted t := by
      intro t ht
      refine guarded_invariant_reached (I := fun u => Accounted u ∧ ExpiredExhausted u)
        (fun u e v hu he hstep => ?_)
        ⟨accounted_initial, expiredExhausted_initial⟩ hG ht
      exact ⟨hu.1.step hstep,
        (expiredExhausted_step_iff hu.1 (he.justified hu.2) hu.2 hstep).mpr he⟩
    refine ⟨fun pre e hpre t ht => ?_, fun t ht => (hall t ht).2⟩
    exact (hG pre e hpre t ht).justified
      (hall t ⟨pre, (List.prefix_append _ _).trans hpre, ht⟩).2

/-- Open `n` sessions, each by a call of its own. -/
def openSessions (cs : String) (settings : OracleSettings) (n : ℕ) : List Event :=
  (List.range n).flatMap fun i => [.acquire cs settings, .lock i, .connected i]

/-- Eight sessions are out, a ninth call waits and gives up. -/
def giveUp : List Event :=
  openSessions "scott/tiger@db" {} 8 ++ [.acquire "scott/tiger@db" {}, .lock 8, .expire 8]

/-- The timeout of `giveUp` is justified. -/
theorem no_spurious_timeout_giveUp :
    (NoSpuriousTimeout (giveUp ++ [.lock 8]) ∧
        ∀ t, Reached step initial (giveUp ++ [.lock 8]) t → ExpiredExhausted t) ↔
      Guarded step KeepsExhausted initial (giveUp ++ [.lock 8]) :=
  @no_spurious_timeout_iff (giveUp ++ [.lock 8]) _ rfl

/-- A timeout that is thrown while there is an idle session. -/
theorem not_noSpuriousTimeout {es : List Event} {e : Event} {m : OracleConnectionManager} {p : ℕ}
    {ctx : OracleContext} (hm : run step initial es = some m) (hthrows : ThrowsTimeout m p e)
    (hidle : (m.objects[p]?).map (·.idle) = some [ctx]) : ¬ NoSpuriousTimeout (es ++ [e]) := by
  intro hno
  obtain ⟨pool, hp, hempty, -⟩ := hno es e (List.prefix_refl _) m hm p hthrows
  rw [hp, Option.map_some, hempty] at hidle
  exact absurd hidle (by simp)

/-- A handle is released between the deadline of the ninth call and its getting
the lock back. -/
def lateRelease : List Event := giveUp ++ [.release 0 none]

/-- **A spurious timeout.**  The ninth call throws although the pool has an idle
session. -/
theorem lateRelease_spurious :
    (run step initial (lateRelease ++ [.lock 8])).isSome ∧
      ¬ NoSpuriousTimeout (lateRelease ++ [.lock 8]) :=
  ⟨rfl, @not_noSpuriousTimeout lateRelease (.lock 8) _ 0 ⟨0, "scott/tiger@db"⟩ rfl
    ⟨⟨"scott/tiger@db", {}, .expired 0⟩, rfl, rfl⟩ rfl⟩

/-- The ninth call is woken by the release, and gets the lock after its deadline. -/
def lateWakeup : List Event :=
  openSessions "scott/tiger@db" {} 8 ++
    [.acquire "scott/tiger@db" {}, .lock 8, .release 0 (some 8)]

-- So is the timeout of a woken call that comes too late: the session it was woken for is there.
example :
    (run step initial (lateWakeup ++ [.late 8])).isSome ∧
      ¬ NoSpuriousTimeout (lateWakeup ++ [.late 8]) :=
  ⟨rfl, @not_noSpuriousTimeout lateWakeup (.late 8) _ 0 ⟨0, "scott/tiger@db"⟩ rfl
    ⟨⟨"scott/tiger@db", {}, .notified 0⟩, rfl, rfl⟩ rfl⟩

end Connection
end DuckdbOracle
