import DuckdbOracle.Connection.Manager

/-!
# Pool accounting

`OracleConnectionPool::total` is changed on four paths and read on one, and the
pool never records which sessions it counts.  This file finds the quantity: in
every reachable state the counter of every pool object, mapped or dropped, is

    idle sessions + sessions in live handles of the pool + reservations in progress

and it never passes the limit.  The two remaining clauses are about the sessions
themselves: a session is in one place at most, and every session of a pool was
opened with the connection string the pool was created for.

## The invariant

`Keyed` says that references are in range and agree on connection strings.  It
is what makes a new pool object start with nothing counted.  `Counted` is the
equation and the bound; `Placed` says that the sessions opened so far are in one
place at most, and later ones in none.
-/

namespace DuckdbOracle
namespace Connection

open Catalog StepRuns Tally

/-! ## What is counted -/

/-- A handle counts for the pool its session goes back to. -/
def heldShare (p : ℕ) : Option OracleConnectionHandle → ℕ
  | some handle => if handle.pool = some p then 1 else 0
  | none => 0

/-- A call counts for the pool in which it has reserved a slot. -/
def reservedShare (p : ℕ) (call : AcquireCall) : ℕ :=
  if call.phase = .connecting p then 1 else 0

/-- The sessions held by live handles of the pool object `p`. -/
def held (m : OracleConnectionManager) (p : ℕ) : ℕ := tally (heldShare p) m.handles

/-- The reservations of the pool object `p` whose `CreateConnection` is running. -/
def reserved (m : OracleConnectionManager) (p : ℕ) : ℕ := tally (reservedShare p) m.calls

/-- How often a session stands in the idle list of a pool object. -/
def idleShare (id : ℕ) (pool : OracleConnectionPool) : ℕ :=
  pool.idle.countP fun ctx => ctx.id = id

/-- A handle counts for the session it holds. -/
def holderShare (id : ℕ) : Option OracleConnectionHandle → ℕ
  | some handle => if handle.ctx.id = id then 1 else 0
  | none => 0

/-- The idle slots, over all pool objects, in which a session stands. -/
def idleSlots (m : OracleConnectionManager) (id : ℕ) : ℕ := tally (idleShare id) m.objects

/-- The live handles that hold a session. -/
def holders (m : OracleConnectionManager) (id : ℕ) : ℕ := tally (holderShare id) m.handles

/-- The pool object a call still works on. -/
def AcquirePhase.pool? : AcquirePhase → Option ℕ
  | .entering p | .connecting p | .waiting p | .notified p | .expired p => some p
  | _ => none

/-! ## References and connection strings -/

/-- The pool object `p` exists and was created for `cs`. -/
def HasKey (m : OracleConnectionManager) (p : ℕ) (cs : String) : Prop :=
  ∃ pool, m.objects[p]? = some pool ∧ pool.key = cs

/-- References are in range and agree on connection strings. -/
structure Keyed (m : OracleConnectionManager) : Prop where
  mapped : ∀ cs p, m.pools cs = some p → HasKey m p cs
  idle : ∀ (p : ℕ) pool, m.objects[p]? = some pool →
    ∀ ctx ∈ pool.idle, ctx.connectionString = pool.key
  handle : ∀ handle, some handle ∈ m.handles →
    ∀ p, handle.pool = some p → HasKey m p handle.ctx.connectionString
  call : ∀ call ∈ m.calls, ∀ p, call.phase.pool? = some p → HasKey m p call.connectionString

theorem HasKey.set {m m' : OracleConnectionManager} {p q : ℕ} {cs : String}
    {pool pool' : OracleConnectionPool} (hp : m.objects[p]? = some pool)
    (hkey : pool'.key = pool.key) (hobj : m'.objects = m.objects.set p pool')
    (h : HasKey m q cs) : HasKey m' q cs := by
  obtain ⟨pool₁, hq, rfl⟩ := h
  by_cases hqp : q = p
  · subst hqp
    rw [hp] at hq
    obtain rfl := Option.some.inj hq
    exact ⟨pool', by rw [hobj]; exact getElem?_set_of hp pool', hkey⟩
  · exact ⟨pool₁, by rw [hobj, getElem?_set_of_ne hqp, hq], rfl⟩

theorem HasKey.concat {m m' : OracleConnectionManager} {q : ℕ} {cs : String}
    {pool : OracleConnectionPool} (hobj : m'.objects = m.objects ++ [pool])
    (h : HasKey m q cs) : HasKey m' q cs := by
  obtain ⟨pool₁, hq, hkey⟩ := h
  exact ⟨pool₁, by rw [hobj]; exact getElem?_concat_of hq pool, hkey⟩

theorem HasKey.unique {m : OracleConnectionManager} {p : ℕ} {cs cs' : String}
    (h : HasKey m p cs) (h' : HasKey m p cs') : cs = cs' := by
  obtain ⟨pool, hp, rfl⟩ := h
  obtain ⟨pool', hp', rfl⟩ := h'
  rw [hp] at hp'
  rw [Option.some.inj hp']

theorem Admits.key {call : AcquireCall} {p : ℕ} {pool₀ pool : OracleConnectionPool}
    (h : Admits call p pool₀ pool) : pool.key = pool₀.key := by
  rcases h with ⟨-, rfl⟩ | ⟨-, rfl⟩ <;> simp

theorem Admits.idle {call : AcquireCall} {p : ℕ} {pool₀ pool : OracleConnectionPool}
    (h : Admits call p pool₀ pool) : pool.idle = pool₀.idle := by
  rcases h with ⟨-, rfl⟩ | ⟨-, rfl⟩ <;> simp

theorem Admits.total {call : AcquireCall} {p : ℕ} {pool₀ pool : OracleConnectionPool}
    (h : Admits call p pool₀ pool) : pool.total = pool₀.total := by
  rcases h with ⟨-, rfl⟩ | ⟨-, rfl⟩ <;> simp

theorem Admits.limit_le {call : AcquireCall} {p : ℕ} {pool₀ pool : OracleConnectionPool}
    (h : Admits call p pool₀ pool) : pool₀.limit ≤ pool.limit := by
  rcases h with ⟨-, rfl⟩ | ⟨-, rfl⟩
  · rw [raiseLimit_limit]
    exact le_max_left _ _
  · exact le_rfl

theorem Admits.pool? {call : AcquireCall} {p : ℕ} {pool₀ pool : OracleConnectionPool}
    (h : Admits call p pool₀ pool) : call.phase.pool? = some p := by
  rcases h with ⟨h, -⟩ | ⟨h, -⟩ <;> rw [h] <;> rfl

/-- The call determines the pool object it works on. -/
theorem Admits.unique {m : OracleConnectionManager} {c p q : ℕ} {call call' : AcquireCall}
    {pool₀ pool pool₁ pool' : OracleConnectionPool} (h : Admits call p pool₀ pool)
    (hc : m.calls[c]? = some call) (hc' : m.calls[c]? = some call')
    (hp : m.objects[p]? = some pool₀) (hq : m.objects[q]? = some pool₁)
    (h' : Admits call' q pool₁ pool') : p = q ∧ pool = pool' := by
  rw [hc] at hc'
  obtain rfl := Option.some.inj hc'
  have hpq := h.pool?.symm.trans h'.pool?
  obtain rfl := Option.some.inj hpq
  rw [hp] at hq
  obtain rfl := Option.some.inj hq
  refine ⟨rfl, ?_⟩
  rcases h with ⟨hin, rfl⟩ | ⟨hin, rfl⟩ <;> rcases h' with ⟨hin', rfl⟩ | ⟨hin', rfl⟩
  · rfl
  · rw [hin] at hin'
    exact nomatch hin'
  · rw [hin] at hin'
    exact nomatch hin'
  · rfl

theorem Admits.reservedShare {call : AcquireCall} {p : ℕ} {pool₀ pool : OracleConnectionPool}
    (h : Admits call p pool₀ pool) (q : ℕ) : reservedShare q call = 0 := by
  rcases h with ⟨h, -⟩ | ⟨h, -⟩ <;> simp [Connection.reservedShare, h]

/-- `notify_one` changes no call but the one it wakes, and that one only from
waiting to notified. -/
theorem Notify.mem {p : ℕ} {calls calls' : List AcquireCall} (h : Notify p calls calls')
    {call : AcquireCall} (hmem : call ∈ calls') :
    ∃ call₀ ∈ calls, call.connectionString = call₀.connectionString ∧
      call.settings = call₀.settings ∧
      (call.phase = call₀.phase ∨ (call₀.phase = .waiting p ∧ call.phase = .notified p)) := by
  cases h with
  | nobody _ => exact ⟨call, hmem, rfl, rfl, Or.inl rfl⟩
  | @woke w call₁ hw hphase =>
    rcases List.mem_or_eq_of_mem_set hmem with hold | rfl
    · exact ⟨call, hold, rfl, rfl, Or.inl rfl⟩
    · exact ⟨call₁, List.mem_of_getElem? hw, rfl, rfl, Or.inr ⟨hphase, rfl⟩⟩

theorem Notify.pool? {p : ℕ} {calls calls' : List AcquireCall} (h : Notify p calls calls')
    {call : AcquireCall} (hmem : call ∈ calls') :
    ∃ call₀ ∈ calls, call.connectionString = call₀.connectionString ∧
      call.phase.pool? = call₀.phase.pool? := by
  obtain ⟨call₀, hmem₀, hcs, -, hphase | ⟨hw, hn⟩⟩ := h.mem hmem
  · exact ⟨call₀, hmem₀, hcs, by rw [hphase]⟩
  · exact ⟨call₀, hmem₀, hcs, by rw [hw, hn]; rfl⟩

theorem Notify.reserved {p : ℕ} {calls calls' : List AcquireCall} (h : Notify p calls calls')
    (q : ℕ) : tally (reservedShare q) calls' = tally (reservedShare q) calls := by
  cases h with
  | nobody _ => rfl
  | woke hw hphase => exact tally_set_eq _ hw (by simp [reservedShare, hphase])

/-- A pool object keeps its number and its key, and its limit never falls. -/
theorem Transition.object {m m' : OracleConnectionManager} {e : Event} (h : Transition m e m')
    {q : ℕ} {pool : OracleConnectionPool} (hq : m.objects[q]? = some pool) :
    ∃ pool', m'.objects[q]? = some pool' ∧ pool'.key = pool.key ∧ pool.limit ≤ pool'.limit := by
  -- an update of one object by one with the same key and no smaller limit
  have hset : ∀ {p : ℕ} {pool₀ pool₁ : OracleConnectionPool}, m.objects[p]? = some pool₀ →
      pool₁.key = pool₀.key → pool₀.limit ≤ pool₁.limit →
      ∃ pool', (m.objects.set p pool₁)[q]? = some pool' ∧ pool'.key = pool.key ∧
        pool.limit ≤ pool'.limit := by
    intro p pool₀ pool₁ hp hkey hlimit
    by_cases hqp : q = p
    · subst hqp
      rw [hp] at hq
      obtain rfl := Option.some.inj hq
      exact ⟨pool₁, getElem?_set_of hp pool₁, hkey, hlimit⟩
    · exact ⟨pool, by rw [getElem?_set_of_ne hqp, hq], rfl, le_rfl⟩
  cases h with
  | made _ _ => exact ⟨pool, getElem?_concat_of hq _, rfl, le_rfl⟩
  | take _ hp hadm _ => exact hset hp hadm.key hadm.limit_le
  | reserve _ hp hadm _ _ => exact hset hp hadm.key hadm.limit_le
  | block _ hp hadm _ _ => exact hset hp hadm.key hadm.limit_le
  | threw _ _ hp _ => exact hset hp rfl le_rfl
  | released _ hp _ => exact hset hp rfl le_rfl
  | _ => exact ⟨pool, hq, rfl, le_rfl⟩

theorem HasKey.of_transition {m m' : OracleConnectionManager} {e : Event}
    (h : Transition m e m') {q : ℕ} {cs : String} (hkey : HasKey m q cs) : HasKey m' q cs := by
  obtain ⟨pool, hq, rfl⟩ := hkey
  obtain ⟨pool', hq', hkey, -⟩ := h.object hq
  exact ⟨pool', hq', hkey⟩

theorem keyed_initial : Keyed initial where
  mapped _ _ h := absurd h (by simp [initial])
  idle _ _ h := absurd h (by simp [initial])
  handle _ h := absurd h (by simp [initial])
  call _ h := absurd h (by simp [initial])

/-- After one object is updated, its idle sessions still carry its key. -/
theorem Keyed.idle_set {m : OracleConnectionManager} (hk : Keyed m) {p : ℕ}
    {pool' : OracleConnectionPool} (hidle : ∀ ctx ∈ pool'.idle, ctx.connectionString = pool'.key) :
    ∀ (q : ℕ) pool, (m.objects.set p pool')[q]? = some pool →
      ∀ ctx ∈ pool.idle, ctx.connectionString = pool.key := by
  intro q pool hq
  rcases of_getElem?_set hq with ⟨-, rfl⟩ | ⟨-, hold⟩
  · exact hidle
  · exact hk.idle q pool hold

/-- After one call moves to a phase that works on the same pool object, or on none. -/
theorem Keyed.call_set {m : OracleConnectionManager} (hk : Keyed m) {c : ℕ} {call : AcquireCall}
    {phase : AcquirePhase} (hc : m.calls[c]? = some call)
    (hphase : ∀ p, phase.pool? = some p → call.phase.pool? = some p) :
    ∀ call' ∈ m.calls.set c { call with phase := phase }, ∀ p, call'.phase.pool? = some p →
      HasKey m p call'.connectionString := by
  intro call' hmem p hp
  rcases List.mem_or_eq_of_mem_set hmem with hold | rfl
  · exact hk.call call' hold p hp
  · exact hk.call call (List.mem_of_getElem? hc) p (hphase p hp)

theorem Keyed.mapped_step {m m' : OracleConnectionManager} {e : Event} (hk : Keyed m)
    (h : Transition m e m') {cs : String} {p : ℕ} (hp : m'.pools cs = some p) :
    HasKey m' p cs := by
  have hmono : ∀ {q : ℕ} {cs : String}, HasKey m q cs → HasKey m' q cs :=
    fun hq => hq.of_transition h
  cases h with
  | @made cs' settings _ _ =>
    dsimp only at hp
    by_cases hcs : cs = cs'
    · subst hcs
      rw [Function.update_self] at hp
      obtain rfl := Option.some.inj hp
      exact ⟨{ key := cs }, by simp, rfl⟩
    · rw [Function.update_of_ne hcs] at hp
      exact hmono (hk.mapped cs p hp)
  | cleared => exact absurd hp (by simp)
  | _ => exact hmono (hk.mapped cs p hp)

theorem Keyed.idle_step {m m' : OracleConnectionManager} {e : Event} (hk : Keyed m)
    (h : Transition m e m') :
    ∀ (p : ℕ) pool, m'.objects[p]? = some pool →
      ∀ ctx ∈ pool.idle, ctx.connectionString = pool.key := by
  cases h with
  | made _ _ =>
    intro p pool hp
    rcases of_getElem?_concat hp with hold | ⟨-, rfl⟩
    · exact hk.idle p pool hold
    · simp
  | @take c q call pool₀ pool ctx rest hc hq hadm hidle =>
    refine hk.idle_set fun ctx' hctx' => ?_
    have hold : ctx' ∈ pool₀.idle := by
      rw [← hadm.idle, hidle]
      exact List.mem_cons_of_mem ctx hctx'
    exact (hk.idle q pool₀ hq ctx' hold).trans hadm.key.symm
  | reserve _ _ _ hidle _ => exact hk.idle_set (by simp [hidle])
  | block _ _ _ hidle _ => exact hk.idle_set (by simp [hidle])
  | @threw _ q _ _ pool _ _ _ hq _ => exact hk.idle_set (hk.idle q pool hq)
  | @released h q woken ctx pool calls hh hq hn =>
    refine hk.idle_set fun ctx' hctx' => ?_
    rcases List.mem_cons.mp hctx' with rfl | hold
    · have hkey : HasKey m q pool.key := ⟨pool, hq, rfl⟩
      exact (hk.handle _ (List.mem_of_getElem? hh) q rfl).unique hkey
    · exact hk.idle q pool hq ctx' hold
  | _ => exact hk.idle

theorem Keyed.handle_step {m m' : OracleConnectionManager} {e : Event} (hk : Keyed m)
    (h : Transition m e m') {handle : OracleConnectionHandle} (hmem : some handle ∈ m'.handles)
    {p : ℕ} (hp : handle.pool = some p) : HasKey m' p handle.ctx.connectionString := by
  have hmono : ∀ {q : ℕ} {cs : String}, HasKey m q cs → HasKey m' q cs :=
    fun hq => hq.of_transition h
  cases h with
  | @take c q call pool₀ pool ctx rest hc hq hadm hidle =>
    rcases List.mem_append.mp hmem with hold | hnew
    · exact hmono (hk.handle handle hold p hp)
    · obtain rfl := Option.some.inj (List.mem_singleton.mp hnew)
      obtain rfl := Option.some.inj hp
      have hctx : ctx ∈ pool₀.idle := by
        rw [← hadm.idle, hidle]
        exact List.mem_cons_self
      exact hmono ⟨pool₀, hq, (hk.idle q pool₀ hq ctx hctx).symm⟩
  | @connected c q call hc hphase =>
    rcases List.mem_append.mp hmem with hold | hnew
    · exact hmono (hk.handle handle hold p hp)
    · obtain rfl := Option.some.inj (List.mem_singleton.mp hnew)
      obtain rfl := Option.some.inj hp
      exact hmono (hk.call call (List.mem_of_getElem? hc) q (by rw [hphase]; rfl))
  | connectedAlone _ _ =>
    rcases List.mem_append.mp hmem with hold | hnew
    · exact hmono (hk.handle handle hold p hp)
    · obtain rfl := Option.some.inj (List.mem_singleton.mp hnew)
      exact absurd hp (by simp)
  | released _ _ _ | releasedAlone _ =>
    rcases List.mem_or_eq_of_mem_set hmem with hold | hnone
    · exact hmono (hk.handle handle hold p hp)
    · exact absurd hnone (by simp)
  | _ => exact hmono (hk.handle handle hmem p hp)

theorem Keyed.call_step {m m' : OracleConnectionManager} {e : Event} (hk : Keyed m)
    (h : Transition m e m') {call : AcquireCall} (hmem : call ∈ m'.calls) {p : ℕ}
    (hp : call.phase.pool? = some p) : HasKey m' p call.connectionString := by
  have hmono : ∀ {q : ℕ} {cs : String}, HasKey m q cs → HasKey m' q cs :=
    fun hq => hq.of_transition h
  cases h with
  | standalone _ =>
    rcases List.mem_append.mp hmem with hold | hnew
    · exact hmono (hk.call call hold p hp)
    · obtain rfl := List.mem_singleton.mp hnew
      exact absurd hp (by simp [AcquirePhase.pool?])
  | @found cs settings q _ hq =>
    rcases List.mem_append.mp hmem with hold | hnew
    · exact hmono (hk.call call hold p hp)
    · obtain rfl := List.mem_singleton.mp hnew
      obtain rfl : q = p := by simpa [AcquirePhase.pool?] using hp
      exact hmono (hk.mapped cs q hq)
  | @made cs settings _ _ =>
    rcases List.mem_append.mp hmem with hold | hnew
    · exact hmono (hk.call call hold p hp)
    · obtain rfl := List.mem_singleton.mp hnew
      obtain rfl : m.objects.length = p := by simpa [AcquirePhase.pool?] using hp
      exact ⟨{ key := cs }, by simp, rfl⟩
  | take hc _ _ _ | timeout hc _ | connected hc _ | connectedAlone hc _ | threwAlone hc _
  | late hc _ => exact hmono (hk.call_set hc (by simp [AcquirePhase.pool?]) call hmem p hp)
  | reserve hc _ hadm _ _ | block hc _ hadm _ _ =>
    refine hmono (hk.call_set hc (fun q hq => ?_) call hmem p hp)
    rw [hadm.pool?]
    exact hq
  | threw hc _ _ hn =>
    obtain ⟨call₀, hmem₀, hcs, hpool⟩ := hn.pool? hmem
    rw [hcs]
    rw [hpool] at hp
    exact hmono (hk.call_set hc (by simp [AcquirePhase.pool?]) call₀ hmem₀ p hp)
  | expired hc hphase | spurious hc hphase =>
    refine hmono (hk.call_set hc (fun q hq => ?_) call hmem p hp)
    rw [hphase]
    exact hq
  | released _ _ hn =>
    obtain ⟨call₀, hmem₀, hcs, hpool⟩ := hn.pool? hmem
    rw [hcs]
    rw [hpool] at hp
    exact hmono (hk.call call₀ hmem₀ p hp)
  | _ => exact hmono (hk.call call hmem p hp)

/-- **Steps keep references in range.** -/
theorem Keyed.step {m m' : OracleConnectionManager} {e : Event} (hk : Keyed m)
    (h : Transition m e m') : Keyed m' where
  mapped _ _ hp := hk.mapped_step h hp
  idle := hk.idle_step h
  handle _ hmem _ hp := hk.handle_step h hmem hp
  call _ hmem _ hp := hk.call_step h hmem hp

/-! ## The counter -/

/-- The counter of a pool object counts its idle sessions, its held sessions and
its reservations, and stays within the limit. -/
def Counted (m : OracleConnectionManager) : Prop :=
  ∀ (p : ℕ) pool, m.objects[p]? = some pool →
    pool.total = pool.idle.length + held m p + reserved m p ∧ pool.total ≤ pool.limit

theorem held_eq_zero {m : OracleConnectionManager} (hk : Keyed m) {p : ℕ}
    (hp : m.objects[p]? = none) : held m p = 0 := by
  refine tally_eq_zero fun handle? hmem => ?_
  cases handle? with
  | none => rfl
  | some handle =>
    rw [heldShare, if_neg]
    intro hpool
    obtain ⟨pool, hsome, -⟩ := hk.handle handle hmem p hpool
    rw [hp] at hsome
    exact absurd hsome (by simp)

theorem reserved_eq_zero {m : OracleConnectionManager} (hk : Keyed m) {p : ℕ}
    (hp : m.objects[p]? = none) : reserved m p = 0 := by
  refine tally_eq_zero fun call hmem => ?_
  rw [reservedShare, if_neg]
  intro hphase
  obtain ⟨pool, hsome, -⟩ := hk.call call hmem p (by rw [hphase]; rfl)
  rw [hp] at hsome
  exact absurd hsome (by simp)

theorem counted_initial : Counted initial := fun _ _ h => absurd h (by simp [initial])

/-- A pool object is unchanged and so is what it counts. -/
theorem Counted.of_eq {m m' : OracleConnectionManager} (hc : Counted m) {q : ℕ}
    {pool : OracleConnectionPool} (hq : m.objects[q]? = some pool)
    (hheld : held m' q = held m q) (hres : reserved m' q = reserved m q) :
    pool.total = pool.idle.length + held m' q + reserved m' q ∧ pool.total ≤ pool.limit := by
  rw [hheld, hres]
  exact hc q pool hq

/-- One pool object is written, and what the others count stays. -/
theorem Counted.set {m m' : OracleConnectionManager} (hc : Counted m) {p : ℕ}
    {pool : OracleConnectionPool} (hobj : m'.objects = m.objects.set p pool)
    (hheld : ∀ q, q ≠ p → held m' q = held m q)
    (hres : ∀ q, q ≠ p → reserved m' q = reserved m q)
    (htotal : pool.total = pool.idle.length + held m' p + reserved m' p)
    (hlimit : pool.total ≤ pool.limit) : Counted m' := by
  intro q pool' hq'
  rw [hobj] at hq'
  rcases of_getElem?_set hq' with ⟨rfl, rfl⟩ | ⟨hne, hold⟩
  · exact ⟨htotal, hlimit⟩
  · exact hc.of_eq hold (hheld q hne) (hres q hne)

/-- A call under the lock has no reservation yet; its next phase may be one. -/
theorem Admits.reserved_set {m : OracleConnectionManager} {c p : ℕ} {call : AcquireCall}
    {pool₀ pool : OracleConnectionPool} (hadm : Admits call p pool₀ pool)
    (hc : m.calls[c]? = some call) (phase : AcquirePhase) (q : ℕ) :
    tally (Connection.reservedShare q) (m.calls.set c { call with phase := phase }) =
      reserved m q + if phase = .connecting q then 1 else 0 := by
  have hset := tally_set (Connection.reservedShare q) hc { call with phase := phase }
  rw [hadm.reservedShare q, Nat.add_zero] at hset
  exact hset

/-- A call whose connect ends gives up its one reservation. -/
theorem reserved_set_of_connecting {m : OracleConnectionManager} {c p : ℕ} {call : AcquireCall}
    (hc : m.calls[c]? = some call) (hphase : call.phase = .connecting p) (phase : AcquirePhase)
    (hnone : ∀ q, phase ≠ .connecting q) (q : ℕ) :
    tally (reservedShare q) (m.calls.set c { call with phase := phase }) +
      (if p = q then 1 else 0) = reserved m q := by
  have hset := tally_set (reservedShare q) hc { call with phase := phase }
  simp only [reservedShare, hphase, AcquirePhase.connecting.injEq, if_neg (hnone q),
    Nat.add_zero] at hset
  exact hset

theorem held_concat (m : OracleConnectionManager) (p : Option ℕ) (ctx : OracleContext) (q : ℕ) :
    tally (heldShare q) (m.handles ++ [some ⟨p, ctx⟩]) =
      held m q + if p = some q then 1 else 0 := by
  rw [tally_append, tally_cons, tally_nil, Nat.add_zero]
  rfl

theorem held_set_none {m : OracleConnectionManager} {h : ℕ} {p : Option ℕ} {ctx : OracleContext}
    (hh : m.handles[h]? = some (some ⟨p, ctx⟩)) (q : ℕ) :
    tally (heldShare q) (m.handles.set h none) + (if p = some q then 1 else 0) = held m q :=
  tally_set (heldShare q) hh none

/-- A call looks its pool up, and a new pool object counts nothing. -/
theorem Counted.acquire_step {m m' : OracleConnectionManager} {cs : String}
    {settings : OracleSettings} (hk : Keyed m) (hc : Counted m)
    (h : Transition m (.acquire cs settings) m') : Counted m' := by
  intro q pool' hq'
  cases h with
  | standalone _ | found _ _ =>
    exact hc.of_eq hq' rfl (by simp [reserved, reservedShare])
  | made _ _ =>
    have hres : tally (reservedShare q)
        (m.calls ++ [⟨cs, settings, .entering m.objects.length⟩]) = reserved m q := by
      simp [reserved, reservedShare]
    rcases of_getElem?_concat hq' with hold | ⟨rfl, rfl⟩
    · exact hc.of_eq hold rfl hres
    · have hnone : m.objects[m.objects.length]? = none := by simp
      have hheld := held_eq_zero hk hnone
      have hres0 := reserved_eq_zero hk hnone
      rw [← hres] at hres0
      simp only [held, reserved] at hheld ⊢
      rw [hheld, hres0]
      simp

/-- Under the lock: an idle session becomes a held one, a free slot becomes a
reservation, or the call waits. -/
theorem Counted.lock_step {m m' : OracleConnectionManager} {c : ℕ} (hc : Counted m)
    (h : Transition m (.lock c) m') : Counted m' := by
  cases h with
  | @take _ p call pool₀ pool ctx rest hcall hp hadm hidle =>
    obtain ⟨htotal, hlimit⟩ := hc p pool₀ hp
    have htot := hadm.total
    have hlim := hadm.limit_le
    have hlen : pool₀.idle.length = rest.length + 1 := by
      rw [← hadm.idle, hidle, List.length_cons]
    have hheld := held_concat m (some p) ctx
    have hres := hadm.reserved_set hcall (.returned m.handles.length)
    simp only [reduceCtorEq, if_false, Option.some.injEq] at hheld hres
    refine hc.set rfl (fun q hne => ?_) (fun q _ => hres q) ?_ (by simp only; omega)
    · rw [held, hheld, if_neg hne.symm, Nat.add_zero]
    · rw [held, reserved, hheld, hres, if_pos rfl]
      simp only
      omega
  | @reserve _ p call pool₀ pool hcall hp hadm hidle hlt =>
    obtain ⟨htotal, -⟩ := hc p pool₀ hp
    have htot := hadm.total
    have hlen : pool₀.idle.length = pool.idle.length := by rw [hadm.idle]
    have hres := hadm.reserved_set hcall (.connecting p)
    simp only [AcquirePhase.connecting.injEq] at hres
    refine hc.set rfl (fun _ _ => rfl) (fun q hne => ?_) ?_ hlt
    · rw [reserved, hres, if_neg hne.symm, Nat.add_zero]
    · rw [reserved, hres, if_pos rfl]
      simp only [held] at htotal ⊢
      omega
  | @block _ p call pool₀ pool hcall hp hadm hidle hge =>
    obtain ⟨htotal, hlimit⟩ := hc p pool₀ hp
    have htot := hadm.total
    have hlim := hadm.limit_le
    have hlen : pool₀.idle.length = pool.idle.length := by rw [hadm.idle]
    have hres := hadm.reserved_set hcall (.waiting p)
    simp only [reduceCtorEq, if_false] at hres
    refine hc.set rfl (fun _ _ => rfl) (fun q _ => hres q) ?_ (by omega)
    rw [reserved, hres]
    simp only [held] at htotal ⊢
    omega
  | timeout hcall hphase =>
    intro q pool' hq'
    exact hc.of_eq hq' rfl (tally_set_eq _ hcall (by simp [reservedShare, hphase]))

/-- A connect that succeeds turns its reservation into a held session. -/
theorem Counted.connected_step {m m' : OracleConnectionManager} {c : ℕ} (hc : Counted m)
    (h : Transition m (.connected c) m') : Counted m' := by
  intro q pool' hq'
  cases h with
  | @connected _ p call hcall hphase =>
    have hres := reserved_set_of_connecting hcall hphase (.returned m.handles.length)
      (by simp) q
    have hheld := held_concat m (some p) ⟨m.created, call.connectionString⟩ q
    simp only [Option.some.injEq] at hheld
    obtain ⟨htotal, hlimit⟩ := hc q pool' hq'
    refine ⟨?_, hlimit⟩
    rw [held, hheld]
    simp only [reserved] at htotal hres ⊢
    omega
  | connectedAlone hcall hphase =>
    refine hc.of_eq hq' ?_ (tally_set_eq _ hcall (by simp [reservedShare, hphase]))
    simp [held, heldShare]

/-- A connect that throws takes its reservation back. -/
theorem Counted.connectFailed_step {m m' : OracleConnectionManager} {c : ℕ} {woken : Option ℕ}
    (hc : Counted m) (h : Transition m (.connectFailed c woken) m') : Counted m' := by
  cases h with
  | @threw _ p _ call pool calls hcall hphase hp hn =>
    obtain ⟨htotal, hlimit⟩ := hc p pool hp
    have hres := reserved_set_of_connecting hcall hphase .connectThrew (by simp)
    simp only [← hn.reserved] at hres
    have hsame := hres p
    rw [if_pos rfl] at hsame
    refine hc.set rfl (fun _ _ => rfl) (fun q hne => ?_) ?_ (by simp only; omega)
    · have hq := hres q
      rwa [if_neg hne.symm, Nat.add_zero] at hq
    · simp only [held, reserved] at htotal hsame ⊢
      omega
  | threwAlone hcall hphase =>
    intro q pool' hq'
    exact hc.of_eq hq' rfl (tally_set_eq _ hcall (by simp [reservedShare, hphase]))

/-- A destroyed handle gives its session back to the idle list. -/
theorem Counted.release_step {m m' : OracleConnectionManager} {h₀ : ℕ} {woken : Option ℕ}
    (hc : Counted m) (h : Transition m (.release h₀ woken) m') : Counted m' := by
  cases h with
  | @released _ p _ ctx pool calls hh hp hn =>
    obtain ⟨htotal, hlimit⟩ := hc p pool hp
    have hheld := held_set_none hh
    simp only [Option.some.injEq] at hheld
    have hsame := hheld p
    rw [if_pos rfl] at hsame
    refine hc.set rfl (fun q hne => ?_) (fun q _ => hn.reserved q) ?_ hlimit
    · have hq := hheld q
      rwa [if_neg hne.symm, Nat.add_zero] at hq
    · have hres := hn.reserved p
      simp only [held, reserved, List.length_cons] at htotal hsame hres ⊢
      omega
  | releasedAlone hh =>
    intro q pool' hq'
    exact hc.of_eq hq' (tally_set_eq _ hh (by simp [heldShare])) rfl

/-- **Steps keep the count.** -/
theorem Counted.step {m m' : OracleConnectionManager} {e : Event} (hk : Keyed m)
    (hc : Counted m) (h : Transition m e m') : Counted m' := by
  cases e with
  | acquire _ _ => exact hc.acquire_step hk h
  | lock _ => exact hc.lock_step h
  | connected _ => exact hc.connected_step h
  | connectFailed _ _ => exact hc.connectFailed_step h
  | expire _ =>
    cases h with
    | expired hcall hphase =>
      intro q pool' hq'
      exact hc.of_eq hq' rfl (tally_set_eq _ hcall (by simp [reservedShare, hphase]))
  | spurious _ =>
    cases h with
    | spurious hcall hphase =>
      intro q pool' hq'
      exact hc.of_eq hq' rfl (tally_set_eq _ hcall (by simp [reservedShare, hphase]))
  | late _ =>
    cases h with
    | late hcall hphase =>
      intro q pool' hq'
      exact hc.of_eq hq' rfl (tally_set_eq _ hcall (by simp [reservedShare, hphase]))
  | release _ _ => exact hc.release_step h
  | clear =>
    cases h with
    | cleared => exact hc

/-! ## Where a session is -/

/-- Every session is in one place at most, and one that is still to be opened is
in none. -/
def Placed (m : OracleConnectionManager) : Prop :=
  ∀ id, idleSlots m id + holders m id ≤ (if id < m.created then 1 else 0)

theorem placed_initial : Placed initial := by
  intro id
  simp [initial, idleSlots, holders]

theorem Placed.of_eq {m m' : OracleConnectionManager} (hp : Placed m)
    (hcreated : m'.created = m.created)
    (h : ∀ id, idleSlots m' id + holders m' id = idleSlots m id + holders m id) : Placed m' := by
  intro id
  rw [h id, hcreated]
  exact hp id

/-- A pool object is written, and its idle list left alone. -/
theorem Placed.set {m m' : OracleConnectionManager} (hp : Placed m) {p : ℕ}
    {pool₀ pool : OracleConnectionPool} (hobj : m.objects[p]? = some pool₀)
    (hobj' : m'.objects = m.objects.set p pool) (hidle : pool.idle = pool₀.idle)
    (hhandles : m'.handles = m.handles) (hcreated : m'.created = m.created) : Placed m' := by
  refine hp.of_eq hcreated fun id => ?_
  have hslots : tally (idleShare id) (m.objects.set p pool) = idleSlots m id :=
    tally_set_eq _ hobj (by rw [idleShare, idleShare, hidle])
  rw [idleSlots, hobj', hslots, holders, hhandles, ← holders]

theorem idleShare_cons {id : ℕ} {pool : OracleConnectionPool} {ctx : OracleContext}
    {rest : List OracleContext} (h : pool.idle = ctx :: rest) :
    idleShare id pool = rest.countP (fun c => c.id = id) + if ctx.id = id then 1 else 0 := by
  rw [idleShare, h, List.countP_cons]
  simp

theorem holders_concat (m : OracleConnectionManager) (p : Option ℕ) (ctx : OracleContext)
    (id : ℕ) : tally (holderShare id) (m.handles ++ [some ⟨p, ctx⟩]) =
      holders m id + if ctx.id = id then 1 else 0 := by
  rw [tally_append, tally_cons, tally_nil, Nat.add_zero]
  rfl

theorem holders_set_none {m : OracleConnectionManager} {h : ℕ} {p : Option ℕ}
    {ctx : OracleContext} (hh : m.handles[h]? = some (some ⟨p, ctx⟩)) (id : ℕ) :
    tally (holderShare id) (m.handles.set h none) + (if ctx.id = id then 1 else 0) =
      holders m id :=
  tally_set (holderShare id) hh none

/-- Under the lock a session at most changes from idle to held. -/
theorem Placed.lock_step {m m' : OracleConnectionManager} {c : ℕ} (hp : Placed m)
    (h : Transition m (.lock c) m') : Placed m' := by
  cases h with
  | @take _ p call pool₀ pool ctx rest hcall hobj hadm hidle =>
    refine hp.of_eq rfl fun id => ?_
    have hslots := tally_set (idleShare id) hobj { pool with idle := rest }
    rw [idleShare_cons (hadm.idle.symm.trans hidle)] at hslots
    rw [holders, holders_concat]
    simp only [idleSlots, idleShare] at hslots ⊢
    omega
  | reserve _ hobj hadm _ _ => exact hp.set hobj rfl hadm.idle rfl rfl
  | block _ hobj hadm _ _ => exact hp.set hobj rfl hadm.idle rfl rfl
  | timeout _ _ => exact hp.of_eq rfl fun _ => rfl

/-- A new session is numbered `m.created`, and was in no place before. -/
theorem Placed.opened {m m' : OracleConnectionManager} {p : Option ℕ} {cs : String}
    (hp : Placed m) (hobj : m'.objects = m.objects)
    (hhandles : m'.handles = m.handles ++ [some ⟨p, ⟨m.created, cs⟩⟩])
    (hcreated : m'.created = m.created + 1) : Placed m' := by
  intro id
  have hold := hp id
  rw [idleSlots, hobj, holders, hhandles, holders_concat, hcreated]
  simp only [idleSlots] at hold
  by_cases hid : m.created = id
  · subst hid
    rw [if_neg (lt_irrefl m.created)] at hold
    rw [if_pos rfl, if_pos (Nat.lt_succ_self m.created)]
    omega
  · have hiff : id < m.created + 1 ↔ id < m.created := by omega
    rw [if_neg hid, Nat.add_zero]
    simp only [hiff]
    exact hold

/-- A destroyed handle leaves its session idle, or nowhere. -/
theorem Placed.release_step {m m' : OracleConnectionManager} {h₀ : ℕ} {woken : Option ℕ}
    (hp : Placed m) (h : Transition m (.release h₀ woken) m') : Placed m' := by
  cases h with
  | @released _ p _ ctx pool calls hh hobj hn =>
    refine hp.of_eq rfl fun id => ?_
    have hslots := tally_set (idleShare id) hobj { pool with idle := ctx :: pool.idle }
    have hholders := holders_set_none hh id
    have hcons : idleShare id { pool with idle := ctx :: pool.idle } =
        idleShare id pool + if ctx.id = id then 1 else 0 := idleShare_cons rfl
    rw [hcons] at hslots
    simp only [idleSlots, holders] at hslots hholders ⊢
    omega
  | releasedAlone hh =>
    intro id
    have hold := hp id
    have hholders := holders_set_none hh id
    simp only [idleSlots, holders] at hold hholders ⊢
    omega

/-- **Steps keep every session in one place.** -/
theorem Placed.step {m m' : OracleConnectionManager} {e : Event} (hp : Placed m)
    (h : Transition m e m') : Placed m' := by
  cases e with
  | acquire _ _ =>
    cases h with
    | standalone _ | found _ _ => exact hp.of_eq rfl fun _ => rfl
    | made _ _ => exact hp.of_eq rfl fun id => by simp [idleSlots, holders, idleShare]
  | lock _ => exact hp.lock_step h
  | connected _ =>
    cases h with
    | connected _ _ | connectedAlone _ _ => exact hp.opened rfl rfl rfl
  | connectFailed _ _ =>
    cases h with
    | threw _ _ hobj _ => exact hp.set hobj rfl rfl rfl rfl
    | threwAlone _ _ => exact hp.of_eq rfl fun _ => rfl
  | expire _ =>
    cases h with
    | expired _ _ => exact hp.of_eq rfl fun _ => rfl
  | spurious _ =>
    cases h with
    | spurious _ _ => exact hp.of_eq rfl fun _ => rfl
  | late _ =>
    cases h with
    | late _ _ => exact hp.of_eq rfl fun _ => rfl
  | release _ _ => exact hp.release_step h
  | clear =>
    cases h with
    | cleared => exact hp.of_eq rfl fun _ => rfl

/-! ## Runs -/

/-- The invariant of the pool objects. -/
structure Accounted (m : OracleConnectionManager) : Prop where
  keyed : Keyed m
  counted : Counted m
  placed : Placed m

theorem accounted_initial : Accounted initial := ⟨keyed_initial, counted_initial, placed_initial⟩

theorem Accounted.step {m m' : OracleConnectionManager} {e : Event} (ha : Accounted m)
    (h : step m e = some m') : Accounted m' :=
  have ht := transition_of_step h
  ⟨ha.keyed.step ht, ha.counted.step ha.keyed ht, ha.placed.step ht⟩

theorem accounted_of_run {es : List Event} {m : OracleConnectionManager}
    (h : run step initial es = some m) : Accounted m :=
  run_invariant (fun _ _ _ ha hstep => ha.step hstep) accounted_initial h

/-- A pool object keeps its number and its key along a run, and its limit never
falls. -/
theorem object_of_run {m m' : OracleConnectionManager} {es : List Event}
    (h : run step m es = some m') :
    ∀ (p : ℕ) pool, m.objects[p]? = some pool →
      ∃ pool', m'.objects[p]? = some pool' ∧ pool'.key = pool.key ∧ pool.limit ≤ pool'.limit := by
  refine run_relation (R := fun m m' => ∀ (p : ℕ) pool, m.objects[p]? = some pool →
    ∃ pool', m'.objects[p]? = some pool' ∧ pool'.key = pool.key ∧ pool.limit ≤ pool'.limit)
    (fun _ p pool hp => ⟨pool, hp, rfl, le_rfl⟩) ?_ ?_ h
  · intro m₁ m₂ m₃ h₁ h₂ p pool hp
    obtain ⟨pool₂, hp₂, hkey₂, hlimit₂⟩ := h₁ p pool hp
    obtain ⟨pool₃, hp₃, hkey₃, hlimit₃⟩ := h₂ p pool₂ hp₂
    exact ⟨pool₃, hp₃, hkey₃.trans hkey₂, hlimit₂.trans hlimit₃⟩
  · intro m₁ e m₂ hstep p pool hp
    exact (transition_of_step hstep).object hp

/-- **Pool accounting.**  After every run, for every pool object ever created:
the counter is idle plus held plus being opened, within the limit; every session
of the pool carries its connection string; no session is in two places; and no
later step lowers a limit. -/
theorem pool_accounting {es : List Event} {m : OracleConnectionManager}
    (h : run step initial es = some m) :
    (∀ (p : ℕ) pool, m.objects[p]? = some pool →
      pool.total = pool.idle.length + held m p + reserved m p ∧
      pool.total ≤ pool.limit ∧
      (∀ ctx ∈ pool.idle, ctx.connectionString = pool.key) ∧
      (∀ ctx, some ⟨some p, ctx⟩ ∈ m.handles → ctx.connectionString = pool.key) ∧
      (∀ call ∈ m.calls, call.phase = .connecting p → call.connectionString = pool.key)) ∧
    (∀ id, idleSlots m id + holders m id ≤ 1) ∧
    (∀ fs m', run step m fs = some m' → ∀ (p : ℕ) pool, m.objects[p]? = some pool →
      ∃ pool', m'.objects[p]? = some pool' ∧ pool'.key = pool.key ∧
        pool.limit ≤ pool'.limit) := by
  have ha := accounted_of_run h
  refine ⟨fun p pool hp => ?_, fun id => ?_, fun fs m' hrun => object_of_run hrun⟩
  · have hsame : ∀ {cs : String}, HasKey m p cs → cs = pool.key :=
      fun hcs => hcs.unique ⟨pool, hp, rfl⟩
    obtain ⟨htotal, hlimit⟩ := ha.counted p pool hp
    exact ⟨htotal, hlimit, ha.keyed.idle p pool hp,
      fun ctx hmem => hsame (ha.keyed.handle _ hmem p rfl),
      fun call hmem hphase => hsame (ha.keyed.call call hmem p (by rw [hphase]; rfl))⟩
  · have hid := ha.placed id
    split at hid <;> omega

/-- A session is opened, given back and taken again. -/
def reuseRun : List Event :=
  [.acquire "scott/tiger@db" {}, .lock 0, .connected 0, .release 0 none,
    .acquire "scott/tiger@db" {}, .lock 1]

theorem pool_accounting_reuse :
    ∃ m, run step initial reuseRun = some m ∧
      held m 0 = 1 ∧ idleSlots m 0 + holders m 0 ≤ 1 ∧
      ∀ pool, m.objects[0]? = some pool →
        pool.total = pool.idle.length + held m 0 + reserved m 0 :=
  ⟨_, rfl, rfl, (@pool_accounting reuseRun _ rfl).2.1 0,
    fun pool hp => ((@pool_accounting reuseRun _ rfl).1 0 pool hp).1⟩

end Connection
end DuckdbOracle
