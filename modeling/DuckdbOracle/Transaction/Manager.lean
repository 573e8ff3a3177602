import Mathlib.Data.List.Nodup
import DuckdbOracle.Connection.Generations

/-!
# What ended transactions leave behind

`OracleTransactionManager` keeps its transactions in `active`: `StartTransaction`
pushes a new `OracleTransaction`, and `CommitTransaction` and `RollbackTransaction`
ask the transaction for its connection, which is acquired at that moment, and commit
or roll back on it.  Nothing takes a transaction out of `active` again.  So the object
lives on, and with it the handle it has acquired.

The model runs the three calls on top of the connection manager.  Ending a transaction
takes several steps, since the call of `Acquire` inside `GetConnection` may wait; any
other step of the manager may come in between, except that nobody but its owner
destroys a handle.  `cs` is the connection string of the attached database.

The list is right, and sessions are held by open transactions only, exactly as long
as no transaction has been ended (`active_exact_iff`).  From then on every transaction
that got a session keeps it (`ended_keeps_session`), so that no more transactions than
the limit of the pool ever get one (`transactions_le_limit`); the next one waits for
a session that nobody gives back.
-/

namespace DuckdbOracle
namespace Transaction

open Catalog Connection StepRuns Tally

/-- How far an `OracleTransaction` is. -/
inductive TransactionPhase where
  /-- Started, and neither committed nor rolled back so far. -/
  | running
  /-- Inside `CommitTransaction` or `RollbackTransaction`: `GetConnection` has made the
  call `c` of `Acquire`. -/
  | ending (commit : Bool) (c : ℕ)
  /-- `CommitTransaction` or `RollbackTransaction` has returned. -/
  | ended (c : ℕ)
  deriving DecidableEq

/-- The call of `Acquire` that a transaction has made for its connection. -/
def TransactionPhase.call? : TransactionPhase → Option ℕ
  | .running => none
  | .ending _ c | .ended c => some c

/-- Whether the transaction has been ended. -/
def TransactionPhase.isEnded : TransactionPhase → Bool
  | .ended _ => true
  | _ => false

/-- The connection manager, and `OracleTransactionManager`: the transactions in the
order in which they were started, and the list `active` of those it owns. -/
structure TransactionWorld where
  manager : OracleConnectionManager
  transactions : List TransactionPhase
  active : List ℕ

/-- Nothing has happened yet. -/
def TransactionWorld.start : TransactionWorld := ⟨initial, [], []⟩

/-- What can happen next. -/
inductive TransactionEvent where
  | startTransaction
  /-- `CommitTransaction` is called, and calls `Acquire`. -/
  | commitTransaction (t : ℕ)
  /-- `RollbackTransaction` is called, and calls `Acquire`. -/
  | rollbackTransaction (t : ℕ)
  /-- The call returns: it has its session and has committed or rolled back on it,
  successfully or not, or `Acquire` has thrown. -/
  | finish (t : ℕ)
  /-- A step of the connection manager, of these calls or of anybody else. -/
  | pool (e : Connection.Event)
  deriving DecidableEq

/-! ## The steps -/

/-- `OracleTransactionManager::StartTransaction`. -/
def startTransaction (w : TransactionWorld) : TransactionWorld :=
  { w with
    transactions := w.transactions ++ [.running]
    active := w.active ++ [w.transactions.length] }

/-- `CommitTransaction` and `RollbackTransaction` up to the call of `Acquire` in
`OracleConnection::Connect`, which takes the default settings. -/
def endTransaction (cs : String) (w : TransactionWorld) (t : ℕ) (commit : Bool) :
    Option TransactionWorld :=
  match w.transactions[t]? with
  | some .running =>
    some { w with
      manager := startAcquire w.manager cs {}
      transactions := w.transactions.set t (.ending commit w.manager.calls.length) }
  | _ => none

/-- A call of `Acquire` has returned or thrown. -/
def isOver (m : OracleConnectionManager) (c : ℕ) : Bool :=
  match m.calls[c]? with
  | some call =>
    match call.phase with
    | .returned _ | .timedOut _ | .connectThrew => true
    | _ => false
  | none => false

/-- `CommitTransaction` or `RollbackTransaction` returns.  The transaction stays in
`active`. -/
def finish (w : TransactionWorld) (t : ℕ) : Option TransactionWorld :=
  match w.transactions[t]? with
  | some (.ending _ c) =>
    if isOver w.manager c then some { w with transactions := w.transactions.set t (.ended c) }
    else none
  | _ => none

/-- The handle `h` belongs to a transaction. -/
def ownsHandle (w : TransactionWorld) (h : ℕ) : Bool :=
  w.transactions.any fun phase =>
    match phase.call? with
    | some c => (w.manager.calls[c]?).any fun call => call.phase = .returned h
    | none => false

/-- A step of the connection manager; the handle of a transaction is destroyed with the
transaction only, which `active` keeps. -/
def poolStep (w : TransactionWorld) (e : Connection.Event) : Option TransactionWorld :=
  match e with
  | .release h woken =>
    if ownsHandle w h then none
    else (Connection.step w.manager (.release h woken)).map fun m => { w with manager := m }
  | e => (Connection.step w.manager e).map fun m => { w with manager := m }

/-- One step. -/
def transactionStep (cs : String) (w : TransactionWorld) :
    TransactionEvent → Option TransactionWorld
  | .startTransaction => some (startTransaction w)
  | .commitTransaction t => endTransaction cs w t true
  | .rollbackTransaction t => endTransaction cs w t false
  | .finish t => finish w t
  | .pool e => poolStep w e

/-! ## The property -/

/-- The transaction `t` has been started and not yet ended. -/
def IsOpen (w : TransactionWorld) (t : ℕ) : Prop :=
  ∃ phase, w.transactions[t]? = some phase ∧ phase.isEnded = false

/-- The handle of the transaction `t`. -/
def handleOfTransaction (w : TransactionWorld) (t : ℕ) : Option OracleConnectionHandle :=
  ((w.transactions[t]?).bind TransactionPhase.call?).bind (handleOf w.manager)

/-- The sessions that the transaction objects hold. -/
def heldSessions (w : TransactionWorld) : ℕ :=
  w.active.countP fun t => (handleOfTransaction w t).isSome

/-- How many transactions have been started and not yet ended. -/
def openTransactions (w : TransactionWorld) : ℕ :=
  w.transactions.countP fun phase => !phase.isEnded

/-- **Ended transactions hold nothing**: `active` has exactly the open transactions, and
there are at least as many of these as sessions held. -/
structure EndedHoldNothing (w : TransactionWorld) : Prop where
  nodup : w.active.Nodup
  active : ∀ t, t ∈ w.active ↔ IsOpen w t
  held : heldSessions w ≤ openTransactions w

/-! ## What a step does to the transactions -/

/-- Everything a step can do to the transactions and to `active`. -/
inductive Advances (w : TransactionWorld) : TransactionEvent → TransactionWorld → Prop where
  | started : Advances w .startTransaction (startTransaction w)
  | asked {cs : String} {t : ℕ} {commit : Bool} {e : TransactionEvent}
      (ht : w.transactions[t]? = some .running) (he : ∀ t, e ≠ .finish t) :
      Advances w e { w with
        manager := startAcquire w.manager cs {}
        transactions := w.transactions.set t (.ending commit w.manager.calls.length) }
  | finished {t c : ℕ} {commit : Bool} (ht : w.transactions[t]? = some (.ending commit c)) :
      Advances w (.finish t) { w with transactions := w.transactions.set t (.ended c) }
  | pooled {e : Connection.Event} {m : OracleConnectionManager}
      (h : Connection.step w.manager e = some m)
      (hown : ∀ i woken, e = .release i woken → ownsHandle w i = false) :
      Advances w (.pool e) { w with manager := m }

theorem of_endTransaction {cs : String} {w w' : TransactionWorld} {t : ℕ} {commit : Bool}
    {e : TransactionEvent} (he : ∀ t, e ≠ .finish t)
    (h : endTransaction cs w t commit = some w') : Advances w e w' := by
  unfold endTransaction at h
  split at h
  · next ht =>
    obtain rfl := Option.some.inj h
    exact Advances.asked ht he
  · exact absurd h (by simp)

theorem of_poolStep {w w' : TransactionWorld} {e : Connection.Event}
    (h : poolStep w e = some w') : Advances w (.pool e) w' := by
  unfold poolStep at h
  split at h
  · next i woken =>
    split at h
    · exact absurd h (by simp)
    · next hown =>
      obtain ⟨m, hm, rfl⟩ := Option.map_eq_some_iff.mp h
      refine Advances.pooled hm fun j woken' heq => ?_
      obtain ⟨rfl, -⟩ := Connection.Event.release.inj heq
      exact Bool.eq_false_iff.mpr hown
  · next hne =>
    obtain ⟨m, hm, rfl⟩ := Option.map_eq_some_iff.mp h
    exact Advances.pooled hm fun i woken heq => absurd heq (hne i woken)

theorem advances_of_step {cs : String} {w w' : TransactionWorld} {e : TransactionEvent}
    (h : transactionStep cs w e = some w') : Advances w e w' := by
  cases e with
  | startTransaction =>
    obtain rfl := Option.some.inj h
    exact Advances.started
  | commitTransaction t => exact of_endTransaction (by simp) h
  | rollbackTransaction t => exact of_endTransaction (by simp) h
  | finish t =>
    rw [transactionStep, finish] at h
    split at h
    · next commit c ht =>
      split at h
      · obtain rfl := Option.some.inj h
        exact Advances.finished ht
      · exact absurd h (by simp)
    · exact absurd h (by simp)
  | pool e => exact of_poolStep h

/-! ## The list -/

/-- Every transaction ever started is in `active`. -/
def KeepsAll (w : TransactionWorld) : Prop := w.active = List.range w.transactions.length

/-- No transaction has been ended. -/
def NoneEnded (w : TransactionWorld) : Prop := ∀ phase ∈ w.transactions, phase.isEnded = false

theorem KeepsAll.step {w w' : TransactionWorld} {e : TransactionEvent} (hk : KeepsAll w)
    (h : Advances w e w') : KeepsAll w' := by
  unfold KeepsAll at hk ⊢
  cases h with
  | started => simp [startTransaction, hk, List.range_succ]
  | asked _ _ | finished _ => simpa using hk
  | pooled _ _ => exact hk

/-- **The property holds exactly while no transaction has been ended.** -/
theorem endedHoldNothing_iff {w : TransactionWorld} (hk : KeepsAll w) :
    EndedHoldNothing w ↔ NoneEnded w := by
  constructor
  · rintro ⟨-, hactive, -⟩ phase hmem
    obtain ⟨t, ht⟩ := List.mem_iff_getElem?.mp hmem
    have hlt : t < w.transactions.length := (List.getElem?_eq_some_iff.mp ht).1
    have hin : t ∈ w.active := hk ▸ List.mem_range.mpr hlt
    obtain ⟨phase', ht', hopen⟩ := (hactive t).mp hin
    rw [ht] at ht'
    exact Option.some.inj ht' ▸ hopen
  · intro hnone
    have hall : openTransactions w = w.transactions.length :=
      List.countP_eq_length.mpr fun phase hmem => by simp [hnone phase hmem]
    refine ⟨hk ▸ List.nodup_range, fun t => ?_, ?_⟩
    · rw [hk, List.mem_range]
      constructor
      · intro hlt
        have ht := List.getElem?_eq_getElem hlt
        exact ⟨_, ht, hnone _ (List.mem_of_getElem? ht)⟩
      · rintro ⟨phase, ht, -⟩
        exact (List.getElem?_eq_some_iff.mp ht).1
    · calc heldSessions w ≤ w.active.length := List.countP_le_length
        _ = openTransactions w := by rw [hall, hk, List.length_range]

/-- No call of `CommitTransaction` or `RollbackTransaction` returns in the step. -/
def EndsNone (_ : TransactionWorld) (e : TransactionEvent) : Prop := ∀ t, e ≠ .finish t

theorem noneEnded_step_iff {w w' : TransactionWorld} {e : TransactionEvent}
    (hnone : NoneEnded w) (h : Advances w e w') : NoneEnded w' ↔ EndsNone w e := by
  cases h with
  | started =>
    refine iff_of_true (fun phase hmem => ?_) (by simp [EndsNone])
    rcases List.mem_append.mp hmem with hold | hnew
    · exact hnone phase hold
    · obtain rfl := List.mem_singleton.mp hnew
      rfl
  | asked ht he =>
    refine iff_of_true (fun phase hmem => ?_) he
    rcases List.mem_or_eq_of_mem_set hmem with hold | rfl
    · exact hnone phase hold
    · rfl
  | @finished t c commit ht =>
    refine iff_of_false (fun hall => ?_) (by simp [EndsNone])
    have hmem : TransactionPhase.ended c ∈ w.transactions.set t (.ended c) :=
      List.mem_of_getElem? (getElem?_set_of ht _)
    exact absurd (hall _ hmem) (by simp [TransactionPhase.isEnded])
  | pooled _ _ => exact iff_of_true hnone (by simp [EndsNone])

/-- **When ended transactions hold nothing.**  In every run: the list of active
transactions is exact and sessions are held by no more than the open transactions, in
every state reached, exactly if no call of `CommitTransaction` or
`RollbackTransaction` returns. -/
theorem active_exact_iff {cs : String} {es : List TransactionEvent} {w : TransactionWorld}
    (h : run (transactionStep cs) .start es = some w) :
    (∀ t, Reached (transactionStep cs) .start es t → EndedHoldNothing t) ↔
      Guarded (transactionStep cs) EndsNone .start es := by
  have hkeeps : KeepsAll TransactionWorld.start := rfl
  refine guarded_iff_reached (I := KeepsAll) (Q := EndedHoldNothing)
    (fun t e t' hk hstep => hk.step (advances_of_step hstep)) ?_ hkeeps ?_ h
  · intro t e t' hk hq hstep
    have hadv := advances_of_step hstep
    rw [endedHoldNothing_iff (hk.step hadv)]
    exact noneEnded_step_iff ((endedHoldNothing_iff hk).mp hq) hadv
  · refine (endedHoldNothing_iff hkeeps).mpr fun _ hmem => ?_
    exact absurd hmem (by simp [TransactionWorld.start])

/-- Two transactions are open, and one of them is being committed. -/
def openRun : List TransactionEvent :=
  [.startTransaction, .startTransaction, .commitTransaction 0, .pool (.lock 0),
    .pool (.connected 0)]

theorem active_exact_open :
    ∃ w, run (transactionStep "scott/tiger@db") .start openRun = some w ∧ EndedHoldNothing w := by
  refine ⟨_, rfl, (@active_exact_iff "scott/tiger@db" openRun _ rfl).mpr ?_ _
    (Reached.of_run rfl)⟩
  intro pre e hpre t ht n he
  have hmem : e ∈ openRun := hpre.subset (List.mem_append_right _ List.mem_cons_self)
  rw [he] at hmem
  exact absurd hmem (by simp [openRun])

/-- **A committed transaction stays active and keeps its session.** -/
theorem committed_stays_active :
    ∃ w, run (transactionStep "scott/tiger@db") .start
        [.startTransaction, .commitTransaction 0, .pool (.lock 0), .pool (.connected 0),
          .finish 0] = some w ∧
      w.active = [0] ∧ openTransactions w = 0 ∧ heldSessions w = 1 ∧ ¬ EndedHoldNothing w := by
  refine ⟨_, rfl, rfl, rfl, rfl, fun hexact => ?_⟩
  exact absurd hexact.held (by decide)

/-! ## The sessions -/

/-- The invariant behind the sessions of transactions: each transaction has made its own
call of `Acquire`, and the handle that call has returned is alive. -/
structure Holds (w : TransactionWorld) : Prop where
  accounted : Accounted w.manager
  returned : Returned w.manager
  call : ∀ (t : ℕ) phase c, w.transactions[t]? = some phase → phase.call? = some c →
    c < w.manager.calls.length
  distinct : ∀ (t t' : ℕ) phase phase' c, w.transactions[t]? = some phase →
    w.transactions[t']? = some phase' → phase.call? = some c → phase'.call? = some c → t = t'
  kept : ∀ (t : ℕ) phase c call i, w.transactions[t]? = some phase → phase.call? = some c →
    w.manager.calls[c]? = some call → call.phase = .returned i →
    (sessionOf w.manager c).isSome

theorem holds_start : Holds .start where
  accounted := accounted_initial
  returned := returned_initial
  call _ _ _ h := absurd h (by simp [TransactionWorld.start])
  distinct _ _ _ _ _ h := absurd h (by simp [TransactionWorld.start])
  kept _ _ _ _ _ h := absurd h (by simp [TransactionWorld.start])

/-- A transaction that changes its phase, and not its call, changes nothing here. -/
theorem Holds.of_call {w w' : TransactionWorld} (hw : Holds w) (hm : w'.manager = w.manager)
    (h : ∀ (t : ℕ) phase c, w'.transactions[t]? = some phase → phase.call? = some c →
      ∃ phase₀, w.transactions[t]? = some phase₀ ∧ phase₀.call? = some c) : Holds w' where
  accounted := hm ▸ hw.accounted
  returned := hm ▸ hw.returned
  call t phase c ht hc := by
    obtain ⟨phase₀, ht₀, hc₀⟩ := h t phase c ht hc
    exact hm ▸ hw.call t phase₀ c ht₀ hc₀
  distinct t t' phase phase' c ht ht' hc hc' := by
    obtain ⟨phase₀, ht₀, hc₀⟩ := h t phase c ht hc
    obtain ⟨phase₁, ht₁, hc₁⟩ := h t' phase' c ht' hc'
    exact hw.distinct t t' phase₀ phase₁ c ht₀ ht₁ hc₀ hc₁
  kept t phase c call i ht hc hcall hi := by
    obtain ⟨phase₀, ht₀, hc₀⟩ := h t phase c ht hc
    rw [hm] at hcall ⊢
    exact hw.kept t phase₀ c call i ht₀ hc₀ hcall hi

/-- A handle that a transaction does not own is destroyed. -/
theorem sessionOf_release_of_not_owned {w : TransactionWorld} {m : OracleConnectionManager}
    {i : ℕ} {woken : Option ℕ} (h : Transition w.manager (.release i woken) m)
    (hown : ownsHandle w i = false) {t c s : ℕ} {phase : TransactionPhase}
    (ht : w.transactions[t]? = some phase) (hc : phase.call? = some c)
    (hs : sessionOf w.manager c = some s) : sessionOf m c = some s := by
  have hne : ∀ call n, w.manager.calls[c]? = some call → call.phase = .returned n → n ≠ i := by
    rintro call n hcall hn rfl
    have hfalse := List.any_eq_false.mp hown phase (List.mem_of_getElem? ht)
    rw [hc] at hfalse
    dsimp only at hfalse
    rw [hcall, Option.any_some, hn] at hfalse
    exact hfalse (by simp)
  cases h with
  | released _ _ hnotify =>
    refine sessionOf_of hs (fun call n hcall hn => hnotify.getElem? hcall hn) ?_
    exact fun call n handle hcall hn hh => by rw [getElem?_set_of_ne (hne call n hcall hn), hh]
  | releasedAlone _ =>
    refine sessionOf_of hs (fun _ _ hcall _ => hcall) ?_
    exact fun call n handle hcall hn hh => by rw [getElem?_set_of_ne (hne call n hcall hn), hh]

/-- A call that returns in this step holds its session. -/
theorem sessionOf_of_new {m m' : OracleConnectionManager} {e : Connection.Event}
    (h : Transition m e m') {c : ℕ} {call : AcquireCall} (hc : m'.calls[c]? = some call)
    (hi : call.phase = .returned m.handles.length) (he : e = .lock c ∨ e = .connected c) :
    (sessionOf m' c).isSome := by
  have hnew : ∀ {handle : OracleConnectionHandle},
      m'.handles = m.handles ++ [some handle] → (sessionOf m' c).isSome := by
    intro handle hhandles
    refine Option.isSome_iff_exists.mpr ⟨handle.ctx.id, ?_⟩
    refine sessionOf_eq_some_iff.mpr ⟨call, m.handles.length, handle, hc, hi, ?_, rfl⟩
    rw [hhandles, List.getElem?_concat_length]
  cases h with
  | take _ _ _ _ | connected _ _ | connectedAlone _ _ => exact hnew rfl
  | reserve hd _ _ _ _ | block hd _ _ _ _ | timeout hd _ =>
    obtain rfl : _ = c := by simpa using he
    rw [getElem?_set_of hd] at hc
    obtain rfl := Option.some.inj hc
    exact absurd hi (by simp)
  | _ => exact absurd he (by simp)

theorem Holds.pool {w : TransactionWorld} {m : OracleConnectionManager} {e : Connection.Event}
    (hw : Holds w) (h : Connection.step w.manager e = some m)
    (hown : ∀ i woken, e = .release i woken → ownsHandle w i = false) :
    Holds { w with manager := m } where
  accounted := hw.accounted.step h
  returned := hw.returned.step (transition_of_step h)
  call t phase c ht hc :=
    (hw.call t phase c ht hc).trans_le (transition_of_step h).calls_le
  distinct := hw.distinct
  kept t phase c call i ht hc hcall hi := by
    have htrans := transition_of_step h
    rcases htrans.returned hcall hi with hold | ⟨rfl, he⟩
    · obtain ⟨s, hs⟩ := Option.isSome_iff_exists.mp (hw.kept t phase c call i ht hc hold hi)
      refine Option.isSome_iff_exists.mpr ⟨s, ?_⟩
      by_cases hrelease : ∃ n woken, e = .release n woken
      · obtain ⟨n, woken, rfl⟩ := hrelease
        exact sessionOf_release_of_not_owned htrans (hown n woken rfl) ht hc hs
      · exact htrans.sessionOf (fun n woken he => hrelease ⟨n, woken, he⟩) hs
    · exact sessionOf_of_new htrans hcall hi he

/-- A call of `Acquire` starts as the last one, and has not returned. -/
theorem calls_startAcquire (m : OracleConnectionManager) (cs : String)
    (settings : OracleSettings) :
    ∃ phase, (startAcquire m cs settings).calls = m.calls ++ [⟨cs, settings, phase⟩] ∧
      ∀ i, phase ≠ .returned i := by
  unfold startAcquire
  split
  · exact ⟨.standalone, rfl, by simp⟩
  · split
    · next p _ => exact ⟨.entering p, rfl, by simp⟩
    · exact ⟨.entering m.objects.length, rfl, by simp⟩

/-- The transaction that asks for its connection makes a call nobody has made. -/
theorem Holds.asked {cs : String} {w : TransactionWorld} {t : ℕ} {commit : Bool} (hw : Holds w)
    (ht : w.transactions[t]? = some .running) :
    Holds { w with
      manager := startAcquire w.manager cs {}
      transactions := w.transactions.set t (.ending commit w.manager.calls.length) } := by
  have hpool : Holds { w with manager := startAcquire w.manager cs {} } :=
    hw.pool (show Connection.step w.manager (.acquire cs {}) = _ from rfl) (by simp)
  obtain ⟨new, hcalls, hnew⟩ := calls_startAcquire w.manager cs {}
  -- a transaction is the one that asks, with the next call, or an older one
  have hcase : ∀ {t' : ℕ} {phase : TransactionPhase} {c : ℕ},
      (w.transactions.set t (.ending commit w.manager.calls.length))[t']? = some phase →
      phase.call? = some c →
      (t' = t ∧ c = w.manager.calls.length) ∨
        (w.transactions[t']? = some phase ∧ c < w.manager.calls.length) := by
    intro t' phase c ht' hc
    rcases of_getElem?_set ht' with ⟨rfl, rfl⟩ | ⟨-, hold⟩
    · exact Or.inl ⟨rfl, (Option.some.inj hc).symm⟩
    · exact Or.inr ⟨hold, hw.call t' phase c hold hc⟩
  refine ⟨hpool.accounted, hpool.returned, ?_, ?_, ?_⟩
  · intro t' phase c ht' hc
    rcases hcase ht' hc with ⟨-, rfl⟩ | ⟨-, hlt⟩ <;> simp only [hcalls, List.length_append] <;>
      simp only [List.length_singleton] <;> omega
  · intro t' t'' phase phase' c ht' ht'' hc hc'
    rcases hcase ht' hc with ⟨rfl, rfl⟩ | ⟨hold, hlt⟩ <;>
      rcases hcase ht'' hc' with ⟨rfl, heq⟩ | ⟨hold', hlt'⟩
    · rfl
    · exact absurd hlt' (lt_irrefl _)
    · exact absurd (heq ▸ hlt) (lt_irrefl _)
    · exact hw.distinct t' t'' phase phase' c hold hold' hc hc'
  · intro t' phase c call i ht' hc hcall hi
    rcases hcase ht' hc with ⟨-, rfl⟩ | ⟨hold, -⟩
    · dsimp only at hcall
      rw [hcalls, List.getElem?_concat_length] at hcall
      obtain rfl := Option.some.inj hcall
      exact absurd hi (hnew i)
    · exact hpool.kept t' phase c call i hold hc hcall hi

theorem Holds.step {w w' : TransactionWorld} {e : TransactionEvent} (hw : Holds w)
    (h : Advances w e w') : Holds w' := by
  cases h with
  | started =>
    refine hw.of_call rfl fun t phase c ht hc => ?_
    rcases of_getElem?_concat ht with hold | ⟨-, rfl⟩
    · exact ⟨phase, hold, hc⟩
    · exact absurd hc (by simp [TransactionPhase.call?])
  | asked ht _ => exact hw.asked ht
  | finished ht =>
    refine hw.of_call rfl fun t phase c ht' hc => ?_
    rcases of_getElem?_set ht' with ⟨rfl, rfl⟩ | ⟨-, hold⟩
    · exact ⟨_, ht, hc⟩
    · exact ⟨phase, hold, hc⟩
  | pooled h hown => exact hw.pool h hown

theorem holds_of_run {cs : String} {es : List TransactionEvent} {w : TransactionWorld}
    (h : run (transactionStep cs) .start es = some w) : Holds w :=
  run_invariant (fun _ _ _ hw hstep => hw.step (advances_of_step hstep)) holds_start h

/-- **A transaction keeps the session it got**, whether it has been ended or not. -/
theorem ended_keeps_session {cs : String} {es : List TransactionEvent} {w : TransactionWorld}
    (h : run (transactionStep cs) .start es = some w) {t c i : ℕ} {phase : TransactionPhase}
    {call : AcquireCall} (ht : w.transactions[t]? = some phase) (hc : phase.call? = some c)
    (hcall : w.manager.calls[c]? = some call) (hi : call.phase = .returned i) :
    ∃ handle, handleOfTransaction w t = some handle := by
  obtain ⟨s, hs⟩ :=
    Option.isSome_iff_exists.mp ((holds_of_run h).kept t phase c call i ht hc hcall hi)
  obtain ⟨handle, hhandle, -⟩ := Option.map_eq_some_iff.mp hs
  exact ⟨handle, by rw [handleOfTransaction, ht, Option.bind_some, hc, Option.bind_some, hhandle]⟩

/-! ## The pool -/

/-- The handle of the transaction `t` belongs to the pool object `p`. -/
def usesPool (w : TransactionWorld) (p t : ℕ) : Bool :=
  (handleOfTransaction w t).any fun handle => handle.pool = some p

/-- The number of the handle of the transaction `t`. -/
def handleNumber (w : TransactionWorld) (t : ℕ) : Option ℕ :=
  match ((w.transactions[t]?).bind TransactionPhase.call?).bind (w.manager.calls[·]?) with
  | some call =>
    match call.phase with
    | .returned i => some i
    | _ => none
  | none => none

theorem of_usesPool {w : TransactionWorld} {p t : ℕ} (h : usesPool w p t = true) :
    ∃ phase c call i ctx, w.transactions[t]? = some phase ∧ phase.call? = some c ∧
      w.manager.calls[c]? = some call ∧ call.phase = .returned i ∧
      w.manager.handles[i]? = some (some ⟨some p, ctx⟩) ∧ handleNumber w t = some i := by
  obtain ⟨⟨pool, ctx⟩, hhandle, hpool⟩ : ∃ handle, handleOfTransaction w t = some handle ∧
      handle.pool = some p := by
    unfold usesPool at h
    cases hof : handleOfTransaction w t with
    | none => simp [hof] at h
    | some handle => exact ⟨handle, rfl, by simpa [hof] using h⟩
  dsimp only at hpool
  subst hpool
  obtain ⟨c, hc, hof⟩ := Option.bind_eq_some_iff.mp hhandle
  obtain ⟨phase, ht, hcall?⟩ := Option.bind_eq_some_iff.mp hc
  obtain ⟨call, i, hcall, hi, hh⟩ := handleOf_eq_some_iff.mp hof
  refine ⟨phase, c, call, i, ctx, ht, hcall?, hcall, hi, hh, ?_⟩
  simp only [handleNumber, ht, hcall?, hcall, hi, Option.bind_some]

/-- Two transactions have two handles. -/
theorem Holds.handleNumber_inj {w : TransactionWorld} (hw : Holds w) {p t t' i : ℕ}
    (h : usesPool w p t = true) (h' : usesPool w p t' = true) (hi : handleNumber w t = some i)
    (hi' : handleNumber w t' = some i) : t = t' := by
  obtain ⟨phase, c, call, j, ctx, ht, hc, hcall, hj, -, hnum⟩ := of_usesPool h
  obtain ⟨phase', c', call', j', ctx', ht', hc', hcall', hj', -, hnum'⟩ := of_usesPool h'
  rw [hi] at hnum
  rw [hi'] at hnum'
  obtain rfl := Option.some.inj hnum
  obtain rfl := Option.some.inj hnum'
  have hone : tally (returnedShare i) w.manager.calls ≤ 1 := by
    have hbound := hw.returned i
    split at hbound <;> omega
  have hcc : c = c' := by
    refine index_unique hone hcall hcall' ?_ ?_
    · rw [returnedShare, if_pos hj]
      exact Nat.one_pos
    · rw [returnedShare, if_pos hj']
      exact Nat.one_pos
  subst hcc
  exact hw.distinct t t' phase phase' c ht ht' hc hc'

/-- **No more transactions than the limit of a pool object ever get a session of it**,
ended or not: the next one waits for a session that no transaction gives back. -/
theorem transactions_le_limit {cs : String} {es : List TransactionEvent} {w : TransactionWorld}
    (h : run (transactionStep cs) .start es = some w) {p : ℕ} {pool : OracleConnectionPool}
    (hp : w.manager.objects[p]? = some pool) :
    (List.range w.transactions.length).countP (usesPool w p) ≤ pool.limit := by
  have hw := holds_of_run h
  obtain ⟨htotal, hlimit⟩ := hw.accounted.counted p pool hp
  rw [List.countP_eq_length_filter]
  generalize husers : (List.range w.transactions.length).filter (usesPool w p) = users
  have hnodup : users.Nodup := husers ▸ List.nodup_range.filter _
  have huses : ∀ t ∈ users, usesPool w p t = true := fun t hmem =>
    (List.mem_filter.mp (husers ▸ hmem)).2
  have hheld : users.length ≤ held w.manager p := by
    have hnumbers : (users.map fun t => (handleNumber w t).getD 0).Nodup := by
      refine List.Nodup.map_on (fun t ht t' ht' heq => ?_) hnodup
      obtain ⟨-, -, -, i, -, -, -, -, -, -, hi⟩ := of_usesPool (huses t ht)
      obtain ⟨-, -, -, i', -, -, -, -, -, -, hi'⟩ := of_usesPool (huses t' ht')
      rw [hi, hi', Option.getD_some, Option.getD_some] at heq
      exact hw.handleNumber_inj (huses t ht) (huses t' ht') hi (heq ▸ hi')
    have hslot : ∀ i ∈ users.map fun t => (handleNumber w t).getD 0,
        ∃ a, w.manager.handles[i]? = some a ∧ 0 < heldShare p a := by
      intro i hi
      obtain ⟨t, ht, rfl⟩ := List.mem_map.mp hi
      obtain ⟨-, -, -, i, ctx, -, -, -, -, hh, hnum⟩ := of_usesPool (huses t ht)
      exact ⟨_, by rw [hnum]; exact hh, by simp [heldShare]⟩
    have hle := length_le_tally (heldShare p) hnumbers hslot
    rwa [List.length_map] at hle
  omega

end Transaction
end DuckdbOracle
