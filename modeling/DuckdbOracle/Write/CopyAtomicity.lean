import DuckdbOracle.Connection.HeldSessions

/-!
# Is a COPY all or nothing?

A COPY inserts its rows into the open transaction of a pooled session and commits
in `OracleWriteFinalize`.  When a Sink call throws, nobody rolls back: the handle
is destroyed and the session goes back to the pool with the rows still in its
open transaction.  What happens to them is decided by whoever gets the session
next, and `oracle_execute`, a transaction's commit and another COPY's Finalize all
commit everything the session carries.

## The model

The statements of the repository run on top of the connection manager, step by
step: each of them makes one call of `Acquire` (the statement number is the number
of that call) and works on the session of the handle the call returns.  Any other
step of the manager may come in between.  Of Oracle the model has, for each
session, the rows of COPY statements in its open transaction, and the rows that
have been made durable so far.

## The result

`Owned` is the invariant: the uncommitted rows of a running COPY are in the session
that COPY holds, and those of a finalized COPY are nowhere.  So a commit makes
foreign rows durable exactly if the session carries rows of a failed COPY, and the
runs in which no commit hits such a session are the atomic ones
(`only_finalized_iff`).
-/

namespace DuckdbOracle
namespace Write

open Catalog Connection StepRuns

/-- How far a COPY is. -/
inductive CopyPhase where
  /-- Between `OracleWriteInitGlobal` and the end. -/
  | running
  /-- A Sink call threw, or `OracleWriteFinalize` did. -/
  | failed
  /-- `OracleWriteFinalize` has succeeded. -/
  | finalized
  deriving DecidableEq

/-- A statement that uses a session. -/
inductive Statement where
  | copy (phase : CopyPhase)
  /-- One call of `OracleExecuteFunction`; `done` once it has executed its SQL. -/
  | execute (done : Bool)
  /-- An `OracleTransaction` that has called `GetConnection`; `ended` once it has been
  committed or rolled back. -/
  | transaction (ended : Bool)
  deriving DecidableEq

/-- A row together with the COPY that inserted it. -/
structure CopyRow (Row : Type*) where
  copy : ℕ
  row : Row
  deriving DecidableEq

/-- The connection manager, the statements (`statements[c]` makes the call `c`) and
what Oracle has of their rows. -/
structure World (Row : Type*) where
  manager : OracleConnectionManager
  statements : List Statement
  /-- The rows in the open transaction of each session. -/
  uncommitted : ℕ → List (CopyRow Row)
  /-- The rows that have become durable. -/
  durable : List (CopyRow Row)

/-- Nothing has happened yet. -/
def World.start {Row : Type*} : World Row := ⟨initial, [], fun _ => [], []⟩

/-- What can happen next.  A Boolean says whether Oracle reports success. -/
inductive WriteEvent (Row : Type*) where
  /-- A COPY calls `OracleWriteInitGlobal`. -/
  | startCopy
  /-- `oracle_execute` is called. -/
  | startExecute
  /-- A transaction asks for its connection. -/
  | startTransaction
  /-- A step inside a call of `Acquire`. -/
  | pool (e : Connection.Event)
  /-- `OracleWriteSink`: the array INSERT adds `rows`; a call that throws has added
  those the server kept. -/
  | sink (c : ℕ) (rows : List Row) (ok : Bool)
  | finalize (c : ℕ) (ok : Bool)
  | execute (c : ℕ) (ok : Bool)
  | commitTransaction (c : ℕ) (ok : Bool)
  | rollbackTransaction (c : ℕ) (ok : Bool)
  /-- The handle of an ended COPY or `oracle_execute` is destroyed. -/
  | destroy (c : ℕ) (woken : Option ℕ)
  deriving DecidableEq

variable {Row : Type*}

/-! ## What Oracle does -/

/-- An array INSERT in `OCI_DEFAULT` mode on the session `s`. -/
def World.insert (w : World Row) (s : ℕ) (rows : List (CopyRow Row)) : World Row :=
  { w with uncommitted := Function.update w.uncommitted s (w.uncommitted s ++ rows) }

/-- `OCITransCommit`, or the commit of a successful `OCI_COMMIT_ON_SUCCESS`
execution. -/
def World.commit (w : World Row) (s : ℕ) : World Row :=
  { w with
    uncommitted := Function.update w.uncommitted s []
    durable := w.durable ++ w.uncommitted s }

/-- `OCITransRollback`. -/
def World.rollback (w : World Row) (s : ℕ) : World Row :=
  { w with uncommitted := Function.update w.uncommitted s [] }

/-- The statement `c` is now `statement`. -/
def World.become (w : World Row) (c : ℕ) (statement : Statement) : World Row :=
  { w with statements := w.statements.set c statement }

/-! ## The steps of the statements -/

/-- A statement calls `Acquire` with the default settings. -/
def World.acquire (cs : String) (w : World Row) (statement : Statement) : World Row :=
  { w with
    manager := startAcquire w.manager cs {}
    statements := w.statements ++ [statement] }

/-- A step inside a call of `Acquire`. -/
def poolStep (w : World Row) (e : Connection.Event) : Option (World Row) :=
  match e with
  | .lock _ | .connected _ | .connectFailed _ _ | .expire _ | .spurious _ | .late _ =>
    (Connection.step w.manager e).map fun m => { w with manager := m }
  | _ => none

/-- The statement `c`, if it is `statement`, works on the session it holds. -/
def onSession (w : World Row) (c : ℕ) (statement : Statement) (f : ℕ → World Row) :
    Option (World Row) :=
  if w.statements[c]? = some statement then (sessionOf w.manager c).map f else none

/-- `OracleWriteSink`. -/
def oracleWriteSink (w : World Row) (c : ℕ) (rows : List Row) (ok : Bool) :
    Option (World Row) :=
  onSession w c (.copy .running) fun s =>
    (w.insert s (rows.map (⟨c, ·⟩))).become c (.copy (if ok then .running else .failed))

/-- `OracleWriteFinalize`. -/
def oracleWriteFinalize (w : World Row) (c : ℕ) (ok : Bool) : Option (World Row) :=
  onSession w c (.copy .running) fun s =>
    if ok then (w.commit s).become c (.copy .finalized) else w.become c (.copy .failed)

/-- `OracleExecuteFunction` executes its SQL with `OCI_COMMIT_ON_SUCCESS`. -/
def oracleExecute (w : World Row) (c : ℕ) (ok : Bool) : Option (World Row) :=
  onSession w c (.execute false) fun s =>
    (if ok then w.commit s else w).become c (.execute true)

/-- `OracleTransactionManager::CommitTransaction`. -/
def commitTransaction (w : World Row) (c : ℕ) (ok : Bool) : Option (World Row) :=
  onSession w c (.transaction false) fun s =>
    (if ok then w.commit s else w).become c (.transaction true)

/-- `OracleTransactionManager::RollbackTransaction`. -/
def rollbackTransaction (w : World Row) (c : ℕ) (ok : Bool) : Option (World Row) :=
  onSession w c (.transaction false) fun s =>
    (if ok then w.rollback s else w).become c (.transaction true)

/-- Whether the handle of a statement is up for destruction.  A transaction never
gives its handle back: it stays in the manager's `active` list. -/
def Statement.released : Statement → Bool
  | .copy phase => phase ≠ .running
  | .execute done => done
  | .transaction _ => false

/-- The handle of an ended statement is destroyed. -/
def destroy (w : World Row) (c : ℕ) (woken : Option ℕ) : Option (World Row) :=
  match w.statements[c]?, w.manager.calls[c]? with
  | some statement, some call =>
    match call.phase with
    | .returned h =>
      if statement.released then
        (Connection.step w.manager (.release h woken)).map fun m => { w with manager := m }
      else none
    | _ => none
  | _, _ => none

/-- One step of the whole system, over the pool of the connection string `cs`. -/
def writeStep (cs : String) (w : World Row) : WriteEvent Row → Option (World Row)
  | .startCopy => some (w.acquire cs (.copy .running))
  | .startExecute => some (w.acquire cs (.execute false))
  | .startTransaction => some (w.acquire cs (.transaction false))
  | .pool e => poolStep w e
  | .sink c rows ok => oracleWriteSink w c rows ok
  | .finalize c ok => oracleWriteFinalize w c ok
  | .execute c ok => oracleExecute w c ok
  | .commitTransaction c ok => commitTransaction w c ok
  | .rollbackTransaction c ok => rollbackTransaction w c ok
  | .destroy c woken => destroy w c woken

/-! ## The property and the condition -/

/-- **Every durable row comes from a finalized COPY.** -/
def OnlyFinalized (w : World Row) : Prop :=
  ∀ r ∈ w.durable, w.statements[r.copy]? = some (.copy .finalized)

/-- The session of the statement `c` carries no row of a failed COPY. -/
def Clean (w : World Row) (c : ℕ) : Prop :=
  ∀ s, sessionOf w.manager c = some s →
    ∀ r ∈ w.uncommitted s, w.statements[r.copy]? ≠ some (.copy .failed)

/-- Nothing commits on a session that carries rows of a failed COPY. -/
def CommitsClean (w : World Row) : WriteEvent Row → Prop
  | .finalize c true | .execute c true | .commitTransaction c true => Clean w c
  | _ => True

/-! ## Where uncommitted rows are -/

/-- A row in the open transaction of the session `s` is of a failed COPY, or of a
running one that holds that session. -/
def Pending (w : World Row) (s : ℕ) (r : CopyRow Row) : Prop :=
  w.statements[r.copy]? = some (.copy .failed) ∨
    (w.statements[r.copy]? = some (.copy .running) ∧ sessionOf w.manager r.copy = some s)

/-- The invariant. -/
structure Owned (w : World Row) : Prop where
  accounted : Accounted w.manager
  returned : Returned w.manager
  row : ∀ s, ∀ r ∈ w.uncommitted s, Pending w s r

theorem owned_start : Owned (World.start : World Row) where
  accounted := accounted_initial
  returned := returned_initial
  row _ _ h := absurd h (by simp [World.start])

theorem of_onSession {w w' : World Row} {c : ℕ} {statement : Statement} {f : ℕ → World Row}
    (h : onSession w c statement f = some w') :
    w.statements[c]? = some statement ∧ ∃ s, sessionOf w.manager c = some s ∧ f s = w' := by
  unfold onSession at h
  split at h
  · next hst => exact ⟨hst, Option.map_eq_some_iff.mp h⟩
  · exact absurd h (by simp)

/-- A row stays pending while its COPY and the session of its COPY stay as they are. -/
theorem Pending.of_eq {w w' : World Row} {s : ℕ} {r : CopyRow Row} (h : Pending w s r)
    (hst : w'.statements[r.copy]? = w.statements[r.copy]?)
    (hs : w.statements[r.copy]? = some (.copy .running) → sessionOf w.manager r.copy = some s →
      sessionOf w'.manager r.copy = some s) : Pending w' s r := by
  unfold Pending
  rw [hst]
  rcases h with hfailed | ⟨hrunning, hsession⟩
  · exact Or.inl hfailed
  · exact Or.inr ⟨hrunning, hs hrunning hsession⟩

/-- A row is of a COPY that has not been finalized. -/
theorem Pending.statement {w : World Row} {s : ℕ} {r : CopyRow Row} (h : Pending w s r) :
    ∃ phase, w.statements[r.copy]? = some (.copy phase) ∧ phase ≠ .finalized := by
  rcases h with hfailed | ⟨hrunning, -⟩
  · exact ⟨.failed, hfailed, by simp⟩
  · exact ⟨.running, hrunning, by simp⟩

/-- A row is not of a statement that is no COPY. -/
theorem Pending.copy_ne {w : World Row} {s c : ℕ} {r : CopyRow Row} (h : Pending w s r)
    {statement : Statement} (hc : w.statements[c]? = some statement)
    (hcopy : ∀ phase, statement ≠ .copy phase) : r.copy ≠ c := by
  rintro rfl
  obtain ⟨phase, hphase, -⟩ := h.statement
  rw [hc] at hphase
  exact hcopy phase (Option.some.inj hphase)

/-- A row of a running COPY is in the session of that COPY. -/
theorem Pending.session {w : World Row} {s s' c : ℕ} {r : CopyRow Row} (h : Pending w s r)
    (hc : w.statements[c]? = some (.copy .running)) (hs : sessionOf w.manager c = some s')
    (hr : r.copy = c) : s = s' := by
  subst hr
  rcases h with hfailed | ⟨-, hsession⟩
  · rw [hc] at hfailed
    exact absurd hfailed (by simp)
  · rw [hs] at hsession
    exact (Option.some.inj hsession).symm

/-! ## The manager's steps keep the invariant -/

/-- A step of the manager that takes no session from a running COPY. -/
theorem Owned.manager {w : World Row} (ho : Owned w) {e : Connection.Event}
    {m : OracleConnectionManager} (hstep : Connection.step w.manager e = some m)
    {statements : List Statement}
    (hst : ∀ (c : ℕ) statement, w.statements[c]? = some statement →
      statements[c]? = some statement)
    (hs : ∀ c s, w.statements[c]? = some (.copy .running) → sessionOf w.manager c = some s →
      sessionOf m c = some s) :
    Owned { w with manager := m, statements := statements } where
  accounted := ho.accounted.step hstep
  returned := ho.returned.step (transition_of_step hstep)
  row s r hr := by
    have hpending := ho.row s r hr
    obtain ⟨phase, hphase, -⟩ := hpending.statement
    exact hpending.of_eq ((hst _ _ hphase).trans hphase.symm) (hs r.copy s)

theorem Owned.acquire {w : World Row} (ho : Owned w) (cs : String) (statement : Statement) :
    Owned (w.acquire cs statement) := by
  refine ho.manager (e := .acquire cs {}) rfl (fun c st hc => ?_) fun c s _ hs => ?_
  · exact Tally.getElem?_concat_of hc statement
  · exact (transition_startAcquire w.manager cs {}).sessionOf (by simp) hs

theorem of_poolStep {w w' : World Row} {e : Connection.Event} (h : poolStep w e = some w') :
    (∀ n woken, e ≠ .release n woken) ∧
      ∃ m, Connection.step w.manager e = some m ∧ { w with manager := m } = w' := by
  unfold poolStep at h
  cases e with
  | lock _ | connected _ | connectFailed _ _ | expire _ | spurious _ | late _ =>
    exact ⟨by simp, Option.map_eq_some_iff.mp h⟩
  | _ => exact absurd h (by simp)

theorem Owned.pool {w w' : World Row} (ho : Owned w) {e : Connection.Event}
    (h : poolStep w e = some w') : Owned w' := by
  obtain ⟨hne, m, hstep, rfl⟩ := of_poolStep h
  exact ho.manager hstep (fun _ _ hc => hc)
    fun c s _ hs => (transition_of_step hstep).sessionOf hne hs

theorem of_destroy {w w' : World Row} {c : ℕ} {woken : Option ℕ}
    (h : destroy w c woken = some w') :
    ∃ statement call n m, w.statements[c]? = some statement ∧ statement.released = true ∧
      w.manager.calls[c]? = some call ∧ call.phase = .returned n ∧
      Connection.step w.manager (.release n woken) = some m ∧ { w with manager := m } = w' := by
  unfold destroy at h
  split at h
  · next statement call hst hc =>
    split at h
    · next n hphase =>
      split at h
      · next hreleased =>
        obtain ⟨m, hstep, hw⟩ := Option.map_eq_some_iff.mp h
        exact ⟨statement, call, n, m, hst, hreleased, hc, hphase, hstep, hw⟩
      · exact absurd h (by simp)
    · exact absurd h (by simp)
  · exact absurd h (by simp)

theorem Owned.destroy {w w' : World Row} (ho : Owned w) {c : ℕ} {woken : Option ℕ}
    (h : Write.destroy w c woken = some w') : Owned w' := by
  obtain ⟨statement, call, n, m, hst, hreleased, hc, hphase, hstep, rfl⟩ := of_destroy h
  refine ho.manager hstep (fun _ _ hc => hc) fun c' s hrunning hs => ?_
  -- a COPY whose handle is destroyed is not running
  have hne : c' ≠ c := by
    rintro rfl
    rw [hst] at hrunning
    obtain rfl := Option.some.inj hrunning
    exact absurd hreleased (by simp [Statement.released])
  exact (transition_of_step hstep).sessionOf_release ho.returned hc hphase hne hs

/-! ## The statements' steps keep the invariant -/

@[simp] theorem become_manager (w : World Row) (c : ℕ) (statement : Statement) :
    (w.become c statement).manager = w.manager := rfl

@[simp] theorem become_uncommitted (w : World Row) (c : ℕ) (statement : Statement) :
    (w.become c statement).uncommitted = w.uncommitted := rfl

@[simp] theorem become_durable (w : World Row) (c : ℕ) (statement : Statement) :
    (w.become c statement).durable = w.durable := rfl

theorem mem_insert {w : World Row} {s s' : ℕ} {rows : List (CopyRow Row)} {r : CopyRow Row} :
    r ∈ (w.insert s rows).uncommitted s' ↔ r ∈ w.uncommitted s' ∨ s' = s ∧ r ∈ rows := by
  unfold World.insert
  by_cases hs : s' = s
  · subst hs
    simp
  · simp [hs]

theorem mem_rollback {w : World Row} {s s' : ℕ} {r : CopyRow Row} :
    r ∈ (w.rollback s).uncommitted s' ↔ s' ≠ s ∧ r ∈ w.uncommitted s' := by
  unfold World.rollback
  by_cases hs : s' = s
  · subst hs
    simp
  · simp [hs]

theorem become_statement_ne (w : World Row) {c c' : ℕ} (statement : Statement) (h : c' ≠ c) :
    (w.become c statement).statements[c']? = w.statements[c']? :=
  Tally.getElem?_set_of_ne h statement

theorem become_statement {w : World Row} {c : ℕ} {old : Statement}
    (h : w.statements[c]? = some old) (statement : Statement) :
    (w.become c statement).statements[c]? = some statement :=
  Tally.getElem?_set_of h statement

/-- The manager stays, and the rows are pending again. -/
theorem Owned.of_rows {w w' : World Row} (ho : Owned w) (hm : w'.manager = w.manager)
    (hrow : ∀ s, ∀ r ∈ w'.uncommitted s, Pending w' s r) : Owned w' where
  accounted := hm ▸ ho.accounted
  returned := hm ▸ ho.returned
  row := hrow

/-- A running COPY goes on, or fails: its rows stay pending. -/
theorem Pending.become_copy {w w' : World Row} {s c : ℕ} {r : CopyRow Row}
    (h : Pending w s r) (hc : w.statements[c]? = some (.copy .running))
    (hst : w'.statements = w.statements) (hm : w'.manager = w.manager) (ok : Bool) :
    Pending (w'.become c (.copy (if ok then .running else .failed))) s r := by
  by_cases hr : r.copy = c
  · subst hr
    have hnew := become_statement (w := w') (hst ▸ hc) (.copy (if ok then .running else .failed))
    rcases h with hfailed | ⟨-, hsession⟩
    · rw [hc] at hfailed
      exact absurd hfailed (by simp)
    · cases ok with
      | true => exact Or.inr ⟨hnew, by rw [become_manager, hm]; exact hsession⟩
      | false => exact Or.inl hnew
  · refine h.of_eq ?_ fun _ hs => by rw [become_manager, hm]; exact hs
    rw [become_statement_ne w' _ hr, hst]

theorem Owned.sink {w w' : World Row} (ho : Owned w) {c : ℕ} {rows : List Row} {ok : Bool}
    (h : oracleWriteSink w c rows ok = some w') : Owned w' := by
  obtain ⟨hc, s, hs, rfl⟩ := of_onSession h
  refine ho.of_rows rfl fun s' r hr => ?_
  rw [become_uncommitted, mem_insert] at hr
  have hpending : Pending w s' r := by
    rcases hr with hold | ⟨rfl, hnew⟩
    · exact ho.row s' r hold
    · obtain ⟨row, -, rfl⟩ := List.mem_map.mp hnew
      exact Or.inr ⟨hc, hs⟩
  exact hpending.become_copy hc rfl rfl ok

theorem Owned.finalize {w w' : World Row} (ho : Owned w) {c : ℕ} {ok : Bool}
    (h : oracleWriteFinalize w c ok = some w') : Owned w' := by
  obtain ⟨hc, s, hs, rfl⟩ := of_onSession h
  cases ok with
  | true =>
    refine ho.of_rows rfl fun s' r hr => ?_
    obtain ⟨hss, hmem⟩ := mem_rollback.mp hr
    have hpending := ho.row s' r hmem
    -- the session of the COPY is empty now, and no other one has its rows
    have hne : r.copy ≠ c := fun hr => hss (hpending.session hc hs hr)
    exact hpending.of_eq (become_statement_ne _ _ hne) fun _ hs => hs
  | false =>
    refine ho.of_rows rfl fun s' r hr => ?_
    exact (ho.row s' r hr).become_copy hc rfl rfl false

/-- A statement that is no COPY ends: the rows of COPY statements in its session
stay, or go. -/
theorem Owned.other {w w' : World Row} (ho : Owned w) {c : ℕ} {old new : Statement}
    (hc : w.statements[c]? = some old) (hcopy : ∀ phase, old ≠ .copy phase)
    (hst : w'.statements = w.statements) (hm : w'.manager = w.manager)
    (hrows : ∀ s, ∀ r ∈ w'.uncommitted s, r ∈ w.uncommitted s) : Owned (w'.become c new) := by
  refine ho.of_rows hm fun s r hr => ?_
  have hpending := ho.row s r (hrows s r hr)
  have hne := hpending.copy_ne hc hcopy
  refine hpending.of_eq ?_ fun _ hs => by rw [become_manager, hm]; exact hs
  rw [become_statement_ne w' new hne, hst]

theorem rows_commit {w : World Row} {s s' : ℕ} {r : CopyRow Row} (ok : Bool)
    (h : r ∈ (if ok then w.commit s else w).uncommitted s') : r ∈ w.uncommitted s' := by
  cases ok with
  | true => exact (mem_rollback.mp h).2
  | false => exact h

/-- **Every step keeps the invariant.** -/
theorem Owned.step {cs : String} {w w' : World Row} {e : WriteEvent Row} (ho : Owned w)
    (h : writeStep cs w e = some w') : Owned w' := by
  cases e with
  | startCopy => exact Option.some.inj h ▸ ho.acquire cs _
  | startExecute => exact Option.some.inj h ▸ ho.acquire cs _
  | startTransaction => exact Option.some.inj h ▸ ho.acquire cs _
  | pool e => exact ho.pool h
  | sink c rows ok => exact ho.sink h
  | finalize c ok => exact ho.finalize h
  | execute c ok =>
    obtain ⟨hc, s, -, rfl⟩ := of_onSession h
    exact ho.other hc (by simp) (by cases ok <;> rfl) (by cases ok <;> rfl)
      fun s' r hr => rows_commit ok hr
  | commitTransaction c ok =>
    obtain ⟨hc, s, -, rfl⟩ := of_onSession h
    exact ho.other hc (by simp) (by cases ok <;> rfl) (by cases ok <;> rfl)
      fun s' r hr => rows_commit ok hr
  | rollbackTransaction c ok =>
    obtain ⟨hc, s, -, rfl⟩ := of_onSession h
    refine ho.other hc (by simp) (by cases ok <;> rfl) (by cases ok <;> rfl) fun s' r hr => ?_
    cases ok with
    | true => exact (mem_rollback.mp hr).2
    | false => exact hr
  | destroy c woken => exact ho.destroy h

/-! ## When a step keeps the property -/

/-- A step that makes nothing durable and leaves the finalized COPY statements. -/
theorem OnlyFinalized.of_durable {w w' : World Row} (hq : OnlyFinalized w)
    (hd : w'.durable = w.durable)
    (hst : ∀ c : ℕ, w.statements[c]? = some (.copy .finalized) →
      w'.statements[c]? = some (.copy .finalized)) : OnlyFinalized w' := by
  intro r hr
  rw [hd] at hr
  exact hst r.copy (hq r hr)

/-- A statement that is not a finalized COPY moves on. -/
theorem OnlyFinalized.become {w w' : World Row} (hq : OnlyFinalized w) {c : ℕ}
    {old new : Statement} (hc : w.statements[c]? = some old) (hold : old ≠ .copy .finalized)
    (hst : w'.statements = w.statements) (hd : w'.durable = w.durable) :
    OnlyFinalized (w'.become c new) := by
  refine hq.of_durable hd fun c' hc' => ?_
  have hne : c' ≠ c := by
    rintro rfl
    rw [hc] at hc'
    exact hold (Option.some.inj hc')
  rw [become_statement_ne w' new hne, hst, hc']

/-- **What a commit makes durable**: rows of failed COPY statements, if the session
carries any, and otherwise rows of the statement that commits. -/
theorem onlyFinalized_commit_iff {w : World Row} (ho : Owned w) (hq : OnlyFinalized w)
    {c s : ℕ} {old new : Statement} (hc : w.statements[c]? = some old)
    (hs : sessionOf w.manager c = some s)
    (hnew : (old = .copy .running ∧ new = .copy .finalized) ∨
      (∀ phase, old ≠ .copy phase) ∧ ∀ phase, new ≠ .copy phase) :
    OnlyFinalized ((w.commit s).become c new) ↔ Clean w c := by
  have hne_old : old ≠ .copy .finalized := by
    rcases hnew with ⟨rfl, -⟩ | ⟨hcopy, -⟩
    · simp
    · exact hcopy .finalized
  constructor
  · intro hdurable s' hs' r hr hfailed
    rw [hs] at hs'
    obtain rfl := Option.some.inj hs'
    have hfinal := hdurable r (List.mem_append_right w.durable hr)
    by_cases hrc : r.copy = c
    · rw [hrc, hc] at hfailed
      rcases hnew with ⟨rfl, -⟩ | ⟨hcopy, -⟩
      · exact absurd hfailed (by simp)
      · exact hcopy _ (Option.some.inj hfailed)
    · rw [become_statement_ne _ _ hrc] at hfinal
      exact absurd (hfailed.symm.trans hfinal) (by simp)
  · intro hclean r hr
    rcases List.mem_append.mp hr with hold | hrow
    · have hfinal := hq r hold
      have hrc : r.copy ≠ c := fun hrc => hne_old (by
        rw [hrc, hc] at hfinal
        exact Option.some.inj hfinal)
      rw [become_statement_ne _ _ hrc]
      exact hfinal
    · rcases ho.row s r hrow with hfailed | ⟨hrunning, hsession⟩
      · exact absurd hfailed (hclean s hs r hrow)
      -- the session is held by one statement only, so the row is its own
      · have hrc := sessionOf_unique ho.accounted.placed ho.returned hsession hs
        rw [hrc]
        rw [hrc, hc] at hrunning
        rcases hnew with ⟨-, rfl⟩ | ⟨hcopy, -⟩
        · exact become_statement hc _
        · exact absurd (Option.some.inj hrunning) (hcopy .running)

theorem onlyFinalized_step_iff {cs : String} {w w' : World Row} {e : WriteEvent Row}
    (ho : Owned w) (hq : OnlyFinalized w) (h : writeStep cs w e = some w') :
    OnlyFinalized w' ↔ CommitsClean w e := by
  -- a step that commits nothing meets both sides
  have hquiet : OnlyFinalized w' → CommitsClean w e → (OnlyFinalized w' ↔ CommitsClean w e) :=
    fun hq' hG => ⟨fun _ => hG, fun _ => hq'⟩
  have hacquire : ∀ statement, w.acquire cs statement = w' → OnlyFinalized w' := by
    rintro statement rfl
    exact hq.of_durable rfl fun c hc => Tally.getElem?_concat_of hc statement
  cases e with
  | startCopy => exact hquiet (hacquire _ (Option.some.inj h)) trivial
  | startExecute => exact hquiet (hacquire _ (Option.some.inj h)) trivial
  | startTransaction => exact hquiet (hacquire _ (Option.some.inj h)) trivial
  | pool e =>
    obtain ⟨-, m, -, rfl⟩ := of_poolStep h
    exact hquiet (hq.of_durable rfl fun _ hc => hc) trivial
  | sink c rows ok =>
    obtain ⟨hc, s, -, rfl⟩ := of_onSession h
    exact hquiet (hq.become hc (by simp) rfl rfl) trivial
  | finalize c ok =>
    obtain ⟨hc, s, hs, rfl⟩ := of_onSession h
    cases ok with
    | true => exact onlyFinalized_commit_iff ho hq hc hs (Or.inl ⟨rfl, rfl⟩)
    | false => exact hquiet (hq.become hc (by simp) rfl rfl) trivial
  | execute c ok =>
    obtain ⟨hc, s, hs, rfl⟩ := of_onSession h
    cases ok with
    | true => exact onlyFinalized_commit_iff ho hq hc hs (Or.inr ⟨by simp, by simp⟩)
    | false => exact hquiet (hq.become hc (by simp) rfl rfl) trivial
  | commitTransaction c ok =>
    obtain ⟨hc, s, hs, rfl⟩ := of_onSession h
    cases ok with
    | true => exact onlyFinalized_commit_iff ho hq hc hs (Or.inr ⟨by simp, by simp⟩)
    | false => exact hquiet (hq.become hc (by simp) rfl rfl) trivial
  | rollbackTransaction c ok =>
    obtain ⟨hc, s, -, rfl⟩ := of_onSession h
    refine hquiet (hq.become hc (by simp) ?_ ?_) trivial <;> cases ok <;> rfl
  | destroy c woken =>
    obtain ⟨-, -, -, m, -, -, -, -, -, rfl⟩ := of_destroy h
    exact hquiet (hq.of_durable rfl fun _ hc => hc) trivial

/-! ## Runs -/

/-- **Which runs are all or nothing.**  In every state of a run all durable rows are
of COPY statements that have been finalized exactly if no commit of the run hits a
session that carries rows of a failed COPY. -/
theorem only_finalized_iff {cs : String} {es : List (WriteEvent Row)} {w : World Row}
    (h : run (writeStep cs) World.start es = some w) :
    (∀ t, Reached (writeStep cs) World.start es t → OnlyFinalized t) ↔
      Guarded (writeStep cs) CommitsClean World.start es :=
  guarded_iff_reached (I := Owned) (Q := OnlyFinalized)
    (fun _ _ _ ho hstep => ho.step hstep)
    (fun _ _ _ ho hq hstep => onlyFinalized_step_iff ho hq hstep) owned_start
    (fun _ hr => absurd hr (by simp [World.start])) h

/-- A COPY inserts `rows` in one Sink call each and its end is `ending`. -/
def copyRun (rows : List Row) (ending : List (WriteEvent Row)) : List (WriteEvent Row) :=
  [.startCopy, .pool (.lock 0), .pool (.connected 0)] ++
    rows.map (fun row => .sink 0 [row] true) ++ ending

/-- A COPY that is finalized, and then `oracle_execute` on its session. -/
theorem only_finalized_copyRun :
    (∀ t, Reached (writeStep "scott/tiger@db") World.start
      (copyRun ["a", "b"] [.finalize 0 true, .destroy 0 none, .startExecute,
        .pool (.lock 1), .execute 1 true]) t → OnlyFinalized t) ↔
      Guarded (writeStep "scott/tiger@db") CommitsClean World.start
        (copyRun ["a", "b"] [.finalize 0 true, .destroy 0 none, .startExecute,
          .pool (.lock 1), .execute 1 true]) :=
  only_finalized_iff (w := _) rfl

/-- **Rows of a failed COPY become durable.**  A Sink call inserts a row, the next
one throws, the handle is destroyed, and `oracle_execute` gets the session. -/
theorem failedCopy_durable :
    ∃ w, run (writeStep "scott/tiger@db") World.start
        (copyRun ["a"] [.sink 0 [] false, .destroy 0 none, .startExecute, .pool (.lock 1),
          .execute 1 true]) = some w ∧ ¬ OnlyFinalized w := by
  refine ⟨_, rfl, fun hall => ?_⟩
  have hrow := hall ⟨0, "a"⟩ (by decide)
  exact absurd hrow (by decide)

end Write
end DuckdbOracle
