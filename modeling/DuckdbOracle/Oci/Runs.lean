import Mathlib.Algebra.Order.BigOperators.Group.Multiset
import Mathlib.Tactic.Ring
import DuckdbOracle.Oci.Steps

/-!
# Runs of the extension on OCI

Any operations, in any order, with any call of OCI failing at any time: `runOps_returns` says that
they stay within all contracts and keep the invariant, and counts the statements that are left.

What is read off it is about whole runs.  `handles_of_run` counts the handles of every kind;
`sessions_of_run` says what stands behind a handle of the pool, and behind a session that waits in
one; `rows_of_run` says which rows a scan returns, whatever else is done meanwhile, and
`answers_of_run` what a statement returns that is freed at once; `shutdown_of_run` says what is
still allocated when the extension is unloaded.
-/

namespace DuckdbOracle
namespace Oci

open HandleTable Programs SlotSum

section Runs

variable (server : String → Answer) (affected : String → Catalog.StatementType × ℕ)
  {l : Ledger} {s : System}

/-- **Every operation** keeps the invariant, whatever it throws. -/
theorem program_ends (h : Inv l s) (op : Op) :
    Ends (op.program server affected) s fun r s' => Stepped server affected l s op r s' := by
  have hmanager : ∀ {op : Op} {x : Program System IOException Unit},
      Ends x s (fun _ s' => Steps server l s s') → (∀ e, op.leaves e = false) →
      (∀ reply, s.Answers server affected op reply) →
      Ends (silent x) s fun r s' => Stepped server affected l s op r s' :=
    fun hx hleaves => silent_stepped (hx.mono fun r _ hs' => hs'.counts r hleaves)
  cases op with
  | acquire cs settings =>
    exact hmanager (event_ends h (.acquire cs settings) nofun nofun nofun) (fun _ => rfl)
      fun _ => trivial
  | lock c => exact hmanager (lock_ends h c) (fun _ => rfl) fun _ => trivial
  | connect c woken => exact silent_stepped (connect_ends h c woken) fun _ => trivial
  | expire c =>
    exact hmanager (event_ends h (.expire c) nofun nofun nofun) (fun _ => rfl) fun _ => trivial
  | spurious c =>
    exact hmanager (event_ends h (.spurious c) nofun nofun nofun) (fun _ => rfl) fun _ => trivial
  | late c =>
    exact hmanager (event_ends h (.late c) nofun nofun nofun) (fun _ => rfl) fun _ => trivial
  | release i woken => exact hmanager (release_ends h i woken) (fun _ => rfl) fun _ => trivial
  | clear => exact hmanager (event_ends h .clear nofun nofun nofun) (fun _ => rfl) fun _ => trivial
  | query i sql =>
    refine onSession_stepped h i (fun ctx hctx => query_ends hctx rfl) (fun _ => rfl) (fun _ => rfl)
      (fun hdead => (ifAlive_of_dead _ hdead).symm) fun handle a hh ha => ?_
    rw [ha]
    exact (ifAlive_of_alive _ hh).symm
  | transaction i msg =>
    refine onSession_stepped h i (P := fun _ => True) (fun ctx hctx => ?_) (fun _ => rfl)
      (fun _ => rfl) (fun _ => trivial) fun _ _ _ _ => trivial
    exact (transaction_ends hctx rfl).mono fun _ _ hw => ⟨hw, fun _ _ => trivial⟩
  | execute i sql =>
    refine onSession_stepped h i (fun ctx hctx => executeStatement_ends hctx rfl) (fun _ => rfl)
      (fun _ => rfl) (fun hdead => (ifAlive_of_dead _ hdead).symm) fun handle a hh ha => ?_
    rw [ha]
    exact (ifAlive_of_alive _ hh).symm
  | bind i cs settings sql =>
    refine onSession_stepped h i (fun ctx hctx => bindStatement_ends hctx rfl) (fun _ => rfl)
      (fun _ => rfl) (fun hdead => (ifAlive_of_dead _ hdead).symm) fun handle a hh ha => ?_
    rw [ha]
    exact (ifAlive_of_alive _ hh).symm
  | openScan i data => exact openScan_ends h i data
  | scanNext c => exact scanNext_ends h c
  | openCopy i sql => exact openCopy_ends h i sql
  | sink c rebinds => exact sink_ends h c rebinds
  | close c => exact close_ends h c

/-- **What one operation keeps, a run keeps.** -/
theorem runOps_returns (h : Inv l s) (ops : List Op) :
    Returns (runOps server affected ops) s fun outcomes s' => ∃ l', Inv l' s' ∧
      l'.left.card = l.left.card + outcomes.countP leaks ∧
      ∀ c, Turns server c outcomes (l.feed server s c) (l'.feed server s' c) := by
  induction ops generalizing l s with
  | nil => exact returns_pure.mpr ⟨l, h, rfl, fun _ => Turns.nil⟩
  | cons op ops ih =>
    refine returns_bind.mpr (Returns.mono (program_ends server affected h op) fun r s₁ h₁ => ?_)
    obtain ⟨l₁, hinv, hcard, hturn, -⟩ := h₁
    refine returns_bind.mpr ((ih hinv).mono fun outcomes s' hs' => returns_pure.mpr ?_)
    obtain ⟨l', hinv', hcard', hturns⟩ := hs'
    refine ⟨l', hinv', ?_, fun c => Turns.cons (hturn c) (hturns c)⟩
    have hleaks : (if leaks (op, r) then 1 else 0) = op.left r := by
      cases r <;> rfl
    rw [hcard', hcard, List.countP_cons, hleaks]
    omega

/-- The ledger of the start. -/
def Ledger.initial : Ledger where
  left := 0
  credentials := fun _ => ⟨"", "", ""⟩
  idle := fun _ => false
  phase := fun _ => .allocated

theorem inv_initial (statuses : List Status) : Inv Ledger.initial (System.initial statuses) where
  accounted := Connection.accounted_initial
  granted := Connection.granted_initial
  owns := ⟨rfl, nofun, nofun, nofun⟩
  places := ⟨rfl, nofun, fun _ _ ⟨_, hp, _⟩ => (nomatch hp), nofun, nofun⟩
  dropped := fun _ _ ⟨_, hp, _⟩ => nomatch hp

/-- A run from the start ends in a state of the invariant, whose ledger has a statement for each
exception that leaves one. -/
theorem inv_of_run (ops : List Op) (statuses : List Status) :
    ∃ outcomes s, runOps server affected ops (System.initial statuses) = some (outcomes, s) ∧
      ∃ l, Inv l s ∧ l.left.card = outcomes.countP leaks ∧
        ∀ c, Turns server c outcomes none (l.feed server s c) := by
  obtain ⟨outcomes, s, hrun, l, hinv, hcard, hturns⟩ :=
    runOps_returns server affected (inv_initial statuses) ops
  refine ⟨outcomes, s, hrun, l, hinv, ?_, hturns⟩
  rw [hcard]
  exact Nat.zero_add _

end Runs

/-! ## How many handles there are -/

/-- The number of handles of a kind. -/
def World.count (w : World) (kind : Handle → Bool) : ℕ :=
  w.table.entries.countP fun e => kind e.2

section Count

variable {l : Ledger} {s : System}

/-- The handles of a kind in a sum. -/
def countHandles (kind : Handle → Bool) : Handles →+ ℕ :=
  Multiset.countPAddMonoidHom fun e => kind e.2 = true

theorem countHandles_eq (kind : Handle → Bool) (h : Handles) :
    countHandles kind h = Multiset.countP (fun e => kind e.2 = true) h := rfl

theorem count_eq (w : World) (kind : Handle → Bool) :
    w.count kind = countHandles kind w.table.owned := by
  rw [countHandles_eq]
  refine Eq.trans ?_ (Multiset.coe_countP (fun e : ℕ × Handle => kind e.2 = true) _).symm
  exact List.countP_congr fun e _ => by simp

theorem countHandles_singleton (kind : Handle → Bool) (n : ℕ) (k : Handle) :
    countHandles kind {(n, k)} = if kind k then 1 else 0 := by
  rw [countHandles_eq, ← Multiset.cons_zero, Multiset.countP_cons, Multiset.countP_zero, zero_add]

theorem countHandles_entry (kind : Handle → Bool) {p : Pointer} (hp : p.isSome = true)
    (k : Handle) : countHandles kind (entry p k) = if kind k then 1 else 0 := by
  obtain ⟨n, rfl⟩ := Option.isSome_iff_exists.mp hp
  exact countHandles_singleton kind n k

/-- How many handles of a kind a session has. -/
def perSession (kind : Handle → Bool) : ℕ :=
  (if kind .error then 1 else 0) + (if kind (.server (some "")) then 1 else 0) +
    (if kind (.service none none false) then 1 else 0) +
    if kind (.session none none true) then 1 else 0

/-- A property of the kind of a handle only. -/
structure IsKind (kind : Handle → Bool) : Prop where
  server : ∀ a b, kind (.server a) = kind (.server b)
  service : ∀ a b c a' b' c', kind (.service a b c) = kind (.service a' b' c')
  session : ∀ a b c a' b' c', kind (.session a b c) = kind (.session a' b' c')
  statement : ∀ a b, kind (.statement a) = kind (.statement b)

theorem count_session {kind : Handle → Bool} (hkind : IsKind kind) {id : ℕ} {ctx : OracleContext}
    (h : Whole ctx) : countHandles kind (l.session id ctx) = perSession kind := by
  obtain ⟨-, herr, hsrv, hsvc, hauth, -, -⟩ := h
  unfold Ledger.session OracleContext.handles perSession
  rw [map_add, map_add, map_add, countHandles_entry kind herr, countHandles_entry kind hsrv,
    countHandles_entry kind hsvc, countHandles_entry kind hauth, hkind.server _ (some ""),
    hkind.service _ _ _ none none false, hkind.session _ _ _ none none true]

/-- The handles of a kind: of the environment, of the sessions, and the statements. -/
theorem Owns.count (h : Owns l s) {kind : Handle → Bool} (hkind : IsKind kind) :
    s.world.count kind = (if kind .env then 1 else 0) +
      live s.contexts * perSession kind +
      (live s.cursors + l.left.card) * if kind (.statement .allocated) then 1 else 0 := by
  have hsessions : slotSum s.contexts (fun id ctx => countHandles kind (l.session id ctx)) =
      live s.contexts * perSession kind := by
    rw [← slotSum_const]
    exact slotSum_congr fun id ctx hctx => count_session hkind (h.whole id ctx hctx)
  have hstatements : slotSum s.cursors (fun c cursor => countHandles kind (l.statement c cursor)) =
      live s.cursors * if kind (.statement .allocated) then 1 else 0 := by
    rw [← slotSum_const]
    refine slotSum_congr fun c cursor hc => ?_
    unfold Ledger.statement
    rw [countHandles_entry kind (h.statement c cursor hc).stmthp, hkind.statement _ .allocated]
  have hleft : countHandles kind l.left =
      l.left.card * if kind (.statement .allocated) then 1 else 0 := by
    have hall : ∀ e ∈ l.left, (kind e.2 = true) = (kind (.statement .allocated) = true) := by
      intro e he
      obtain ⟨phase, hphase, -⟩ := h.left e he
      rw [hphase, hkind.statement _ .allocated]
    rw [countHandles_eq, Multiset.countP_congr rfl hall]
    cases kind (.statement .allocated) with
    | true => simp
    | false => simp
  rw [count_eq, h.owned]
  unfold Ledger.total
  rw [map_add, map_add, map_add, map_slotSum, map_slotSum, hsessions, hstatements, hleft,
    countHandles_singleton]
  ring

end Count

/-! ## Whole runs -/

section Results

variable (server : String → Answer) (affected : String → Catalog.StatementType × ℕ)

/-- **Every run stays within the contracts of OCI, and loses no handle.**  Whatever operations are
run, in whatever order, and whatever calls fail in them: none is made outside its contract, and at
the end there are the environment, four handles for each session that the manager still has, one
statement for each open scan and `COPY`, and one for each exception that leaves one. -/
theorem handles_of_run (ops : List Op) (statuses : List Status) :
    ∃ outcomes s, runOps server affected ops (System.initial statuses) = some (outcomes, s) ∧
      s.world.count Handle.isEnv = 1 ∧
      s.world.count Handle.isError = live s.contexts ∧
      s.world.count Handle.isServer = live s.contexts ∧
      s.world.count Handle.isService = live s.contexts ∧
      s.world.count Handle.isSession = live s.contexts ∧
      s.world.count Handle.isStatement = live s.cursors + outcomes.countP leaks := by
  obtain ⟨outcomes, s, hrun, l, hinv, hcard, -⟩ := inv_of_run server affected ops statuses
  have hcount : ∀ {kind : Handle → Bool}, IsKind kind → _ := fun hkind => hinv.owns.count hkind
  have hsame : ∀ n : ℕ, 0 + live s.contexts * 1 + n * 0 = live s.contexts := fun n => by omega
  refine ⟨outcomes, s, hrun, ?_, ?_, ?_, ?_, ?_, ?_⟩
  · exact (hcount ⟨fun _ _ => rfl, fun _ _ _ _ _ _ => rfl, fun _ _ _ _ _ _ => rfl,
      fun _ _ => rfl⟩).trans (show 1 + live s.contexts * 0 + _ * 0 = 1 by omega)
  · exact (hcount ⟨fun _ _ => rfl, fun _ _ _ _ _ _ => rfl, fun _ _ _ _ _ _ => rfl,
      fun _ _ => rfl⟩).trans (hsame _)
  · exact (hcount ⟨fun _ _ => rfl, fun _ _ _ _ _ _ => rfl, fun _ _ _ _ _ _ => rfl,
      fun _ _ => rfl⟩).trans (hsame _)
  · exact (hcount ⟨fun _ _ => rfl, fun _ _ _ _ _ _ => rfl, fun _ _ _ _ _ _ => rfl,
      fun _ _ => rfl⟩).trans (hsame _)
  · exact (hcount ⟨fun _ _ => rfl, fun _ _ _ _ _ _ => rfl, fun _ _ _ _ _ _ => rfl,
      fun _ _ => rfl⟩).trans (hsame _)
  · refine (hcount ⟨fun _ _ => rfl, fun _ _ _ _ _ _ => rfl, fun _ _ _ _ _ _ => rfl,
      fun _ _ => rfl⟩).trans ?_
    rw [hcard]
    show 0 + live s.contexts * 0 + (live s.cursors + outcomes.countP leaks) * 1 = _
    omega

/-- The session is logged on as the connection string says, and in use or idle. -/
def LoggedOnAs (s : System) (id : ℕ) (connectionString : String) (idle : Bool) : Prop :=
  ∃ (ctx : OracleContext) (credentials : Connection.OracleCredentials) (svc srv auth : ℕ),
    s.contexts[id]? = some (some ctx) ∧ ctx.svchp = some svc ∧
    Connection.parseOracleConnectionString connectionString = .ok credentials ∧
    (svc, Handle.service (some srv) (some auth) idle) ∈ s.world.table.owned ∧
    (srv, Handle.server (some credentials.db)) ∈ s.world.table.owned ∧
    (auth, Handle.session (some credentials.user) (some credentials.password) true) ∈
      s.world.table.owned

theorem Owns.loggedOnAs {l : Ledger} {s : System} (h : Owns l s) {id : ℕ} {ctx : OracleContext}
    {cs : String} (hctx : s.contexts[id]? = some (some ctx))
    (hparse : Connection.parseOracleConnectionString cs = .ok (l.credentials id)) :
    LoggedOnAs s id cs (l.idle id) := by
  obtain ⟨-, -, hsrv, hsvc, hauth, -, -⟩ := h.whole id ctx hctx
  obtain ⟨srv, hsrv⟩ := Option.isSome_iff_exists.mp hsrv
  obtain ⟨svc, hsvc⟩ := Option.isSome_iff_exists.mp hsvc
  obtain ⟨auth, hauth⟩ := Option.isSome_iff_exists.mp hauth
  refine ⟨ctx, l.credentials id, svc, srv, auth, hctx, hsvc, hparse, ?_⟩
  rw [h.owned, total_session hctx]
  unfold Ledger.session OracleContext.handles OracleContext.loggedOn
  rw [hsrv, hsvc, hauth]
  simp

/-- **Whose session a handle is.**  In every state a run reaches: a call of `Acquire` that has
returned a handle has a session in use that is logged on with the user, the password and the
database of that call's own connection string; a session that waits in a pool is logged on with
those of the pool, is marked idle, and no statement has a cursor on it; and a session of a pool
object that nothing keeps is gone. -/
theorem sessions_of_run (ops : List Op) (statuses : List Status) :
    ∃ outcomes s, runOps server affected ops (System.initial statuses) = some (outcomes, s) ∧
      (∀ call ∈ s.manager.calls, ∀ h, call.phase = .returned h →
        ∀ handle, s.manager.handles[h]? = some (some handle) →
          LoggedOnAs s handle.ctx.id call.connectionString false) ∧
      (∀ (p : ℕ) pool, s.manager.objects[p]? = some pool → ∀ session ∈ pool.idle,
        if Connection.referenced s.manager p then
          LoggedOnAs s session.id pool.key true ∧
            ∀ ctx svc, s.contexts[session.id]? = some (some ctx) → ctx.svchp = some svc →
              s.world.quiet svc = true
        else s.contexts[session.id]? = some none) := by
  obtain ⟨outcomes, s, hrun, l, hinv, -⟩ := inv_of_run server affected ops statuses
  refine ⟨outcomes, s, hrun, fun call hcall h hphase handle hh => ?_,
    fun p pool hp session hmem => ?_⟩
  · obtain ⟨⟨ctx, hctx⟩, hidle, hparse⟩ := hinv.places.held handle (List.mem_of_getElem? hh)
    rw [(hinv.granted call hcall h hphase).2 handle hh] at hparse
    have hlogged := hinv.owns.loggedOnAs hctx hparse
    rwa [hidle] at hlogged
  · have hidle : Connection.IsIdle s.manager p session := ⟨pool, hp, hmem⟩
    obtain ⟨hthere, hmark, hparse⟩ := hinv.places.idle p session hidle
    split
    · next href =>
      obtain ⟨ctx, hctx⟩ := hthere ((Connection.referenced_iff hinv.accounted.keyed).mp href)
      rw [hinv.accounted.keyed.idle p pool hp session hmem] at hparse
      have hlogged := hinv.owns.loggedOnAs hctx hparse
      rw [hmark] at hlogged
      refine ⟨hlogged, fun ctx' svc hctx' hsvc => ?_⟩
      refine hinv.quiet hctx' hsvc fun c cursor handle _ hhandle heq => ?_
      exact hinv.accounted.placed.not_idle (List.mem_of_getElem? hhandle) hidle heq.symm
    · next href =>
      exact hinv.dropped p session hidle fun h =>
        href ((Connection.referenced_iff hinv.accounted.keyed).mpr h)

/-- **Every scan gets its own rows.**  In every run of operations in any order, on any sessions and
whatever fails, the batches that a scan returns are rows of its query, each row once and in order.
If OCI counts the rows of each of its fetches, they are the rows from the first on, and all of them
when the scan has returned an empty batch. -/
theorem rows_of_run (ops : List Op) (statuses : List Status) :
    ∃ outcomes s, runOps server affected ops (System.initial statuses) = some (outcomes, s) ∧
      ∀ i data c, (.openScan i data, .ok (.opened c)) ∈ outcomes →
        (batches c outcomes).flatten.Sublist (server data.query).rows ∧
          ((∀ o ∈ outcomes, loses c o = false) →
            (batches c outcomes).flatten <+: (server data.query).rows ∧
              ([] ∈ batches c outcomes →
                (batches c outcomes).flatten = (server data.query).rows)) := by
  obtain ⟨outcomes, s, hrun, l, -, -, hturns⟩ := inv_of_run server affected ops statuses
  exact ⟨outcomes, s, hrun, fun i data c hmem =>
    ⟨(hturns c).opened hmem, (hturns c).opened_counted hmem⟩⟩

/-- **What is returned is what the server has to say.**  After every run, a query, an execution or
a bind on a handle that is alive throws or returns the whole answer of the server to its own
statement, and only a handle that is not alive gets no answer. -/
theorem answers_of_run (ops : List Op) (statuses : List Status) (op : Op) :
    ∃ outcomes s, runOps server affected ops (System.initial statuses) = some (outcomes, s) ∧
      Ends (op.program server affected) s fun r _ =>
        ∀ reply, r = .ok reply → s.Answers server affected op reply := by
  obtain ⟨outcomes, s, hrun, l, hinv, -⟩ := inv_of_run server affected ops statuses
  refine ⟨outcomes, s, hrun, (program_ends server affected hinv op).mono fun r s' hs' => ?_⟩
  obtain ⟨-, -, -, -, hreply⟩ := hs'
  exact hreply

/-- Nobody holds a session, and no call of `Acquire` works on a pool. -/
def AtRest (m : Connection.OracleConnectionManager) : Prop :=
  (∀ handle, some handle ∉ m.handles) ∧ ∀ call ∈ m.calls, call.phase.pool? = none

/-- **The end.**  If nobody holds a session when the extension is unloaded, every session is ended
and every handle freed, the environment last; what is left is one statement for each exception
that leaves one. -/
theorem shutdown_of_run (ops : List Op) (statuses : List Status) (outcomes : List Outcome)
    (s : System) (hrun : runOps server affected ops (System.initial statuses) = some (outcomes, s))
    (hrest : AtRest s.manager) :
    ∃ s', shutdown s = some ((), s') ∧
      s'.world.table.entries.length = outcomes.countP leaks ∧
      ∀ e ∈ s'.world.table.entries, e.2.isStatement = true ∧ e.2.isExecuted = false := by
  obtain ⟨outcomes', s₁, hrun', l, hinv, hcard, -⟩ := inv_of_run server affected ops statuses
  rw [hrun] at hrun'
  obtain ⟨rfl, rfl⟩ := Prod.mk.inj (Option.some.inj hrun')
  obtain ⟨hhandles, hcalls⟩ := hrest
  have ht : Connection.Transition s.manager .clear (Connection.clear s.manager) :=
    Connection.Transition.cleared
  have hsettle := returns_settle (hinv.accounted.step (e := .clear) rfl)
    (hinv.granted.step hinv.accounted.keyed ht) hinv.owns
    (hinv.places.still ht (ht.move.isStill nofun nofun nofun))
  have hend : Returns shutdown s fun _ s' =>
      s'.world.table.owned = l.left := by
    unfold shutdown
    refine returns_bind.mpr (returns_get.mpr (returns_bind.mpr (hsettle.mono fun _ s₁ h₁ => ?_)))
    obtain ⟨hinv₁, hm, -⟩ := h₁
    have hcontexts : slotSum s₁.contexts l.session = 0 := by
      refine slotSum_eq_zero fun id ctx hctx => ?_
      rcases hinv₁.places.somewhere id ctx hctx with ⟨handle, hmem, -⟩ | ⟨p, session, hidle, rfl⟩
      · rw [hm] at hmem
        exact hhandles handle hmem
      · have hnone : ¬ Connection.Referenced s₁.manager p := by
          rw [hm]
          rintro (⟨_, hmap⟩ | ⟨handle, hmem, -⟩ | ⟨call, hmem, hpool⟩)
          · exact nomatch hmap
          · exact hhandles handle hmem
          · exact nomatch (hcalls call hmem).symm.trans hpool
        rw [hinv₁.dropped p session hidle hnone] at hctx
        exact nomatch hctx
    have hcursors : slotSum s₁.cursors l.statement = 0 := by
      refine slotSum_eq_zero fun c cursor hc => ?_
      obtain ⟨handle, -, hhandle, -, -⟩ := hinv₁.places.cursor c cursor hc
      rw [hm] at hhandle
      exact hhandles handle (List.mem_of_getElem? hhandle)
    have howned : s₁.world.table.owned = {(0, .env)} + l.left := by
      rw [hinv₁.owns.owned]
      unfold Ledger.total
      rw [hcontexts, hcursors, add_zero, add_zero]
    exact returns_within.mpr (returns_handleFree howned rfl rfl fun w hw => hw)
  obtain ⟨_, s', hs', howned⟩ := hend
  refine ⟨s', hs', ?_, fun e he => ?_⟩
  · rw [← hcard, ← howned]
    exact (Multiset.coe_card _).symm
  · obtain ⟨phase, hphase, hnot⟩ := hinv.owns.left e (howned ▸ mem_owned.mpr he)
    rw [hphase]
    exact ⟨rfl, hnot⟩

end Results

/-- A connect whose last statement cannot be executed. -/
def failedConnect : List Op := [.acquire "scott/tiger@db" {}, .lock 0, .connect 0 none]

/-- Fourteen calls succeed, and the one that executes the formats does not. -/
def failedFormats : List Status := List.replicate 14 .success ++ [.error "ORA-01031"]

theorem shutdown_of_run_failed :
    ∃ outcomes s s', runOps (fun _ => ⟨[], []⟩) (fun _ => (.other 0, 0)) failedConnect
        (System.initial failedFormats) = some (outcomes, s) ∧
      shutdown s = some ((), s') ∧ s'.world.table.entries.length = 1 := by
  obtain ⟨outcomes, s, hrun, hhandles, hcalls, hleaks⟩ :
      ∃ outcomes s, runOps (fun _ => ⟨[], []⟩) (fun _ => (.other 0, 0)) failedConnect
        (System.initial failedFormats) = some (outcomes, s) ∧ s.manager.handles = [] ∧
        (∀ call ∈ s.manager.calls, call.phase.pool? = none) ∧ outcomes.countP leaks = 1 :=
    ⟨_, _, rfl, rfl, by decide, by decide⟩
  obtain ⟨s', hs', hlength, -⟩ := shutdown_of_run _ _ failedConnect failedFormats outcomes s hrun
    ⟨fun handle hmem => absurd (hhandles ▸ hmem) List.not_mem_nil, hcalls⟩
  exact ⟨outcomes, s, s', hrun, hs', hlength.trans hleaks⟩

end Oci
end DuckdbOracle
