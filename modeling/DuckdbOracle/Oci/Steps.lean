import DuckdbOracle.Oci.Replies

/-!
# Every operation keeps the ledger

One rule for each operation: from a state of the invariant it stays within all contracts, whatever
call of OCI fails in it, and ends in a state of the invariant.  A connect and the opening of a
`COPY` have one more statement that nothing frees exactly when they have thrown one of the
exceptions of `Op.leaves`; the others leave none.  The open scans keep the rows they have still to
give, but for the one that is fetched from.
-/

namespace DuckdbOracle
namespace Oci

open HandleTable Programs SlotSum

section Outcomes

variable {server : String → Answer} {l l' : Ledger} {s s' : System}

/-- Scans are as they were when their statements are. -/
theorem feed_congr (hphase : l'.phase = l.phase) (hcursors : s'.cursors = s.cursors) (c : ℕ) :
    l'.feed server s' c = l.feed server s c := by
  unfold Ledger.feed
  rw [hphase, hcursors]

variable (server l s s') in
/-- The invariant holds again, no statement more is left, and all scans are as they were. -/
def Steps : Prop := ∃ l', Inv l' s' ∧ l'.left = l.left ∧
  ∀ c, l'.feed server s' c = l.feed server s c

theorem Inv.steps (h : Inv l' s') (hleft : l'.left = l.left) (hphase : l'.phase = l.phase)
    (hcursors : s'.cursors = s.cursors) : Steps server l s s' :=
  ⟨l', h, hleft, feed_congr hphase hcursors⟩

/-- How many statements an operation leaves. -/
def Op.left {α : Type} (op : Op) : Except IOException α → ℕ
  | .ok _ => 0
  | .error e => if op.leaves e then 1 else 0

/-- **What is to be shown of an operation**: the invariant holds again, the statements that are left
are counted, the scans have taken their turn, and the reply is right. -/
def Stepped (server : String → Answer) (affected : String → Catalog.StatementType × ℕ) (l : Ledger)
    (s : System) (op : Op) (r : Except IOException Reply) (s' : System) : Prop :=
  ∃ l', Inv l' s' ∧ l'.left.card = l.left.card + op.left r ∧
    (∀ c, Turn server c (op, r) (l.feed server s c) (l'.feed server s' c)) ∧
    ∀ reply, r = .ok reply → s.Answers server affected op reply

/-- A reply that has nothing to do with a scan. -/
def Reply.isQuiet : Reply → Bool
  | .rows _ | .uncounted | .opened _ => false
  | _ => true

theorem Turn.of_quiet {c : ℕ} {op : Op} {r : Except IOException Reply}
    {feed : Option (Option Feed)} (h : ∀ reply, r = .ok reply → reply.isQuiet = true) :
    Turn server c (op, r) feed feed := by
  cases r with
  | error e => exact Turn.kept (by cases op <;> rfl) rfl
  | ok reply =>
    have hquiet := h reply rfl
    cases reply with
    | rows _ | uncounted | opened _ => exact nomatch hquiet
    | nothing | dead | result _ | text _ | bound _ =>
      exact Turn.kept (by cases op <;> rfl) rfl

variable (server l s s') in
/-- The invariant holds again, the statements that are left are counted, and all scans are as they
were. -/
def Counts {α : Type} (op : Op) (r : Except IOException α) : Prop :=
  ∃ l', Inv l' s' ∧ l'.left.card = l.left.card + op.left r ∧
    ∀ c, l'.feed server s' c = l.feed server s c

theorem Steps.counts {α : Type} {op : Op} (h : Steps server l s s') (r : Except IOException α)
    (hleaves : ∀ e, op.leaves e = false) : Counts server l s s' op r := by
  obtain ⟨l', hinv, hleft, hfeed⟩ := h
  have hnone : op.left r = 0 := by
    cases r with
    | ok _ => rfl
    | error e => exact if_neg (by rw [hleaves e]; decide)
  exact ⟨l', hinv, by rw [hnone, hleft, add_zero], hfeed⟩

theorem Counts.stepped {affected : String → Catalog.StatementType × ℕ} {op : Op}
    {r : Except IOException Reply} (h : Counts server l s s' op r)
    (hquiet : ∀ reply, r = .ok reply → reply.isQuiet = true)
    (hreply : ∀ reply, r = .ok reply → s.Answers server affected op reply) :
    Stepped server affected l s op r s' := by
  obtain ⟨l', hinv, hcard, hfeed⟩ := h
  refine ⟨l', hinv, hcard, fun c => ?_, hreply⟩
  rw [hfeed c]
  exact Turn.of_quiet hquiet

/-- An operation that leaves no statement and all scans as they are. -/
theorem Steps.stepped {affected : String → Catalog.StatementType × ℕ} {op : Op}
    {r : Except IOException Reply} (h : Steps server l s s') (hleaves : ∀ e, op.leaves e = false)
    (hquiet : ∀ reply, r = .ok reply → reply.isQuiet = true)
    (hreply : ∀ reply, r = .ok reply → s.Answers server affected op reply) :
    Stepped server affected l s op r s' :=
  (h.counts r hleaves).stepped hquiet hreply

/-- A step of the manager, as an operation. -/
theorem silent_stepped {affected : String → Catalog.StatementType × ℕ} {op : Op}
    {x : Program System IOException Unit} (hx : Ends x s fun r s' => Counts server l s s' op r)
    (hreply : ∀ reply, s.Answers server affected op reply) :
    Ends (silent x) s fun r s' => Stepped server affected l s op r s' := by
  refine ends_bind.mpr (hx.mono fun r s' hs' => ?_)
  cases r with
  | error e => exact Counts.stepped hs' nofun nofun
  | ok _ =>
    refine ends_pure.mpr (Counts.stepped hs' (fun b hb => ?_) fun b _ => hreply b)
    obtain rfl := Except.ok.inj hb
    rfl

end Outcomes

/-! ## Steps of the manager -/

section Manager

variable {server : String → Answer} {l : Ledger} {s : System}

theorem returns_theContext {id : ℕ} {ctx : OracleContext} {Q : OracleContext → System → Prop}
    (hctx : s.contexts[id]? = some (some ctx)) (hQ : Q ctx s) : Returns (theContext id) s Q := by
  unfold theContext
  refine returns_bind.mpr (returns_get.mpr ?_)
  rw [hctx]
  exact returns_pure.mpr hQ

/-- A step in which no session moves. -/
theorem event_ends (h : Inv l s) (e : Connection.Event) (hlock : ∀ c, e ≠ .lock c)
    (hopened : ∀ c, e ≠ .connected c) (hreleased : ∀ i woken, e ≠ .release i woken) :
    Ends (event e) s fun _ s' => Steps server l s s' := by
  unfold event
  refine ends_perform_bind.mpr (returns_get.mpr ?_)
  cases hm : Connection.step s.manager e with
  | none => exact ends_pure.mpr (h.steps rfl rfl rfl)
  | some m =>
    have ht := Connection.transition_of_step hm
    refine ends_perform.mpr ((returns_settle (h.accounted.step hm)
      (h.granted.step h.accounted.keyed ht) h.owns
      (h.places.still ht (ht.move.isStill hlock hopened hreleased))).mono
        fun _ s' hs' => hs'.1.steps rfl rfl hs'.2.2)

/-- A call of `Acquire` gets the lock: it takes an idle session, or none. -/
theorem lock_ends (h : Inv l s) (c : ℕ) :
    Ends (lock c) s fun _ s' => Steps server l s s' := by
  unfold lock
  refine ends_perform_bind.mpr (returns_get.mpr ?_)
  cases hm : Connection.step s.manager (.lock c) with
  | none => exact ends_pure.mpr (h.steps rfl rfl rfl)
  | some m =>
    have ht := Connection.transition_of_step hm
    have ha' := h.accounted.step hm
    have hg' := h.granted.step h.accounted.keyed ht
    refine ends_perform.mpr (returns_bind.mpr ?_)
    cases ht.move with
    | still hstill htaken _ _ =>
      rw [htaken c rfl]
      exact returns_pure.mpr ((returns_settle ha' hg' h.owns (h.places.still ht hstill)).mono
        fun _ s' hs' => hs'.1.steps rfl rfl hs'.2.2)
    | @taken _ p session hcreated hhandles hmem href hidle hrest htaken =>
      rw [htaken]
      obtain ⟨hthere, htrue, -⟩ := h.places.idle p session hmem
      obtain ⟨ctx, hctx⟩ := hthere href
      refine returns_bind.mpr (returns_theContext hctx ?_)
      refine (returns_takeOut h.owns hctx htrue).mono fun _ s₁ h₁ => ?_
      obtain ⟨howns, hslots⟩ := h₁
      have hplaces := (h.places.taken h.accounted ha' ht hcreated hhandles hmem href hidle
        hrest).congr hslots
      exact (returns_settle ha' hg' howns hplaces).mono fun _ s' hs' =>
        hs'.1.steps rfl rfl (hs'.2.2.trans hslots.cursors)

/-- Two sessions have different service contexts. -/
theorem Owns.service_ne (h : Owns l s) {id id' svc : ℕ} {ctx ctx' : OracleContext}
    (hctx : s.contexts[id]? = some (some ctx)) (hctx' : s.contexts[id']? = some (some ctx'))
    (hne : id' ≠ id) (hsvc : ctx.svchp = some svc) : ctx'.svchp ≠ some svc := by
  intro hsvc'
  have hsplit := session_split l id hsvc (l.idle id)
  have hsplit' := session_split l id' hsvc' (l.idle id')
  rw [mark_same] at hsplit hsplit'
  have howned := h.owned.trans (total_session hctx)
  rw [hsplit, add_assoc, total_session (set_none_of_ne hne hctx'), hsplit'] at howned
  refine ne_of_mem_others howned (e := (svc, .service ctx'.srvhp ctx'.authp (l.idle id'))) ?_ rfl
  simp

/-- The handles of a session are no statements. -/
theorem not_statement_of_mem_session {id n : ℕ} {ctx : OracleContext} {phase : Phase} :
    (n, Handle.statement phase) ∉ l.session id ctx := by
  unfold Ledger.session OracleContext.handles
  have hentry : ∀ (p : Pointer) (k : Handle), k.isStatement = false →
      (n, Handle.statement phase) ∉ entry p k := by
    intro p k hk hmem
    cases p with
    | none => exact absurd hmem (Multiset.notMem_zero _)
    | some n' =>
      obtain ⟨-, rfl⟩ := Prod.mk.inj (Multiset.mem_singleton.mp hmem)
      exact nomatch hk
  simp only [Multiset.mem_add, not_or]
  exact ⟨⟨⟨hentry _ _ rfl, hentry _ _ rfl⟩, hentry _ _ rfl⟩, hentry _ _ rfl⟩

/-- **A cursor belongs to an open scan or `COPY`**, on the session of its handle. -/
theorem Owns.executed (h : Owns l s) {n svc fetched : ℕ} {sql : String}
    (hmem : (n, Handle.statement (.executed sql svc fetched)) ∈ s.world.table.owned) :
    ∃ (c : ℕ) (cursor : Cursor), s.cursors[c]? = some (some cursor) ∧
      l.phase c = .executed sql svc fetched := by
  rw [h.owned] at hmem
  unfold Ledger.total at hmem
  rw [Multiset.mem_add, Multiset.mem_add, Multiset.mem_add, Multiset.mem_singleton] at hmem
  rcases hmem with ((henv | hleft) | hsession) | hstatement
  · exact nomatch (Prod.mk.inj henv).2
  · obtain ⟨phase, hphase, hnot⟩ := h.left _ hleft
    obtain rfl := Handle.statement.inj hphase
    exact nomatch hnot
  · obtain ⟨id, ctx, -, hin⟩ := mem_slotSum.mp hsession
    exact absurd hin not_statement_of_mem_session
  · obtain ⟨c, cursor, hc, hin⟩ := mem_slotSum.mp hstatement
    unfold Ledger.statement at hin
    refine ⟨c, cursor, hc, ?_⟩
    cases hstmt : cursor.stmthp with
    | none =>
      rw [hstmt] at hin
      exact absurd hin (Multiset.notMem_zero _)
    | some n' =>
      rw [hstmt] at hin
      exact (Handle.statement.inj (Prod.mk.inj (Multiset.mem_singleton.mp hin)).2).symm

/-- A session on which no scan and no `COPY` is open is quiet. -/
theorem Inv.quiet (h : Inv l s) {id svc : ℕ} {ctx : OracleContext}
    (hctx : s.contexts[id]? = some (some ctx)) (hsvc : ctx.svchp = some svc)
    (hnone : ∀ (c : ℕ) cursor handle, s.cursors[c]? = some (some cursor) →
      s.manager.handles[cursor.handle]? = some (some handle) → handle.ctx.id ≠ id) :
    s.world.quiet svc = true := by
  unfold World.quiet
  refine List.all_eq_true.mpr fun e he => ?_
  obtain ⟨n, k⟩ := e
  cases k with
  | env | error | server _ | service _ _ _ | session _ _ _ => rfl
  | statement phase =>
    cases phase with
    | allocated | prepared _ | described _ => rfl
    | executed sql svc' fetched =>
      refine decide_eq_true fun heq => ?_
      obtain ⟨c, cursor, hc, hphase⟩ := h.owns.executed (mem_owned.mpr he)
      obtain ⟨handle, ctx', hhandle, hctx', hon⟩ := h.places.cursor c cursor hc
      exact h.owns.service_ne hctx hctx' (hnone c cursor handle hc hhandle) hsvc
        (heq ▸ hon sql svc' fetched hphase)

/-- A handle that nothing shares is destroyed. -/
theorem release_ends (h : Inv l s) (i : ℕ) (woken : Option ℕ) :
    Ends (release i woken) s fun _ s' => Steps server l s s' := by
  unfold release
  refine ends_perform_bind.mpr (returns_get.mpr ?_)
  split
  · next handle m hh hm hany =>
    have hshared : ∀ (c : ℕ) cursor, s.cursors[c]? = some (some cursor) → cursor.handle ≠ i := by
      intro c cursor hc heq
      have hfalse := List.any_eq_false.mp hany _ (List.mem_of_getElem? hc)
      exact hfalse (decide_eq_true heq)
    have ht := Connection.transition_of_step hm
    have ha := h.accounted
    have ha' := ha.step hm
    have hg' := h.granted.step ha.keyed ht
    obtain ⟨⟨ctx, hctx⟩, hfalse, -⟩ := h.places.held handle (List.mem_of_getElem? hh)
    refine ends_perform.mpr (returns_bind.mpr (returns_bind.mpr (returns_theContext hctx ?_)))
    cases ht.move with
    | still _ _ _ hreleased => exact absurd rfl (hreleased i woken)
    | pooled hcreated hh' hhandles hidle =>
      rw [hh] at hh'
      obtain rfl := Option.some.inj (Option.some.inj hh')
      refine (returns_giveBack h.owns hctx hfalse fun svc hsvc => ?_).mono fun _ s₁ h₁ => ?_
      · refine h.quiet hctx hsvc fun c cursor handle' hc hhandle heq => ?_
        exact hshared c cursor hc (ha.placed.handle_unique hhandle hh heq)
      · obtain ⟨howns, hslots⟩ := h₁
        have hplaces := (h.places.pooled ha' ha ht hcreated hh hhandles hidle hshared).congr hslots
        exact (returns_settle ha' hg' howns hplaces).mono fun _ s' hs' =>
          hs'.1.steps rfl rfl (hs'.2.2.trans hslots.cursors)
    | letGo hcreated hh' hhandles hidle =>
      rw [hh] at hh'
      obtain rfl := Option.some.inj (Option.some.inj hh')
      refine (returns_destroyContext h.owns hctx).mono fun _ s₁ h₁ => ?_
      obtain ⟨howns, -, hcursors, hcontexts⟩ := h₁
      have hplaces := h.places.letGo ha ht hcreated hh hhandles hidle hshared hcontexts hcursors
      exact (returns_settle ha' hg' howns hplaces).mono fun _ s' hs' =>
        hs'.1.steps rfl rfl (hs'.2.2.trans hcursors)
  · exact ends_pure.mpr (h.steps rfl rfl rfl)

end Manager

/-! ## Connecting -/

section Connect

variable {server : String → Answer} {l : Ledger} {s : System}

/-- One more statement that nothing frees. -/
def Ledger.leave (l : Ledger) (e : ℕ × Handle) : Ledger := { l with left := {e} + l.left }

theorem total_leave (l : Ledger) (e : ℕ × Handle) (contexts : List (Option OracleContext))
    (cursors : List (Option Cursor)) :
    (l.leave e).total contexts cursors = {e} + l.total contexts cursors := by
  show {(0, Handle.env)} + ({e} + l.left) + slotSum contexts l.session +
    slotSum cursors l.statement = _
  unfold Ledger.total
  abel

/-- A statement is left, and nothing else has changed. -/
theorem Owns.leave (h : Owns l s) {n : ℕ} {phase : Phase} {w : World}
    (hphase : Handle.isExecuted (.statement phase) = false)
    (hw : w.table.owned = {(n, .statement phase)} + s.world.table.owned) :
    Owns (l.leave (n, .statement phase)) { s with world := w } := by
  refine ⟨?_, fun e he => ?_, h.whole, h.statement⟩
  · rw [total_leave, ← h.owned]
    exact hw
  · rcases Multiset.mem_add.mp he with hnew | hold
    · obtain rfl := Multiset.mem_singleton.mp hnew
      exact ⟨phase, rfl, hphase⟩
    · exact h.left e hold

theorem Places.leave {m : Connection.OracleConnectionManager} (h : Places l m s) (e : ℕ × Handle)
    (w : World) : Places (l.leave e) m { s with world := w } :=
  ⟨h.length, h.held, h.idle, h.somewhere, h.cursor⟩

theorem card_leave (l : Ledger) (e : ℕ × Handle) :
    (l.leave e).left.card = l.left.card + 1 := by
  show ({e} + l.left).card = _
  rw [Multiset.card_add, Multiset.card_singleton, add_comm]

/-- Only the handles themselves matter to whose they are. -/
theorem Owns.of_owned (h : Owns l s) {w : World} (hw : w.table.owned = s.world.table.owned) :
    Owns l { s with world := w } :=
  ⟨hw.trans h.owned, h.left, h.whole, h.statement⟩

theorem Places.of_world {m : Connection.OracleConnectionManager} (h : Places l m s) (w : World) :
    Places l m { s with world := w } :=
  ⟨h.length, h.held, h.idle, h.somewhere, h.cursor⟩

/-- A new session. -/
theorem Owns.opened (h : Owns l s) {w : World} {ctx : OracleContext}
    {credentials : Connection.OracleCredentials}
    (hctx : Opened s.world.table.owned credentials ctx false w) (henv : ctx.envhp = some 0) :
    Owns (l.open s.contexts.length credentials)
      { s with world := w, contexts := s.contexts ++ [some ctx] } := by
  refine ⟨?_, h.left, fun id ctx' hctx' => ?_, h.statement⟩
  · have hothers : (l.open s.contexts.length credentials).total s.contexts s.cursors =
        l.total s.contexts s.cursors := by
      refine total_congr rfl (fun id ctx' h' => ?_) fun _ _ _ => rfl
      have hne : id ≠ s.contexts.length := Nat.ne_of_lt (List.getElem?_eq_some_iff.mp h').1
      unfold Ledger.session
      rw [open_credentials_of_ne l hne, open_idle_of_ne l hne]
    rw [total_concat_session, hothers, ← h.owned]
    unfold Ledger.session
    rw [open_credentials_self, open_idle_self]
    exact hctx.built.owned
  · rcases Tally.of_getElem?_concat hctx' with hold | ⟨-, heq⟩
    · exact h.whole id ctx' hold
    · obtain rfl := Option.some.inj heq
      exact ⟨henv, hctx.errhp, hctx.srvhp, hctx.svchp, hctx.authp, hctx.built.stmthp,
        hctx.built.ownsEnv⟩

/-- What a program on OCI does, it does to OCI. -/
theorem ends_inWorld {α : Type} {x : Program World IOException α}
    {Q : Except IOException α → World → Prop} (h : Ends x s.world Q) :
    Ends (inWorld x) s fun r s' => ∃ w, s' = { s with world := w } ∧ Q r w :=
  ends_inside.mpr (h.mono fun _ w hw => ⟨w, rfl, hw⟩)

/-- **A connect**, with every way of failing. -/
theorem connect_ends (h : Inv l s) (c : ℕ) (woken : Option ℕ) :
    Ends (connect c woken) s fun r s' => Counts server l s s' (.connect c woken) r := by
  unfold connect
  refine ends_perform_bind.mpr (returns_get.mpr ?_)
  split
  · next call opened failed hc hopened hfailed =>
    have ht := Connection.transition_of_step hopened
    have ht' := Connection.transition_of_step hfailed
    have henv : (0, Handle.env) ∈ s.world.table.owned := by
      rw [h.owns.owned]
      exact env_mem_total _ _ _
    have hcreate := createConnection_ends 0 _ call.connectionString s.world rfl henv
    refine ends_perform_bind.mpr ((ends_inWorld hcreate).mono fun r s₁ h₁ => ?_)
    obtain ⟨w, rfl, hw⟩ := h₁
    cases r with
    | ok ctx =>
      obtain ⟨-, henvp, credentials, hparse, hctx⟩ := hw
      refine ends_perform.mpr (returns_bind.mpr (returns_modify.mpr ?_))
      cases ht.move with
      | still _ _ hnot _ => exact absurd rfl (hnot c)
      | opened hc' hcreated hhandles hidle =>
        rw [hc] at hc'
        obtain rfl := Option.some.inj hc'
        have hplaces := @Places.opened _ _ _ _ { s with
          world := w, contexts := s.contexts ++ [some ctx] } _ h.places h.accounted ht _ _ ctx _
          hparse hcreated hhandles hidle rfl rfl
        have howns := h.owns.opened hctx henvp
        rw [h.places.length] at howns
        exact (returns_settle (h.accounted.step hopened)
          (h.granted.step h.accounted.keyed ht) howns hplaces).mono
          fun _ s' hs' => ⟨_, hs'.1, rfl, feed_congr rfl hs'.2.2⟩
    | error e =>
      refine ends_perform_bind.mpr ?_
      cases ht'.move with
      | still hstill _ _ _ =>
        have hplaces := h.places.still ht' hstill
        have ha' := h.accounted.step hfailed
        have hg' := h.granted.step h.accounted.keyed ht'
        have hw' : if e.leavesStatement = true then _ else _ := hw
        by_cases he : e.leavesStatement = true
        · rw [if_pos he] at hw'
          obtain ⟨n, phase, hphase, howned⟩ := hw'
          refine (returns_settle ha' hg' (h.owns.leave hphase howned) (hplaces.leave _ w)).mono
            fun _ s' hs' => ends_throw.mpr ⟨_, hs'.1, ?_, feed_congr rfl hs'.2.2⟩
          show _ = _ + if e.leavesStatement = true then 1 else 0
          rw [card_leave, if_pos he]
        · rw [if_neg he] at hw'
          refine (returns_settle ha' hg' (h.owns.of_owned hw') (hplaces.of_world w)).mono
            fun _ s' hs' => ends_throw.mpr ⟨_, hs'.1, ?_, feed_congr rfl hs'.2.2⟩
          show _ = _ + if e.leavesStatement = true then 1 else 0
          rw [if_neg he, add_zero]
  · exact ends_pure.mpr ⟨l, h, rfl, fun _ => rfl⟩

end Connect

/-! ## Statements on a session -/

section Statements

variable {server : String → Answer} {affected : String → Catalog.StatementType × ℕ} {l : Ledger}
  {s : System}

theorem Inv.of_owned (h : Inv l s) {w : World} (hw : w.table.owned = s.world.table.owned) :
    Inv l { s with world := w } :=
  ⟨h.accounted, h.granted, h.owns.of_owned hw, h.places.of_world w, h.dropped⟩

theorem ifAlive_of_alive {i : ℕ} {handle : Connection.OracleConnectionHandle} (reply : Reply)
    (h : s.manager.handles[i]? = some (some handle)) : s.ifAlive i reply = reply := by
  unfold System.ifAlive
  rw [h]

theorem ifAlive_of_dead {i : ℕ} (reply : Reply)
    (h : ∀ handle, s.manager.handles[i]? ≠ some (some handle)) : s.ifAlive i reply = .dead := by
  unfold System.ifAlive
  split
  · next handle hh => exact absurd hh (h handle)
  · rfl

/-- The holder of a handle has its context. -/
theorem onSession_ends (h : Inv l s) {f : OracleContext → Program System IOException Reply}
    {Q : Except IOException Reply → System → Prop} (i : ℕ)
    (hdead : (∀ handle, s.manager.handles[i]? ≠ some (some handle)) → Q (.ok .dead) s)
    (hf : ∀ handle ctx, s.manager.handles[i]? = some (some handle) →
      s.contexts[handle.ctx.id]? = some (some ctx) → l.idle handle.ctx.id = false →
        Ends (f ctx) s Q) : Ends (onSession i f) s Q := by
  unfold onSession
  refine ends_perform_bind.mpr (returns_get.mpr ?_)
  split
  · next handle hh =>
    obtain ⟨⟨ctx, hctx⟩, hidle, -⟩ := h.places.held handle (List.mem_of_getElem? hh)
    exact ends_perform_bind.mpr (returns_theContext hctx (hf handle ctx hh hctx hidle))
  · next hnone => exact ends_pure.mpr (hdead fun handle hh => hnone handle hh)

variable (server) in
/-- What leaves the handles leaves the ledger, and its result is the reply. -/
theorem answering_ends (h : Inv l s) {α : Type} {x : Program World IOException α}
    {reply : α → Reply} {P : α → Prop}
    (hx : Ends x s.world fun r w => w.table.owned = s.world.table.owned ∧ ∀ a, r = .ok a → P a) :
    Ends (answering x reply) s fun r s' => Steps server l s s' ∧
      ∀ b, r = .ok b → ∃ a, P a ∧ b = reply a := by
  refine ends_bind.mpr ((ends_inWorld hx).mono fun r s' hs' => ?_)
  obtain ⟨w, rfl, hw, hP⟩ := hs'
  have hsteps : Steps server l s { s with world := w } := (h.of_owned hw).steps rfl rfl rfl
  cases r with
  | ok a => exact ends_pure.mpr ⟨hsteps, fun b hb => ⟨a, hP a rfl, (Except.ok.inj hb).symm⟩⟩
  | error e => exact ⟨hsteps, nofun⟩

/-- A function that leaves the handles, on the session of a handle. -/
theorem onSession_stepped (h : Inv l s) (i : ℕ) {op : Op} {α : Type}
    {x : OracleContext → Program World IOException α} {reply : α → Reply} {P : α → Prop}
    (hx : ∀ ctx, Usable s.world.table.owned ctx → Ends (x ctx) s.world fun r w =>
      w.table.owned = s.world.table.owned ∧ ∀ a, r = .ok a → P a)
    (hleaves : ∀ e, op.leaves e = false) (hquiet : ∀ a, (reply a).isQuiet = true)
    (hdead : (∀ handle, s.manager.handles[i]? ≠ some (some handle)) →
      s.Answers server affected op .dead)
    (hreply : ∀ handle a, s.manager.handles[i]? = some (some handle) → P a →
      s.Answers server affected op (reply a)) :
    Ends (onSession i fun ctx => answering (x ctx) reply) s fun r s' =>
      Stepped server affected l s op r s' := by
  refine onSession_ends h i (fun hnone => ?_) fun handle ctx hh hctx hidle => ?_
  · refine (h.steps rfl rfl rfl).stepped hleaves (fun b hb => ?_) fun b hb => ?_
    · obtain rfl := Except.ok.inj hb
      rfl
    · obtain rfl := Except.ok.inj hb
      exact hdead hnone
  · have husable : Usable s.world.table.owned ctx := by
      rw [h.owns.owned]
      exact h.owns.usable hctx hidle s.cursors
    refine (answering_ends server h (hx ctx husable)).mono fun r s' hs' => ?_
    obtain ⟨hsteps, hreplies⟩ := hs'
    refine hsteps.stepped hleaves (fun b hb => ?_) fun b hb => ?_
    · obtain ⟨a, -, rfl⟩ := hreplies b hb
      exact hquiet a
    · obtain ⟨a, ha, rfl⟩ := hreplies b hb
      exact hreply handle a hh ha

/-! ### Opening -/

/-- The statement of a scan or a `COPY` has moved on. -/
def Ledger.advance (l : Ledger) (c : ℕ) (phase : Phase) : Ledger :=
  { l with phase := Function.update l.phase c phase }

@[simp] theorem advance_phase_self (l : Ledger) (c : ℕ) (phase : Phase) :
    (l.advance c phase).phase c = phase := Function.update_self ..

theorem advance_phase_of_ne (l : Ledger) {c c' : ℕ} (h : c' ≠ c) (phase : Phase) :
    (l.advance c phase).phase c' = l.phase c' := Function.update_of_ne h _ _

/-- The other statements are as they were. -/
theorem total_advance (l : Ledger) (c : ℕ) (phase : Phase)
    (contexts : List (Option OracleContext)) {cursors : List (Option Cursor)}
    (h : ∀ (c' : ℕ) cursor, cursors[c']? = some (some cursor) → c' ≠ c) :
    (l.advance c phase).total contexts cursors = l.total contexts cursors := by
  refine total_congr rfl (fun _ _ _ => rfl) fun c' cursor hc' => ?_
  unfold Ledger.statement
  rw [advance_phase_of_ne l (h c' cursor hc')]

/-- A statement that is allocated and prepared becomes that of a scan or a `COPY`. -/
theorem Inv.opened (h : Inv l s) (cursor : Cursor) {handle : Connection.OracleConnectionHandle}
    {ctx : OracleContext} {n : ℕ} {sql : String} {w : World}
    (hh : s.manager.handles[cursor.handle]? = some (some handle))
    (hctx : s.contexts[handle.ctx.id]? = some (some ctx)) (hstmt : cursor.stmthp = some n)
    (hexec : cursor.executed = false)
    (hw : w.table.owned = {(n, .statement (.prepared sql))} + s.world.table.owned) :
    Inv (l.advance s.cursors.length (.prepared sql))
      { s with world := w, cursors := s.cursors ++ [some cursor] } := by
  have hold : ∀ (c : ℕ) cursor', s.cursors[c]? = some (some cursor') → c ≠ s.cursors.length :=
    fun c cursor' hc => Nat.ne_of_lt (List.getElem?_eq_some_iff.mp hc).1
  refine ⟨h.accounted, h.granted, ⟨?_, h.owns.left, h.owns.whole, fun c cursor' hc => ?_⟩,
    ⟨h.places.length, h.places.held, h.places.idle, h.places.somewhere, fun c cursor' hc => ?_⟩,
    h.dropped⟩
  · rw [total_concat_statement, total_advance l _ _ _ hold, ← h.owns.owned]
    unfold Ledger.statement
    rw [advance_phase_self, hstmt]
    exact hw
  · rcases Tally.of_getElem?_concat hc with hc | ⟨rfl, heq⟩
    · rw [advance_phase_of_ne l (hold c cursor' hc)]
      exact h.owns.statement c cursor' hc
    · obtain rfl := Option.some.inj heq
      rw [advance_phase_self]
      refine ⟨by rw [hstmt]; rfl, rfl, fun htrue => ?_, fun _ => nofun⟩
      rw [hexec] at htrue
      exact nomatch htrue
  · rcases Tally.of_getElem?_concat hc with hc | ⟨rfl, heq⟩
    · unfold RunsOn
      rw [advance_phase_of_ne l (hold c cursor' hc)]
      exact h.places.cursor c cursor' hc
    · obtain rfl := Option.some.inj heq
      refine ⟨handle, ctx, hh, hctx, fun sql' svc fetched hphase => ?_⟩
      rw [advance_phase_self] at hphase
      exact nomatch hphase

/-- Then it has its place, and the others keep theirs. -/
theorem feed_opened (l : Ledger) (s : System) (cursor : Cursor) (phase : Phase) (w : World)
    (c : ℕ) :
    (l.advance s.cursors.length phase).feed server
        { s with world := w, cursors := s.cursors ++ [some cursor] } c =
      if c = s.cursors.length then some (cursor.feed server phase) else l.feed server s c := by
  unfold Ledger.feed
  split
  · next heq =>
    subst heq
    rw [List.getElem?_concat_length, advance_phase_self]
    rfl
  · next hne =>
    rw [advance_phase_of_ne l hne]
    cases hc : s.cursors[c]? with
    | some cursor' => rw [Tally.getElem?_concat_of hc]
    | none =>
      have hlt : s.cursors.length < c :=
        Nat.lt_of_le_of_ne (List.getElem?_eq_none_iff.mp hc) (Ne.symm hne)
      rw [List.getElem?_eq_none_iff.mpr (by rw [List.length_append]; exact hlt)]

/-- The turn in which a scan or a `COPY` is opened. -/
theorem turn_opened {op : Op} (l : Ledger) (s : System) (cursor : Cursor) (phase : Phase)
    (w : World) (hop : ∀ c, op ≠ .scanNext c)
    (hnew : Turn server s.cursors.length (op, .ok (.opened s.cursors.length)) none
      (some (cursor.feed server phase))) (c : ℕ) :
    Turn server c (op, .ok (.opened s.cursors.length)) (l.feed server s c)
      ((l.advance s.cursors.length phase).feed server
        { s with world := w, cursors := s.cursors ++ [some cursor] } c) := by
  rw [feed_opened]
  split
  · next heq =>
    subst heq
    have hnone : l.feed server s s.cursors.length = none := by
      unfold Ledger.feed
      rw [List.getElem?_eq_none_iff.mpr le_rfl, Option.map_none]
    rw [hnone]
    exact hnew
  · next hne =>
    refine Turn.kept ?_ (decide_eq_false (Ne.symm hne))
    cases op with
    | scanNext c' => exact absurd rfl (hop c')
    | _ => rfl

/-- **A scan is opened**, with every way of failing. -/
theorem openScan_ends (h : Inv l s) (i : ℕ) (data : Scan.OracleBindData) :
    Ends (openScan i data) s fun r s' => Stepped server affected l s (.openScan i data) r s' := by
  refine onSession_ends h i (fun _ => ?_) fun handle ctx hh hctx hidle => ?_
  · refine (h.steps rfl rfl rfl).stepped (fun _ => rfl) (fun b hb => ?_) fun _ _ => trivial
    obtain rfl := Except.ok.inj hb
    rfl
  have husable : Usable s.world.table.owned ctx := by
    rw [h.owns.owned]
    exact h.owns.usable hctx hidle s.cursors
  refine ends_bind.mpr ((ends_inWorld (scanStatement_ends husable rfl)).mono fun r s' hs' => ?_)
  obtain ⟨w, rfl, hw⟩ := hs'
  cases r with
  | error e =>
    have hsteps : Steps server l s { s with world := w } := (h.of_owned hw).steps rfl rfl rfl
    exact hsteps.stepped (fun _ => rfl) nofun nofun
  | ok stmthp =>
    obtain ⟨n, rfl, howned⟩ := hw
    refine ends_perform.mpr (returns_bind.mpr (returns_get.mpr (returns_bind.mpr
      (returns_modify.mpr (returns_pure.mpr ⟨_, h.opened
        { kind := .scan, handle := i, stmthp := some n } hh hctx rfl rfl howned, rfl, ?_,
        fun _ _ => trivial⟩)))))
    exact turn_opened l s _ _ w nofun Turn.openedScan

/-- **A `COPY` is opened**, with every way of failing. -/
theorem openCopy_ends (h : Inv l s) (i : ℕ) (sql : String) :
    Ends (openCopy i sql) s fun r s' => Stepped server affected l s (.openCopy i sql) r s' := by
  refine onSession_ends h i (fun _ => ?_) fun handle ctx hh hctx hidle => ?_
  · refine ⟨l, h, rfl, fun c => Turn.of_quiet fun b hb => ?_, fun _ _ => trivial⟩
    obtain rfl := Except.ok.inj hb
    rfl
  have husable : Usable s.world.table.owned ctx := by
    rw [h.owns.owned]
    exact h.owns.usable hctx hidle s.cursors
  refine ends_bind.mpr ((ends_inWorld (writeStatement_ends husable rfl)).mono fun r s' hs' => ?_)
  obtain ⟨w, rfl, hw⟩ := hs'
  cases r with
  | error e =>
    have hw' : if e.leavesWriteStatement = true then _ else _ := hw
    by_cases he : e.leavesWriteStatement = true
    · rw [if_pos he] at hw'
      obtain ⟨n, howned⟩ := hw'
      refine ⟨_, ⟨h.accounted, h.granted, h.owns.leave rfl howned, h.places.leave _ w,
        h.dropped⟩, ?_, fun c => Turn.of_quiet nofun, nofun⟩
      show _ = _ + if e.leavesWriteStatement = true then 1 else 0
      rw [card_leave, if_pos he]
    · rw [if_neg he] at hw'
      refine ⟨l, h.of_owned hw', ?_, fun c => Turn.of_quiet nofun, nofun⟩
      show _ = _ + if e.leavesWriteStatement = true then 1 else 0
      rw [if_neg he, add_zero]
  | ok stmthp =>
    obtain ⟨n, rfl, howned⟩ := hw
    refine ends_perform.mpr (returns_bind.mpr (returns_get.mpr (returns_bind.mpr
      (returns_modify.mpr (returns_pure.mpr ⟨_, h.opened
        { kind := .copy, handle := i, stmthp := some n } hh hctx rfl rfl howned, rfl, ?_,
        fun _ _ => trivial⟩)))))
    exact turn_opened l s _ _ w nofun Turn.openedCopy

/-! ### Open scans and `COPY`s -/

/-- A scan or a `COPY` that is open, its statement and its context. -/
structure At (l : Ledger) (s : System) (c : ℕ) (cursor : Cursor) (n : ℕ) (ctx : OracleContext) :
    Prop where
  get : s.cursors[c]? = some (some cursor)
  stmthp : cursor.stmthp = some n
  isOpen : Open cursor (l.phase c)
  usable : Usable (l.total s.contexts (s.cursors.set c none)) ctx
  live : ∃ handle, s.manager.handles[cursor.handle]? = some (some handle) ∧
    s.contexts[handle.ctx.id]? = some (some ctx)
  svc : ∀ sql svc fetched, l.phase c = .executed sql svc fetched → ctx.svchp = some svc

/-- Its statement among the handles. -/
theorem At.owned (h : Inv l s) {c n : ℕ} {cursor : Cursor} {ctx : OracleContext}
    (hat : At l s c cursor n ctx) : s.world.table.owned =
      {(n, .statement (l.phase c))} + l.total s.contexts (s.cursors.set c none) := by
  rw [h.owns.owned, total_statement hat.get]
  unfold Ledger.statement
  rw [hat.stmthp, entry_some]

/-- What is done with an open scan or `COPY`. -/
theorem onCursor_ends (h : Inv l s) (c : ℕ) (kind : CursorKind)
    {f : Cursor → OracleContext → Program System IOException Reply}
    {Q : Except IOException Reply → System → Prop} (hdead : Q (.ok .dead) s)
    (hf : ∀ cursor n ctx, cursor.kind = kind → At l s c cursor n ctx →
      Ends (f cursor ctx) s Q) : Ends (onCursor c kind f) s Q := by
  unfold onCursor
  refine ends_perform_bind.mpr (returns_get.mpr ?_)
  split
  · next cursor hc =>
    split
    · next hkind =>
      obtain ⟨handle, ctx, hh, hctx, hsvc⟩ := h.places.cursor c cursor hc
      obtain ⟨n, hn⟩ := Option.isSome_iff_exists.mp (h.owns.statement c cursor hc).stmthp
      refine onSession_ends h _ (fun _ => hdead) fun handle' ctx' hh' hctx' hidle => ?_
      rw [hh] at hh'
      obtain rfl := Option.some.inj (Option.some.inj hh')
      rw [hctx] at hctx'
      obtain rfl := Option.some.inj (Option.some.inj hctx')
      exact hf cursor n ctx hkind ⟨hc, hn, h.owns.statement c cursor hc,
        h.owns.usable hctx hidle _, ⟨handle, hh, hctx⟩, hsvc⟩
    · exact ends_pure.mpr hdead
  · exact ends_pure.mpr hdead

/-- A statement has moved on, and what its owner knows of it. -/
theorem Inv.moved (h : Inv l s) (cursor' : Cursor) {c n : ℕ} {cursor : Cursor}
    {ctx : OracleContext} {phase : Phase} {w : World} (hat : At l s c cursor n ctx)
    (hhandle : cursor'.handle = cursor.handle) (hstmt : cursor'.stmthp = cursor.stmthp)
    (hopen : Open cursor' phase)
    (hsvc : ∀ sql svc fetched, phase = .executed sql svc fetched → ctx.svchp = some svc)
    (hw : w.table.owned =
      {(n, .statement phase)} + l.total s.contexts (s.cursors.set c none)) :
    Inv (l.advance c phase) { s with world := w, cursors := s.cursors.set c (some cursor') } ∧
      At (l.advance c phase) { s with world := w, cursors := s.cursors.set c (some cursor') } c
        cursor' n ctx := by
  have hlt : c < s.cursors.length := (List.getElem?_eq_some_iff.mp hat.get).1
  have hget : (s.cursors.set c (some cursor'))[c]? = some (some cursor') :=
    List.getElem?_set_self hlt
  have hrest := @total_advance l c phase s.contexts (s.cursors.set c none)
    fun c' _ hc' => (get_of_set_none hc').1
  have hold : ∀ {c' : ℕ} {cursor₁ : Cursor},
      (s.cursors.set c (some cursor'))[c']? = some (some cursor₁) →
        (c' = c ∧ cursor₁ = cursor') ∨ (c' ≠ c ∧ s.cursors[c']? = some (some cursor₁)) := by
    intro c' cursor₁ hc'
    by_cases heq : c' = c
    · subst heq
      rw [hget] at hc'
      exact Or.inl ⟨rfl, (Option.some.inj (Option.some.inj hc')).symm⟩
    · rw [List.getElem?_set_ne (Ne.symm heq)] at hc'
      exact Or.inr ⟨heq, hc'⟩
  obtain ⟨handle, hh, hctx⟩ := hat.live
  rw [← hhandle] at hh
  have husable := hat.usable
  refine ⟨⟨h.accounted, h.granted, ⟨?_, h.owns.left, h.owns.whole, fun c' cursor₁ hc' => ?_⟩,
    ⟨h.places.length, h.places.held, h.places.idle, h.places.somewhere,
      fun c' cursor₁ hc' => ?_⟩, h.dropped⟩, ⟨hget, hstmt.trans hat.stmthp, ?_, ?_,
        ⟨handle, hh, hctx⟩, fun sql svc fetched hphase => hsvc sql svc fetched ?_⟩⟩
  · rw [total_set hat.get, hrest]
    unfold Ledger.statement
    rw [advance_phase_self, hstmt, hat.stmthp]
    exact hw
  · rcases hold hc' with ⟨rfl, rfl⟩ | ⟨hne, hc'⟩
    · rw [advance_phase_self]
      exact hopen
    · rw [advance_phase_of_ne l hne]
      exact h.owns.statement c' cursor₁ hc'
  · rcases hold hc' with ⟨rfl, rfl⟩ | ⟨hne, hc'⟩
    · refine ⟨handle, ctx, hh, hctx, fun sql svc fetched hphase => hsvc sql svc fetched ?_⟩
      rwa [advance_phase_self] at hphase
    · unfold RunsOn
      rw [advance_phase_of_ne l hne]
      exact h.places.cursor c' cursor₁ hc'
  · rw [advance_phase_self]
    exact hopen
  · rw [List.set_set, hrest]
    exact husable
  · rwa [advance_phase_self] at hphase

/-- Its scan is at the new phase, and the others are where they were. -/
theorem feed_moved {c : ℕ} {cursor : Cursor} (hget : s.cursors[c]? = some (some cursor))
    (cursor' : Cursor) (phase : Phase) (w : World) (c' : ℕ) :
    (l.advance c phase).feed server
        { s with world := w, cursors := s.cursors.set c (some cursor') } c' =
      if c' = c then some (cursor'.feed server phase) else l.feed server s c' := by
  unfold Ledger.feed
  split
  · next heq =>
    subst heq
    rw [List.getElem?_set_self (List.getElem?_eq_some_iff.mp hget).1, advance_phase_self]
    rfl
  · next hne => rw [advance_phase_of_ne l hne, List.getElem?_set_ne (Ne.symm hne)]

/-- Only the rows that are left matter to what a scan gives. -/
theorem Cursor.feed_congr {cursor cursor' : Cursor} {phase phase' : Phase}
    (hkind : cursor'.kind = cursor.kind) (hfinished : cursor'.finished = cursor.finished)
    (hrest : phase'.rest server = phase.rest server) :
    cursor'.feed server phase' = cursor.feed server phase := by
  unfold Cursor.feed
  rw [hkind, hfinished, hrest]

/-- The scan of an open cursor. -/
theorem At.feed {c n : ℕ} {cursor : Cursor} {ctx : OracleContext} (hat : At l s c cursor n ctx) :
    l.feed server s c = some (cursor.feed server (l.phase c)) := by
  unfold Ledger.feed
  rw [hat.get]
  rfl

/-- A statement has moved on, with the same rows to give. -/
theorem feed_moved_same {c n : ℕ} {cursor cursor' : Cursor} {ctx : OracleContext} {phase : Phase}
    (hat : At l s c cursor n ctx)
    (hfeed : cursor'.feed server phase = cursor.feed server (l.phase c)) (w : World) (c' : ℕ) :
    (l.advance c phase).feed server
        { s with world := w, cursors := s.cursors.set c (some cursor') } c' =
      l.feed server s c' := by
  rw [feed_moved hat.get]
  split
  · next heq => rw [heq, hat.feed, hfeed]
  · rfl

/-- A statement has moved on, and its owner does not know. -/
theorem Inv.movedOnly (h : Inv l s) {c n : ℕ} {cursor : Cursor} {ctx : OracleContext}
    {phase : Phase} {w : World} (hat : At l s c cursor n ctx) (hopen : Open cursor phase)
    (hsvc : ∀ sql svc fetched, phase = .executed sql svc fetched → ctx.svchp = some svc)
    (hfeed : cursor.feed server phase = cursor.feed server (l.phase c))
    (hw : w.table.owned =
      {(n, .statement phase)} + l.total s.contexts (s.cursors.set c none)) :
    Steps server l s { s with world := w } := by
  have hsame : s.cursors.set c (some cursor) = s.cursors := by
    ext i : 1
    by_cases hi : i = c
    · rw [hi, hat.get, List.getElem?_set_self (List.getElem?_eq_some_iff.mp hat.get).1]
    · rw [List.getElem?_set_ne (Ne.symm hi)]
  have hmoved := (h.moved cursor hat rfl rfl hopen hsvc hw).1
  have hfeeds := feed_moved_same hat hfeed w
  rw [hsame] at hmoved
  simp only [hsame] at hfeeds
  exact ⟨_, hmoved, rfl, hfeeds⟩

/-- An execution opens a cursor on the service context, at the first row. -/
theorem execute_default {phase : Phase} (h : Handle.isPrepared (.statement phase) = true)
    (svc : ℕ) : ∃ sql, phase.execute .default svc = .executed sql svc 0 ∧
      ((∀ sql svc fetched, phase = .executed sql svc fetched → fetched = 0) →
        phase.rest server = (server sql).rows) := by
  cases phase with
  | allocated => exact nomatch h
  | prepared sql | described sql => exact ⟨sql, rfl, fun _ => rfl⟩
  | executed sql svc' fetched =>
    refine ⟨sql, rfl, fun hfresh => ?_⟩
    rw [hfresh sql svc' fetched rfl]
    rfl

variable (server) in
/-- The cursor of a scan is executed once. -/
theorem executeOnce_ends (h : Inv l s) {c n : ℕ} {cursor : Cursor} {ctx : OracleContext}
    (hat : At l s c cursor n ctx) :
    Ends (executeOnce c cursor ctx) s fun r s' => match r with
      | .ok _ => ∃ l', Inv l' s' ∧ l'.left = l.left ∧
          At l' s' c { cursor with executed := true } n ctx ∧
          ∀ c', l'.feed server s' c' = l.feed server s c'
      | .error _ => Steps server l s s' := by
  obtain ⟨kind, handle, stmthp, executed, finished⟩ := cursor
  obtain rfl : stmthp = some n := hat.stmthp
  unfold executeOnce
  split
  · next hexec =>
    obtain rfl : executed = true := hexec
    exact ends_pure.mpr ⟨l, h, rfl, hat, fun _ => rfl⟩
  · next hexec =>
    obtain rfl : executed = false := Bool.eq_false_iff.mpr hexec
    obtain ⟨env, svc, err, -, hsvcp, herrp, -, hon⟩ := hat.usable
    obtain ⟨sql, hsql, hrest⟩ := @execute_default server _ hat.isOpen.prepared svc
    refine ends_bind.mpr ((ends_inWorld (openCursor_ends hsvcp herrp hon hat.isOpen.prepared
      (hat.owned h))).mono fun r s' hs' => ?_)
    obtain ⟨w, rfl, hw⟩ := hs'
    cases r with
    | error e => exact h.movedOnly hat hat.isOpen hat.svc rfl hw
    | ok _ =>
      have hw' : w.table.owned = {(n, .statement (.executed sql svc 0))} +
          l.total s.contexts (s.cursors.set c none) := by
        rw [← hsql]
        exact hw
      obtain ⟨hinv, hat'⟩ := h.moved ⟨kind, handle, some n, true, finished⟩ hat rfl rfl
        ⟨rfl, rfl, fun _ => rfl, nofun⟩
        (fun _ _ _ heq => by rw [hsvcp, (Phase.executed.inj heq).2.1]) hw'
      have hfeed : (⟨kind, handle, some n, true, finished⟩ : Cursor).feed server
          (.executed sql svc 0) = (⟨kind, handle, some n, false, finished⟩ : Cursor).feed server
            (l.phase c) := Cursor.feed_congr rfl rfl (hrest (hat.isOpen.fresh rfl)).symm
      exact ends_perform.mpr (returns_modify.mpr ⟨_, hinv, rfl, hat', feed_moved_same hat hfeed w⟩)

/-- **A scan** executes its cursor once, and fetches the next rows. -/
theorem scanNext_ends (h : Inv l s) (c : ℕ) :
    Ends (scanNext server c) s fun r s' => Stepped server affected l s (.scanNext c) r s' := by
  have hquiet : ∀ {r : Except IOException Reply} {s' : System}, Steps server l s s' →
      (∀ reply, r = .ok reply → reply.isQuiet = true) →
      Stepped server affected l s (.scanNext c) r s' :=
    fun hsteps hr => hsteps.stepped (fun _ => rfl) hr fun _ _ => trivial
  refine onCursor_ends h c .scan (hquiet (h.steps rfl rfl rfl) fun b hb => ?_)
    fun cursor n ctx hkind hat => ?_
  · obtain rfl := Except.ok.inj hb
    rfl
  obtain ⟨kind, handle, stmthp, executed, finished⟩ := cursor
  obtain rfl : stmthp = some n := hat.stmthp
  obtain rfl : kind = .scan := hkind
  have hothers : ∀ {rows : List Scan.Row} {c' : ℕ} {feed : Option (Option Feed)}, c' ≠ c →
      Turn server c' (.scanNext c, .ok (.rows rows)) feed feed :=
    fun hne => Turn.kept (if_neg (Ne.symm hne)) rfl
  split
  · next hfinished =>
    obtain rfl : finished = true := hfinished
    refine ends_pure.mpr ⟨l, h, rfl, fun c' => ?_, fun _ _ => trivial⟩
    by_cases heq : c' = c
    · rw [heq, hat.feed]
      exact Turn.drained
    · exact hothers heq
  · next hfinished =>
    obtain rfl : finished = false := Bool.eq_false_iff.mpr hfinished
    refine ends_bind.mpr ((executeOnce_ends server h hat).mono fun r s₁ h₁ => ?_)
    cases r with
    | error e => exact hquiet h₁ nofun
    | ok _ =>
      obtain ⟨l₁, hinv, hleft, hat₁, hfeed₁⟩ := h₁
      obtain ⟨env, svc, err, -, hsvcp, herrp, -, hon⟩ := hat₁.usable
      have hexec := hat₁.isOpen.executed rfl
      have howned := hat₁.owned hinv
      have hbefore := @At.feed server _ _ _ _ _ _ hat₁
      cases hphase : l₁.phase c with
      | allocated | prepared _ | described _ =>
        rw [hphase] at hexec
        exact nomatch hexec
      | executed sql svc' k =>
        rw [hphase] at howned hbefore
        have hsvc' := hat₁.svc sql svc' k hphase
        have hsvc : ∀ k' sql' svc₁ fetched,
            Phase.executed sql svc' k' = .executed sql' svc₁ fetched → ctx.svchp = some svc₁ :=
          fun _ _ _ _ heq => by rw [hsvc', (Phase.executed.inj heq).2.1]
        refine ends_bind.mpr ((ends_inWorld (fetchBatch_ends herrp hon.1 howned)).mono
          fun r s₂ h₂ => ?_)
        obtain ⟨w, rfl, hw⟩ := h₂
        cases r with
        | error e =>
          obtain ⟨l', hinv', hl', hfeed'⟩ := hinv.movedOnly hat₁
            ⟨hat₁.isOpen.stmthp, rfl, fun _ => rfl, nofun⟩ (hsvc k)
            (Cursor.feed_congr rfl rfl (by rw [hphase])) hw
          exact hquiet ⟨l', hinv', hl'.trans hleft, fun c' => (hfeed' c').trans (hfeed₁ c')⟩ nofun
        | ok batch =>
          obtain ⟨noData, counted⟩ := batch
          obtain ⟨rows, rest, hsplit, hend, hlast, hcounted, hw⟩ := hw
          refine ends_perform_bind.mpr (returns_modify.mpr (ends_pure.mpr ⟨_, (hinv.moved
            ⟨.scan, handle, some n, true, noData⟩ hat₁ rfl rfl
            ⟨rfl, rfl, fun _ => rfl, nofun⟩ (hsvc _) hw).1, congrArg Multiset.card hleft,
              fun c' => ?_, fun _ _ => trivial⟩))
          rw [feed_moved hat₁.get]
          split
          · next heq =>
            have hrest : (server sql).rows.drop (k + rows.length) = rest := by
              rw [← List.drop_drop, hsplit, List.drop_left]
            rw [heq, ← hfeed₁, hbefore]
            show Turn server c _ (some (some ⟨(server sql).rows.drop k, false⟩))
              (some (some ⟨(server sql).rows.drop (k + rows.length), noData⟩))
            rw [hrest, hsplit]
            cases counted with
            | none => exact Turn.lost hlast
            | some batch =>
              rw [hcounted batch rfl]
              exact Turn.fetched hend hlast
          · next hne =>
            rw [hfeed₁]
            cases counted with
            | none => exact Turn.kept (if_neg (Ne.symm hne)) rfl
            | some batch => exact hothers hne

/-- A batch of a `COPY`. -/
theorem sink_ends (h : Inv l s) (c rebinds : ℕ) :
    Ends (sink c rebinds) s fun r s' => Stepped server affected l s (.sink c rebinds) r s' := by
  refine onCursor_ends h c .copy ?_ fun cursor n ctx hkind hat => ?_
  · refine (h.steps rfl rfl rfl).stepped (fun _ => rfl) (fun b hb => ?_) fun _ _ => trivial
    obtain rfl := Except.ok.inj hb
    rfl
  obtain ⟨env, svc, err, -, hsvcp, herrp, -, hon⟩ := hat.usable
  obtain ⟨sql, hsql, -⟩ := @execute_default server _ hat.isOpen.prepared svc
  have hnone : ∀ phase, cursor.feed server phase = none := fun _ => if_neg (by rw [hkind]; decide)
  have hquiet : ∀ {r : Except IOException Reply} {s' : System}, Steps server l s s' →
      (∀ reply, r = .ok reply → reply.isQuiet = true) →
      Stepped server affected l s (.sink c rebinds) r s' :=
    fun hsteps hr => hsteps.stepped (fun _ => rfl) hr fun _ _ => trivial
  rw [hat.stmthp]
  refine ends_bind.mpr ((ends_inWorld (sinkStatement_ends hsvcp herrp hon hat.isOpen.prepared
    (hat.owned h))).mono fun r s' hs' => ?_)
  obtain ⟨w, rfl, hw⟩ := hs'
  have hsteps : Steps server l s { s with world := w } := by
    rcases hw with hw | hw
    · exact h.movedOnly hat hat.isOpen hat.svc rfl hw
    · rw [hsql] at hw
      refine h.movedOnly hat ⟨hat.isOpen.stmthp, rfl, fun _ => rfl, ?_⟩
        (fun _ _ _ heq => by rw [hsvcp, (Phase.executed.inj heq).2.1])
        ((hnone _).trans (hnone _).symm) hw
      rintro - _ _ _ heq
      exact (Phase.executed.inj heq).2.2.symm
  cases r with
  | error e => exact hquiet hsteps nofun
  | ok _ =>
    refine ends_pure.mpr (hquiet hsteps fun b hb => ?_)
    obtain rfl := Except.ok.inj hb
    rfl

/-- The statement of a scan or a `COPY` is freed. -/
theorem close_ends (h : Inv l s) (c : ℕ) :
    Ends (close c) s fun r s' => Stepped server affected l s (.close c) r s' := by
  unfold close
  refine ends_perform_bind.mpr (returns_get.mpr ?_)
  split
  · next cursor hc =>
    obtain ⟨n, hn⟩ := Option.isSome_iff_exists.mp (h.owns.statement c cursor hc).stmthp
    have howned : s.world.table.owned =
        {(n, .statement (l.phase c))} + l.total s.contexts (s.cursors.set c none) := by
      rw [h.owns.owned, total_statement hc]
      unfold Ledger.statement
      rw [hn, entry_some]
    refine ends_perform.mpr (returns_bind.mpr ?_)
    rw [hn]
    refine returns_within.mpr (returns_handleFree howned rfl rfl fun w hw => ?_)
    refine returns_bind.mpr (returns_modify.mpr (returns_pure.mpr ⟨l, ⟨h.accounted, h.granted,
      ⟨hw, h.owns.left, h.owns.whole, fun c' cursor' hc' => ?_⟩, ⟨h.places.length, h.places.held,
        h.places.idle, h.places.somewhere, fun c' cursor' hc' => ?_⟩, h.dropped⟩, rfl,
      fun c' => ?_, fun _ _ => trivial⟩))
    · exact h.owns.statement c' cursor' (get_of_set_none hc').2
    · exact h.places.cursor c' cursor' (get_of_set_none hc').2
    · unfold Ledger.feed
      by_cases heq : c' = c
      · rw [heq, hc, List.getElem?_set_self (List.getElem?_eq_some_iff.mp hc).1]
        exact Turn.closed
      · rw [List.getElem?_set_ne (Ne.symm heq)]
        exact Turn.kept rfl rfl
  · refine ends_pure.mpr ((h.steps rfl rfl rfl).stepped (fun _ => rfl) (fun b hb => ?_)
      fun _ _ => trivial)
    obtain rfl := Except.ok.inj hb
    rfl

end Statements

end Oci
end DuckdbOracle
