import DuckdbOracle.Oci.Ledger

/-!
# The ledger follows the manager

A step of the manager moves sessions, and the ledger follows: the mark of a session changes when it
is taken out of a pool or put back, a new session is entered with its credentials, and one that is
let go is struck out.  `Places.taken`, `Places.pooled`, `Places.opened` and `Places.letGo` are these
moves, `Places.still` is the step in which no session moves.
-/

namespace DuckdbOracle
namespace Oci

open HandleTable Programs SlotSum

/-! ## Marking a session -/

/-- Another mark for a session. -/
def Ledger.mark (l : Ledger) (id : ℕ) (idle : Bool) : Ledger :=
  { l with idle := Function.update l.idle id idle }

@[simp] theorem mark_idle_self (l : Ledger) (id : ℕ) (idle : Bool) :
    (l.mark id idle).idle id = idle := Function.update_self ..

theorem mark_idle_of_ne (l : Ledger) {id id' : ℕ} (h : id' ≠ id) (idle : Bool) :
    (l.mark id idle).idle id' = l.idle id' := Function.update_of_ne h _ _

/-- The slots of two states are the same. -/
structure SameSlots (s s' : System) : Prop where
  manager : s'.manager = s.manager
  contexts : s'.contexts = s.contexts
  cursors : s'.cursors = s.cursors

section Mark

variable {l : Ledger} {s : System} {id : ℕ} {ctx : OracleContext}

/-- A session is its service context and three other handles, whatever its mark. -/
theorem session_split (l : Ledger) (id : ℕ) {svc : ℕ} (hsvc : ctx.svchp = some svc) (idle : Bool) :
    (l.mark id idle).session id ctx = {(svc, .service ctx.srvhp ctx.authp idle)} +
      (entry ctx.errhp .error + entry ctx.srvhp (.server (some (l.credentials id).db)) +
        entry ctx.authp (.session (some (l.credentials id).user)
          (some (l.credentials id).password) true)) := by
  unfold Ledger.session OracleContext.handles OracleContext.loggedOn
  rw [hsvc, mark_idle_self, entry_some]
  show entry ctx.errhp .error + entry ctx.srvhp (.server (some (l.credentials id).db)) + _ +
    entry ctx.authp (.session (some (l.credentials id).user) _ true) = _
  abel

theorem mark_same (l : Ledger) (id : ℕ) : l.mark id (l.idle id) = l := by
  unfold Ledger.mark
  rw [Function.update_eq_self]

/-- The other sessions are as they were. -/
theorem total_mark (l : Ledger) (id : ℕ) (idle : Bool) (contexts : List (Option OracleContext))
    (cursors : List (Option Cursor)) :
    (l.mark id idle).total (contexts.set id none) cursors =
      l.total (contexts.set id none) cursors := by
  refine total_congr rfl (fun id' ctx' h => ?_) fun _ _ _ => rfl
  unfold Ledger.session
  rw [mark_idle_of_ne l (get_of_set_none h).1]
  rfl

/-- A call that changes the mark of a service context, seen from the ledger. -/
theorem Owns.mark (h : Owns l s) (hctx : s.contexts[id]? = some (some ctx)) (idle : Bool)
    {call : Pointer → Call World Unit}
    (hcall : ∀ (svc : ℕ) others, ctx.svchp = some svc →
      s.world.table.owned = {(svc, .service ctx.srvhp ctx.authp (l.idle id))} + others →
      Returns (call (some svc)) s.world fun _ w =>
        w.table.owned = {(svc, .service ctx.srvhp ctx.authp idle)} + others) :
    Returns (onWorld (call ctx.svchp)) s fun _ s' =>
      Owns (l.mark id idle) s' ∧ SameSlots s s' := by
  obtain ⟨svc, hsvc⟩ := Option.isSome_iff_exists.mp (h.whole id ctx hctx).svchp
  have howned := h.owned.trans (total_session hctx)
  have hsplit := session_split l id hsvc (l.idle id)
  rw [mark_same] at hsplit
  rw [hsplit, add_assoc] at howned
  rw [hsvc]
  refine returns_within.mpr ((hcall svc _ hsvc howned).mono fun _ w hw => ?_)
  refine ⟨⟨?_, h.left, h.whole, h.statement⟩, rfl, rfl, rfl⟩
  have htotal := @total_session (l.mark id idle) _ s.cursors _ _ hctx
  rw [total_mark, session_split l id hsvc, add_assoc] at htotal
  exact hw.trans htotal.symm

theorem returns_mark {svc : ℕ} {server session : Pointer} {idle idle' : Bool} {others : Handles}
    {w : World} (hw : w.table.owned = {(svc, .service server session idle)} + others) :
    Returns (modify fun w : World =>
      { w with table := update (some svc) (Handle.mark idle') w.table } : Call World PUnit) w
      fun _ w' => w'.table.owned = {(svc, .service server session idle')} + others :=
  returns_modify.mpr (owned_update hw _)

theorem returns_takeOut (h : Owns l s) (hctx : s.contexts[id]? = some (some ctx))
    (hidle : l.idle id = true) :
    Returns (onWorld (takeOut ctx.svchp)) s fun _ s' =>
      Owns (l.mark id false) s' ∧ SameSlots s s' := by
  refine h.mark hctx false fun svc others _ hw => ?_
  refine returns_bind.mpr (returns_require.mpr ⟨?_, returns_mark hw⟩)
  refine has_of_get? (get?_of_owned hw) ?_
  exact hidle

theorem returns_giveBack (h : Owns l s) (hctx : s.contexts[id]? = some (some ctx))
    (hidle : l.idle id = false) (hquiet : ∀ svc, ctx.svchp = some svc → s.world.quiet svc = true) :
    Returns (onWorld (giveBack ctx.svchp)) s fun _ s' =>
      Owns (l.mark id true) s' ∧ SameSlots s s' := by
  refine h.mark hctx true fun svc others hsvc hw => ?_
  refine returns_bind.mpr (returns_require.mpr ⟨?_, returns_mark hw⟩)
  have hin : Handle.isInUse (.service ctx.srvhp ctx.authp (l.idle id)) = true := by
    rw [hidle]
    rfl
  exact Bool.and_eq_true_iff.mpr ⟨has_of_get? (get?_of_owned hw) hin, hquiet svc hsvc⟩

end Mark

/-! ## Moves -/

section Moves

variable {l : Ledger} {m m' : Connection.OracleConnectionManager} {s s' : System}

/-- Only the slots matter to where a session is. -/
theorem Places.congr (h : Places l m s) (hslots : SameSlots s s') : Places l m s' := by
  obtain ⟨-, hcontexts, hcursors⟩ := hslots
  refine ⟨hcontexts ▸ h.length, fun handle hmem => ?_, fun p session hidle => ?_,
    fun id ctx hctx => h.somewhere id ctx (hcontexts ▸ hctx), fun c cursor hc => ?_⟩
  · rw [hcontexts]
    exact h.held handle hmem
  · rw [hcontexts]
    exact h.idle p session hidle
  · unfold RunsOn
    rw [hcontexts]
    exact h.cursor c cursor (hcursors ▸ hc)

theorem isIdle_lt {p : ℕ} {session : Connection.OracleContext} (h : Connection.IsIdle m p session) :
    p < m.objects.length := by
  obtain ⟨pool, hp, -⟩ := h
  exact (List.getElem?_eq_some_iff.mp hp).1

/-- No session moves. -/
theorem Places.still {e : Connection.Event} (h : Places l m s) (ht : Connection.Transition m e m')
    (hstill : Connection.Still m m') : Places l m' s := by
  obtain ⟨hcreated, hhandles, hidle⟩ := hstill
  refine ⟨h.length.trans hcreated.symm, fun handle hmem => h.held handle (hhandles ▸ hmem),
    fun p session hsession => ?_, fun id ctx hctx => ?_, fun c cursor hc => ?_⟩
  · have hold := (hidle p session).mp hsession
    obtain ⟨hthere, hrest⟩ := h.idle p session hold
    exact ⟨fun href => hthere (ht.referenced (isIdle_lt hold) href), hrest⟩
  · refine (h.somewhere id ctx hctx).imp ?_ ?_
    · rintro ⟨handle, hmem, hid⟩
      exact ⟨handle, hhandles ▸ hmem, hid⟩
    · rintro ⟨p, session, hsession, hid⟩
      exact ⟨p, session, (hidle p session).mpr hsession, hid⟩
  · obtain ⟨handle, ctx, hhandle, hrest⟩ := h.cursor c cursor hc
    exact ⟨handle, ctx, hhandles ▸ hhandle, hrest⟩

/-- A session changes from idle to held. -/
theorem Places.taken {e : Connection.Event} (h : Places l m s) (ha : Connection.Accounted m)
    (ha' : Connection.Accounted m') (ht : Connection.Transition m e m') {p : ℕ}
    {session : Connection.OracleContext} (hcreated : m'.created = m.created)
    (hhandles : m'.handles = m.handles ++ [some ⟨some p, session⟩])
    (hmem : Connection.IsIdle m p session) (href : Connection.Referenced m p)
    (hidle : ∀ q other, Connection.IsIdle m' q other → Connection.IsIdle m q other)
    (hrest : ∀ q other, Connection.IsIdle m q other →
      Connection.IsIdle m' q other ∨ other = session) :
    Places (l.mark session.id false) m' s := by
  have hnew : some (⟨some p, session⟩ : Connection.OracleConnectionHandle) ∈ m'.handles := by
    rw [hhandles]
    exact List.mem_append_right _ List.mem_cons_self
  obtain ⟨hthere, -, hparse⟩ := h.idle p session hmem
  refine ⟨h.length.trans hcreated.symm, fun handle hh => ?_, fun q other ho => ?_,
    fun id ctx hctx => ?_, fun c cursor hc => ?_⟩
  · rw [hhandles] at hh
    rcases List.mem_append.mp hh with hold | hlast
    · have hne : handle.ctx.id ≠ session.id := fun heq => ha.placed.not_idle hold hmem heq.symm
      obtain ⟨hctx, hfalse, hcs⟩ := h.held handle hold
      exact ⟨hctx, by rw [mark_idle_of_ne l hne, hfalse], hcs⟩
    · obtain rfl := Option.some.inj (List.mem_singleton.mp hlast)
      exact ⟨hthere href, mark_idle_self .., hparse⟩
  · have hne : other.id ≠ session.id := ha'.placed.not_idle hnew ho
    have hold := hidle q other ho
    obtain ⟨hctx, htrue, hcs⟩ := h.idle q other hold
    refine ⟨fun hr => hctx (ht.referenced (isIdle_lt hold) hr), ?_, hcs⟩
    rw [mark_idle_of_ne l hne, htrue]
  · rcases h.somewhere id ctx hctx with ⟨handle, hh, hid⟩ | ⟨q, other, ho, hid⟩
    · exact Or.inl ⟨handle, by rw [hhandles]; exact List.mem_append_left _ hh, hid⟩
    · rcases hrest q other ho with hstays | rfl
      · exact Or.inr ⟨q, other, hstays, hid⟩
      · exact Or.inl ⟨_, hnew, hid⟩
  · obtain ⟨handle, ctx, hhandle, hlive⟩ := h.cursor c cursor hc
    refine ⟨handle, ctx, ?_, hlive⟩
    rw [hhandles]
    exact Tally.getElem?_concat_of hhandle _

/-- A session is put back. -/
theorem Places.pooled {e : Connection.Event} (h : Places l m s) (ha' : Connection.Accounted m')
    (ha : Connection.Accounted m) (ht : Connection.Transition m e m') {i p : ℕ}
    {session : Connection.OracleContext} (hcreated : m'.created = m.created)
    (hh : m.handles[i]? = some (some ⟨some p, session⟩))
    (hhandles : m'.handles = m.handles.set i none)
    (hidle : ∀ q other, Connection.IsIdle m' q other ↔
      Connection.IsIdle m q other ∨ (q = p ∧ other = session))
    (hshared : ∀ (c : ℕ) cursor, s.cursors[c]? = some (some cursor) → cursor.handle ≠ i) :
    Places (l.mark session.id true) m' s := by
  obtain ⟨hthere, -, hparse⟩ := h.held _ (List.mem_of_getElem? hh)
  have hnew : Connection.IsIdle m' p session := (hidle p session).mpr (Or.inr ⟨rfl, rfl⟩)
  refine ⟨h.length.trans hcreated.symm, fun handle hmem => ?_, fun q other ho => ?_,
    fun id ctx hctx => ?_, fun c cursor hc => ?_⟩
  · have hne : session.id ≠ handle.ctx.id := ha'.placed.not_idle hmem hnew
    rw [hhandles] at hmem
    have hold : some handle ∈ m.handles := (List.mem_or_eq_of_mem_set hmem).resolve_right nofun
    obtain ⟨hctx, hfalse, hcs⟩ := h.held handle hold
    exact ⟨hctx, by rw [mark_idle_of_ne l hne.symm, hfalse], hcs⟩
  · rcases (hidle q other).mp ho with hold | ⟨rfl, rfl⟩
    · have hne : other.id ≠ session.id := ha.placed.not_idle (List.mem_of_getElem? hh) hold
      obtain ⟨hctx, htrue, hcs⟩ := h.idle q other hold
      refine ⟨fun hr => hctx (ht.referenced (isIdle_lt hold) hr), ?_, hcs⟩
      rw [mark_idle_of_ne l hne, htrue]
    · exact ⟨fun _ => hthere, mark_idle_self .., hparse⟩
  · rcases h.somewhere id ctx hctx with ⟨handle, hmem, hid⟩ | ⟨q, other, ho, hid⟩
    · by_cases heq : id = session.id
      · exact Or.inr ⟨p, session, hnew, heq.symm⟩
      · refine Or.inl ⟨handle, ?_, hid⟩
        obtain ⟨j, hj⟩ := List.mem_iff_getElem?.mp hmem
        have hne : j ≠ i := by
          rintro rfl
          rw [hh] at hj
          obtain rfl := Option.some.inj (Option.some.inj hj)
          exact heq hid.symm
        rw [hhandles]
        exact List.mem_of_getElem? (set_none_of_ne hne hj)
    · exact Or.inr ⟨q, other, (hidle q other).mpr (Or.inl ho), hid⟩
  · obtain ⟨handle, ctx, hhandle, hlive⟩ := h.cursor c cursor hc
    refine ⟨handle, ctx, ?_, hlive⟩
    rw [hhandles]
    exact set_none_of_ne (hshared c cursor hc) hhandle

/-- A session without a pool is let go: it is nowhere, and still there. -/
theorem Places.letGo {e : Connection.Event} (h : Places l m s) (ha : Connection.Accounted m)
    (ht : Connection.Transition m e m') {i : ℕ} {session : Connection.OracleContext}
    (hcreated : m'.created = m.created) (hh : m.handles[i]? = some (some ⟨none, session⟩))
    (hhandles : m'.handles = m.handles.set i none)
    (hidle : ∀ q other, Connection.IsIdle m' q other ↔ Connection.IsIdle m q other)
    (hshared : ∀ (c : ℕ) cursor, s.cursors[c]? = some (some cursor) → cursor.handle ≠ i)
    (hcontexts : s'.contexts = s.contexts.set session.id none) (hcursors : s'.cursors = s.cursors) :
    Places l m' s' := by
  have hothers : ∀ handle, some handle ∈ m'.handles →
      some handle ∈ m.handles ∧ handle.ctx.id ≠ session.id := by
    intro handle hmem
    rw [hhandles] at hmem
    obtain ⟨j, hj⟩ := List.mem_iff_getElem?.mp hmem
    obtain ⟨hne, hold⟩ := get_of_set_none hj
    exact ⟨List.mem_of_getElem? hold, fun heq => hne (ha.placed.handle_unique hold hh heq)⟩
  refine ⟨?_, fun handle hmem => ?_, fun q other ho => ?_, fun id ctx hctx => ?_,
    fun c cursor hc => ?_⟩
  · rw [hcontexts, List.length_set, h.length, hcreated]
  · obtain ⟨hold, hne⟩ := hothers handle hmem
    obtain ⟨⟨ctx, hctx⟩, hrest⟩ := h.held handle hold
    rw [hcontexts]
    exact ⟨⟨ctx, set_none_of_ne hne hctx⟩, hrest⟩
  · have hold := (hidle q other).mp ho
    have hne : other.id ≠ session.id := ha.placed.not_idle (List.mem_of_getElem? hh) hold
    obtain ⟨hthere, hrest⟩ := h.idle q other hold
    refine ⟨fun href => ?_, hrest⟩
    obtain ⟨ctx, hctx⟩ := hthere (ht.referenced (isIdle_lt hold) href)
    rw [hcontexts]
    exact ⟨ctx, set_none_of_ne hne hctx⟩
  · rw [hcontexts] at hctx
    obtain ⟨hne, hctx⟩ := get_of_set_none hctx
    rcases h.somewhere id ctx hctx with ⟨handle, hmem, hid⟩ | ⟨q, other, ho, hid⟩
    · refine Or.inl ⟨handle, ?_, hid⟩
      obtain ⟨j, hj⟩ := List.mem_iff_getElem?.mp hmem
      have hij : j ≠ i := by
        rintro rfl
        rw [hh] at hj
        obtain rfl := Option.some.inj (Option.some.inj hj)
        exact hne hid.symm
      rw [hhandles]
      exact List.mem_of_getElem? (set_none_of_ne hij hj)
    · exact Or.inr ⟨q, other, (hidle q other).mpr ho, hid⟩
  · rw [hcursors] at hc
    obtain ⟨handle, ctx, hhandle, hctx, hsvc⟩ := h.cursor c cursor hc
    have hhandle' : m'.handles[cursor.handle]? = some (some handle) := by
      rw [hhandles]
      exact set_none_of_ne (hshared c cursor hc) hhandle
    refine ⟨handle, ctx, hhandle', ?_, hsvc⟩
    rw [hcontexts]
    exact set_none_of_ne (hothers handle (List.mem_of_getElem? hhandle')).2 hctx

/-- The ledger with a new session. -/
def Ledger.open (l : Ledger) (id : ℕ) (credentials : Connection.OracleCredentials) : Ledger :=
  { l with
    credentials := Function.update l.credentials id credentials
    idle := Function.update l.idle id false }

@[simp] theorem open_credentials_self (l : Ledger) (id : ℕ) (c : Connection.OracleCredentials) :
    (l.open id c).credentials id = c := Function.update_self ..

theorem open_credentials_of_ne (l : Ledger) {id id' : ℕ} (h : id' ≠ id)
    (c : Connection.OracleCredentials) : (l.open id c).credentials id' = l.credentials id' :=
  Function.update_of_ne h _ _

@[simp] theorem open_idle_self (l : Ledger) (id : ℕ) (c : Connection.OracleCredentials) :
    (l.open id c).idle id = false := Function.update_self ..

theorem open_idle_of_ne (l : Ledger) {id id' : ℕ} (h : id' ≠ id)
    (c : Connection.OracleCredentials) : (l.open id c).idle id' = l.idle id' :=
  Function.update_of_ne h _ _

/-- A session is opened into a handle. -/
theorem Places.opened {e : Connection.Event} (h : Places l m s) (ha : Connection.Accounted m)
    (ht : Connection.Transition m e m') {p : Option ℕ} {cs : String} {ctx : OracleContext}
    {credentials : Connection.OracleCredentials}
    (hparse : Connection.parseOracleConnectionString cs = .ok credentials)
    (hcreated : m'.created = m.created + 1)
    (hhandles : m'.handles = m.handles ++ [some ⟨p, ⟨m.created, cs⟩⟩])
    (hidle : ∀ q other, Connection.IsIdle m' q other ↔ Connection.IsIdle m q other)
    (hcontexts : s'.contexts = s.contexts ++ [some ctx]) (hcursors : s'.cursors = s.cursors) :
    Places (l.open m.created credentials) m' s' := by
  have hold : ∀ {id : ℕ} {o : Option OracleContext}, s.contexts[id]? = some o →
      s'.contexts[id]? = some o := by
    intro id o hid
    rw [hcontexts]
    exact Tally.getElem?_concat_of hid _
  have hlast : s'.contexts[m.created]? = some (some ctx) := by
    rw [hcontexts, ← h.length, List.getElem?_concat_length]
  have hne : ∀ {id : ℕ}, id < m.created → id ≠ m.created := fun hlt => Nat.ne_of_lt hlt
  refine ⟨?_, fun handle hmem => ?_, fun q other ho => ?_, fun id ctx' hctx => ?_,
    fun c cursor hc => ?_⟩
  · rw [hcontexts, List.length_append, h.length, hcreated]
    rfl
  · rw [hhandles] at hmem
    rcases List.mem_append.mp hmem with hmem | hnew
    · have hid := hne (ha.placed.held_lt hmem)
      obtain ⟨⟨ctx', hctx⟩, hfalse, hcs⟩ := h.held handle hmem
      rw [open_idle_of_ne l hid, open_credentials_of_ne l hid]
      exact ⟨⟨ctx', hold hctx⟩, hfalse, hcs⟩
    · obtain rfl := Option.some.inj (List.mem_singleton.mp hnew)
      rw [open_idle_self, open_credentials_self]
      exact ⟨⟨ctx, hlast⟩, rfl, hparse⟩
  · have ho' := (hidle q other).mp ho
    have hid := hne (ha.placed.idle_lt ho')
    obtain ⟨hthere, htrue, hcs⟩ := h.idle q other ho'
    rw [open_idle_of_ne l hid, open_credentials_of_ne l hid]
    refine ⟨fun href => ?_, htrue, hcs⟩
    obtain ⟨ctx', hctx⟩ := hthere (ht.referenced (isIdle_lt ho') href)
    exact ⟨ctx', hold hctx⟩
  · rw [hcontexts] at hctx
    rcases Tally.of_getElem?_concat hctx with hctx | ⟨rfl, -⟩
    · refine (h.somewhere id ctx' hctx).imp ?_ ?_
      · rintro ⟨handle, hmem, hid⟩
        exact ⟨handle, by rw [hhandles]; exact List.mem_append_left _ hmem, hid⟩
      · rintro ⟨q, other, ho, hid⟩
        exact ⟨q, other, (hidle q other).mpr ho, hid⟩
    · refine Or.inl ⟨⟨p, ⟨m.created, cs⟩⟩, ?_, h.length.symm⟩
      rw [hhandles]
      exact List.mem_append_right _ List.mem_cons_self
  · rw [hcursors] at hc
    obtain ⟨handle, ctx', hhandle, hctx, hsvc⟩ := h.cursor c cursor hc
    refine ⟨handle, ctx', ?_, hold hctx, hsvc⟩
    rw [hhandles]
    exact Tally.getElem?_concat_of hhandle _

end Moves

end Oci
end DuckdbOracle
