import DuckdbOracle.Foundations.SlotSum
import DuckdbOracle.Oci.System

/-!
# To whom the handles belong

A ledger says of every handle of OCI whose it is: the environment, a session, an open scan or
`COPY`, or nobody's any more.  Together they are all that is allocated; `Owns` is this equation, and
`Places` says where the manager has the sessions that it is about.

The rules below change the ledger as the operations do: a context is added or destroyed, a session
is marked, a statement is opened, moves on, or is freed.
-/

namespace DuckdbOracle
namespace Oci

open HandleTable Programs SlotSum

/-! ## The ledger -/

/-- What is to be known of the objects of a `System`, by their numbers. -/
structure Ledger where
  /-- The statements that nothing frees. -/
  left : Handles
  /-- The credentials a session has begun with. -/
  credentials : ℕ → Connection.OracleCredentials
  /-- A session lies idle in a pool. -/
  idle : ℕ → Bool
  /-- How far the statement of a scan or a `COPY` is. -/
  phase : ℕ → Phase

/-- The handles of a session. -/
def Ledger.session (l : Ledger) (id : ℕ) (ctx : OracleContext) : Handles :=
  ctx.handles (ctx.loggedOn (l.credentials id)) (l.idle id)

/-- The handle of a scan or a `COPY`. -/
def Ledger.statement (l : Ledger) (c : ℕ) (cursor : Cursor) : Handles :=
  entry cursor.stmthp (.statement (l.phase c))

/-- All handles. -/
def Ledger.total (l : Ledger) (contexts : List (Option OracleContext))
    (cursors : List (Option Cursor)) : Handles :=
  {(0, Handle.env)} + l.left + slotSum contexts l.session + slotSum cursors l.statement

/-- A context with all its handles. -/
structure Whole (ctx : OracleContext) : Prop where
  envhp : ctx.envhp = some 0
  errhp : ctx.errhp.isSome = true
  srvhp : ctx.srvhp.isSome = true
  svchp : ctx.svchp.isSome = true
  authp : ctx.authp.isSome = true
  stmthp : ctx.stmthp = none
  ownsEnv : ctx.ownsEnv = false

/-- What a scan or a `COPY` knows of its statement. -/
structure Open (cursor : Cursor) (phase : Phase) : Prop where
  stmthp : cursor.stmthp.isSome = true
  prepared : Handle.isPrepared (.statement phase) = true
  executed : cursor.executed = true → Handle.isExecuted (.statement phase) = true
  fresh : cursor.executed = false → ∀ sql svc fetched, phase = .executed sql svc fetched →
    fetched = 0

/-- **The ledger accounts for all handles.** -/
structure Owns (l : Ledger) (s : System) : Prop where
  owned : s.world.table.owned = l.total s.contexts s.cursors
  left : ∀ e ∈ l.left, ∃ phase, e.2 = .statement phase ∧
    Handle.isExecuted (.statement phase) = false
  whole : ∀ (id : ℕ) ctx, s.contexts[id]? = some (some ctx) → Whole ctx
  statement : ∀ (c : ℕ) cursor, s.cursors[c]? = some (some cursor) → Open cursor (l.phase c)

/-- A scan or a `COPY` runs on the session of its handle. -/
def RunsOn (l : Ledger) (m : Connection.OracleConnectionManager) (s : System) (c : ℕ)
    (cursor : Cursor) : Prop :=
  ∃ handle ctx, m.handles[cursor.handle]? = some (some handle) ∧
    s.contexts[handle.ctx.id]? = some (some ctx) ∧
    ∀ sql svc fetched, l.phase c = .executed sql svc fetched → ctx.svchp = some svc

/-- Where the manager `m` has the sessions. -/
structure Places (l : Ledger) (m : Connection.OracleConnectionManager) (s : System) : Prop where
  length : s.contexts.length = m.created
  held : ∀ handle, some handle ∈ m.handles →
    (∃ ctx, s.contexts[handle.ctx.id]? = some (some ctx)) ∧ l.idle handle.ctx.id = false ∧
      Connection.parseOracleConnectionString handle.ctx.connectionString =
        .ok (l.credentials handle.ctx.id)
  idle : ∀ p session, Connection.IsIdle m p session →
    (Connection.Referenced m p → ∃ ctx, s.contexts[session.id]? = some (some ctx)) ∧
      l.idle session.id = true ∧
      Connection.parseOracleConnectionString session.connectionString =
        .ok (l.credentials session.id)
  somewhere : ∀ (id : ℕ) ctx, s.contexts[id]? = some (some ctx) →
    (∃ handle, some handle ∈ m.handles ∧ handle.ctx.id = id) ∨
      ∃ p session, Connection.IsIdle m p session ∧ session.id = id
  cursor : ∀ (c : ℕ) cursor, s.cursors[c]? = some (some cursor) → RunsOn l m s c cursor

/-- **The invariant.**  Every handle is accounted for, every session is where the manager has it,
and the sessions of pool objects that nothing keeps are gone. -/
structure Inv (l : Ledger) (s : System) : Prop where
  accounted : Connection.Accounted s.manager
  granted : Connection.Granted s.manager
  owns : Owns l s
  places : Places l s.manager s
  dropped : ∀ p session, Connection.IsIdle s.manager p session →
    ¬ Connection.Referenced s.manager p → s.contexts[session.id]? = some none

/-! ## Sums -/

section Sums

variable {l l' : Ledger} {contexts : List (Option OracleContext)} {cursors : List (Option Cursor)}

theorem total_congr (hleft : l'.left = l.left)
    (hsession : ∀ (id : ℕ) ctx, contexts[id]? = some (some ctx) →
      l'.session id ctx = l.session id ctx)
    (hstatement : ∀ (c : ℕ) cursor, cursors[c]? = some (some cursor) →
      l'.statement c cursor = l.statement c cursor) :
    l'.total contexts cursors = l.total contexts cursors := by
  unfold Ledger.total
  rw [hleft, slotSum_congr hsession, slotSum_congr hstatement]

/-- The handles of a session, and the others. -/
theorem total_session {id : ℕ} {ctx : OracleContext} (h : contexts[id]? = some (some ctx)) :
    l.total contexts cursors = l.session id ctx + l.total (contexts.set id none) cursors := by
  unfold Ledger.total
  rw [slotSum_split h]
  abel

/-- The handle of a scan or a `COPY`, and the others. -/
theorem total_statement {c : ℕ} {cursor : Cursor} (h : cursors[c]? = some (some cursor)) :
    l.total contexts cursors = l.statement c cursor + l.total contexts (cursors.set c none) := by
  unfold Ledger.total
  rw [slotSum_split h]
  abel

theorem total_set {c : ℕ} {cursor cursor' : Cursor} (h : cursors[c]? = some (some cursor)) :
    l.total contexts (cursors.set c (some cursor')) =
      l.statement c cursor' + l.total contexts (cursors.set c none) := by
  have hlt : c < cursors.length := (List.getElem?_eq_some_iff.mp h).1
  unfold Ledger.total
  rw [slotSum_set hlt]
  abel

theorem total_concat_session (ctx : OracleContext) :
    l.total (contexts ++ [some ctx]) cursors =
      l.session contexts.length ctx + l.total contexts cursors := by
  unfold Ledger.total
  rw [slotSum_concat]
  abel

theorem total_concat_statement (cursor : Cursor) :
    l.total contexts (cursors ++ [some cursor]) =
      l.statement cursors.length cursor + l.total contexts cursors := by
  unfold Ledger.total
  rw [slotSum_concat]
  abel

/-- Other slots are as they were. -/
theorem get_of_set_none {α : Type} {slots : List (Option α)} {i j : ℕ} {a : α}
    (h : (slots.set i none)[j]? = some (some a)) : j ≠ i ∧ slots[j]? = some (some a) := by
  by_cases hij : j = i
  · subst hij
    have hlt : j < slots.length := by
      have := (List.getElem?_eq_some_iff.mp h).1
      rwa [List.length_set] at this
    rw [List.getElem?_set_self hlt] at h
    exact nomatch h
  · rw [List.getElem?_set_ne (Ne.symm hij)] at h
    exact ⟨hij, h⟩

theorem set_none_of_ne {α : Type} {slots : List (Option α)} {i j : ℕ} {o : Option (Option α)}
    (hij : j ≠ i) (h : slots[j]? = o) : (slots.set i none)[j]? = o := by
  rw [List.getElem?_set_ne (Ne.symm hij), h]

end Sums

/-! ## The account of the handles -/

section Account

variable {l : Ledger} {s : System}

/-- The environment is there. -/
theorem env_mem_total (l : Ledger) (contexts : List (Option OracleContext))
    (cursors : List (Option Cursor)) : (0, Handle.env) ∈ l.total contexts cursors := by
  unfold Ledger.total
  simp

/-- A session among the handles, as its destructor sees it. -/
theorem Owns.built (h : Owns l s) {id : ℕ} {ctx : OracleContext}
    (hctx : s.contexts[id]? = some (some ctx)) :
    Built (l.total (s.contexts.set id none) s.cursors) ctx (ctx.loggedOn (l.credentials id))
      (l.idle id) s.world := by
  have hwhole := h.whole id ctx hctx
  exact ⟨h.owned.trans (total_session hctx), hwhole.stmthp, hwhole.ownsEnv,
    fun _ => ⟨hwhole.svchp, hwhole.errhp⟩, fun _ => hwhole.errhp⟩

/-- A session that is held can be used. -/
theorem Owns.usable (h : Owns l s) {id : ℕ} {ctx : OracleContext}
    (hctx : s.contexts[id]? = some (some ctx)) (hidle : l.idle id = false)
    (cursors : List (Option Cursor)) : Usable (l.total s.contexts cursors) ctx := by
  obtain ⟨henv, herr, hsrv, hsvc, hauth, -, -⟩ := h.whole id ctx hctx
  obtain ⟨err, herr⟩ := Option.isSome_iff_exists.mp herr
  obtain ⟨srv, hsrv⟩ := Option.isSome_iff_exists.mp hsrv
  obtain ⟨svc, hsvc⟩ := Option.isSome_iff_exists.mp hsvc
  obtain ⟨auth, hauth⟩ := Option.isSome_iff_exists.mp hauth
  refine ⟨0, svc, err, henv, hsvc, herr, env_mem_total _ _ _, ?_⟩
  rw [total_session hctx]
  exact Built.loggedOn hidle hsvc hsrv hauth herr rfl rfl rfl rfl

/-- A context is destroyed. -/
theorem returns_destroyContext (h : Owns l s) {id : ℕ} {ctx : OracleContext}
    (hctx : s.contexts[id]? = some (some ctx)) :
    Returns (destroyContext id ctx) s fun _ s' =>
      Owns l s' ∧ s'.manager = s.manager ∧ s'.cursors = s.cursors ∧
        s'.contexts = s.contexts.set id none := by
  unfold destroyContext onWorld
  refine returns_bind.mpr (returns_within.mpr ((returns_destroy (h.built hctx)).mono
    fun _ w hw => returns_modify.mpr ⟨⟨hw, h.left, fun id' ctx' hctx' => ?_, h.statement⟩,
      rfl, rfl, rfl⟩))
  exact h.whole id' ctx' (get_of_set_none hctx').2

end Account

/-! ## Pool objects that nothing keeps -/

section Settle

variable {l : Ledger} {s : System} {m : Connection.OracleConnectionManager}

/-- A session goes that nobody holds and that is idle in no pool object that is kept. -/
theorem Places.drop (h : Places l m s) {id : ℕ} {s' : System}
    (hcontexts : s'.contexts = s.contexts.set id none) (hcursors : s'.cursors = s.cursors)
    (hheld : ∀ handle, some handle ∈ m.handles → handle.ctx.id ≠ id)
    (hidle : ∀ p session, Connection.IsIdle m p session → Connection.Referenced m p →
      session.id ≠ id) : Places l m s' := by
  refine ⟨?_, fun handle hmem => ?_, fun p session hsession => ?_, fun id' ctx hctx => ?_,
    fun c cursor hc => ?_⟩
  · rw [hcontexts, List.length_set, h.length]
  · obtain ⟨⟨ctx, hctx⟩, hrest⟩ := h.held handle hmem
    rw [hcontexts]
    exact ⟨⟨ctx, set_none_of_ne (hheld handle hmem) hctx⟩, hrest⟩
  · obtain ⟨hthere, hrest⟩ := h.idle p session hsession
    refine ⟨fun href => ?_, hrest⟩
    obtain ⟨ctx, hctx⟩ := hthere href
    rw [hcontexts]
    exact ⟨ctx, set_none_of_ne (hidle p session hsession href) hctx⟩
  · rw [hcontexts] at hctx
    exact h.somewhere id' ctx (get_of_set_none hctx).2
  · rw [hcursors] at hc
    obtain ⟨handle, ctx, hhandle, hctx, hsvc⟩ := h.cursor c cursor hc
    refine ⟨handle, ctx, hhandle, ?_, hsvc⟩
    rw [hcontexts]
    exact set_none_of_ne (hheld handle (List.mem_of_getElem? hhandle)) hctx

/-- An idle session of a pool object that nothing keeps. -/
def IsGarbage (m : Connection.OracleConnectionManager) (id : ℕ) : Prop :=
  ∃ p session, Connection.IsIdle m p session ∧ session.id = id ∧ ¬ Connection.Referenced m p

theorem mem_garbage (hk : Connection.Keyed m) {id : ℕ} : id ∈ garbage m ↔ IsGarbage m id := by
  unfold garbage IsGarbage Connection.IsIdle
  rw [List.mem_flatMap]
  constructor
  · rintro ⟨p, -, hid⟩
    cases hp : m.objects[p]? with
    | none => rw [hp] at hid; exact nomatch hid
    | some pool =>
      rw [hp] at hid
      dsimp only at hid
      by_cases href : Connection.referenced m p = true
      · rw [if_pos href] at hid
        exact nomatch hid
      · rw [if_neg href] at hid
        obtain ⟨session, hmem, rfl⟩ := List.mem_map.mp hid
        exact ⟨p, session, ⟨pool, hp, hmem⟩, rfl,
          fun h => href ((Connection.referenced_iff hk).mpr h)⟩
  · rintro ⟨p, session, ⟨pool, hp, hmem⟩, rfl, href⟩
    refine ⟨p, List.mem_range.mpr (List.getElem?_eq_some_iff.mp hp).1, ?_⟩
    rw [hp]
    dsimp only
    rw [if_neg fun h => href ((Connection.referenced_iff hk).mp h)]
    exact List.mem_map_of_mem hmem

/-- **The sessions of dropped pool objects are destroyed**, each once, and no other. -/
theorem returns_destroyAll (ha : Connection.Accounted m) {ids : List ℕ}
    (hids : ∀ id ∈ ids, IsGarbage m id) (ho : Owns l s) (hp : Places l m s) :
    Returns (destroyAll ids) s fun _ s' => Owns l s' ∧ Places l m s' ∧ s'.manager = s.manager ∧
      s'.cursors = s.cursors ∧ (∀ id ∈ ids, s'.contexts[id]? = some none) ∧
      ∀ id : ℕ, s.contexts[id]? = some none → s'.contexts[id]? = some none := by
  induction ids generalizing s with
  | nil => exact returns_pure.mpr ⟨ho, hp, rfl, rfl, nofun, fun _ h => h⟩
  | cons id ids ih =>
    obtain ⟨p, session, hidle, rfl, href⟩ := hids id List.mem_cons_self
    have hrest : ∀ id ∈ ids, IsGarbage m id := fun id h => hids id (List.mem_cons_of_mem _ h)
    have hlt : session.id < s.contexts.length := by
      rw [hp.length]
      exact ha.placed.idle_lt hidle
    unfold destroyAll
    refine returns_bind.mpr (returns_get.mpr ?_)
    obtain ⟨o, ho'⟩ : ∃ o, s.contexts[session.id]? = some o := ⟨_, List.getElem?_eq_getElem hlt⟩
    rw [ho']
    cases o with
    | none =>
      refine (ih hrest ho hp).mono fun _ s' hs' => ?_
      obtain ⟨howns, hplaces, hm, hcursors, hgone, hkeep⟩ := hs'
      refine ⟨howns, hplaces, hm, hcursors, fun id hid => ?_, hkeep⟩
      rcases List.mem_cons.mp hid with rfl | hid
      · exact hkeep _ ho'
      · exact hgone id hid
    | some ctx =>
      refine returns_bind.mpr ((returns_destroyContext ho ho').mono fun _ s₁ h₁ => ?_)
      obtain ⟨ho₁, hm₁, hcursors₁, hcontexts₁⟩ := h₁
      have hp₁ : Places l m s₁ := hp.drop hcontexts₁ hcursors₁
        (fun handle hmem heq => ha.placed.not_idle hmem hidle heq.symm)
        fun q session' hidle' href' heq =>
          href (ha.placed.idle_unique hidle hidle' heq.symm ▸ href')
      refine (ih hrest ho₁ hp₁).mono fun _ s' hs' => ?_
      obtain ⟨howns, hplaces, hm, hcursors, hgone, hkeep⟩ := hs'
      have hnone : s₁.contexts[session.id]? = some none := by
        rw [hcontexts₁, List.getElem?_set_self hlt]
      refine ⟨howns, hplaces, hm.trans hm₁, hcursors.trans hcursors₁, fun id hid => ?_,
        fun id hid => hkeep id ?_⟩
      · rcases List.mem_cons.mp hid with rfl | hid
        · exact hkeep _ hnone
        · exact hgone id hid
      · by_cases heq : id = session.id
        · rw [heq, hnone]
        · rw [hcontexts₁]
          exact set_none_of_ne heq hid

/-- **The manager has taken a step**: when its sessions are where it has them, the invariant holds
after the dropped pool objects are destroyed. -/
theorem returns_settle (ha : Connection.Accounted m) (hg : Connection.Granted m) (ho : Owns l s)
    (hp : Places l m s) :
    Returns (settle m) s fun _ s' => Inv l s' ∧ s'.manager = m ∧ s'.cursors = s.cursors := by
  unfold settle
  refine returns_bind.mpr (returns_modify.mpr ?_)
  have ho₁ : Owns l { s with manager := m } := ⟨ho.owned, ho.left, ho.whole, ho.statement⟩
  have hp₁ : Places l m { s with manager := m } := ⟨hp.length, hp.held, hp.idle, hp.somewhere,
    hp.cursor⟩
  refine (returns_destroyAll ha (fun id hid => (mem_garbage ha.keyed).mp hid) ho₁ hp₁).mono
    fun _ s' hs' => ?_
  obtain ⟨howns, hplaces, hm, hcursors, hgone, -⟩ := hs'
  have hm' : s'.manager = m := hm
  refine ⟨⟨hm' ▸ ha, hm' ▸ hg, howns, hm' ▸ hplaces, fun p session hidle href => ?_⟩, hm',
    hcursors⟩
  rw [hm'] at hidle href
  exact hgone _ ((mem_garbage ha.keyed).mpr ⟨p, session, hidle, rfl, href⟩)

end Settle

end Oci
end DuckdbOracle
