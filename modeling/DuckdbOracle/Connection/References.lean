import DuckdbOracle.Connection.PoolAccounting

/-!
# Who keeps a pool object, and where a session moves

A pool object is shared: the map of the manager keeps it, the handles of its sessions do, and
so does a call of `Acquire` that works on it.  When the last of these references is gone the
object is destroyed, and the idle sessions in it with it.  No step brings a reference back:
`Transition.referenced`.

`Move` says what a step does to the sessions, and `Transition.move` that it does nothing else:
a session is opened into a handle, taken out of an idle list into one, put back, or let go.
-/

namespace DuckdbOracle
namespace Connection

open Catalog StepRuns Tally

/-! ## References -/

/-- Something keeps the pool object `p`. -/
def Referenced (m : OracleConnectionManager) (p : ℕ) : Prop :=
  (∃ cs, m.pools cs = some p) ∨ (∃ handle, some handle ∈ m.handles ∧ handle.pool = some p) ∨
    ∃ call ∈ m.calls, call.phase.pool? = some p

/-- The handle refers to the pool object `p`. -/
def refersTo (p : ℕ) : Option OracleConnectionHandle → Bool
  | some handle => handle.pool = some p
  | none => false

/-- The map keeps the pool object `p`, under the string it was created for. -/
def mapped (m : OracleConnectionManager) (p : ℕ) : Bool :=
  match m.objects[p]? with
  | some pool => m.pools pool.key = some p
  | none => false

/-- Whether something keeps the pool object `p`. -/
def referenced (m : OracleConnectionManager) (p : ℕ) : Bool :=
  mapped m p || m.handles.any (refersTo p) || m.calls.any fun call => call.phase.pool? = some p

theorem mapped_iff {m : OracleConnectionManager} (hk : Keyed m) {p : ℕ} :
    mapped m p = true ↔ ∃ cs, m.pools cs = some p := by
  unfold mapped
  constructor
  · intro h
    split at h
    · next pool _ => exact ⟨pool.key, of_decide_eq_true h⟩
    · exact absurd h Bool.false_ne_true
  · rintro ⟨cs, hcs⟩
    obtain ⟨pool, hp, rfl⟩ := hk.mapped cs p hcs
    rw [hp]
    exact decide_eq_true hcs

theorem referenced_iff {m : OracleConnectionManager} (hk : Keyed m) {p : ℕ} :
    referenced m p = true ↔ Referenced m p := by
  unfold referenced Referenced
  rw [Bool.or_eq_true, Bool.or_eq_true, mapped_iff hk, List.any_eq_true, List.any_eq_true, or_assoc]
  refine or_congr Iff.rfl (or_congr ?_ ?_)
  · constructor
    · rintro ⟨o, hmem, ho⟩
      cases o with
      | none => exact absurd ho Bool.false_ne_true
      | some handle => exact ⟨handle, hmem, of_decide_eq_true ho⟩
    · rintro ⟨handle, hmem, hpool⟩
      exact ⟨some handle, hmem, decide_eq_true hpool⟩
  · exact exists_congr fun call => and_congr Iff.rfl decide_eq_true_iff

/-- A call that works on a pool object worked on it before. -/
theorem working_of_set {m : OracleConnectionManager} {c p : ℕ} {call : AcquireCall}
    {phase : AcquirePhase} (hc : m.calls[c]? = some call)
    (hphase : phase.pool? = none ∨ phase.pool? = call.phase.pool?)
    (h : ∃ call' ∈ m.calls.set c { call with phase := phase }, call'.phase.pool? = some p) :
    ∃ call' ∈ m.calls, call'.phase.pool? = some p := by
  obtain ⟨call', hmem, hcall'⟩ := h
  rcases List.mem_or_eq_of_mem_set hmem with hold | rfl
  · exact ⟨call', hold, hcall'⟩
  · have hnew : phase.pool? = some p := hcall'
    rcases hphase with hnone | hsame
    · exact nomatch hnone.symm.trans hnew
    · exact ⟨call, List.mem_of_getElem? hc, hsame.symm.trans hnew⟩

theorem Notify.working {p q : ℕ} {calls calls' : List AcquireCall} (h : Notify p calls calls')
    (hq : ∃ call ∈ calls', call.phase.pool? = some q) :
    ∃ call ∈ calls, call.phase.pool? = some q := by
  obtain ⟨call, hmem, hcall⟩ := hq
  obtain ⟨call₀, hmem₀, -, hpool⟩ := h.pool? hmem
  exact ⟨call₀, hmem₀, hpool ▸ hcall⟩

/-- A handle of a new session, or an old one. -/
theorem handle_of_concat {handles : List (Option OracleConnectionHandle)} {p : ℕ}
    {new : OracleConnectionHandle}
    (h : ∃ handle, some handle ∈ handles ++ [some new] ∧ handle.pool = some p) :
    (∃ handle, some handle ∈ handles ∧ handle.pool = some p) ∨ new.pool = some p := by
  obtain ⟨handle, hmem, hpool⟩ := h
  rcases List.mem_append.mp hmem with hold | hnew
  · exact Or.inl ⟨handle, hold, hpool⟩
  · obtain rfl := Option.some.inj (List.mem_singleton.mp hnew)
    exact Or.inr hpool

/-- **No reference comes back.** -/
theorem Transition.referenced {m m' : OracleConnectionManager} {e : Event}
    (h : Transition m e m') {p : ℕ} (hp : p < m.objects.length) (hr : Referenced m' p) :
    Referenced m p := by
  unfold Referenced at hr ⊢
  cases h with
  | standalone _ =>
    rcases hr with hmap | hhandle | ⟨call, hmem, hcall⟩
    · exact Or.inl hmap
    · exact Or.inr (Or.inl hhandle)
    · rcases List.mem_append.mp hmem with hold | hnew
      · exact Or.inr (Or.inr ⟨call, hold, hcall⟩)
      · obtain rfl := List.mem_singleton.mp hnew
        exact nomatch hcall
  | @found cs _ q _ hq =>
    rcases hr with hmap | hhandle | ⟨call, hmem, hcall⟩
    · exact Or.inl hmap
    · exact Or.inr (Or.inl hhandle)
    · rcases List.mem_append.mp hmem with hold | hnew
      · exact Or.inr (Or.inr ⟨call, hold, hcall⟩)
      · obtain rfl := List.mem_singleton.mp hnew
        obtain rfl := Option.some.inj hcall
        exact Or.inl ⟨cs, hq⟩
  | @made cs _ _ _ =>
    have hnew : m.objects.length ≠ p := Nat.ne_of_gt hp
    rcases hr with ⟨cs', hmap⟩ | hhandle | ⟨call, hmem, hcall⟩
    · have hsplit : Function.update m.pools cs (some m.objects.length) cs' = some p := hmap
      by_cases hcs : cs' = cs
      · rw [hcs, Function.update_self] at hsplit
        exact absurd (Option.some.inj hsplit) hnew
      · rw [Function.update_of_ne hcs] at hsplit
        exact Or.inl ⟨cs', hsplit⟩
    · exact Or.inr (Or.inl hhandle)
    · rcases List.mem_append.mp hmem with hold | hlast
      · exact Or.inr (Or.inr ⟨call, hold, hcall⟩)
      · obtain rfl := List.mem_singleton.mp hlast
        exact absurd (Option.some.inj hcall) hnew
  | take hc _ hadm _ =>
    rcases hr with hmap | hhandle | hcall
    · exact Or.inl hmap
    · rcases handle_of_concat hhandle with hold | hnew
      · exact Or.inr (Or.inl hold)
      · obtain rfl := Option.some.inj hnew
        exact Or.inr (Or.inr ⟨_, List.mem_of_getElem? hc, hadm.pool?⟩)
    · exact Or.inr (Or.inr (working_of_set hc (Or.inl rfl) hcall))
  | reserve hc _ hadm _ _ | block hc _ hadm _ _ =>
    exact hr.imp_right (Or.imp_right (working_of_set hc (Or.inr (by rw [hadm.pool?]; rfl))))
  | timeout hc _ => exact hr.imp_right (Or.imp_right (working_of_set hc (Or.inl rfl)))
  | connected hc hphase =>
    rcases hr with hmap | hhandle | hcall
    · exact Or.inl hmap
    · rcases handle_of_concat hhandle with hold | hnew
      · exact Or.inr (Or.inl hold)
      · obtain rfl := Option.some.inj hnew
        exact Or.inr (Or.inr ⟨_, List.mem_of_getElem? hc, by rw [hphase]; rfl⟩)
    · exact Or.inr (Or.inr (working_of_set hc (Or.inl rfl) hcall))
  | connectedAlone hc _ =>
    rcases hr with hmap | hhandle | hcall
    · exact Or.inl hmap
    · rcases handle_of_concat hhandle with hold | hnew
      · exact Or.inr (Or.inl hold)
      · exact nomatch hnew
    · exact Or.inr (Or.inr (working_of_set hc (Or.inl rfl) hcall))
  | threw hc _ _ hn =>
    exact hr.imp_right (Or.imp_right fun hcall => working_of_set hc (Or.inl rfl) (hn.working hcall))
  | threwAlone hc _ | late hc _ =>
    exact hr.imp_right (Or.imp_right (working_of_set hc (Or.inl rfl)))
  | expired hc hphase | spurious hc hphase =>
    exact hr.imp_right (Or.imp_right (working_of_set hc (Or.inr (by rw [hphase]; rfl))))
  | released _ _ hn =>
    refine hr.imp_right (Or.imp (fun ⟨handle, hmem, hpool⟩ => ⟨handle, ?_, hpool⟩) hn.working)
    rcases List.mem_or_eq_of_mem_set hmem with hold | hnone
    · exact hold
    · exact nomatch hnone
  | releasedAlone _ =>
    refine hr.imp_right (Or.imp_left fun ⟨handle, hmem, hpool⟩ => ⟨handle, ?_, hpool⟩)
    rcases List.mem_or_eq_of_mem_set hmem with hold | hnone
    · exact hold
    · exact nomatch hnone
  | cleared => exact hr.imp_left fun ⟨_, hmap⟩ => nomatch hmap

/-! ## Moves -/

/-- The session stands in the idle list of the pool object `p`. -/
def IsIdle (m : OracleConnectionManager) (p : ℕ) (ctx : OracleContext) : Prop :=
  ∃ pool, m.objects[p]? = some pool ∧ ctx ∈ pool.idle

/-- The session that the call `c` takes out of its pool when it gets the lock. -/
def takenSession (m : OracleConnectionManager) (c : ℕ) : Option ℕ :=
  match m.calls[c]? with
  | some call =>
    match call.phase with
    | .entering p | .notified p =>
      (m.objects[p]?).bind fun pool => pool.idle.head?.map (·.id)
    | _ => none
  | none => none

/-- No session moves. -/
structure Still (m m' : OracleConnectionManager) : Prop where
  created : m'.created = m.created
  handles : m'.handles = m.handles
  idle : ∀ p ctx, IsIdle m' p ctx ↔ IsIdle m p ctx

/-- What a step does to the sessions. -/
inductive Move (m m' : OracleConnectionManager) : Event → Prop where
  | still {e : Event} (hstill : Still m m') (htaken : ∀ c, e = .lock c → takenSession m c = none)
      (hopened : ∀ c, e ≠ .connected c) (hreleased : ∀ h woken, e ≠ .release h woken) : Move m m' e
  | taken {c p : ℕ} {ctx : OracleContext} (hcreated : m'.created = m.created)
      (hhandles : m'.handles = m.handles ++ [some ⟨some p, ctx⟩]) (hmem : IsIdle m p ctx)
      (href : Referenced m p) (hidle : ∀ q ctx', IsIdle m' q ctx' → IsIdle m q ctx')
      (hrest : ∀ q ctx', IsIdle m q ctx' → IsIdle m' q ctx' ∨ ctx' = ctx)
      (htaken : takenSession m c = some ctx.id) : Move m m' (.lock c)
  | opened {c : ℕ} {p : Option ℕ} {call : AcquireCall} (hc : m.calls[c]? = some call)
      (hcreated : m'.created = m.created + 1)
      (hhandles : m'.handles = m.handles ++ [some ⟨p, ⟨m.created, call.connectionString⟩⟩])
      (hidle : ∀ q ctx, IsIdle m' q ctx ↔ IsIdle m q ctx) : Move m m' (.connected c)
  | pooled {h p : ℕ} {woken : Option ℕ} {ctx : OracleContext} (hcreated : m'.created = m.created)
      (hh : m.handles[h]? = some (some ⟨some p, ctx⟩))
      (hhandles : m'.handles = m.handles.set h none)
      (hidle : ∀ q ctx', IsIdle m' q ctx' ↔ IsIdle m q ctx' ∨ (q = p ∧ ctx' = ctx)) :
      Move m m' (.release h woken)
  | letGo {h : ℕ} {woken : Option ℕ} {ctx : OracleContext} (hcreated : m'.created = m.created)
      (hh : m.handles[h]? = some (some ⟨none, ctx⟩)) (hhandles : m'.handles = m.handles.set h none)
      (hidle : ∀ q ctx', IsIdle m' q ctx' ↔ IsIdle m q ctx') : Move m m' (.release h woken)

/-- In most steps no session moves. -/
theorem Move.isStill {m m' : OracleConnectionManager} {e : Event} (h : Move m m' e)
    (hlock : ∀ c, e ≠ .lock c) (hopened : ∀ c, e ≠ .connected c)
    (hreleased : ∀ h woken, e ≠ .release h woken) : Still m m' := by
  cases h with
  | still hstill _ _ _ => exact hstill
  | taken _ _ _ _ _ _ _ => exact absurd rfl (hlock _)
  | opened _ _ _ _ => exact absurd rfl (hopened _)
  | pooled _ _ _ _ | letGo _ _ _ _ => exact absurd rfl (hreleased _ _)

/-- The idle lists when a pool object is written. -/
theorem isIdle_set {m m' : OracleConnectionManager} {p : ℕ} {pool pool' : OracleConnectionPool}
    (hp : m.objects[p]? = some pool) (hobj : m'.objects = m.objects.set p pool') (q : ℕ)
    (ctx : OracleContext) :
    IsIdle m' q ctx ↔ (q = p ∧ ctx ∈ pool'.idle) ∨ (q ≠ p ∧ IsIdle m q ctx) := by
  unfold IsIdle
  rw [hobj]
  by_cases hqp : q = p
  · rw [hqp, getElem?_set_of hp]
    simp
  · rw [getElem?_set_of_ne hqp]
    simp [hqp]

theorem isIdle_same {m m' : OracleConnectionManager} {p : ℕ} {pool pool' : OracleConnectionPool}
    (hp : m.objects[p]? = some pool) (hobj : m'.objects = m.objects.set p pool')
    (hidle : pool'.idle = pool.idle) (q : ℕ) (ctx : OracleContext) :
    IsIdle m' q ctx ↔ IsIdle m q ctx := by
  rw [isIdle_set hp hobj, hidle]
  by_cases hqp : q = p
  · subst hqp
    have hiff : IsIdle m q ctx ↔ ctx ∈ pool.idle := by
      unfold IsIdle
      rw [hp]
      simp
    simp [hiff]
  · simp [hqp]

/-- A new pool object has no idle session. -/
theorem isIdle_concat {m m' : OracleConnectionManager} {pool : OracleConnectionPool}
    (hobj : m'.objects = m.objects ++ [pool]) (hidle : pool.idle = []) (q : ℕ)
    (ctx : OracleContext) : IsIdle m' q ctx ↔ IsIdle m q ctx := by
  unfold IsIdle
  rw [hobj]
  constructor
  · rintro ⟨pool', hq, hmem⟩
    rcases of_getElem?_concat hq with hold | ⟨-, rfl⟩
    · exact ⟨pool', hold, hmem⟩
    · rw [hidle] at hmem
      exact nomatch hmem
  · rintro ⟨pool', hq, hmem⟩
    exact ⟨pool', getElem?_concat_of hq pool, hmem⟩

theorem takenSession_of_admits {m : OracleConnectionManager} {c p : ℕ} {call : AcquireCall}
    {pool₀ pool : OracleConnectionPool} (hc : m.calls[c]? = some call)
    (hp : m.objects[p]? = some pool₀) (hadm : Admits call p pool₀ pool) :
    takenSession m c = pool.idle.head?.map (·.id) := by
  have hidle := hadm.idle
  unfold takenSession
  rw [hc]
  rcases hadm with ⟨hphase, -⟩ | ⟨hphase, -⟩ <;>
    simp only [hphase, hp, Option.bind_some, hidle]

/-- **Every step is a move of sessions.** -/
theorem Transition.move {m m' : OracleConnectionManager} {e : Event} (h : Transition m e m') :
    Move m m' e := by
  cases h with
  | standalone _ | found _ _ => exact Move.still ⟨rfl, rfl, fun _ _ => Iff.rfl⟩ nofun nofun nofun
  | made _ _ => exact Move.still ⟨rfl, rfl, isIdle_concat rfl rfl⟩ nofun nofun nofun
  | @take c p call pool₀ pool ctx rest hc hp hadm hidle =>
    have hold : pool₀.idle = ctx :: rest := hadm.idle.symm.trans hidle
    have hiff := @isIdle_set m { m with
      objects := m.objects.set p { pool with idle := rest }
      handles := m.handles ++ [some ⟨some p, ctx⟩]
      calls := m.calls.set c { call with phase := .returned m.handles.length } } p _ _ hp rfl
    refine Move.taken rfl rfl ⟨pool₀, hp, by rw [hold]; exact List.mem_cons_self⟩
      (Or.inr (Or.inr ⟨call, List.mem_of_getElem? hc, hadm.pool?⟩)) (fun q ctx' hq => ?_)
      (fun q ctx' hq => ?_) ?_
    · rcases (hiff q ctx').mp hq with ⟨rfl, hmem⟩ | ⟨-, hmem⟩
      · exact ⟨pool₀, hp, by rw [hold]; exact List.mem_cons_of_mem _ hmem⟩
      · exact hmem
    · by_cases hqp : q = p
      · subst hqp
        obtain ⟨pool', hp', hmem⟩ := hq
        rw [hp] at hp'
        obtain rfl := Option.some.inj hp'
        rw [hold] at hmem
        rcases List.mem_cons.mp hmem with hctx | hrest
        · exact Or.inr hctx
        · exact Or.inl ((hiff q ctx').mpr (Or.inl ⟨rfl, hrest⟩))
      · exact Or.inl ((hiff q ctx').mpr (Or.inr ⟨hqp, hq⟩))
    · rw [takenSession_of_admits hc hp hadm, hidle]
      rfl
  | reserve hc hp hadm hidle _ | block hc hp hadm hidle _ =>
    refine Move.still ⟨rfl, rfl, isIdle_same hp rfl hadm.idle⟩ (fun c' hc' => ?_) nofun nofun
    obtain rfl := Event.lock.inj hc'
    rw [takenSession_of_admits hc hp hadm, hidle]
    rfl
  | timeout hc hphase =>
    refine Move.still ⟨rfl, rfl, fun _ _ => Iff.rfl⟩ (fun c' hc' => ?_) nofun nofun
    obtain rfl := Event.lock.inj hc'
    unfold takenSession
    rw [hc]
    simp only [hphase]
  | connected hc _ | connectedAlone hc _ => exact Move.opened hc rfl rfl fun _ _ => Iff.rfl
  | threw _ _ hp _ => exact Move.still ⟨rfl, rfl, isIdle_same hp rfl rfl⟩ nofun nofun nofun
  | threwAlone _ _ | expired _ _ | spurious _ _ | late _ _ | cleared =>
    exact Move.still ⟨rfl, rfl, fun _ _ => Iff.rfl⟩ nofun nofun nofun
  | @released h p woken ctx pool calls hh hp hn =>
    refine Move.pooled rfl hh rfl fun q ctx' => (isIdle_set hp rfl q ctx').trans ?_
    by_cases hqp : q = p
    · subst hqp
      have hiff : IsIdle m q ctx' ↔ ctx' ∈ pool.idle := by
        unfold IsIdle
        rw [hp]
        simp
      simp [hiff, or_comm]
    · simp [hqp]
  | releasedAlone hh => exact Move.letGo rfl hh rfl fun _ _ => Iff.rfl

/-! ## One place for a session -/

/-- A session that is held is idle nowhere. -/
theorem Placed.not_idle {m : OracleConnectionManager} (hp : Placed m) {p : ℕ}
    {handle : OracleConnectionHandle} {ctx : OracleContext} (hh : some handle ∈ m.handles)
    (hidle : IsIdle m p ctx) : ctx.id ≠ handle.ctx.id := by
  intro heq
  obtain ⟨pool, hpool, hmem⟩ := hidle
  obtain ⟨i, hi⟩ := List.mem_iff_getElem?.mp hh
  have hholder := le_tally (holderShare ctx.id) hi
  have hslot := le_tally (idleShare ctx.id) hpool
  have hone : holderShare ctx.id (some handle) = 1 := if_pos heq.symm
  have hpos : 0 < idleShare ctx.id pool := List.countP_pos_iff.mpr ⟨ctx, hmem, by simp⟩
  have hsum := hp ctx.id
  unfold idleSlots holders at hsum
  split at hsum <;> omega

/-- A session is held by one handle. -/
theorem Placed.handle_unique {m : OracleConnectionManager} (hp : Placed m) {i j : ℕ}
    {a b : OracleConnectionHandle} (hi : m.handles[i]? = some (some a))
    (hj : m.handles[j]? = some (some b)) (hid : a.ctx.id = b.ctx.id) : i = j := by
  have hsum := hp b.ctx.id
  have hle : tally (holderShare b.ctx.id) m.handles ≤ 1 := by
    unfold idleSlots holders at hsum
    split at hsum <;> omega
  refine index_unique hle hi hj ?_ ?_
  · show 0 < if a.ctx.id = b.ctx.id then 1 else 0
    rw [if_pos hid]
    exact Nat.one_pos
  · show 0 < if b.ctx.id = b.ctx.id then 1 else 0
    rw [if_pos rfl]
    exact Nat.one_pos

/-- A session is idle in one pool object. -/
theorem Placed.idle_unique {m : OracleConnectionManager} (hp : Placed m) {p q : ℕ}
    {ctx ctx' : OracleContext} (hi : IsIdle m p ctx) (hj : IsIdle m q ctx')
    (hid : ctx.id = ctx'.id) : p = q := by
  obtain ⟨pool, hpool, hmem⟩ := hi
  obtain ⟨pool', hpool', hmem'⟩ := hj
  have hsum := hp ctx'.id
  have hle : tally (idleShare ctx'.id) m.objects ≤ 1 := by
    unfold idleSlots holders at hsum
    split at hsum <;> omega
  refine index_unique hle hpool hpool' ?_ ?_
  · exact List.countP_pos_iff.mpr ⟨ctx, hmem, by simp [hid]⟩
  · exact List.countP_pos_iff.mpr ⟨ctx', hmem', by simp⟩

/-- A session that is idle or held has been opened. -/
theorem Placed.idle_lt {m : OracleConnectionManager} (hp : Placed m) {p : ℕ}
    {ctx : OracleContext} (hidle : IsIdle m p ctx) : ctx.id < m.created := by
  obtain ⟨pool, hpool, hmem⟩ := hidle
  have hslot := le_tally (idleShare ctx.id) hpool
  have hpos : 0 < idleShare ctx.id pool := List.countP_pos_iff.mpr ⟨ctx, hmem, by simp⟩
  have hsum := hp ctx.id
  unfold idleSlots holders at hsum
  by_contra hlt
  rw [if_neg hlt] at hsum
  omega

theorem Placed.held_lt {m : OracleConnectionManager} (hp : Placed m)
    {handle : OracleConnectionHandle} (hh : some handle ∈ m.handles) :
    handle.ctx.id < m.created := by
  obtain ⟨i, hi⟩ := List.mem_iff_getElem?.mp hh
  have hholder := le_tally (holderShare handle.ctx.id) hi
  have hone : holderShare handle.ctx.id (some handle) = 1 := if_pos rfl
  have hsum := hp handle.ctx.id
  unfold idleSlots holders at hsum
  by_contra hlt
  rw [if_neg hlt] at hsum
  omega

/-! ## The string of a handle -/

/-- A call that has returned a handle has returned a session of its own connection string. -/
def Granted (m : OracleConnectionManager) : Prop :=
  ∀ call ∈ m.calls, ∀ h, call.phase = .returned h → h < m.handles.length ∧
    ∀ handle, m.handles[h]? = some (some handle) →
      handle.ctx.connectionString = call.connectionString

theorem granted_initial : Granted initial := nofun

/-- No call returns, and no handle is made. -/
theorem Granted.of_old {m m' : OracleConnectionManager} (hg : Granted m)
    (hcalls : ∀ call ∈ m'.calls, ∀ h, call.phase = .returned h →
      ∃ call₀ ∈ m.calls, call₀.phase = .returned h ∧
        call₀.connectionString = call.connectionString)
    (hlength : m'.handles.length = m.handles.length)
    (hhandles : ∀ (h : ℕ) handle, m'.handles[h]? = some (some handle) →
      m.handles[h]? = some (some handle)) : Granted m' := by
  intro call hmem h hphase
  obtain ⟨call₀, hmem₀, hphase₀, hcs⟩ := hcalls call hmem h hphase
  obtain ⟨hlt, hsame⟩ := hg call₀ hmem₀ h hphase₀
  exact ⟨hlength ▸ hlt, fun handle hh => hcs ▸ hsame handle (hhandles h handle hh)⟩

/-- A call returns a new handle. -/
theorem Granted.returned {m m' : OracleConnectionManager} (hg : Granted m) {c : ℕ}
    {call : AcquireCall} {new : OracleConnectionHandle}
    (hcs : new.ctx.connectionString = call.connectionString)
    (hcalls : m'.calls = m.calls.set c { call with phase := .returned m.handles.length })
    (hhandles : m'.handles = m.handles ++ [some new]) : Granted m' := by
  intro call' hmem h hphase
  rw [hhandles, List.length_append]
  rw [hcalls] at hmem
  rcases List.mem_or_eq_of_mem_set hmem with hold | rfl
  · obtain ⟨hlt, hsame⟩ := hg call' hold h hphase
    refine ⟨Nat.lt_succ_of_lt hlt, fun handle hh => ?_⟩
    rcases of_getElem?_concat hh with hh | ⟨rfl, -⟩
    · exact hsame handle hh
    · exact absurd hlt (Nat.lt_irrefl _)
  · obtain rfl := AcquirePhase.returned.inj hphase
    refine ⟨Nat.lt_succ_self _, fun handle hh => ?_⟩
    rw [List.getElem?_concat_length] at hh
    obtain rfl := Option.some.inj (Option.some.inj hh)
    exact hcs

/-- A call that is rewritten does not return by it. -/
theorem returned_of_set {m : OracleConnectionManager} {c : ℕ} {call : AcquireCall}
    {phase : AcquirePhase} (hphase : ∀ h, phase ≠ .returned h) :
    ∀ call' ∈ m.calls.set c { call with phase := phase }, ∀ h, call'.phase = .returned h →
      ∃ call₀ ∈ m.calls, call₀.phase = .returned h ∧
        call₀.connectionString = call'.connectionString := by
  intro call' hmem h hreturned
  rcases List.mem_or_eq_of_mem_set hmem with hold | rfl
  · exact ⟨call', hold, hreturned, rfl⟩
  · exact absurd hreturned (hphase h)

/-- A new call has not returned. -/
theorem returned_of_concat {calls : List AcquireCall} {new : AcquireCall}
    (hphase : ∀ h, new.phase ≠ .returned h) :
    ∀ call ∈ calls ++ [new], ∀ h, call.phase = .returned h →
      ∃ call₀ ∈ calls, call₀.phase = .returned h ∧
        call₀.connectionString = call.connectionString := by
  intro call hmem h hreturned
  rcases List.mem_append.mp hmem with hold | hnew
  · exact ⟨call, hold, hreturned, rfl⟩
  · obtain rfl := List.mem_singleton.mp hnew
    exact absurd hreturned (hphase h)

theorem Notify.returned_of {p : ℕ} {calls calls' : List AcquireCall} (h : Notify p calls calls') :
    ∀ call ∈ calls', ∀ n, call.phase = .returned n →
      ∃ call₀ ∈ calls, call₀.phase = .returned n ∧
        call₀.connectionString = call.connectionString := by
  intro call hmem n hreturned
  obtain ⟨call₀, hmem₀, hcs, -, hphase | ⟨-, hn⟩⟩ := h.mem hmem
  · exact ⟨call₀, hmem₀, hphase.symm.trans hreturned, hcs.symm⟩
  · exact nomatch hn.symm.trans hreturned

theorem handle_of_set_none {handles : List (Option OracleConnectionHandle)} {i : ℕ} (h : ℕ)
    (handle : OracleConnectionHandle) (hh : (handles.set i none)[h]? = some (some handle)) :
    handles[h]? = some (some handle) := by
  rcases of_getElem?_set hh with ⟨-, hnone⟩ | ⟨-, hold⟩
  · exact nomatch hnone
  · exact hold

/-- **Steps keep what the calls were given.** -/
theorem Granted.step {m m' : OracleConnectionManager} {e : Event} (hg : Granted m) (hk : Keyed m)
    (h : Transition m e m') : Granted m' := by
  cases h with
  | standalone _ | found _ _ | made _ _ =>
    exact hg.of_old (returned_of_concat nofun) rfl fun _ _ hh => hh
  | @take c p call pool₀ pool ctx rest hc hp hadm hidle =>
    refine hg.returned ?_ rfl rfl
    have hkey := hk.call call (List.mem_of_getElem? hc) p hadm.pool?
    have hmem : ctx ∈ pool₀.idle := by
      rw [← hadm.idle, hidle]
      exact List.mem_cons_self
    exact (hk.idle p pool₀ hp ctx hmem).trans (hkey.unique ⟨pool₀, hp, rfl⟩).symm
  | reserve _ _ _ _ _ | block _ _ _ _ _ | timeout _ _ | threwAlone _ _ | expired _ _
  | spurious _ _ | late _ _ =>
    exact hg.of_old (returned_of_set nofun) rfl fun _ _ hh => hh
  | connected _ _ | connectedAlone _ _ => exact hg.returned rfl rfl rfl
  | threw _ _ _ hn =>
    refine hg.of_old (fun call hmem h hphase => ?_) rfl fun _ _ hh => hh
    obtain ⟨call₀, hmem₀, hphase₀, hcs⟩ := hn.returned_of call hmem h hphase
    have hthrew : ∀ n, AcquirePhase.connectThrew ≠ .returned n := nofun
    obtain ⟨call₁, hmem₁, hphase₁, hcs₁⟩ := returned_of_set hthrew call₀ hmem₀ h hphase₀
    exact ⟨call₁, hmem₁, hphase₁, hcs₁.trans hcs⟩
  | released _ _ hn =>
    exact hg.of_old hn.returned_of (List.length_set ..) handle_of_set_none
  | releasedAlone _ =>
    exact hg.of_old (fun call hmem h hphase => ⟨call, hmem, hphase, rfl⟩) (List.length_set ..)
      handle_of_set_none
  | cleared =>
    exact hg.of_old (fun call hmem h hphase => ⟨call, hmem, hphase, rfl⟩) rfl fun _ _ hh => hh

end Connection
end DuckdbOracle
