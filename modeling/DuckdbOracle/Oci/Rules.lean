import Mathlib.Algebra.Order.Group.Multiset
import Mathlib.Tactic.Abel
import DuckdbOracle.Oci.Calls

/-!
# Rules for the calls

One rule for each kind of call, in terms of what stands in the table.  A rule takes the
entries the call needs out of the sum, and says what the sum is after it: the same, or
with the one entry changed.  The rest of the sum is never looked at, so a rule holds
whatever other handles there are.
-/

namespace DuckdbOracle
namespace Oci

open HandleTable Programs

/-- A sum of handles. -/
abbrev Handles := Multiset (ℕ × Handle)

/-- The entry of a pointer; a null pointer has none. -/
def entry (h : Pointer) (k : Handle) : Handles :=
  match h with
  | some n => {(n, k)}
  | none => 0

@[simp] theorem entry_some (n : ℕ) (k : Handle) : entry (some n) k = {(n, k)} := rfl

@[simp] theorem entry_none (k : Handle) : entry none k = 0 := rfl

/-! ## Contracts -/

theorem has_of_get? {w : World} {n : ℕ} {k : Handle} {p : Handle → Bool}
    (h : w.table.get? n = some k) (hp : p k = true) : w.has (some n) p = true := by
  unfold World.has
  rw [Option.bind_some, h]
  exact hp

theorem has_of_mem {w : World} {n : ℕ} {k : Handle} {p : Handle → Bool}
    (h : (n, k) ∈ w.table.owned) (hp : p k = true) : w.has (some n) p = true :=
  has_of_get? (get?_eq_some_iff.mpr h) hp

theorem has_and {w : World} {n : ℕ} {k : Handle} {p q : Handle → Bool}
    (h : (n, k) ∈ w.table.owned) (hp : p k = true) (hq : q k = true) :
    w.has (some n) (fun k => p k && q k) = true :=
  has_of_mem h (Bool.and_eq_true_iff.mpr ⟨hp, hq⟩)

theorem attached_of_mem {w : World} {svc srv : ℕ} {session : Pointer} {idle : Bool}
    {db : String} (hsvc : (svc, Handle.service (some srv) session idle) ∈ w.table.owned)
    (hsrv : (srv, Handle.server (some db)) ∈ w.table.owned) : w.attached (some svc) = true :=
  has_of_mem hsvc (has_of_mem hsrv rfl)

theorem loggedOn_of_mem {w : World} {svc srv auth : ℕ} {db : String}
    {user password : Option String}
    (hsvc : (svc, Handle.service (some srv) (some auth) false) ∈ w.table.owned)
    (hsrv : (srv, Handle.server (some db)) ∈ w.table.owned)
    (hauth : (auth, Handle.session user password true) ∈ w.table.owned) :
    w.loggedOn (some svc) = true := by
  refine has_of_mem hsvc ?_
  show (w.has (some srv) Handle.isAttached && w.has (some auth) Handle.isBegun && !false) = true
  rw [has_of_mem hsrv (p := Handle.isAttached) rfl, has_of_mem hauth (p := Handle.isBegun) rfl]
  rfl

/-- An update changes the entry of its handle. -/
theorem owned_update {t : Table Handle} {n : ℕ} {k : Handle} {others : Handles}
    (h : t.owned = {(n, k)} + others) (f : Handle → Handle) :
    (update (some n) f t).owned = {(n, f k)} + others := by
  have hset : update (some n) f t = t.set n (f k) := by
    simp only [update, get?_of_owned h]
  rw [hset]
  exact owned_set h (f k)

/-! ## Calls -/

theorem returns_nextStatus {w : World} {Q : Status → World → Prop}
    (h : ∀ status w', w'.table = w.table → Q status w') : Returns nextStatus w Q := by
  unfold nextStatus
  rw [returns_bind, returns_get]
  cases hs : w.statuses with
  | nil => exact returns_pure.mpr (h _ _ rfl)
  | cons status statuses =>
    exact returns_bind.mpr (returns_modify.mpr (returns_pure.mpr (h _ _ rfl)))

/-- A call within its contract succeeds with its effect, or fails without. -/
theorem returns_ociCall {contract : World → Bool} {effect : Table Handle → Table Handle}
    {w : World} {Q : Status → World → Prop} (hc : contract w = true)
    (hok : ∀ status w', status.isSuccess = true → w'.table = effect w.table → Q status w')
    (hbad : ∀ text w', w'.table = w.table → Q (.error text) w') :
    Returns (ociCall contract effect) w Q := by
  unfold ociCall
  refine returns_bind.mpr (returns_require.mpr ⟨hc, returns_bind.mpr ?_⟩)
  refine returns_nextStatus fun status w' hw' => ?_
  cases status with
  | error text => exact returns_pure.mpr (hbad text w' hw')
  | success | successWithInfo =>
    refine returns_bind.mpr (returns_modify.mpr (returns_pure.mpr (hok _ _ rfl ?_)))
    show effect w'.table = effect w.table
    rw [hw']

/-- A call that updates one handle. -/
theorem returns_update {contract : World → Bool} {n : ℕ} {k : Handle} {f : Handle → Handle}
    {others : Handles} {w : World} {Q : Status → World → Prop}
    (hw : w.table.owned = {(n, k)} + others) (hc : contract w = true)
    (hok : ∀ status w', status.isSuccess = true → w'.table.owned = {(n, f k)} + others →
      Q status w')
    (hbad : ∀ text w', w'.table = w.table → Q (.error text) w') :
    Returns (ociCall contract (update (some n) f)) w Q :=
  returns_ociCall hc
    (fun status w' hs hw' => hok status w' hs (by rw [hw']; exact owned_update hw f)) hbad

/-- A call without an effect. -/
theorem returns_ociCall_id {contract : World → Bool} {w : World} {Q : Status → World → Prop}
    (hc : contract w = true) (h : ∀ status w', w'.table = w.table → Q status w') :
    Returns (ociCall contract id) w Q :=
  returns_ociCall hc (fun status w' _ hw' => h status w' hw') fun _ w' hw' => h _ w' hw'

/-- An allocation adds its handle, or fails. -/
theorem returns_handleAlloc {env : ℕ} {k : Handle} {w : World}
    {Q : Status × Pointer → World → Prop} (henv : (env, Handle.env) ∈ w.table.owned)
    (hok : ∀ status n w', status.isSuccess = true →
      w'.table.owned = {(n, k)} + w.table.owned → Q (status, some n) w')
    (hbad : ∀ text w', w'.table = w.table → Q (.error text, none) w') :
    Returns (handleAlloc (some env) k) w Q := by
  unfold handleAlloc
  refine returns_bind.mpr (returns_require.mpr ⟨has_of_mem henv rfl, returns_bind.mpr ?_⟩)
  refine returns_nextStatus fun status w' hw' => ?_
  cases status with
  | error text => exact returns_pure.mpr (hbad text w' hw')
  | success | successWithInfo =>
    refine returns_bind.mpr (returns_get.mpr (returns_bind.mpr (returns_modify.mpr ?_)))
    refine returns_pure.mpr (hok _ _ _ rfl ?_)
    show (w'.table.alloc k).owned = {(w'.table.next, k)} + w.table.owned
    rw [owned_alloc, hw']

/-- A release takes its handle out of the sum. -/
theorem returns_handleFree {n : ℕ} {k : Handle} {others : Handles} {type : Handle → Bool}
    {w : World} {Q : Unit → World → Prop} (hw : w.table.owned = {(n, k)} + others)
    (htype : type k = true) (hfree : k.mayBeFreed = true)
    (h : ∀ w', w'.table.owned = others → Q () w') :
    Returns (handleFree (some n) type) w Q := by
  unfold handleFree
  have hmem : (n, k) ∈ w.table.owned := by
    rw [hw]
    exact Multiset.mem_add.mpr (Or.inl (Multiset.mem_singleton_self _))
  refine returns_bind.mpr (returns_require.mpr ⟨has_and hmem htype hfree, ?_⟩)
  exact returns_modify.mpr (h _ (owned_free hw))

/-! ## Checked calls -/

/-- A checked call throws what it fails with. -/
theorem ends_checked {call : Call World Status} {err : ℕ} {msg : String} {w : World}
    {Q : Except IOException Unit → World → Prop}
    (h : Returns call w fun status w' => (err, Handle.error) ∈ w'.table.owned ∧
      match status with
      | .error text => Q (.error (.oci msg text)) w'
      | _ => Q (.ok ()) w') :
    Ends (checked call (some err) msg) w Q := by
  unfold checked
  refine ends_perform_bind.mpr (h.mono fun status w' hw' => ?_)
  obtain ⟨herr, hQ⟩ := hw'
  cases status with
  | error text =>
    unfold checkOCIError
    exact ends_perform_bind.mpr (returns_require.mpr ⟨has_of_mem herr rfl, ends_throw.mpr hQ⟩)
  | success | successWithInfo => exact ends_pure.mpr hQ

/-- The status of an allocation is checked against an error handle that is there before it. -/
theorem ends_checkOCIError {status : Status} {err : ℕ} {msg : String} {w : World}
    {Q : Except IOException Unit → World → Prop} (herr : (err, Handle.error) ∈ w.table.owned)
    (hok : status.isSuccess = true → Q (.ok ()) w)
    (hbad : ∀ text, status = .error text → Q (.error (.oci msg text)) w) :
    Ends (checkOCIError status (some err) msg) w Q := by
  cases status with
  | error text =>
    unfold checkOCIError
    refine ends_perform_bind.mpr (returns_require.mpr ⟨has_of_mem herr rfl, ends_throw.mpr ?_⟩)
    exact hbad text rfl
  | success | successWithInfo => exact ends_pure.mpr (hok rfl)

/-! ## Calls on a statement -/

/-- A service context that is logged on and in use, and its error handle. -/
def LoggedOn (frame : Handles) (svc err : ℕ) : Prop :=
  (err, Handle.error) ∈ frame ∧
    ∃ srv auth db user password, (svc, Handle.service (some srv) (some auth) false) ∈ frame ∧
      (srv, Handle.server (some db)) ∈ frame ∧ (auth, Handle.session user password true) ∈ frame

section Statement

variable {frame : Handles} {svc err n : ℕ} {phase : Phase} {w : World}

theorem mem_frame (hw : w.table.owned = {(n, .statement phase)} + frame) {e : ℕ × Handle}
    (he : e ∈ frame) : e ∈ w.table.owned := by
  rw [hw]
  exact Multiset.mem_add.mpr (Or.inr he)

theorem statement_mem (hw : w.table.owned = {(n, .statement phase)} + frame) :
    (n, Handle.statement phase) ∈ w.table.owned := by
  rw [hw]
  exact Multiset.mem_add.mpr (Or.inl (Multiset.mem_singleton_self _))

theorem loggedOn_of_frame (h : LoggedOn frame svc err)
    (hw : w.table.owned = {(n, .statement phase)} + frame) : w.loggedOn (some svc) = true := by
  obtain ⟨-, srv, auth, db, user, password, hsvc, hsrv, hauth⟩ := h
  exact loggedOn_of_mem (mem_frame hw hsvc) (mem_frame hw hsrv) (mem_frame hw hauth)

/-- The statement is prepared, or is as it was. -/
theorem ends_stmtPrepare {sql msg : String} {Q : Except IOException Unit → World → Prop}
    (herr : (err, Handle.error) ∈ frame)
    (hw : w.table.owned = {(n, .statement phase)} + frame)
    (hok : ∀ w', w'.table.owned = {(n, .statement (.prepared sql))} + frame → Q (.ok ()) w')
    (hbad : ∀ text w', w'.table.owned = {(n, .statement phase)} + frame →
      Q (.error (.oci msg text)) w') :
    Ends (checked (stmtPrepare (some n) (some err) sql) (some err) msg) w Q := by
  refine ends_checked (returns_update hw ?_ (fun status w' hs hw' => ?_) fun text w' hw' => ?_)
  · rw [has_of_mem (statement_mem hw) rfl, has_of_mem (mem_frame hw herr) rfl]
    rfl
  · refine ⟨mem_frame hw' herr, ?_⟩
    cases status with
    | error text => exact nomatch hs
    | success | successWithInfo => exact hok w' hw'
  · exact ⟨mem_frame (hw' ▸ hw) herr, hbad text w' (hw' ▸ hw)⟩

/-- A prepared statement is executed, or is as it was. -/
theorem ends_stmtExecute {mode : ExecuteMode} {msg : String}
    {Q : Except IOException Unit → World → Prop} (h : LoggedOn frame svc err)
    (hw : w.table.owned = {(n, .statement phase)} + frame)
    (hphase : Handle.isPrepared (.statement phase) = true)
    (hok : ∀ w', w'.table.owned = {(n, .statement (phase.execute mode svc))} + frame →
      Q (.ok ()) w')
    (hbad : ∀ text w', w'.table.owned = {(n, .statement phase)} + frame →
      Q (.error (.oci msg text)) w') :
    Ends (checked (stmtExecute (some svc) (some n) (some err) mode) (some err) msg) w Q := by
  refine ends_checked (returns_update hw ?_ (fun status w' hs hw' => ?_) fun text w' hw' => ?_)
  · rw [loggedOn_of_frame h hw, has_of_mem (statement_mem hw) hphase,
      has_of_mem (mem_frame hw h.1) rfl]
    rfl
  · refine ⟨mem_frame hw' h.1, ?_⟩
    cases status with
    | error text => exact nomatch hs
    | success | successWithInfo => exact hok w' hw'
  · exact ⟨mem_frame (hw' ▸ hw) h.1, hbad text w' (hw' ▸ hw)⟩

end Statement

end Oci
end DuckdbOracle
