import DuckdbOracle.Connection.ConnectionString
import DuckdbOracle.Oci.Rules

/-!
# Opening and closing a session

`CreateConnection` allocates the four handles of a session one after the other, attaches
the server, begins the session and sets its date formats.  Each of its calls may fail, and
then the half-built `OracleContext` is destroyed on the way out.

`createConnection_ends` is the account of all its ways out.  A context that is returned
has begun its session with the user and the password of the connection string, on the
server that the string names; and an exception leaves the handles as they were, with one
exception: the statement of the formats is a plain pointer, and if it cannot be prepared
or executed nothing frees it.

`returns_destroy` is the other end: the destructor of a context, however far it was
built, ends what has begun and frees what there is.
-/

namespace DuckdbOracle
namespace Oci

open HandleTable Programs

/-- `OracleContext`. -/
structure OracleContext where
  envhp : Pointer := none
  errhp : Pointer := none
  svchp : Pointer := none
  srvhp : Pointer := none
  authp : Pointer := none
  stmthp : Pointer := none
  connected : Bool := false
  ownsEnv : Bool := false
  deriving DecidableEq

/-- `OracleContext::~OracleContext`. -/
def OracleContext.destroy (ctx : OracleContext) : Call World Unit := do
  onlyIf ctx.stmthp.isSome (handleFree ctx.stmthp Handle.isStatement)
  onlyIf (ctx.svchp.isSome && ctx.authp.isSome && ctx.errhp.isSome)
    (ignore (sessionEnd ctx.svchp ctx.errhp ctx.authp))
  onlyIf ctx.authp.isSome (handleFree ctx.authp Handle.isSession)
  onlyIf ctx.svchp.isSome (handleFree ctx.svchp Handle.isService)
  onlyIf ctx.srvhp.isSome do
    onlyIf ctx.errhp.isSome (ignore (serverDetach ctx.srvhp ctx.errhp))
    handleFree ctx.srvhp Handle.isServer
  onlyIf ctx.errhp.isSome (handleFree ctx.errhp Handle.isError)
  onlyIf (ctx.envhp.isSome && ctx.ownsEnv) (handleFree ctx.envhp Handle.isEnv)

/-! ## `CreateConnection` -/

/-- One step of `CreateConnection`. -/
abbrev Stage := OracleContext → Program World IOException OracleContext

/-- Allocate a handle of the context. -/
def allocStage (k : Handle) (msg : String) (store : OracleContext → Pointer → OracleContext) :
    Stage := fun ctx => do
  let (status, h) ← perform (handleAlloc ctx.envhp k)
  checkOCIError status ctx.errhp msg
  pure (store ctx h)

/-- A checked call on the handles of the context. -/
def callStage (call : OracleContext → Call World Status) (msg : String) : Stage := fun ctx => do
  checked (call ctx) ctx.errhp msg
  pure ctx

/-- A call whose status is dropped. -/
def ignoreStage (call : OracleContext → Call World Status) : Stage := fun ctx => do
  perform (ignore (call ctx))
  pure ctx

/-- The statement that fixes the formats of the session. -/
def nlsStatement : String :=
  "ALTER SESSION SET NLS_DATE_FORMAT = 'YYYY-MM-DD HH24:MI:SS' NLS_TIMESTAMP_FORMAT = " ++
    "'YYYY-MM-DD HH24:MI:SS.FF'"

/-- Set the NLS formats to ISO.  The handle is a plain pointer: only the last line frees it. -/
def nlsStage : Stage := fun ctx => do
  let (status, stmt) ← perform (handleAlloc ctx.envhp (.statement .allocated))
  checkOCIError status ctx.errhp "Failed to allocate statement handle for NLS setup"
  checked (stmtPrepare stmt ctx.errhp nlsStatement) ctx.errhp
    "Failed to prepare NLS setup statement"
  checked (stmtExecute ctx.svchp stmt ctx.errhp .default) ctx.errhp
    "Failed to execute NLS setup statement"
  perform (handleFree stmt Handle.isStatement)
  pure ctx

/-- The steps of `CreateConnection`, once the connection string is read. -/
def connectionStages (credentials : Connection.OracleCredentials) : List Stage := [
  allocStage .error "Failed to allocate OCI error handle" fun ctx h => { ctx with errhp := h },
  allocStage (.server none) "Failed to allocate OCI server handle"
    fun ctx h => { ctx with srvhp := h },
  allocStage (.service none none false) "Failed to allocate OCI service context handle"
    fun ctx h => { ctx with svchp := h },
  -- the call and connection timeouts of the server handle
  ignoreStage fun ctx => attrSet ctx.srvhp Handle.isServer ctx.errhp,
  ignoreStage fun ctx => attrSet ctx.srvhp Handle.isServer ctx.errhp,
  callStage (fun ctx => serverAttach ctx.srvhp ctx.errhp credentials.db)
    "Failed to attach to Oracle server",
  callStage (fun ctx => attrSetServer ctx.svchp ctx.srvhp ctx.errhp)
    "Failed to set OCI server on service context",
  allocStage (.session none none false) "Failed to allocate OCI session handle"
    fun ctx h => { ctx with authp := h },
  callStage (fun ctx => attrSetUsername ctx.authp credentials.user ctx.errhp)
    "Failed to set OCI username",
  callStage (fun ctx => attrSetPassword ctx.authp credentials.password ctx.errhp)
    "Failed to set OCI password",
  callStage (fun ctx => sessionBegin ctx.svchp ctx.errhp ctx.authp)
    "Failed to begin OCI session",
  callStage (fun ctx => attrSetSession ctx.svchp ctx.authp ctx.errhp)
    "Failed to set OCI session on service context",
  nlsStage,
  -- the statement cache and the call timeout of the service context
  ignoreStage fun ctx => attrSet ctx.svchp Handle.isService ctx.errhp,
  ignoreStage fun ctx => attrSet ctx.svchp Handle.isService ctx.errhp,
  fun ctx => pure { ctx with connected := true }]

/-- `CreateConnection`, of a manager with this environment. -/
def createConnection (envhp : Pointer) (connectionString : String) :
    Program World IOException OracleContext :=
  match Connection.parseOracleConnectionString connectionString with
  | .error e => unwinding (throw (.other e)) (OracleContext.destroy { envhp := envhp })
  | .ok credentials =>
    construct OracleContext.destroy (connectionStages credentials) { envhp := envhp }

/-! ## Destroying a context -/

/-- What has been done with the handles of a context. -/
structure Progress where
  attached : Option String := none
  server : Pointer := none
  session : Pointer := none
  user : Option String := none
  password : Option String := none
  begun : Bool := false

/-- The handles of a context. -/
def OracleContext.handles (ctx : OracleContext) (p : Progress) (idle : Bool) : Handles :=
  entry ctx.errhp .error + entry ctx.srvhp (.server p.attached) +
    entry ctx.svchp (.service p.server p.session idle) +
    entry ctx.authp (.session p.user p.password p.begun)

/-- A context on its way: its own handles and the others, and enough of them to end what
has begun. -/
structure Built (others : Handles) (ctx : OracleContext) (p : Progress) (idle : Bool)
    (w : World) : Prop where
  owned : w.table.owned = ctx.handles p idle + others
  stmthp : ctx.stmthp = none
  ownsEnv : ctx.ownsEnv = false
  begun : p.begun = true → ctx.svchp.isSome = true ∧ ctx.errhp.isSome = true
  attached : p.attached.isSome = true → ctx.errhp.isSome = true

/-- A handle that is there is freed, and one that is not is not. -/
theorem returns_freeEntry {h : Pointer} {k : Handle} {type : Handle → Bool} {others : Handles}
    {w : World} {Q : Unit → World → Prop} (hw : w.table.owned = entry h k + others)
    (htype : type k = true) (hfree : k.mayBeFreed = true)
    (hQ : ∀ w', w'.table.owned = others → Q () w') :
    Returns (onlyIf h.isSome (handleFree h type)) w Q := by
  refine returns_onlyIf.mpr ?_
  cases h with
  | none => exact hQ w (by rw [hw, entry_none, zero_add])
  | some n => exact returns_handleFree hw htype hfree hQ

/-- The session that has begun is ended. -/
theorem returns_endSession {others : Handles} {ctx : OracleContext} {p : Progress} {idle : Bool}
    {w : World} {Q : Unit → World → Prop} (h : Built others ctx p idle w)
    (hQ : ∀ w', w'.table.owned = ctx.handles { p with begun := false } idle + others → Q () w') :
    Returns (onlyIf (ctx.svchp.isSome && ctx.authp.isSome && ctx.errhp.isSome)
      (ignore (sessionEnd ctx.svchp ctx.errhp ctx.authp))) w Q := by
  obtain ⟨howned, -, -, hbegun, -⟩ := h
  unfold OracleContext.handles at howned hQ
  rw [returns_onlyIf]
  cases hauth : ctx.authp with
  | none =>
    rw [hauth] at howned hQ
    rw [Option.isSome_none, Bool.and_false, Bool.false_and]
    exact hQ w howned
  | some auth =>
    rw [hauth] at howned hQ
    have hkeep : p.begun = false → Q () w := fun hp => hQ w (by rw [howned, hp])
    cases hsvc : ctx.svchp with
    | none =>
      refine hkeep (Bool.eq_false_iff.mpr fun hp => ?_)
      exact absurd (hbegun hp).1 (by rw [hsvc]; decide)
    | some svc =>
      cases herr : ctx.errhp with
      | none =>
        refine hkeep (Bool.eq_false_iff.mpr fun hp => ?_)
        exact absurd (hbegun hp).2 (by rw [herr]; decide)
      | some err =>
        rw [hsvc, herr] at howned hQ
        refine returns_ignore.mpr ?_
        have hshape : w.table.owned = {(auth, .session p.user p.password p.begun)} +
            ({(err, .error)} + entry ctx.srvhp (.server p.attached) +
              {(svc, .service p.server p.session idle)} + others) := by
          rw [howned]
          simp only [entry_some]
          abel
        unfold sessionEnd
        refine returns_bind.mpr (returns_require.mpr ⟨?_, ?_⟩)
        · have hserr : (err, Handle.error) ∈ w.table.owned := by rw [hshape]; simp
          have hsauth : (auth, Handle.session p.user p.password p.begun) ∈ w.table.owned := by
            rw [hshape]; simp
          have hssvc : (svc, Handle.service p.server p.session idle) ∈ w.table.owned := by
            rw [hshape]; simp
          rw [has_of_mem hssvc rfl, has_of_mem hsauth rfl, has_of_mem hserr rfl]
          rfl
        · refine returns_bind.mpr (returns_modify.mpr (returns_nextStatus fun status w' hw' => ?_))
          refine hQ w' ?_
          rw [hw']
          refine (owned_update hshape _).trans ?_
          simp only [entry_some]
          abel

/-- The server that is attached is detached, and its handle freed. -/
theorem returns_detach {srvhp errhp : Pointer} {attached : Option String} {others : Handles}
    {w : World} {Q : Unit → World → Prop}
    (hw : w.table.owned = entry srvhp (.server attached) + (entry errhp .error + others))
    (herr : attached.isSome = true → errhp.isSome = true)
    (hQ : ∀ w', w'.table.owned = entry errhp .error + others → Q () w') :
    Returns (onlyIf srvhp.isSome (do
      onlyIf errhp.isSome (ignore (serverDetach srvhp errhp))
      handleFree srvhp Handle.isServer)) w Q := by
  rw [returns_onlyIf]
  cases srvhp with
  | none => exact hQ w (by rw [hw, entry_none, zero_add])
  | some srv =>
    refine returns_bind.mpr (returns_onlyIf.mpr ?_)
    cases errhp with
    | none =>
      cases attached with
      | some db => exact absurd (herr rfl) (by decide)
      | none => exact returns_handleFree hw rfl rfl hQ
    | some err =>
      refine returns_ignore.mpr ?_
      unfold serverDetach
      refine returns_bind.mpr (returns_require.mpr ⟨?_, ?_⟩)
      · have hsrv : (srv, Handle.server attached) ∈ w.table.owned := by rw [hw]; simp
        have herror : (err, Handle.error) ∈ w.table.owned := by rw [hw]; simp
        rw [has_of_mem hsrv rfl, has_of_mem herror rfl]
        rfl
      · refine returns_bind.mpr (returns_modify.mpr (returns_nextStatus fun status w' hw' => ?_))
        have howned : w'.table.owned =
            {(srv, .server none)} + (entry (some err) .error + others) := by
          rw [hw']
          exact owned_update hw _
        exact returns_handleFree howned rfl rfl hQ

/-- **The destructor of a context**, however far it was built: what has begun is ended, and
its handles are all that is freed. -/
theorem returns_destroy {others : Handles} {ctx : OracleContext} {p : Progress} {idle : Bool}
    {w : World} (h : Built others ctx p idle w) :
    Returns ctx.destroy w fun _ w' => w'.table.owned = others := by
  have hstmt : ctx.stmthp = none := h.stmthp
  unfold OracleContext.destroy
  rw [hstmt, h.ownsEnv, Bool.and_false]
  refine returns_bind.mpr (returns_onlyIf.mpr ?_)
  show Returns _ w _
  refine returns_bind.mpr (returns_endSession h fun w₁ h₁ => returns_bind.mpr ?_)
  have hauth : w₁.table.owned = entry ctx.authp (.session p.user p.password false) +
      (entry ctx.svchp (.service p.server p.session idle) +
        (entry ctx.srvhp (.server p.attached) + (entry ctx.errhp .error + others))) := by
    rw [h₁, OracleContext.handles]
    abel
  refine returns_freeEntry hauth rfl rfl fun w₂ h₂ => returns_bind.mpr ?_
  refine returns_freeEntry h₂ rfl rfl fun w₃ h₃ => returns_bind.mpr ?_
  refine returns_detach h₃ h.attached fun w₄ h₄ => returns_bind.mpr ?_
  refine returns_freeEntry h₄ rfl rfl fun w₅ h₅ => returns_onlyIf.mpr ?_
  exact h₅

/-! ## Opening a session -/

/-- A context that is logged on with these credentials. -/
def OracleContext.loggedOn (ctx : OracleContext) (credentials : Connection.OracleCredentials) :
    Progress where
  attached := some credentials.db
  server := ctx.srvhp
  session := ctx.authp
  user := some credentials.user
  password := some credentials.password
  begun := true

/-- A context that `CreateConnection` has returned. -/
structure Opened (others : Handles) (credentials : Connection.OracleCredentials)
    (ctx : OracleContext) (idle : Bool) (w : World) : Prop where
  built : Built others ctx (ctx.loggedOn credentials) idle w
  errhp : ctx.errhp.isSome = true
  srvhp : ctx.srvhp.isSome = true
  svchp : ctx.svchp.isSome = true
  authp : ctx.authp.isSome = true

/-- The calls on whose failure the statement of the formats is left. -/
def leavesNlsStatement (msg : String) : Bool :=
  msg = "Failed to prepare NLS setup statement" ∨ msg = "Failed to execute NLS setup statement"

/-- The exceptions on whose way out the statement of the formats is left. -/
def IOException.leavesStatement : IOException → Bool
  | .oci msg _ => leavesNlsStatement msg
  | .other _ => false

/-- How `CreateConnection` may end. -/
def ConnectionEnds (env : ℕ) (others : Handles) (connectionString : String) :
    Except IOException OracleContext → World → Prop
  | .ok ctx, w => ctx.connected = true ∧ ctx.envhp = some env ∧
      ∃ credentials, Connection.parseOracleConnectionString connectionString = .ok credentials ∧
        Opened others credentials ctx false w
  | .error e, w =>
    if e.leavesStatement then
      ∃ n phase, Handle.isExecuted (.statement phase) = false ∧
        w.table.owned = {(n, .statement phase)} + others
    else w.table.owned = others

theorem ends_allocStage {k : Handle} {msg : String}
    {store : OracleContext → Pointer → OracleContext} {ctx : OracleContext} {w : World} {env : ℕ}
    {Q : Except IOException OracleContext → World → Prop} (hctx : ctx.envhp = some env)
    (henv : (env, Handle.env) ∈ w.table.owned)
    (herr : ∀ err, ctx.errhp = some err → (err, Handle.error) ∈ w.table.owned)
    (hok : ∀ n w', w'.table.owned = {(n, k)} + w.table.owned → Q (.ok (store ctx (some n))) w')
    (hbad : ∀ text w', w'.table.owned = w.table.owned → Q (.error (.oci msg text)) w') :
    Ends (allocStage k msg store ctx) w Q := by
  unfold allocStage
  rw [hctx]
  refine ends_perform_bind.mpr (returns_handleAlloc henv (fun status n w' hs hw' => ?_)
    fun text w' hw' => ?_)
  · refine ends_bind.mpr ?_
    cases status with
    | error text => exact nomatch hs
    | success | successWithInfo => exact ends_pure.mpr (ends_pure.mpr (hok n w' hw'))
  · refine ends_bind.mpr ?_
    cases h : ctx.errhp with
    | none => exact ends_throw.mpr (hbad _ w' (by rw [hw']))
    | some err =>
      have hmem : (err, Handle.error) ∈ w'.table.owned := by
        rw [hw']
        exact herr err h
      refine ends_checkOCIError hmem (fun hs => nomatch hs) fun text' _ => ?_
      exact hbad text' w' (by rw [hw'])

theorem ends_callStage {call : OracleContext → Call World Status} {msg : String}
    {ctx : OracleContext} {w : World} {err : ℕ}
    {Q : Except IOException OracleContext → World → Prop} (hctx : ctx.errhp = some err)
    (h : Returns (call ctx) w fun status w' => (err, Handle.error) ∈ w'.table.owned ∧
      match status with
      | .error text => Q (.error (.oci msg text)) w'
      | _ => Q (.ok ctx) w') :
    Ends (callStage call msg ctx) w Q := by
  unfold callStage
  rw [hctx]
  refine ends_bind.mpr (ends_checked (h.mono fun status w' hw' => ⟨hw'.1, ?_⟩))
  cases status with
  | error text => exact hw'.2
  | success | successWithInfo => exact ends_pure.mpr hw'.2

/-! ### The steps, one after the other -/

section Stages

variable {others : Handles} {connectionString : String} {ctx : OracleContext} {p p' : Progress}
  {w : World} {env : ℕ} {rest : List Stage}

theorem Built.error_mem (h : Built others ctx p false w) {err : ℕ} (herr : ctx.errhp = some err) :
    (err, Handle.error) ∈ w.table.owned := by
  rw [h.owned, OracleContext.handles, herr]
  simp

theorem Built.env_mem (h : Built others ctx p false w) (henv : (env, Handle.env) ∈ others) :
    (env, Handle.env) ∈ w.table.owned := by
  rw [h.owned]
  exact Multiset.mem_add.mpr (Or.inr henv)

theorem Built.of_table (h : Built others ctx p false w) {w' : World} (hw' : w'.table = w.table) :
    Built others ctx p false w' :=
  { h with owned := hw' ▸ h.owned }

/-- A step that throws leaves its context to the destructor. -/
theorem returns_destroy_failed (h : Built others ctx p false w) {e : IOException}
    (he : e.leavesStatement = false) :
    Returns ctx.destroy w fun _ u => ConnectionEnds env others connectionString (.error e) u := by
  refine (returns_destroy h).mono fun _ u hu => ?_
  show if e.leavesStatement then _ else _
  rw [he]
  exact hu

/-- A handle more. -/
theorem Built.store (h : Built others ctx p false w) {ctx' : OracleContext} {n : ℕ} {k : Handle}
    {w' : World} (hw' : w'.table.owned = {(n, k)} + w.table.owned)
    (hhandles : ctx'.handles p' false = {(n, k)} + ctx.handles p false)
    (hbegun : p'.begun = true → ctx'.svchp.isSome = true ∧ ctx'.errhp.isSome = true)
    (hattached : p'.attached.isSome = true → ctx'.errhp.isSome = true)
    (hstmt : ctx'.stmthp = ctx.stmthp) (hown : ctx'.ownsEnv = ctx.ownsEnv) :
    Built others ctx' p' false w' :=
  ⟨by rw [hw', h.owned, hhandles, add_assoc], hstmt.trans h.stmthp, hown.trans h.ownsEnv, hbegun,
    hattached⟩

theorem construct_alloc {k : Handle} {msg : String}
    {store : OracleContext → Pointer → OracleContext} (p' : Progress)
    (h : Built others ctx p false w)
    (hctx : ctx.envhp = some env) (henv : (env, Handle.env) ∈ others)
    (hmsg : leavesNlsStatement msg = false)
    (hstore : ∀ n w', w'.table.owned = {(n, k)} + w.table.owned →
      Built others (store ctx (some n)) p' false w')
    (hnext : ∀ n w', Built others (store ctx (some n)) p' false w' →
      Ends (construct OracleContext.destroy rest (store ctx (some n))) w'
        (ConnectionEnds env others connectionString)) :
    Ends (construct OracleContext.destroy (allocStage k msg store :: rest) ctx) w
      (ConnectionEnds env others connectionString) := by
  refine ends_construct_cons.mpr (ends_allocStage hctx (h.env_mem henv)
    (fun err herr => h.error_mem herr) (fun n w' hw' => hnext n w' (hstore n w' hw'))
    fun text w' hw' => ?_)
  exact returns_destroy_failed { h with owned := hw'.trans h.owned } hmsg

theorem construct_call {call : OracleContext → Call World Status} {msg : String} {err : ℕ}
    (herr : ctx.errhp = some err) (hmsg : leavesNlsStatement msg = false)
    (hcall : Returns (call ctx) w fun status w' =>
      Built others ctx (if status.isSuccess then p' else p) false w')
    (hnext : ∀ w', Built others ctx p' false w' →
      Ends (construct OracleContext.destroy rest ctx) w'
        (ConnectionEnds env others connectionString)) :
    Ends (construct OracleContext.destroy (callStage call msg :: rest) ctx) w
      (ConnectionEnds env others connectionString) := by
  refine ends_construct_cons.mpr (ends_callStage herr (hcall.mono fun status w' hw' => ?_))
  refine ⟨hw'.error_mem herr, ?_⟩
  cases status with
  | error text => exact returns_destroy_failed hw' hmsg
  | success | successWithInfo => exact hnext w' hw'

theorem construct_ignore {call : OracleContext → Call World Status}
    (hcall : Returns (call ctx) w fun _ w' => Built others ctx p false w')
    (hnext : ∀ w', Built others ctx p false w' →
      Ends (construct OracleContext.destroy rest ctx) w'
        (ConnectionEnds env others connectionString)) :
    Ends (construct OracleContext.destroy (ignoreStage call :: rest) ctx) w
      (ConnectionEnds env others connectionString) := by
  refine ends_construct_cons.mpr (ends_perform_bind.mpr (returns_ignore.mpr ?_))
  exact hcall.mono fun _ w' hw' => ends_pure.mpr (hnext w' hw')

/-- A call that changes one handle of the context. -/
theorem Built.advance {contract : World → Bool} {n : ℕ} {f : Handle → Handle}
    (h : Built others ctx p false w) (k : Handle) (frame : Handles) (hc : contract w = true)
    (hold : ctx.handles p false + others = {(n, k)} + frame)
    (hnew : {(n, f k)} + frame = ctx.handles p' false + others)
    (hbegun : p'.begun = true → ctx.svchp.isSome = true ∧ ctx.errhp.isSome = true)
    (hattached : p'.attached.isSome = true → ctx.errhp.isSome = true) :
    Returns (ociCall contract (update (some n) f)) w fun status w' =>
      Built others ctx (if status.isSuccess then p' else p) false w' := by
  refine returns_update (h.owned.trans hold) hc (fun status w' hs hw' => ?_)
    fun _ w' hw' => h.of_table hw'
  rw [hs, if_pos rfl]
  exact ⟨hw'.trans hnew, h.stmthp, h.ownsEnv, hbegun, hattached⟩

end Stages

section Calls

variable {others : Handles} {ctx : OracleContext} {p : Progress} {w : World} {err srv svc auth : ℕ}

theorem Built.server_mem (h : Built others ctx p false w) (hsrv : ctx.srvhp = some srv) :
    (srv, Handle.server p.attached) ∈ w.table.owned := by
  rw [h.owned, OracleContext.handles, hsrv]
  simp

theorem Built.service_mem (h : Built others ctx p false w) (hsvc : ctx.svchp = some svc) :
    (svc, Handle.service p.server p.session false) ∈ w.table.owned := by
  rw [h.owned, OracleContext.handles, hsvc]
  simp

theorem Built.session_mem (h : Built others ctx p false w) (hauth : ctx.authp = some auth) :
    (auth, Handle.session p.user p.password p.begun) ∈ w.table.owned := by
  rw [h.owned, OracleContext.handles, hauth]
  simp

theorem Built.attrSet (h : Built others ctx p false w) {n : ℕ} {k : Handle}
    {type : Handle → Bool} (hmem : (n, k) ∈ w.table.owned) (htype : type k = true)
    (herr : ctx.errhp = some err) :
    Returns (attrSet (some n) type ctx.errhp) w fun _ w' => Built others ctx p false w' := by
  rw [herr]
  refine returns_ociCall_id ?_ fun _ w' hw' => h.of_table hw'
  rw [has_of_mem hmem htype, has_of_mem (h.error_mem herr) rfl]
  rfl

theorem Built.serverAttach (h : Built others ctx p false w) (hsrv : ctx.srvhp = some srv)
    (herr : ctx.errhp = some err) (hp : p.attached = none) (db : String) :
    Returns (serverAttach ctx.srvhp ctx.errhp db) w fun status w' =>
      Built others ctx (if status.isSuccess then { p with attached := some db } else p)
        false w' := by
  rw [hsrv, herr]
  have hmem := h.server_mem hsrv
  rw [hp] at hmem
  refine h.advance (.server p.attached) (entry ctx.errhp .error +
    entry ctx.svchp (.service p.server p.session false) +
    entry ctx.authp (.session p.user p.password p.begun) + others) ?_ ?_ ?_ h.begun
    fun _ => by rw [herr]; rfl
  · rw [has_of_mem hmem rfl, has_of_mem (h.error_mem herr) rfl]
    rfl
  · rw [OracleContext.handles, hsrv, entry_some]
    abel
  · rw [OracleContext.handles, hsrv, entry_some]
    abel

theorem Built.attrSetServer (h : Built others ctx p false w) (hsvc : ctx.svchp = some svc)
    (hsrv : ctx.srvhp = some srv) (herr : ctx.errhp = some err) :
    Returns (attrSetServer ctx.svchp ctx.srvhp ctx.errhp) w fun status w' =>
      Built others ctx (if status.isSuccess then { p with server := ctx.srvhp } else p)
        false w' := by
  rw [hsvc, herr]
  refine h.advance (.service p.server p.session false) (entry ctx.errhp .error +
    entry ctx.srvhp (.server p.attached) +
    entry ctx.authp (.session p.user p.password p.begun) + others) ?_ ?_ ?_ h.begun h.attached
  · rw [has_of_mem (h.service_mem hsvc) rfl, hsrv, has_of_mem (h.server_mem hsrv) rfl,
      has_of_mem (h.error_mem herr) rfl]
    rfl
  · rw [OracleContext.handles, hsvc, entry_some]
    abel
  · rw [OracleContext.handles, hsvc, entry_some]
    abel

theorem Built.attrSetUsername (h : Built others ctx p false w) (hauth : ctx.authp = some auth)
    (herr : ctx.errhp = some err) (user : String) :
    Returns (attrSetUsername ctx.authp user ctx.errhp) w fun status w' =>
      Built others ctx (if status.isSuccess then { p with user := some user } else p)
        false w' := by
  rw [hauth, herr]
  refine h.advance (.session p.user p.password p.begun) (entry ctx.errhp .error +
    entry ctx.srvhp (.server p.attached) +
    entry ctx.svchp (.service p.server p.session false) + others) ?_ ?_ ?_ h.begun h.attached
  · rw [has_of_mem (h.session_mem hauth) rfl, has_of_mem (h.error_mem herr) rfl]
    rfl
  · rw [OracleContext.handles, hauth, entry_some]
    abel
  · rw [OracleContext.handles, hauth, entry_some]
    abel

theorem Built.attrSetPassword (h : Built others ctx p false w) (hauth : ctx.authp = some auth)
    (herr : ctx.errhp = some err) (password : String) :
    Returns (attrSetPassword ctx.authp password ctx.errhp) w fun status w' =>
      Built others ctx (if status.isSuccess then { p with password := some password } else p)
        false w' := by
  rw [hauth, herr]
  refine h.advance (.session p.user p.password p.begun) (entry ctx.errhp .error +
    entry ctx.srvhp (.server p.attached) +
    entry ctx.svchp (.service p.server p.session false) + others) ?_ ?_ ?_ h.begun h.attached
  · rw [has_of_mem (h.session_mem hauth) rfl, has_of_mem (h.error_mem herr) rfl]
    rfl
  · rw [OracleContext.handles, hauth, entry_some]
    abel
  · rw [OracleContext.handles, hauth, entry_some]
    abel

theorem Built.sessionBegin (h : Built others ctx p false w) (hsvc : ctx.svchp = some svc)
    (hsrv : ctx.srvhp = some srv) (hauth : ctx.authp = some auth) (herr : ctx.errhp = some err)
    (hserver : p.server = ctx.srvhp) {db : String} (hattached : p.attached = some db)
    (hp : p.begun = false) :
    Returns (sessionBegin ctx.svchp ctx.errhp ctx.authp) w fun status w' =>
      Built others ctx (if status.isSuccess then { p with begun := true } else p) false w' := by
  have hservice := h.service_mem hsvc
  have hsession := h.session_mem hauth
  have hsrvmem := h.server_mem hsrv
  rw [hserver, hsrv] at hservice
  rw [hp] at hsession
  rw [hattached] at hsrvmem
  rw [hsvc, hauth, herr]
  refine h.advance (.session p.user p.password p.begun) (entry ctx.errhp .error +
    entry ctx.srvhp (.server p.attached) +
    entry ctx.svchp (.service p.server p.session false) + others) ?_ ?_ ?_
    (fun _ => by rw [hsvc, herr]; exact ⟨rfl, rfl⟩) h.attached
  · rw [attached_of_mem hservice hsrvmem, has_of_mem hsession rfl,
      has_of_mem (h.error_mem herr) rfl]
    rfl
  · rw [OracleContext.handles, hauth, entry_some]
    abel
  · rw [OracleContext.handles, hauth, entry_some]
    abel

theorem Built.attrSetSession (h : Built others ctx p false w) (hsvc : ctx.svchp = some svc)
    (hauth : ctx.authp = some auth) (herr : ctx.errhp = some err) :
    Returns (attrSetSession ctx.svchp ctx.authp ctx.errhp) w fun status w' =>
      Built others ctx (if status.isSuccess then { p with session := ctx.authp } else p)
        false w' := by
  rw [hsvc, herr]
  refine h.advance (.service p.server p.session false) (entry ctx.errhp .error +
    entry ctx.srvhp (.server p.attached) +
    entry ctx.authp (.session p.user p.password p.begun) + others) ?_ ?_ ?_ h.begun h.attached
  · rw [has_of_mem (h.service_mem hsvc) rfl, hauth, has_of_mem (h.session_mem hauth) rfl,
      has_of_mem (h.error_mem herr) rfl]
    rfl
  · rw [OracleContext.handles, hsvc, entry_some]
    abel
  · rw [OracleContext.handles, hsvc, entry_some]
    abel

end Calls

/-! ### The formats, and the whole -/

section Connection

variable {others : Handles} {connectionString : String} {ctx : OracleContext} {p : Progress}
  {w : World} {env err srv svc auth : ℕ} {rest : List Stage}

/-- A context whose session has begun is logged on. -/
theorem Built.loggedOn {idle : Bool} (hidle : idle = false) (hsvc : ctx.svchp = some svc)
    (hsrv : ctx.srvhp = some srv) (hauth : ctx.authp = some auth) (herr : ctx.errhp = some err)
    (hserver : p.server = ctx.srvhp) (hsession : p.session = ctx.authp)
    (hattached : p.attached.isSome = true) (hbegun : p.begun = true) :
    LoggedOn (ctx.handles p idle + others) svc err := by
  obtain ⟨db, hdb⟩ := Option.isSome_iff_exists.mp hattached
  unfold LoggedOn OracleContext.handles
  rw [hserver, hsession, hdb, hbegun, herr, hsvc, hsrv, hauth, hidle]
  refine ⟨by simp, srv, auth, db, p.user, p.password, by simp, by simp, by simp⟩

/-- The statement of the formats is left, as far as it was. -/
theorem returns_destroy_leaving {n : ℕ} {phase : Phase}
    (h : Built ({(n, .statement phase)} + others) ctx p false w)
    (hphase : Handle.isExecuted (.statement phase) = false) {msg text : String}
    (hmsg : leavesNlsStatement msg = true) :
    Returns ctx.destroy w fun _ u =>
      ConnectionEnds env others connectionString (.error (.oci msg text)) u := by
  refine (returns_destroy h).mono fun _ u hu => ?_
  show if leavesNlsStatement msg = true then _ else _
  rw [if_pos hmsg]
  exact ⟨n, phase, hphase, hu⟩

theorem construct_nls (h : Built others ctx p false w) (henvp : ctx.envhp = some env)
    (henv : (env, Handle.env) ∈ others) (herr : ctx.errhp = some err)
    (hsvc : ctx.svchp = some svc)
    (hon : LoggedOn (ctx.handles p false + others) svc err)
    (hnext : ∀ w', Built others ctx p false w' →
      Ends (construct OracleContext.destroy rest ctx) w'
        (ConnectionEnds env others connectionString)) :
    Ends (construct OracleContext.destroy (nlsStage :: rest) ctx) w
      (ConnectionEnds env others connectionString) := by
  refine ends_construct_cons.mpr ?_
  unfold nlsStage
  rw [henvp, herr, hsvc]
  have hbuilt : ∀ {n : ℕ} {phase : Phase} {w' : World},
      w'.table.owned = {(n, .statement phase)} + (ctx.handles p false + others) →
        Built ({(n, .statement phase)} + others) ctx p false w' := fun hw' =>
    ⟨hw'.trans (add_left_comm _ _ _), h.stmthp, h.ownsEnv, h.begun, h.attached⟩
  refine ends_perform_bind.mpr (returns_handleAlloc (h.env_mem henv) (fun status n w₁ hs h₁ => ?_)
    fun text w₁ h₁ => ?_)
  · rw [h.owned] at h₁
    refine ends_bind.mpr (ends_checkOCIError (mem_frame h₁ hon.1) (fun _ => ?_) fun text ht => ?_)
    · refine ends_bind.mpr (ends_stmtPrepare hon.1 h₁ (fun w₂ h₂ => ?_) fun text w₂ h₂ => ?_)
      · refine ends_bind.mpr (ends_stmtExecute hon h₂ rfl (fun w₃ h₃ => ?_) fun text w₃ h₃ => ?_)
        · refine ends_perform_bind.mpr (returns_handleFree h₃ rfl rfl fun w₄ h₄ => ?_)
          exact ends_pure.mpr (hnext w₄ ⟨h₄, h.stmthp, h.ownsEnv, h.begun, h.attached⟩)
        · exact returns_destroy_leaving (hbuilt h₃) rfl (by decide)
      · exact returns_destroy_leaving (hbuilt h₂) rfl (by decide)
    · rw [ht] at hs
      exact nomatch hs
  · have hmem : (err, Handle.error) ∈ w₁.table.owned := by
      rw [h₁]
      exact h.error_mem herr
    refine ends_bind.mpr (ends_checkOCIError hmem (fun hs => nomatch hs) fun text' _ => ?_)
    have hmsg : leavesNlsStatement "Failed to allocate statement handle for NLS setup" = false := by
      decide
    exact returns_destroy_failed (h.of_table h₁) hmsg

/-- The last step. -/
theorem construct_connected {credentials : Connection.OracleCredentials}
    (hparse : Connection.parseOracleConnectionString connectionString = .ok credentials)
    (henvp : ctx.envhp = some env) (h : Opened others credentials ctx false w) :
    Ends (construct OracleContext.destroy [fun ctx => pure { ctx with connected := true }] ctx) w
      (ConnectionEnds env others connectionString) := by
  refine ends_construct_cons.mpr (ends_pure.mpr (ends_pure.mpr
    ⟨rfl, henvp, credentials, hparse, ?_⟩))
  obtain ⟨⟨howned, hstmt, hown, hbegun, hattached⟩, herr, hsrv, hsvc, hauth⟩ := h
  exact ⟨⟨howned, hstmt, hown, hbegun, hattached⟩, herr, hsrv, hsvc, hauth⟩

/-- **`CreateConnection`, with every way of failing.**  A context that it returns is logged on
with what the connection string says; an exception leaves the handles as they were, but for
the statement of the formats when that could not be prepared or executed. -/
theorem createConnection_ends (env : ℕ) (others : Handles) (connectionString : String) (w : World)
    (hw : w.table.owned = others) (henv : (env, Handle.env) ∈ others) :
    Ends (createConnection (some env) connectionString) w
      (ConnectionEnds env others connectionString) := by
  have h₀ : Built others { envhp := some env } {} false w :=
    ⟨by rw [hw, OracleContext.handles]; simp, rfl, rfl, nofun, nofun⟩
  unfold createConnection
  cases hparse : Connection.parseOracleConnectionString connectionString with
  | error e => exact ends_unwinding.mpr (ends_throw.mpr (returns_destroy_failed h₀ rfl))
  | ok credentials =>
    unfold connectionStages
    refine construct_alloc {} h₀ rfl henv (by decide)
      (fun err w' hw' => h₀.store hw' ?_ nofun nofun rfl rfl) fun err w₁ h₁ => ?_
    · exact add_comm _ _
    refine construct_alloc {} h₁ rfl henv (by decide)
      (fun srv w' hw' => h₁.store hw' ?_ nofun nofun rfl rfl) fun srv w₂ h₂ => ?_
    · simp only [OracleContext.handles, entry_some, entry_none]
      abel
    refine construct_alloc {} h₂ rfl henv (by decide)
      (fun svc w' hw' => h₂.store hw' ?_ nofun nofun rfl rfl) fun svc w₃ h₃ => ?_
    · simp only [OracleContext.handles, entry_some, entry_none]
      abel
    refine construct_ignore (h₃.attrSet (h₃.server_mem rfl) rfl rfl) fun w₄ h₄ => ?_
    refine construct_ignore (h₄.attrSet (h₄.server_mem rfl) rfl rfl) fun w₅ h₅ => ?_
    refine construct_call rfl (by decide) (h₅.serverAttach rfl rfl rfl _) fun w₆ h₆ => ?_
    refine construct_call rfl (by decide) (h₆.attrSetServer rfl rfl rfl) fun w₇ h₇ => ?_
    refine construct_alloc { attached := some credentials.db, server := some srv } h₇ rfl
      henv (by decide) (fun auth w' hw' => h₇.store hw' ?_ nofun (fun _ => rfl) rfl rfl)
      fun auth w₈ h₈ => ?_
    · simp only [OracleContext.handles, entry_some, entry_none]
      abel
    refine construct_call rfl (by decide) (h₈.attrSetUsername rfl rfl _) fun w₉ h₉ => ?_
    refine construct_call rfl (by decide) (h₉.attrSetPassword rfl rfl _)
      fun w₁₀ h₁₀ => ?_
    refine construct_call rfl (by decide) (h₁₀.sessionBegin rfl rfl rfl rfl rfl rfl rfl)
      fun w₁₁ h₁₁ => ?_
    refine construct_call rfl (by decide) (h₁₁.attrSetSession rfl rfl rfl)
      fun w₁₂ h₁₂ => ?_
    refine construct_nls h₁₂ rfl henv rfl rfl
      (Built.loggedOn rfl rfl rfl rfl rfl rfl rfl rfl rfl) fun w₁₃ h₁₃ => ?_
    refine construct_ignore (h₁₃.attrSet (h₁₃.service_mem rfl) rfl rfl) fun w₁₄ h₁₄ => ?_
    refine construct_ignore (h₁₄.attrSet (h₁₄.service_mem rfl) rfl rfl) fun w₁₅ h₁₅ => ?_
    exact construct_connected hparse rfl ⟨h₁₅, rfl, rfl, rfl, rfl⟩

end Connection

end Oci
end DuckdbOracle
