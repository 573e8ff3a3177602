import DuckdbOracle.Foundations.HandleTable
import DuckdbOracle.Foundations.Programs
import DuckdbOracle.Scan.Fetch

/-!
# OCI, as its documentation promises it

The extension reaches Oracle through handles: it allocates them, attaches a server
handle, begins a session, prepares and executes statements, and frees everything again.
This module is OCI's side of that: the handles that are allocated, what is attached,
begun, prepared and executed on them, and the contract of every call that the extension
makes.  A call outside its contract has no outcome at all.

The contracts are what a C library leaves undefined, and a little more:

* a handle that is passed is allocated, and of its kind;
* a session is freed only after `OCISessionEnd`, a server only after `OCIServerDetach`;
* a statement is executed, committed or rolled back only through a service context whose
  server is attached and whose session has begun, and that does not lie idle in a pool;
* a statement is prepared before it is executed, described before its columns are
  asked for, and executed before it is fetched from.

Any call may fail, at any time.  The state carries the statuses that the calls to come
will return, so that a statement about every state is one about every way of failing.
-/

namespace DuckdbOracle
namespace Oci

open HandleTable Programs

/-- The status of a call.  `OCI_NO_DATA` is only returned by fetches; see `stmtFetch2`. -/
inductive Status where
  | success
  | successWithInfo
  | error (text : String)
  deriving DecidableEq

/-- What `CheckOCIError` lets pass. -/
def Status.isSuccess : Status → Bool
  | .success | .successWithInfo => true
  | .error _ => false

/-- How far a statement is; an executed one keeps a cursor on its service context. -/
inductive Phase where
  | allocated
  | prepared (sql : String)
  | described (sql : String)
  | executed (sql : String) (svc : ℕ) (fetched : ℕ)
  deriving DecidableEq

/-- What OCI keeps of a handle. -/
inductive Handle where
  | env
  | error
  | server (attached : Option String)
  | service (server session : Option ℕ) (idle : Bool)
  | session (user password : Option String) (begun : Bool)
  | statement (phase : Phase)
  deriving DecidableEq

/-- The allocated handles, and what the calls to come will return. -/
structure World where
  table : Table Handle
  statuses : List Status

/-- A handle of OCI as the extension keeps it: a pointer. -/
abbrev Pointer := Option ℕ

/-! ## Contracts -/

def Handle.isEnv : Handle → Bool
  | .env => true
  | _ => false

def Handle.isError : Handle → Bool
  | .error => true
  | _ => false

def Handle.isServer : Handle → Bool
  | .server _ => true
  | _ => false

def Handle.isService : Handle → Bool
  | .service _ _ _ => true
  | _ => false

def Handle.isSession : Handle → Bool
  | .session _ _ _ => true
  | _ => false

def Handle.isStatement : Handle → Bool
  | .statement _ => true
  | _ => false

def Handle.isAttached : Handle → Bool
  | .server attached => attached.isSome
  | _ => false

def Handle.isBegun : Handle → Bool
  | .session _ _ begun => begun
  | _ => false

/-- A session that has begun and a server that is attached are not freed. -/
def Handle.mayBeFreed : Handle → Bool
  | .server attached => attached.isNone
  | .session _ _ begun => !begun
  | _ => true

def Handle.isPrepared : Handle → Bool
  | .statement .allocated => false
  | .statement _ => true
  | _ => false

def Handle.isDescribed : Handle → Bool
  | .statement (.described _) | .statement (.executed _ _ _) => true
  | _ => false

def Handle.isExecuted : Handle → Bool
  | .statement (.executed _ _ _) => true
  | _ => false

/-- The pointer is not null, its handle is allocated, and it is as `p` says. -/
def World.has (w : World) (h : Pointer) (p : Handle → Bool) : Bool :=
  match h.bind w.table.get? with
  | some k => p k
  | none => false

/-- The server of the service context is attached. -/
def World.attached (w : World) (svc : Pointer) : Bool :=
  w.has svc fun
    | .service server _ _ => w.has server Handle.isAttached
    | _ => false

/-- The service context is logged on and in use. -/
def World.loggedOn (w : World) (svc : Pointer) : Bool :=
  w.has svc fun
    | .service server session idle =>
      w.has server Handle.isAttached && w.has session Handle.isBegun && !idle
    | _ => false

/-- No statement has a cursor on the service context. -/
def World.quiet (w : World) (svc : ℕ) : Bool :=
  w.table.entries.all fun e =>
    match e.2 with
    | .statement (.executed _ svc' _) => svc' ≠ svc
    | _ => true

/-! ## Calls -/

/-- The status of the next call. -/
def nextStatus : Call World Status := do
  match (← get).statuses with
  | [] => pure .success
  | status :: statuses =>
    modify fun w => { w with statuses := statuses }
    pure status

/-- A call: its contract, and its effect on the handles if it succeeds. -/
def ociCall (contract : World → Bool) (effect : Table Handle → Table Handle) :
    Call World Status := do
  require contract
  let status ← nextStatus
  if status.isSuccess then
    modify fun w => { w with table := effect w.table }
  pure status

/-- Change what OCI keeps of a handle. -/
def update (h : Pointer) (f : Handle → Handle) (t : Table Handle) : Table Handle :=
  match h with
  | none => t
  | some n =>
    match t.get? n with
    | some k => t.set n (f k)
    | none => t

/-- `OCIHandleAlloc`: the handle, if it succeeds. -/
def handleAlloc (envhp : Pointer) (k : Handle) : Call World (Status × Pointer) := do
  require (·.has envhp Handle.isEnv)
  let status ← nextStatus
  if status.isSuccess then
    let n := (← get).table.next
    modify fun w => { w with table := w.table.alloc k }
    pure (status, some n)
  else
    pure (status, none)

/-- `OCIHandleFree`, of a handle of the given type. -/
def handleFree (h : Pointer) (type : Handle → Bool) : Call World Unit := do
  require fun w => w.has h fun k => type k && k.mayBeFreed
  modify fun w =>
    match h with
    | some n => { w with table := w.table.free n }
    | none => w

/-- `OCIAttrSet` of an attribute that nothing here depends on: a timeout, a size. -/
def attrSet (h : Pointer) (type : Handle → Bool) (errhp : Pointer) : Call World Status :=
  ociCall (fun w => w.has h type && w.has errhp Handle.isError) id

/-- `OCIAttrGet` of a handle. -/
def attrGet (h : Pointer) (type : Handle → Bool) (errhp : Pointer) : Call World Status :=
  ociCall (fun w => w.has h type && w.has errhp Handle.isError) id

/-- `OCIAttrSet` of `OCI_ATTR_SERVER`. -/
def attrSetServer (svchp srvhp errhp : Pointer) : Call World Status :=
  ociCall
    (fun w => w.has svchp Handle.isService && w.has srvhp Handle.isServer &&
      w.has errhp Handle.isError)
    (update svchp fun
      | .service _ session idle => .service srvhp session idle
      | k => k)

/-- `OCIAttrSet` of `OCI_ATTR_SESSION`. -/
def attrSetSession (svchp authp errhp : Pointer) : Call World Status :=
  ociCall
    (fun w => w.has svchp Handle.isService && w.has authp Handle.isSession &&
      w.has errhp Handle.isError)
    (update svchp fun
      | .service server _ idle => .service server authp idle
      | k => k)

/-- `OCIAttrSet` of `OCI_ATTR_USERNAME`. -/
def attrSetUsername (authp : Pointer) (user : String) (errhp : Pointer) : Call World Status :=
  ociCall (fun w => w.has authp Handle.isSession && w.has errhp Handle.isError)
    (update authp fun
      | .session _ password begun => .session (some user) password begun
      | k => k)

/-- `OCIAttrSet` of `OCI_ATTR_PASSWORD`. -/
def attrSetPassword (authp : Pointer) (password : String) (errhp : Pointer) : Call World Status :=
  ociCall (fun w => w.has authp Handle.isSession && w.has errhp Handle.isError)
    (update authp fun
      | .session user _ begun => .session user (some password) begun
      | k => k)

/-- `OCIServerAttach`. -/
def serverAttach (srvhp errhp : Pointer) (db : String) : Call World Status :=
  ociCall
    (fun w => w.has srvhp (fun k => k.isServer && !k.isAttached) && w.has errhp Handle.isError)
    (update srvhp fun _ => .server (some db))

/-- `OCIServerDetach`.  Whatever it returns, the server has been told. -/
def serverDetach (srvhp errhp : Pointer) : Call World Status := do
  require fun w => w.has srvhp Handle.isServer && w.has errhp Handle.isError
  modify fun w => { w with table := update srvhp (fun _ => .server none) w.table }
  nextStatus

/-- `OCISessionBegin`. -/
def sessionBegin (svchp errhp authp : Pointer) : Call World Status :=
  ociCall
    (fun w => w.attached svchp && w.has authp (fun k => k.isSession && !k.isBegun) &&
      w.has errhp Handle.isError)
    (update authp fun
      | .session user password _ => .session user password true
      | k => k)

/-- `OCISessionEnd`.  Whatever it returns, the server has been told. -/
def sessionEnd (svchp errhp authp : Pointer) : Call World Status := do
  require fun w => w.has svchp Handle.isService && w.has authp Handle.isSession &&
    w.has errhp Handle.isError
  modify fun w => { w with
    table := update authp (fun
      | .session user password _ => .session user password false
      | k => k) w.table }
  nextStatus

/-- `OCIStmtPrepare`. -/
def stmtPrepare (stmthp errhp : Pointer) (sql : String) : Call World Status :=
  ociCall (fun w => w.has stmthp Handle.isStatement && w.has errhp Handle.isError)
    (update stmthp fun _ => .statement (.prepared sql))

/-- The mode of an execution. -/
inductive ExecuteMode where
  | default
  | describeOnly
  | commitOnSuccess
  deriving DecidableEq

/-- What an execution makes of a phase. -/
def Phase.execute (mode : ExecuteMode) (svc : ℕ) : Phase → Phase
  | .allocated => .allocated
  | .prepared sql | .described sql | .executed sql _ _ =>
    if mode = .describeOnly then .described sql else .executed sql svc 0

/-- `OCIStmtExecute`. -/
def stmtExecute (svchp stmthp errhp : Pointer) (mode : ExecuteMode) : Call World Status :=
  ociCall
    (fun w => w.loggedOn svchp && w.has stmthp Handle.isPrepared && w.has errhp Handle.isError)
    (update stmthp fun
      | .statement phase => .statement (phase.execute mode (svchp.getD 0))
      | k => k)

/-- `OCITransCommit` and `OCITransRollback`. -/
def transEnd (svchp errhp : Pointer) : Call World Status :=
  ociCall (fun w => w.loggedOn svchp && w.has errhp Handle.isError) id

/-- `OCIDefineByPos`, `OCIBindByPos` and the calls that set their arrays. -/
def stmtBind (stmthp errhp : Pointer) : Call World Status :=
  ociCall (fun w => w.has stmthp Handle.isPrepared && w.has errhp Handle.isError) id

/-! ## Queries -/

/-- What the server has for a query: the columns it describes, and the rows. -/
structure Answer where
  columns : List Scan.DescribedColumn
  rows : List Scan.Row

/-- The text of a statement. -/
def World.sqlOf (w : World) (stmthp : Pointer) : String :=
  match stmthp.bind w.table.get? with
  | some (.statement (.prepared sql)) | some (.statement (.described sql))
  | some (.statement (.executed sql _ _)) => sql
  | _ => ""

/-- How many rows a cursor has given. -/
def World.fetchedOf (w : World) (stmthp : Pointer) : ℕ :=
  match stmthp.bind w.table.get? with
  | some (.statement (.executed _ _ fetched)) => fetched
  | _ => 0

variable (server : String → Answer)

/-- `OCIAttrGet` of `OCI_ATTR_PARAM_COUNT`. -/
def paramCount (stmthp errhp : Pointer) : Call World (Status × ℕ) := do
  let count := (server ((← get).sqlOf stmthp)).columns.length
  let status ← ociCall
    (fun w => w.has stmthp Handle.isDescribed && w.has errhp Handle.isError) id
  pure (status, count)

/-- `OCIParamGet`, counted from 0: the described column. -/
def paramGet (stmthp errhp : Pointer) (i : ℕ) :
    Call World (Status × Option Scan.DescribedColumn) := do
  let column := (server ((← get).sqlOf stmthp)).columns[i]?
  let status ← ociCall
    (fun w => w.has stmthp Handle.isDescribed && w.has errhp Handle.isError) id
  pure (status, column)

/-- What a fetch of up to `n` rows returns, with these rows left. -/
def fetchOutcome (status : Status) (left : List Scan.Row) (n : ℕ) :
    Scan.FetchStatus × List Scan.Row :=
  match status with
  | .error text => (.failure text, [])
  | .success => if left.length < n then (.noData, left) else (.success, left.take n)
  | .successWithInfo =>
    if left.length < n then (.noData, left) else (.successWithInfo, left.take n)

/-- The cursor moves on by some rows. -/
def Handle.advance (count : ℕ) : Handle → Handle
  | .statement (.executed sql svc fetched) => .statement (.executed sql svc (fetched + count))
  | k => k

/-- `OCIStmtFetch2` of up to `n` rows, which are the next ones of the cursor. -/
def stmtFetch2 (stmthp errhp : Pointer) (n : ℕ) :
    Call World (Scan.FetchStatus × List Scan.Row) := do
  require fun w => w.has stmthp Handle.isExecuted && w.has errhp Handle.isError
  let w ← get
  let left := (server (w.sqlOf stmthp)).rows.drop (w.fetchedOf stmthp)
  let status ← nextStatus
  let outcome := fetchOutcome status left n
  modify fun w => { w with table := update stmthp (Handle.advance outcome.2.length) w.table }
  pure outcome

/-! ## `CheckOCIError` -/

/-- An `IOException`: of a failed call, with what was attempted and the text of OCI, or
another one. -/
inductive IOException where
  | oci (msg text : String)
  | other (text : String)
  deriving DecidableEq

/-- The text of an exception. -/
def IOException.what : IOException → String
  | .oci msg text => msg ++ ": " ++ text
  | .other text => text

/-- `CheckOCIError`, which asks the error handle for the text.  The extension has four
copies of it, which are the same. -/
def checkOCIError (status : Status) (errhp : Pointer) (msg : String) :
    Program World IOException Unit :=
  match status with
  | .success | .successWithInfo => pure ()
  | .error text =>
    match errhp with
    | none => throw (.oci msg "(No Error Handle)")
    | some _ => do
      perform (require (·.has errhp Handle.isError))
      throw (.oci msg text)

/-- A call whose status is checked. -/
def checked (call : Call World Status) (errhp : Pointer) (msg : String) :
    Program World IOException Unit := do
  let status ← perform call
  checkOCIError status errhp msg

end Oci
end DuckdbOracle
