import DuckdbOracle.Connection.References
import DuckdbOracle.Oci.Stages

/-!
# The extension on OCI

The connection manager of `Connection.Manager`, whose sessions are numbers, run on the handles of
`Oci.Calls`.  Every step of the manager is taken together with the OCI calls the code makes
in it: a connect runs `CreateConnection`, and its outcome decides how the call of `Acquire` goes
on; a pool object that nothing keeps any more is destroyed with its idle sessions; a handle
without a pool ends its session.  Between the steps of the manager any thread that holds a
handle runs statements on its session, opens scans and `COPY`s on it, and closes them again.

An operation that is not enabled does nothing: the handle is not alive, the call is not at that
point, a scan or a `COPY` still shares the handle that is to be destroyed.  A context that is not
there when it is used has no outcome, like a null pointer.  What an operation returns to its caller
is its `Reply`.

`takeOut` and `giveBack` are no calls of OCI.  They mark a service context as in use or idle, for
the contracts: nothing is executed through an idle one, and a session is given back to its
pool only when no statement has a cursor on it.
-/

namespace DuckdbOracle
namespace Oci

open HandleTable Programs

/-! ## The hand-over of a session -/

def Handle.isIdle : Handle → Bool
  | .service _ _ idle => idle
  | _ => false

def Handle.isInUse : Handle → Bool
  | .service _ _ idle => !idle
  | _ => false

def Handle.mark (idle : Bool) : Handle → Handle
  | .service srv auth _ => .service srv auth idle
  | k => k

/-- A session is taken out of the idle list of its pool. -/
def takeOut (svchp : Pointer) : Call World Unit := do
  require (·.has svchp Handle.isIdle)
  modify fun w => { w with table := update svchp (Handle.mark false) w.table }

/-- A session is put back into the idle list of its pool. -/
def giveBack (svchp : Pointer) : Call World Unit := do
  require fun w => w.has svchp Handle.isInUse && svchp.any w.quiet
  modify fun w => { w with table := update svchp (Handle.mark true) w.table }

/-! ## The state -/

/-- Who has opened a statement. -/
inductive CursorKind where
  /-- An `OracleScanState`. -/
  | scan
  /-- An `OracleWriteGlobalState`. -/
  | copy
  deriving DecidableEq

/-- What an `OracleScanState` or an `OracleWriteGlobalState` keeps: the handle, which it shares, and
the statement, which is its own. -/
structure Cursor where
  kind : CursorKind
  handle : ℕ
  stmthp : Pointer
  executed : Bool := false
  finished : Bool := false
  deriving DecidableEq

/-- The manager, the context of each of its sessions, and the open scans and `COPY`s; an
object that is gone has left an empty slot. -/
structure System where
  manager : Connection.OracleConnectionManager
  contexts : List (Option OracleContext)
  cursors : List (Option Cursor)
  world : World

/-- The extension is loaded: `OCIEnvCreate` has made the environment, the handle 0. -/
def System.initial (statuses : List Status) : System :=
  ⟨Connection.initial, [], [], ⟨Table.empty.alloc .env, statuses⟩⟩

/-- A call of OCI. -/
def onWorld {α : Type} (x : Call World α) : Call System α :=
  within System.world (fun w s => { s with world := w }) x

/-- A program on OCI. -/
def inWorld {α : Type} (x : Program World IOException α) : Program System IOException α :=
  inside System.world (fun w s => { s with world := w }) x

/-- The context of a session. -/
def theContext (id : ℕ) : Call System OracleContext := do
  let s ← get
  match (s.contexts[id]?).join with
  | some ctx => pure ctx
  | none => require (fun _ => false) >>= fun _ => pure {}

/-! ## Steps of the manager -/

/-- The last reference to a context is gone. -/
def destroyContext (id : ℕ) (ctx : OracleContext) : Call System Unit := do
  onWorld ctx.destroy
  modify fun s => { s with contexts := s.contexts.set id none }

/-- The idle sessions of the pool objects that nothing keeps. -/
def garbage (m : Connection.OracleConnectionManager) : List ℕ :=
  (List.range m.objects.length).flatMap fun p =>
    match m.objects[p]? with
    | some pool => if Connection.referenced m p then [] else pool.idle.map (·.id)
    | none => []

/-- Destroy the contexts that are still there. -/
def destroyAll : List ℕ → Call System Unit
  | [] => pure ()
  | id :: ids => do
    let s ← get
    match (s.contexts[id]?).join with
    | some ctx => destroyContext id ctx >>= fun _ => destroyAll ids
    | none => destroyAll ids

/-- The manager has taken a step, and the pool objects that it has dropped are destroyed. -/
def settle (m : Connection.OracleConnectionManager) : Call System Unit := do
  modify fun s => { s with manager := m }
  destroyAll (garbage m)

/-- A step of the manager in which no session moves. -/
def event (e : Connection.Event) : Program System IOException Unit := do
  let s ← perform get
  match Connection.step s.manager e with
  | some m => perform (settle m)
  | none => pure ()

/-- The session that a call of `Acquire` takes, if it takes one. -/
def takeSession : Option ℕ → Call System Unit
  | some id => theContext id >>= fun ctx => onWorld (takeOut ctx.svchp)
  | none => pure ()

/-- A call of `Acquire` gets the lock of its pool. -/
def lock (c : ℕ) : Program System IOException Unit := do
  let s ← perform get
  match Connection.step s.manager (.lock c) with
  | some m => perform (takeSession (Connection.takenSession s.manager c) >>= fun _ => settle m)
  | none => pure ()

/-- How `Acquire` goes on when `CreateConnection` has returned or thrown. -/
def connectFinish (opened failed : Connection.OracleConnectionManager) :
    Except IOException OracleContext → Program System IOException Unit
  | .ok ctx => perform do
    modify fun s => { s with contexts := s.contexts ++ [some ctx] }
    settle opened
  | .error e => perform (settle failed) >>= fun _ => throw e

/-- `CreateConnection`, run by a call of `Acquire`. -/
def connect (c : ℕ) (woken : Option ℕ) : Program System IOException Unit := do
  let s ← perform get
  match s.manager.calls[c]?, Connection.step s.manager (.connected c),
    Connection.step s.manager (.connectFailed c woken) with
  | some call, some opened, some failed =>
    perform (inWorld (createConnection (some 0) call.connectionString)).run >>=
      connectFinish opened failed
  | _, _, _ => pure ()

/-- The statement shares the handle `h`. -/
def sharesHandle (h : ℕ) : Option Cursor → Bool
  | some cursor => cursor.handle = h
  | none => false

/-- The session of a handle that is destroyed goes back to the pool, or is ended. -/
def letGo (handle : Connection.OracleConnectionHandle) : Call System Unit := do
  let ctx ← theContext handle.ctx.id
  match handle.pool with
  | some _ => onWorld (giveBack ctx.svchp)
  | none => destroyContext handle.ctx.id ctx

/-- `OracleConnectionHandle::~OracleConnectionHandle`, when nothing shares the handle. -/
def release (h : ℕ) (woken : Option ℕ) : Program System IOException Unit := do
  let s ← perform get
  match s.manager.handles[h]?, Connection.step s.manager (.release h woken),
    s.cursors.any (sharesHandle h) with
  | some (some handle), some m, false => perform (letGo handle >>= fun _ => settle m)
  | _, _, _ => pure ()

/-! ## Statements -/

/-- What an operation returns. -/
inductive Reply where
  | nothing
  /-- The handle is not alive, or the scan or the `COPY` is closed. -/
  | dead
  /-- Of `OracleConnection::Query`. -/
  | result (result : OracleResult)
  /-- Of `OracleExecuteFunction`. -/
  | text (msg : String)
  /-- Of `OracleBindInternal`. -/
  | bound (bind : Scan.OracleBindData)
  /-- Of `OracleInitGlobal` and `OracleWriteInitGlobal`: the number of the scan or the `COPY`. -/
  | opened (c : ℕ)
  /-- Of `OracleQueryFunction`. -/
  | rows (rows : List Scan.Row)
  /-- Of `OracleQueryFunction` as well: an empty chunk, since OCI did not say how many rows it
  fetched. -/
  | uncounted

/-- What a holder of the handle `h` does on its session. -/
def onSession (h : ℕ) (f : OracleContext → Program System IOException Reply) :
    Program System IOException Reply := do
  let s ← perform get
  match s.manager.handles[h]? with
  | some (some handle) => perform (theContext handle.ctx.id) >>= f
  | _ => pure .dead

/-- A program on OCI whose result is for the caller. -/
def answering {α : Type} (x : Program World IOException α) (reply : α → Reply) :
    Program System IOException Reply :=
  inWorld x >>= fun a => pure (reply a)

/-- A scan or a `COPY` has its statement. -/
def opened (cursor : Cursor) : Call System Reply := do
  let s ← get
  modify fun s => { s with cursors := s.cursors ++ [some cursor] }
  pure (.opened s.cursors.length)

/-- `OracleInitGlobal`. -/
def openScan (h : ℕ) (bind : Scan.OracleBindData) : Program System IOException Reply :=
  onSession h fun ctx => inWorld (scanStatement ctx bind) >>= fun stmthp =>
    perform (opened { kind := .scan, handle := h, stmthp := stmthp })

/-- `OracleWriteInitGlobal`. -/
def openCopy (h : ℕ) (sql : String) : Program System IOException Reply :=
  onSession h fun ctx => inWorld (writeStatement ctx sql) >>= fun stmthp =>
    perform (opened { kind := .copy, handle := h, stmthp := stmthp })

/-- What is done with a scan or a `COPY` that is open. -/
def onCursor (c : ℕ) (kind : CursorKind)
    (f : Cursor → OracleContext → Program System IOException Reply) :
    Program System IOException Reply := do
  let s ← perform get
  match s.cursors[c]? with
  | some (some cursor) =>
    if cursor.kind = kind then onSession cursor.handle (f cursor) else pure .dead
  | _ => pure .dead

def setCursor (c : ℕ) (cursor : Option Cursor) : Call System Unit :=
  modify fun s => { s with cursors := s.cursors.set c cursor }

/-- Execute the cursor once. -/
def executeOnce (c : ℕ) (cursor : Cursor) (ctx : OracleContext) : Program System IOException Unit :=
  if cursor.executed then pure ()
  else inWorld (openCursor ctx cursor.stmthp) >>= fun _ =>
    perform (setCursor c (some { cursor with executed := true }))

/-- `OracleQueryFunction`. -/
def scanNext (server : String → Answer) (c : ℕ) : Program System IOException Reply :=
  onCursor c .scan fun cursor ctx =>
    if cursor.finished then pure (.rows [])
    else do
      executeOnce c cursor ctx
      let (noData, counted) ← inWorld (fetchBatch server ctx cursor.stmthp)
      perform (setCursor c (some { cursor with executed := true, finished := noData }))
      pure (counted.elim .uncounted .rows)

/-- `OracleWriteSink`, of a batch for which `rebinds` columns are bound. -/
def sink (c rebinds : ℕ) : Program System IOException Reply :=
  onCursor c .copy fun cursor ctx =>
    answering (sinkStatement ctx cursor.stmthp rebinds) fun _ => .nothing

/-- An `OracleScanState` or an `OracleWriteGlobalState` is destroyed: its statement is freed, and
its share of the handle goes with it. -/
def close (c : ℕ) : Program System IOException Reply := do
  let s ← perform get
  match s.cursors[c]? with
  | some (some cursor) => perform do
    onWorld (handleFree cursor.stmthp Handle.isStatement)
    setCursor c none
    pure .nothing
  | _ => pure .dead

/-! ## Runs -/

/-- What can happen next. -/
inductive Op where
  | acquire (connectionString : String) (settings : Catalog.OracleSettings)
  | lock (c : ℕ)
  | connect (c : ℕ) (woken : Option ℕ)
  | expire (c : ℕ)
  | spurious (c : ℕ)
  | late (c : ℕ)
  | release (h : ℕ) (woken : Option ℕ)
  | clear
  /-- `OracleConnection::Query`. -/
  | query (h : ℕ) (sql : String)
  /-- `OracleConnection::Commit` and `Rollback`, and `OracleWriteFinalize`. -/
  | transaction (h : ℕ) (msg : String)
  /-- `OracleExecuteFunction`. -/
  | execute (h : ℕ) (sql : String)
  /-- `OracleBindInternal`. -/
  | bind (h : ℕ) (connectionString : String) (settings : Catalog.OracleSettings) (sql : String)
  | openScan (h : ℕ) (bind : Scan.OracleBindData)
  | scanNext (c : ℕ)
  | openCopy (h : ℕ) (sql : String)
  | sink (c rebinds : ℕ)
  | close (c : ℕ)

variable (server : String → Answer) (affected : String → Catalog.StatementType × ℕ)

/-- A step of the manager returns nothing. -/
def silent (x : Program System IOException Unit) : Program System IOException Reply :=
  x >>= fun _ => pure .nothing

/-- The program of an operation. -/
def Op.program : Op → Program System IOException Reply
  | .acquire cs settings => silent (event (.acquire cs settings))
  | .lock c => silent (Oci.lock c)
  | .connect c woken => silent (Oci.connect c woken)
  | .expire c => silent (event (.expire c))
  | .spurious c => silent (event (.spurious c))
  | .late c => silent (event (.late c))
  | .release h woken => silent (Oci.release h woken)
  | .clear => silent (event .clear)
  | .query h sql => onSession h fun ctx => answering (Oci.query server ctx sql) .result
  | .transaction h msg =>
    onSession h fun ctx => answering (Oci.transaction ctx msg) fun _ => .nothing
  | .execute h sql => onSession h fun ctx => answering (executeStatement affected ctx sql) .text
  | .bind h cs settings sql =>
    onSession h fun ctx => answering (bindStatement server ctx cs settings sql) .bound
  | .openScan h data => Oci.openScan h data
  | .scanNext c => Oci.scanNext server c
  | .openCopy h sql => Oci.openCopy h sql
  | .sink c rebinds => Oci.sink c rebinds
  | .close c => Oci.close c

/-- What has happened: the operation, and how it has ended. -/
abbrev Outcome := Op × Except IOException Reply

/-- Run operations one after the other, whatever they throw. -/
def runOps : List Op → Call System (List Outcome)
  | [] => pure []
  | op :: ops => do
    let r ← (op.program server affected).run
    let outcomes ← runOps ops
    pure ((op, r) :: outcomes)

/-- The exceptions after which a statement is left that nothing frees: of the format statement of a
connect, and of the statement of a `COPY`. -/
def Op.leaves : Op → IOException → Bool
  | .connect _ _, e => e.leavesStatement
  | .openCopy _ _, e => e.leavesWriteStatement
  | _, _ => false

/-- The operation has left a statement. -/
def leaks (outcome : Outcome) : Bool :=
  match outcome.2 with
  | .ok _ => false
  | .error e => outcome.1.leaves e

/-- `OracleConnectionManager::~OracleConnectionManager`. -/
def shutdown : Call System Unit := do
  let s ← get
  settle (Connection.clear s.manager)
  onWorld (handleFree (some 0) Handle.isEnv)

end Oci
end DuckdbOracle
