import DuckdbOracle.Oci.Statements

/-!
# Executing, binding, scanning and copying

The rest of what is done with statements: the statement of `oracle_execute`, the describe of
`OracleBindInternal`, the statement that `OracleInitGlobal` prepares and
`OracleQueryFunction` executes and fetches from, and the one of a `COPY`.

The first two free their statement before they end.  The statement of a scan or of a
`COPY` outlives the function that prepares it: `OracleInitGlobal` hands it to the scan
state, which frees it when it is destroyed, and `OracleWriteGlobalState` keeps it as a
plain pointer, which its constructor does not free if it throws.
-/

namespace DuckdbOracle
namespace Oci

open HandleTable Programs

/-! ## `OracleExecuteFunction` -/

/-- What is done with the statement of `oracle_execute`; `affected` is its type and its row
count, as OCI returns them. -/
def executePrepared (affected : String → Catalog.StatementType × ℕ) (ctx : OracleContext)
    (sql : String) (stmthp : Pointer) : Program World IOException String := do
  checked (stmtPrepare stmthp ctx.errhp sql) ctx.errhp "Failed to prepare OCI statement"
  checked (stmtExecute ctx.svchp stmthp ctx.errhp .commitOnSuccess) ctx.errhp
    "Failed to execute OCI statement"
  checked (attrGet stmthp Handle.isStatement ctx.errhp) ctx.errhp
    "Failed to get OCI statement type"
  checked (attrGet stmthp Handle.isStatement ctx.errhp) ctx.errhp "Failed to get OCI row count"
  pure (Catalog.resultMsg (affected sql).1 (affected sql).2)

/-- The statement of `OracleExecuteFunction`, on the session it has acquired. -/
def executeStatement (affected : String → Catalog.StatementType × ℕ) (ctx : OracleContext)
    (sql : String) : Program World IOException String := do
  let stmthp ← allocStatement ctx "Failed to allocate OCI statement handle"
  withDestructor (executePrepared affected ctx sql stmthp)
    (handleFree stmthp Handle.isStatement)

/-! ## `OracleBindInternal` -/

/-- The tuning attributes of a statement, whose statuses are dropped. -/
def tuneStatement (settings : Catalog.OracleSettings) (stmthp errhp : Pointer) :
    Call World Unit := do
  -- the call timeout, the prefetch rows, and the prefetch memory if it is set
  ignore (attrSet stmthp Handle.isStatement errhp)
  ignore (attrSet stmthp Handle.isStatement errhp)
  onlyIf (settings.prefetchMemory > 0) (ignore (attrSet stmthp Handle.isStatement errhp))

/-- An attribute of a described column. -/
def columnAttribute (stmthp errhp : Pointer) (msg : String) : Program World IOException Unit :=
  checked (ociCall (fun w => w.has stmthp Handle.isDescribed && w.has errhp Handle.isError) id)
    errhp msg

/-- The describe loop, one parameter after the other. -/
def describeColumns (server : String → Answer) (stmthp errhp : Pointer) :
    List ℕ → Program World IOException (List Scan.DescribedColumn)
  | [] => pure []
  | i :: is => do
    let (status, column) ← perform (paramGet server stmthp errhp i)
    checkOCIError status errhp "Failed to get OCI parameter"
    columnAttribute stmthp errhp "Failed to get OCI data type"
    columnAttribute stmthp errhp "Failed to get OCI column name"
    columnAttribute stmthp errhp "Failed to get OCI precision"
    columnAttribute stmthp errhp "Failed to get OCI scale"
    columnAttribute stmthp errhp "Failed to get OCI char size"
    let columns ← describeColumns server stmthp errhp is
    pure (column.toList ++ columns)

/-- What is done with the statement of a bind. -/
def describePrepared (server : String → Answer) (ctx : OracleContext)
    (settings : Catalog.OracleSettings) (query : String) (stmthp : Pointer) :
    Program World IOException (List Scan.DescribedColumn) := do
  perform (tuneStatement settings stmthp ctx.errhp)
  checked (stmtPrepare stmthp ctx.errhp query) ctx.errhp "Failed to prepare OCI statement"
  checked (stmtExecute ctx.svchp stmthp ctx.errhp .describeOnly) ctx.errhp
    "Failed to execute OCI statement (Describe)"
  let (status, count) ← perform (paramCount server stmthp ctx.errhp)
  checkOCIError status ctx.errhp "Failed to get OCI parameter count"
  describeColumns server stmthp ctx.errhp (List.range count)

/-- `OracleBindInternal` on the session it has acquired: the describe, and the bind data made
of it.  The statement is reset before the bind data is handed on, or destroyed with it. -/
def bindStatement (server : String → Answer) (ctx : OracleContext) (connectionString : String)
    (settings : Catalog.OracleSettings) (query : String) :
    Program World IOException Scan.OracleBindData := do
  let stmthp ← allocStatement ctx "Failed to allocate OCI statement handle"
  let columns ← withDestructor (describePrepared server ctx settings query stmthp)
    (handleFree stmthp Handle.isStatement)
  pure (Scan.oracleBindInternal connectionString query settings columns)

/-! ## `OracleInitGlobal` and `OracleQueryFunction` -/

/-- Prepare the query of a scan, and define its columns. -/
def scanPrepared (ctx : OracleContext) (bind : Scan.OracleBindData) (stmthp : Pointer) :
    Program World IOException Unit := do
  perform (tuneStatement bind.settings stmthp ctx.errhp)
  checked (stmtPrepare stmthp ctx.errhp bind.query) ctx.errhp "Failed to prepare OCI statement"
  bind.columnNames.forM fun _ => do
    checked (stmtBind stmthp ctx.errhp) ctx.errhp "Failed to define OCI column"
    checked (stmtBind stmthp ctx.errhp) ctx.errhp "Failed to set OCI array of struct"

/-- `OracleInitGlobal` on the session it has acquired: the statement of the scan.  The bind data
keeps no statement (`OracleBindInternal` resets it), so the query is always prepared anew. -/
def scanStatement (ctx : OracleContext) (bind : Scan.OracleBindData) :
    Program World IOException Pointer := do
  let stmthp ← allocStatement ctx "Failed to allocate OCI statement handle"
  unwinding (scanPrepared ctx bind stmthp >>= fun _ => pure stmthp)
    (handleFree stmthp Handle.isStatement)

/-- Execute the cursor of a scan. -/
def openCursor (ctx : OracleContext) (stmthp : Pointer) : Program World IOException Unit :=
  checked (stmtExecute ctx.svchp stmthp ctx.errhp .default) ctx.errhp
    "Failed to execute OCI statement (open cursor)"

/-- What `CheckOCIError` is given of a fetch: `OCI_NO_DATA` is no error there. -/
def fetchError : Scan.FetchStatus → Status
  | .failure text => .error text
  | .success | .successWithInfo | .noData => .success

/-- Fetch a batch of a scan, and ask for the number of its rows.  If OCI does not say how many there
are, `rows_fetched` is still 0, and none of them is converted. -/
def fetchBatch (server : String → Answer) (ctx : OracleContext) (stmthp : Pointer) :
    Program World IOException (Bool × Option (List Scan.Row)) := do
  let (status, rows) ← perform (stmtFetch2 server stmthp ctx.errhp Scan.standardVectorSize)
  checkOCIError (fetchError status) ctx.errhp "Failed to fetch OCI data"
  let counted ← perform (attrGet stmthp Handle.isStatement ctx.errhp)
  pure (status = .noData, if counted.isSuccess then some rows else none)

/-! ## `COPY` -/

/-- The constructor of `OracleWriteGlobalState`.  If it throws, no destructor runs. -/
def writeStatement (ctx : OracleContext) (sql : String) : Program World IOException Pointer := do
  let stmthp ← allocStatement ctx "OCIHandleAlloc stmthp"
  checked (stmtPrepare stmthp ctx.errhp sql) ctx.errhp "OCIStmtPrepare"
  pure stmthp

/-- A call of `OracleWriteLocalState::Sink`: the binds of `rebinds` columns, and the execution of
the batch. -/
def sinkStatement (ctx : OracleContext) (stmthp : Pointer) (rebinds : ℕ) :
    Program World IOException Unit := do
  (List.range rebinds).forM fun _ => do
    checked (stmtBind stmthp ctx.errhp) ctx.errhp "OCIBindByPos"
    checked (stmtBind stmthp ctx.errhp) ctx.errhp "OCIBindArrayOfStruct"
  checked (stmtExecute ctx.svchp stmthp ctx.errhp .default) ctx.errhp "OCIStmtExecute Insert"

/-! ## Specifications -/

section Specifications

variable {server : String → Answer} {frame : Handles} {ctx : OracleContext} {w : World}
  {n err svc : ℕ} {phase : Phase} {sql msg : String}

theorem keeps_checked_attrGet (herr : (err, Handle.error) ∈ frame) :
    Keeps (fun w => w.table.owned = {(n, .statement phase)} + frame)
      (checked (attrGet (some n) Handle.isStatement (some err)) (some err) msg) := by
  intro w hw
  have hsame : ∀ w' : World, w'.table = w.table →
      w'.table.owned = {(n, .statement phase)} + frame := fun w' hw' => hw' ▸ hw
  refine ends_checked_id (mem_frame hw herr) ?_ (fun w' => hsame w') fun _ w' => hsame w'
  rw [has_of_mem (statement_mem hw) rfl, has_of_mem (mem_frame hw herr) rfl]
  rfl

theorem returns_attrSet (herr : (err, Handle.error) ∈ frame)
    (hw : w.table.owned = {(n, .statement phase)} + frame) :
    Returns (attrSet (some n) Handle.isStatement (some err)) w fun _ w' =>
      w'.table.owned = {(n, .statement phase)} + frame := by
  refine returns_ociCall_id ?_ fun _ w' hw' => hw' ▸ hw
  rw [has_of_mem (statement_mem hw) rfl, has_of_mem (mem_frame hw herr) rfl]
  rfl

theorem returns_tuneStatement {settings : Catalog.OracleSettings}
    (herr : (err, Handle.error) ∈ frame)
    (hw : w.table.owned = {(n, .statement phase)} + frame) :
    Returns (tuneStatement settings (some n) (some err)) w fun _ w' =>
      w'.table.owned = {(n, .statement phase)} + frame := by
  refine returns_bind.mpr (returns_ignore.mpr ((returns_attrSet herr hw).mono fun _ w₁ h₁ => ?_))
  refine returns_bind.mpr (returns_ignore.mpr ((returns_attrSet herr h₁).mono fun _ w₂ h₂ => ?_))
  refine returns_onlyIf.mpr ?_
  split
  · exact returns_ignore.mpr (returns_attrSet herr h₂)
  · exact h₂

/-- The statement of `oracle_execute` is freed, whatever fails. -/
theorem executeStatement_ends {affected : String → Catalog.StatementType × ℕ}
    (hctx : Usable frame ctx) (hw : w.table.owned = frame) :
    Ends (executeStatement affected ctx sql) w fun r w' => w'.table.owned = frame ∧
      ∀ text, r = .ok text → text = Catalog.resultMsg (affected sql).1 (affected sql).2 := by
  obtain ⟨env, svc, err, henvp, hsvc, herrp, henv, hon⟩ := hctx
  refine ends_bind.mpr (ends_allocStatement henvp herrp henv hon.1 hw (fun n w₁ h₁ => ?_)
    fun _ w₁ h₁ => ⟨h₁, nofun⟩)
  refine ends_scope frame ?_
  unfold executePrepared
  rw [hsvc, herrp]
  refine ends_bind.mpr (ends_stmtPrepare hon.1 h₁ (fun w₂ h₂ => ?_)
    fun _ w₂ h₂ => ⟨_, h₂, fun _ h => ⟨h, nofun⟩⟩)
  refine ends_bind.mpr (ends_stmtExecute hon h₂ rfl (fun w₃ h₃ => ?_)
    fun _ w₃ h₃ => ⟨_, h₃, fun _ h => ⟨h, nofun⟩⟩)
  refine ends_bind.mpr ((keeps_checked_attrGet hon.1 w₃ h₃).mono fun r w₄ h₄ => ?_)
  cases r with
  | error e => exact ⟨_, h₄, fun _ h => ⟨h, nofun⟩⟩
  | ok _ =>
    refine ends_bind.mpr ((keeps_checked_attrGet hon.1 w₄ h₄).mono fun r w₅ h₅ => ?_)
    cases r with
    | error e => exact ⟨_, h₅, fun _ h => ⟨h, nofun⟩⟩
    | ok _ => exact ends_pure.mpr ⟨_, h₅, fun _ h => ⟨h, fun _ htext => (Except.ok.inj htext).symm⟩⟩

/-- Reading a list position by position. -/
theorem range_flatMap_getElem? {α : Type} (l : List α) :
    (List.range l.length).flatMap (fun i => l[i]?.toList) = l := by
  induction l with
  | nil => rfl
  | cons a l ih =>
    rw [List.length_cons, List.range_succ_eq_map, List.flatMap_cons, List.flatMap_map]
    exact congrArg (a :: ·) ih

/-- The columns are described one after the other. -/
theorem ends_describeColumns (herr : (err, Handle.error) ∈ frame) (is : List ℕ)
    (hw : w.table.owned = {(n, .statement (.described sql))} + frame) :
    Ends (describeColumns server (some n) (some err) is) w fun r w' =>
      w'.table.owned = {(n, .statement (.described sql))} + frame ∧
        ∀ columns, r = .ok columns →
          columns = is.flatMap fun i => (server sql).columns[i]?.toList := by
  have hattribute : ∀ msg, Keeps
      (fun w => w.table.owned = {(n, .statement (.described sql))} + frame)
      (columnAttribute (some n) (some err) msg) := by
    intro msg w hw
    have hsame : ∀ w' : World, w'.table = w.table →
        w'.table.owned = {(n, .statement (.described sql))} + frame := fun w' hw' => hw' ▸ hw
    refine ends_checked_id (mem_frame hw herr) ?_ (fun w' => hsame w') fun _ w' => hsame w'
    rw [has_of_mem (statement_mem hw) rfl, has_of_mem (mem_frame hw herr) rfl]
    rfl
  have hnext : ∀ {α : Type} {f : Unit → Program World IOException α} {msg : String} {w : World}
      {Q : Except IOException α → World → Prop},
      w.table.owned = {(n, .statement (.described sql))} + frame →
      (∀ w', w'.table.owned = {(n, .statement (.described sql))} + frame →
        Ends (f ()) w' Q ∧ ∀ e, Q (.error e) w') →
      Ends (columnAttribute (some n) (some err) msg >>= f) w Q := by
    intro α f msg w Q hw hf
    refine ends_bind.mpr ((hattribute msg w hw).mono fun r w' hw' => ?_)
    cases r with
    | ok _ => exact (hf w' hw').1
    | error e => exact (hf w' hw').2 e
  induction is generalizing w with
  | nil => exact ends_pure.mpr ⟨hw, fun columns h => (Except.ok.inj h).symm⟩
  | cons i is ih =>
    unfold describeColumns
    refine ends_perform_bind.mpr ((returns_paramGet i herr hw).mono fun r w₁ h => ?_)
    obtain ⟨status, column⟩ := r
    obtain ⟨h₁, hcolumn⟩ := h
    refine ends_checkStatus (mem_frame h₁ herr) ?_ fun text => ⟨h₁, nofun⟩
    refine hnext h₁ fun w₂ h₂ => ⟨hnext h₂ fun w₃ h₃ => ⟨hnext h₃ fun w₄ h₄ => ⟨hnext h₄
      fun w₅ h₅ => ⟨hnext h₅ fun w₆ h₆ => ⟨ends_bind.mpr ((ih h₆).mono fun r w₇ h => ?_),
        fun _ => ⟨h₆, nofun⟩⟩, fun _ => ⟨h₅, nofun⟩⟩, fun _ => ⟨h₄, nofun⟩⟩,
      fun _ => ⟨h₃, nofun⟩⟩, fun _ => ⟨h₂, nofun⟩⟩
    obtain ⟨h₇, hcolumns⟩ := h
    cases r with
    | error e => exact ⟨h₇, nofun⟩
    | ok columns =>
      refine ends_pure.mpr ⟨h₇, fun columns' h => ?_⟩
      rw [← Except.ok.inj h, hcolumns columns rfl, List.flatMap_cons, ← hcolumn]

/-- What a bind learns from its statement: all columns that the server describes. -/
theorem ends_describePrepared {settings : Catalog.OracleSettings} (hsvc : ctx.svchp = some svc)
    (herrp : ctx.errhp = some err) (hon : LoggedOn frame svc err)
    (hw : w.table.owned = {(n, .statement phase)} + frame) :
    Ends (describePrepared server ctx settings sql (some n)) w fun r w' =>
      (∃ phase, w'.table.owned = {(n, .statement phase)} + frame) ∧
        ∀ columns, r = .ok columns → columns = (server sql).columns := by
  unfold describePrepared
  rw [hsvc, herrp]
  refine ends_perform_bind.mpr ((returns_tuneStatement hon.1 hw).mono fun _ w₁ h₁ => ?_)
  refine ends_bind.mpr (ends_stmtPrepare hon.1 h₁ (fun w₂ h₂ => ?_)
    fun _ w₂ h₂ => ⟨⟨_, h₂⟩, nofun⟩)
  refine ends_bind.mpr (ends_stmtExecute hon h₂ rfl (fun w₃ h₃ => ?_)
    fun _ w₃ h₃ => ⟨⟨_, h₃⟩, nofun⟩)
  refine ends_perform_bind.mpr ((returns_paramCount hon.1 h₃).mono fun r w₄ h => ?_)
  obtain ⟨status, count⟩ := r
  obtain ⟨h₄, rfl⟩ := h
  refine ends_checkStatus (mem_frame h₄ hon.1) ?_ fun text => ⟨⟨_, h₄⟩, nofun⟩
  refine (ends_describeColumns hon.1 _ h₄).mono fun r w₅ h => ⟨⟨_, h.1⟩, fun columns hr => ?_⟩
  rw [h.2 columns hr, range_flatMap_getElem?]

/-- **The describe of a bind**, with every way of failing: the bind data is made of all columns
that the server describes, and the statement is freed. -/
theorem bindStatement_ends {connectionString : String} {settings : Catalog.OracleSettings}
    (hctx : Usable frame ctx) (hw : w.table.owned = frame) :
    Ends (bindStatement server ctx connectionString settings sql) w fun r w' =>
      w'.table.owned = frame ∧ ∀ bind, r = .ok bind →
        bind = Scan.oracleBindInternal connectionString sql settings (server sql).columns := by
  obtain ⟨env, svc, err, henvp, hsvc, herrp, henv, hon⟩ := hctx
  refine ends_bind.mpr (ends_allocStatement henvp herrp henv hon.1 hw (fun n w₁ h₁ => ?_)
    fun _ w₁ h₁ => ⟨h₁, nofun⟩)
  refine ends_bind.mpr (ends_scope frame ((ends_describePrepared hsvc herrp hon h₁).mono
    fun r w₂ h => ?_))
  obtain ⟨⟨phase, h₂⟩, hcolumns⟩ := h
  refine ⟨phase, h₂, fun w₃ h₃ => ?_⟩
  cases r with
  | error e => exact ⟨h₃, nofun⟩
  | ok columns =>
    refine ends_pure.mpr ⟨h₃, fun bind h => ?_⟩
    rw [← Except.ok.inj h, hcolumns columns rfl]

/-- **The statement of a scan** is prepared, or freed. -/
theorem scanStatement_ends {bind : Scan.OracleBindData} (hctx : Usable frame ctx)
    (hw : w.table.owned = frame) :
    Ends (scanStatement ctx bind) w fun r w' => match r with
      | .ok stmthp => ∃ n, stmthp = some n ∧
          w'.table.owned = {(n, .statement (.prepared bind.query))} + frame
      | .error _ => w'.table.owned = frame := by
  obtain ⟨env, svc, err, henvp, hsvc, herrp, henv, hon⟩ := hctx
  refine ends_bind.mpr (ends_allocStatement henvp herrp henv hon.1 hw (fun n w₁ h₁ => ?_)
    fun _ w₁ h₁ => h₁)
  refine ends_unwinding.mpr ?_
  unfold scanPrepared
  rw [herrp]
  refine ends_bind.mpr (ends_perform_bind.mpr
    ((returns_tuneStatement hon.1 h₁).mono fun _ w₂ h₂ => ?_))
  refine ends_bind.mpr (ends_stmtPrepare hon.1 h₂ (fun w₃ h₃ => ?_)
    fun _ w₃ h₃ => returns_handleFree h₃ rfl rfl fun w₄ h₄ => h₄)
  refine ((Keeps.forM (fun _ => Keeps.bind (keeps_stmtBind hon.1 rfl)
    fun _ => keeps_stmtBind hon.1 rfl) _) w₃ h₃).mono fun r w₄ h₄ => ?_
  cases r with
  | ok _ => exact ends_pure.mpr ⟨n, rfl, h₄⟩
  | error e => exact returns_handleFree h₄ rfl rfl fun w₅ h₅ => h₅

/-- The cursor of a scan is open, or the statement is as it was. -/
theorem openCursor_ends (hsvc : ctx.svchp = some svc) (herrp : ctx.errhp = some err)
    (hon : LoggedOn frame svc err)
    (hphase : Handle.isPrepared (.statement phase) = true)
    (hw : w.table.owned = {(n, .statement phase)} + frame) :
    Ends (openCursor ctx (some n)) w fun r w' => match r with
      | .ok _ => w'.table.owned = {(n, .statement (phase.execute .default svc))} + frame
      | .error _ => w'.table.owned = {(n, .statement phase)} + frame := by
  unfold openCursor
  rw [hsvc, herrp]
  exact ends_stmtExecute hon hw hphase (fun _ h => h) fun _ _ h => h

/-- **A batch is fetched** from an open cursor: the next rows, at least one if there is one.  Either
all of them are counted, or none is.  A fetch that fails takes none. -/
theorem fetchBatch_ends {k : ℕ} (herrp : ctx.errhp = some err) (herr : (err, Handle.error) ∈ frame)
    (hw : w.table.owned = {(n, .statement (.executed sql svc k))} + frame) :
    Ends (fetchBatch server ctx (some n)) w fun r w' => match r with
      | .ok (noData, counted) => ∃ rows rest, (server sql).rows.drop k = rows ++ rest ∧
          (rows = [] → rest = []) ∧ (noData = true → rest = []) ∧
          (∀ batch, counted = some batch → batch = rows) ∧
          w'.table.owned = {(n, .statement (.executed sql svc (k + rows.length)))} + frame
      | .error _ => w'.table.owned = {(n, .statement (.executed sql svc k))} + frame := by
  unfold fetchBatch
  rw [herrp]
  refine ends_perform_bind.mpr ((returns_stmtFetch2 herr hw).mono fun r w₁ h => ?_)
  obtain ⟨status, rows⟩ := r
  obtain ⟨h₁, hrows⟩ := h
  -- after a fetch that does not fail, only the number of rows is asked for
  have hok : ∀ noData rest, (server sql).rows.drop k = rows ++ rest → (rows = [] → rest = []) →
      (noData = true → rest = []) →
      Ends (perform (attrGet (some n) Handle.isStatement (some err)) >>= fun status =>
          (pure (noData, if status.isSuccess then some rows else none) :
            Program World IOException (Bool × Option (List Scan.Row)))) w₁
        fun r w' => match r with
          | .ok (noData, counted) => ∃ rows rest, (server sql).rows.drop k = rows ++ rest ∧
              (rows = [] → rest = []) ∧ (noData = true → rest = []) ∧
              (∀ batch, counted = some batch → batch = rows) ∧
              w'.table.owned = {(n, .statement (.executed sql svc (k + rows.length)))} + frame
          | .error _ => w'.table.owned = {(n, .statement (.executed sql svc k))} + frame := by
    intro noData rest hsplit hempty hend
    refine ends_perform_bind.mpr ((returns_attrSet herr h₁).mono fun status w₂ h₂ => ?_)
    refine ends_pure.mpr ⟨rows, rest, hsplit, hempty, hend, fun batch hbatch => ?_, h₂⟩
    split at hbatch
    · exact (Option.some.inj hbatch).symm
    · exact nomatch hbatch
  cases status with
  | failure text =>
    obtain rfl : rows = [] := hrows
    exact ends_bind.mpr (ends_checkOCIError (mem_frame h₁ herr) (fun h => nomatch h)
      fun _ _ => h₁)
  | noData =>
    obtain ⟨rfl, -⟩ := hrows
    refine ends_bind.mpr (ends_checkOCIError (mem_frame h₁ herr) (fun _ => ?_)
      fun _ h => nomatch h)
    exact hok true [] (List.append_nil _).symm (fun _ => rfl) fun _ => rfl
  | success | successWithInfo =>
    obtain ⟨rfl, hlong⟩ := hrows
    refine ends_bind.mpr (ends_checkOCIError (mem_frame h₁ herr) (fun _ => ?_)
      fun _ h => nomatch h)
    refine hok false _ (List.take_append_drop Scan.standardVectorSize _).symm (fun hnil => ?_)
      fun h => nomatch h
    -- a batch that is not the last one is full
    have hlength := congrArg List.length hnil
    rw [List.length_take, min_eq_left hlong] at hlength
    exact absurd hlength (by decide)

/-- The call on whose failure the statement of a `COPY` is left. -/
def IOException.leavesWriteStatement : IOException → Bool
  | .oci msg _ => msg = "OCIStmtPrepare"
  | .other _ => false

/-- **The statement of a `COPY`** is prepared; or it could not be allocated; or it could not be
prepared, and is left. -/
theorem writeStatement_ends (hctx : Usable frame ctx) (hw : w.table.owned = frame) :
    Ends (writeStatement ctx sql) w fun r w' => match r with
      | .ok stmthp => ∃ n, stmthp = some n ∧
          w'.table.owned = {(n, .statement (.prepared sql))} + frame
      | .error e =>
        if e.leavesWriteStatement then
          ∃ n, w'.table.owned = {(n, .statement .allocated)} + frame
        else w'.table.owned = frame := by
  obtain ⟨env, svc, err, henvp, hsvc, herrp, henv, hon⟩ := hctx
  have halloc : decide ("OCIHandleAlloc stmthp" = "OCIStmtPrepare") = false := by decide
  have hprepare : decide ("OCIStmtPrepare" = "OCIStmtPrepare") = true := by decide
  refine ends_bind.mpr (ends_allocStatement henvp herrp henv hon.1 hw (fun n w₁ h₁ => ?_)
    fun _ w₁ h₁ => ?_)
  · rw [herrp]
    refine ends_bind.mpr (ends_stmtPrepare hon.1 h₁
      (fun w₂ h₂ => ends_pure.mpr ⟨n, rfl, h₂⟩) fun _ w₂ h₂ => ?_)
    show if decide ("OCIStmtPrepare" = "OCIStmtPrepare") = true then _ else _
    rw [if_pos hprepare]
    exact ⟨n, h₂⟩
  · show if decide ("OCIHandleAlloc stmthp" = "OCIStmtPrepare") = true then _ else _
    rw [halloc]
    exact h₁

/-- A batch of a `COPY` binds and executes, or does not. -/
theorem sinkStatement_ends {rebinds : ℕ} (hsvc : ctx.svchp = some svc)
    (herrp : ctx.errhp = some err) (hon : LoggedOn frame svc err)
    (hphase : Handle.isPrepared (.statement phase) = true)
    (hw : w.table.owned = {(n, .statement phase)} + frame) :
    Ends (sinkStatement ctx (some n) rebinds) w fun _ w' =>
      w'.table.owned = {(n, .statement phase)} + frame ∨
        w'.table.owned = {(n, .statement (phase.execute .default svc))} + frame := by
  unfold sinkStatement
  rw [hsvc, herrp]
  refine ends_bind.mpr (((Keeps.forM (fun _ => Keeps.bind (keeps_stmtBind hon.1 hphase)
    fun _ => keeps_stmtBind hon.1 hphase) _) w hw).mono fun r w₁ h₁ => ?_)
  cases r with
  | error e => exact Or.inl h₁
  | ok _ => exact ends_stmtExecute hon h₁ hphase (fun _ h => Or.inr h) fun _ _ h => Or.inl h

/-- A commit or a rollback leaves the handles. -/
theorem transaction_ends (hctx : Usable frame ctx) (hw : w.table.owned = frame) :
    Ends (transaction ctx msg) w fun _ w' => w'.table.owned = frame := by
  obtain ⟨env, svc, err, henvp, hsvc, herrp, henv, hon⟩ := hctx
  obtain ⟨herr, srv, auth, db, user, password, hservice, hserver, hsession⟩ := hon
  unfold transaction
  rw [hsvc, herrp]
  have hsame : ∀ w' : World, w'.table = w.table → w'.table.owned = frame := fun w' h => h ▸ hw
  refine ends_checked_id (hw ▸ herr) ?_ (fun w' => hsame w') fun _ w' => hsame w'
  rw [loggedOn_of_mem (hw ▸ hservice) (hw ▸ hserver) (hw ▸ hsession),
    has_of_mem (hw ▸ herr) rfl]
  rfl

end Specifications

end Oci
end DuckdbOracle
