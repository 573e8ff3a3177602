import DuckdbOracle.Catalog.Execute
import DuckdbOracle.Oci.Context

/-!
# What the extension does on a session

The functions that run a statement on a session they have been given: a metadata query, a
commit or a rollback, the statement of `oracle_execute`, the describe of a bind, and the
stages of a scan and of a `COPY`.  Each of them is a sequence of OCI calls that are checked one by
one, with destructors for the statement.

Their specifications have one form.  Whatever call fails, the function stays within all
contracts, and when it ends the handles are those from before it; a stage of a scan or of a
`COPY` has its one statement in addition.  `query_ends` says besides what a metadata query
returns: all rows of the result, in their order.
-/

namespace DuckdbOracle
namespace Oci

open HandleTable Programs

/-- A context that statements may be run on, among these handles. -/
def Usable (frame : Handles) (ctx : OracleContext) : Prop :=
  ∃ env svc err, ctx.envhp = some env ∧ ctx.svchp = some svc ∧ ctx.errhp = some err ∧
    (env, Handle.env) ∈ frame ∧ LoggedOn frame svc err

/-- Allocate a statement handle, and check that it is there. -/
def allocStatement (ctx : OracleContext) (msg : String) : Program World IOException Pointer := do
  let (status, stmthp) ← perform (handleAlloc ctx.envhp (.statement .allocated))
  checkOCIError status ctx.errhp msg
  pure stmthp

/-! ## Rules -/

section Rules

variable {α : Type} {server : String → Answer} {frame : Handles} {n env err : ℕ} {phase : Phase}
  {w : World}

/-- A statement is allocated, or nothing is. -/
theorem ends_allocStatement {ctx : OracleContext} {msg : String}
    {Q : Except IOException Pointer → World → Prop}
    (henvp : ctx.envhp = some env) (herrp : ctx.errhp = some err)
    (henv : (env, Handle.env) ∈ frame) (herr : (err, Handle.error) ∈ frame)
    (hw : w.table.owned = frame)
    (hok : ∀ n w', w'.table.owned = {(n, .statement .allocated)} + frame → Q (.ok (some n)) w')
    (hbad : ∀ text w', w'.table.owned = frame → Q (.error (.oci msg text)) w') :
    Ends (allocStatement ctx msg) w Q := by
  unfold allocStatement
  rw [henvp, herrp]
  refine ends_perform_bind.mpr (returns_handleAlloc (hw ▸ henv) (fun status n w' hs hw' => ?_)
    fun text w' hw' => ?_)
  · rw [hw] at hw'
    refine ends_bind.mpr (ends_checkOCIError (mem_frame hw' herr)
      (fun _ => ends_pure.mpr (hok n w' hw')) fun text ht => ?_)
    rw [ht] at hs
    exact nomatch hs
  · have hsame : w'.table.owned = frame := by rw [hw', hw]
    exact ends_bind.mpr (ends_checkOCIError (hsame ▸ herr) (fun hs => nomatch hs)
      fun text' _ => hbad text' w' hsame)

/-- A checked call that changes nothing. -/
theorem ends_checked_id {contract : World → Bool} {msg : String}
    {Q : Except IOException Unit → World → Prop} (herr : (err, Handle.error) ∈ w.table.owned)
    (hc : contract w = true) (hok : ∀ w', w'.table = w.table → Q (.ok ()) w')
    (hbad : ∀ text w', w'.table = w.table → Q (.error (.oci msg text)) w') :
    Ends (checked (ociCall contract id) (some err) msg) w Q := by
  refine ends_checked (returns_ociCall_id hc fun status w' hw' => ⟨hw' ▸ herr, ?_⟩)
  cases status with
  | error text => exact hbad text w' hw'
  | success | successWithInfo => exact hok w' hw'

theorem sqlOf_eq {n : ℕ} {phase : Phase} {sql : String}
    (hw : w.table.owned = {(n, .statement phase)} + frame)
    (hphase : phase = .described sql ∨ ∃ svc fetched, phase = .executed sql svc fetched) :
    w.sqlOf (some n) = sql := by
  have hget := get?_of_owned hw
  unfold World.sqlOf
  rw [Option.bind_some, hget]
  rcases hphase with rfl | ⟨svc, fetched, rfl⟩ <;> rfl

/-- The number of columns of a described statement. -/
theorem returns_paramCount {sql : String} (herr : (err, Handle.error) ∈ frame)
    (hw : w.table.owned = {(n, .statement (.described sql))} + frame) :
    Returns (paramCount server (some n) (some err)) w fun r w' =>
      w'.table.owned = {(n, .statement (.described sql))} + frame ∧
        r.2 = (server sql).columns.length := by
  refine returns_bind.mpr (returns_get.mpr (returns_bind.mpr ?_))
  rw [sqlOf_eq hw (Or.inl rfl)]
  refine returns_ociCall_id ?_ fun status w' hw' => returns_pure.mpr ⟨hw' ▸ hw, rfl⟩
  rw [has_of_mem (statement_mem hw) rfl, has_of_mem (mem_frame hw herr) rfl]
  rfl

/-- A column of a described statement. -/
theorem returns_paramGet {sql : String} (i : ℕ) (herr : (err, Handle.error) ∈ frame)
    (hw : w.table.owned = {(n, .statement (.described sql))} + frame) :
    Returns (paramGet server (some n) (some err) i) w fun r w' =>
      w'.table.owned = {(n, .statement (.described sql))} + frame ∧
        r.2 = (server sql).columns[i]? := by
  refine returns_bind.mpr (returns_get.mpr (returns_bind.mpr ?_))
  rw [sqlOf_eq hw (Or.inl rfl)]
  refine returns_ociCall_id ?_ fun status w' hw' => returns_pure.mpr ⟨hw' ▸ hw, rfl⟩
  rw [has_of_mem (statement_mem hw) rfl, has_of_mem (mem_frame hw herr) rfl]
  rfl

/-- The check of a status, with the statement there. -/
theorem ends_checkStatus {status : Status} {msg : String}
    {f : Unit → Program World IOException α} {Q : Except IOException α → World → Prop}
    (herr : (err, Handle.error) ∈ w.table.owned) (hok : Ends (f ()) w Q)
    (hbad : ∀ text, Q (.error (.oci msg text)) w) :
    Ends (checkOCIError status (some err) msg >>= f) w Q :=
  ends_bind.mpr (ends_checkOCIError herr (fun _ => hok) fun text _ => hbad text)

/-- What a fetch of up to `m` rows may return, and how far the cursor is then. -/
def Fetches (frame : Handles) (n svc k m : ℕ) (sql : String) (left : List Scan.Row) :
    Scan.FetchStatus × List Scan.Row → World → Prop := fun r w =>
  w.table.owned = {(n, .statement (.executed sql svc (k + r.2.length)))} + frame ∧
    match r.1 with
    | .failure _ => r.2 = []
    | .noData => r.2 = left ∧ left.length < m
    | .success | .successWithInfo => r.2 = left.take m ∧ m ≤ left.length

theorem returns_stmtFetch2 {sql : String} {svc k m : ℕ} (herr : (err, Handle.error) ∈ frame)
    (hw : w.table.owned = {(n, .statement (.executed sql svc k))} + frame) :
    Returns (stmtFetch2 server (some n) (some err) m) w
      (Fetches frame n svc k m sql ((server sql).rows.drop k)) := by
  have hget := get?_of_owned hw
  have hfetched : w.fetchedOf (some n) = k := by
    unfold World.fetchedOf
    rw [Option.bind_some, hget]
  unfold stmtFetch2
  refine returns_bind.mpr (returns_require.mpr ⟨?_, returns_bind.mpr (returns_get.mpr ?_)⟩)
  · rw [has_of_mem (statement_mem hw) rfl, has_of_mem (mem_frame hw herr) rfl]
    rfl
  rw [sqlOf_eq hw (Or.inr ⟨svc, k, rfl⟩), hfetched]
  refine returns_bind.mpr (returns_nextStatus fun status w' hw' => returns_bind.mpr ?_)
  rw [← hw'] at hw
  refine returns_modify.mpr (returns_pure.mpr ⟨owned_update hw _, ?_⟩)
  unfold fetchOutcome
  cases status with
  | error text => rfl
  | success | successWithInfo =>
    by_cases hlt : ((server sql).rows.drop k).length < m
    · dsimp only
      rw [if_pos hlt]
      exact ⟨rfl, hlt⟩
    · dsimp only
      rw [if_neg hlt]
      exact ⟨rfl, not_lt.mp hlt⟩

/-- The statement is freed at the end of its scope. -/
theorem ends_scope {x : Program World IOException α} {Q : Except IOException α → World → Prop}
    (frame : Handles)
    (hx : Ends x w fun r w' => ∃ phase, w'.table.owned = {(n, .statement phase)} + frame ∧
      ∀ w'', w''.table.owned = frame → Q r w'') :
    Ends (withDestructor x (handleFree (some n) Handle.isStatement)) w Q := by
  refine ends_withDestructor.mpr (hx.mono fun r w' hw' => ?_)
  obtain ⟨phase, howned, hQ⟩ := hw'
  exact returns_handleFree howned rfl rfl hQ

end Rules

/-! ## `OracleConnection` -/

/-- `OracleResult`. -/
structure OracleResult where
  columns : List String
  rows : List (List (List UInt8))

/-- How `OracleConnection::Query` defines each of its columns: a string of 4096 bytes. -/
def queryDefine : Scan.Define := { size := 4096, binary := false }

/-- A cell of an `OracleResult`: nothing for NULL, and what is in the buffer otherwise. -/
def queryCell : Scan.OciValue → List UInt8
  | none => []
  | some bytes => bytes.take queryDefine.capacity

/-- A row of an `OracleResult`, with a cell for each of `count` columns. -/
def queryRow (count : ℕ) (row : Scan.Row) : List (List UInt8) :=
  (List.range count).map fun i => queryCell (row.value i)

variable (server : String → Answer)

/-- The names of the columns, one parameter after the other. -/
def columnNames (stmthp errhp : Pointer) : List ℕ → Program World IOException (List String)
  | [] => pure []
  | i :: is => do
    let (status, column) ← perform (paramGet server stmthp errhp i)
    checkOCIError status errhp "OCIParamGet"
    checked (ociCall (fun w => w.has stmthp Handle.isDescribed && w.has errhp Handle.isError) id)
      errhp "OCI_ATTR_NAME"
    let names ← columnNames stmthp errhp is
    pure ((column.map (·.name)).getD "" :: names)

/-- The fetch loop.  The first argument bounds the number of fetches; a program that needs
more has no outcome. -/
def fetchRows (stmthp errhp : Pointer) (count : ℕ) :
    ℕ → Program World IOException (List (List (List UInt8)))
  | 0 => perform (require fun _ => false) >>= fun _ => pure []
  | fuel + 1 => do
    let (status, rows) ← perform (stmtFetch2 server stmthp errhp 1)
    match status with
    | .noData => pure []
    | .failure text => checkOCIError (.error text) errhp "OCIStmtFetch2" >>= fun _ => pure []
    | .success | .successWithInfo => do
      let rest ← fetchRows stmthp errhp count fuel
      pure (rows.map (queryRow count) ++ rest)

/-- `OracleConnection::Query` between the allocation of its statement and its end. -/
def queryStatement (ctx : OracleContext) (query : String) (stmthp : Pointer) :
    Program World IOException OracleResult := do
  checked (stmtPrepare stmthp ctx.errhp query) ctx.errhp "OCIStmtPrepare"
  checked (stmtExecute ctx.svchp stmthp ctx.errhp .describeOnly) ctx.errhp
    "OCIStmtExecute describe"
  let (status, count) ← perform (paramCount server stmthp ctx.errhp)
  checkOCIError status ctx.errhp "OCI_ATTR_PARAM_COUNT"
  let columns ← columnNames server stmthp ctx.errhp (List.range count)
  checked (stmtExecute ctx.svchp stmthp ctx.errhp .default) ctx.errhp "OCIStmtExecute fetch"
  (List.range count).forM fun _ =>
    checked (stmtBind stmthp ctx.errhp) ctx.errhp "OCIDefineByPos"
  let rows ← fetchRows server stmthp ctx.errhp count ((server query).rows.length + 1)
  pure ⟨columns, rows⟩

/-- `OracleConnection::Query`, on the session of its handle. -/
def query (ctx : OracleContext) (query : String) : Program World IOException OracleResult := do
  let stmthp ← allocStatement ctx "OCIHandleAlloc stmthp"
  withDestructor (queryStatement server ctx query stmthp)
    (handleFree stmthp Handle.isStatement)

/-- `OracleConnection::Commit` and `Rollback`. -/
def transaction (ctx : OracleContext) (msg : String) : Program World IOException Unit :=
  checked (transEnd ctx.svchp ctx.errhp) ctx.errhp msg

/-- What `OracleConnection::Query` is to return. -/
def Answer.result (answer : Answer) : OracleResult where
  columns := answer.columns.map (·.name)
  rows := answer.rows.map (queryRow answer.columns.length)

section Query

variable {server} {frame : Handles} {n err svc : ℕ} {sql : String} {w : World}

/-- The names are those of the described columns. -/
theorem ends_columnNames (herr : (err, Handle.error) ∈ frame) (is : List ℕ)
    (hw : w.table.owned = {(n, .statement (.described sql))} + frame) :
    Ends (columnNames server (some n) (some err) is) w fun r w' =>
      w'.table.owned = {(n, .statement (.described sql))} + frame ∧
        ∀ names, r = .ok names →
          names = is.map fun i => ((server sql).columns[i]?.map (·.name)).getD "" := by
  induction is generalizing w with
  | nil => exact ends_pure.mpr ⟨hw, fun names h => (Except.ok.inj h).symm⟩
  | cons i is ih =>
    unfold columnNames
    refine ends_perform_bind.mpr ((returns_paramGet i herr hw).mono fun r w₁ h => ?_)
    obtain ⟨status, column⟩ := r
    obtain ⟨h₁, hcolumn⟩ := h
    refine ends_checkStatus (mem_frame h₁ herr) (ends_bind.mpr ?_) fun text => ⟨h₁, nofun⟩
    refine ends_checked_id (mem_frame h₁ herr) ?_ (fun w₂ h₂ => ?_)
      fun text w₂ h₂ => ⟨h₂ ▸ h₁, nofun⟩
    · rw [has_of_mem (statement_mem h₁) rfl, has_of_mem (mem_frame h₁ herr) rfl]
      rfl
    · rw [← h₂] at h₁
      refine ends_bind.mpr ((ih h₁).mono fun r w₃ h₃ => ?_)
      obtain ⟨hw₃, hnames⟩ := h₃
      cases r with
      | error e => exact ⟨hw₃, nofun⟩
      | ok names =>
        refine ends_pure.mpr ⟨hw₃, fun names' h => ?_⟩
        rw [← Except.ok.inj h, hnames names rfl, List.map_cons, ← hcolumn]

/-- **The fetch loop** returns all rows that are left, in their order. -/
theorem ends_fetchRows (herr : (err, Handle.error) ∈ frame) (count : ℕ) {fuel k : ℕ}
    (hfuel : ((server sql).rows.drop k).length < fuel)
    (hw : w.table.owned = {(n, .statement (.executed sql svc k))} + frame) :
    Ends (fetchRows server (some n) (some err) count fuel) w fun r w' =>
      (∃ phase, w'.table.owned = {(n, .statement phase)} + frame) ∧
        ∀ rows, r = .ok rows → rows = ((server sql).rows.drop k).map (queryRow count) := by
  induction fuel generalizing w k with
  | zero => exact absurd hfuel (Nat.not_lt_zero _)
  | succ fuel ih =>
    unfold fetchRows
    refine ends_perform_bind.mpr ((returns_stmtFetch2 herr hw).mono fun r w₁ h₁ => ?_)
    obtain ⟨status, rows⟩ := r
    obtain ⟨howned, hrows⟩ := h₁
    cases status with
    | noData =>
      obtain ⟨rfl, hlt⟩ := hrows
      refine ends_pure.mpr ⟨⟨_, howned⟩, fun rows h => ?_⟩
      have hnil : (server sql).rows.drop k = [] := List.length_eq_zero_iff.mp (by omega)
      rw [hnil, ← Except.ok.inj h, List.map_nil]
    | failure text =>
      refine ends_bind.mpr (ends_checkOCIError (mem_frame howned herr) (fun h => nomatch h)
        fun text' _ => ⟨⟨_, howned⟩, nofun⟩)
    | success | successWithInfo =>
      obtain ⟨rfl, hle⟩ := hrows
      have hlength : (((server sql).rows.drop k).take 1).length = 1 := by
        rw [List.length_take]
        omega
      rw [hlength] at howned
      have hdrop : (server sql).rows.drop (k + 1) = ((server sql).rows.drop k).drop 1 :=
        (List.drop_drop ..).symm
      have hshort : ((server sql).rows.drop (k + 1)).length < fuel := by
        rw [hdrop, List.length_drop]
        omega
      refine ends_bind.mpr ((ih hshort howned).mono fun r w₂ h₂ => ?_)
      obtain ⟨hw₂, hrest⟩ := h₂
      cases r with
      | error e => exact ⟨hw₂, nofun⟩
      | ok rest =>
        refine ends_pure.mpr ⟨hw₂, fun rows h => ?_⟩
        rw [← Except.ok.inj h, hrest rest rfl, hdrop, ← List.map_append, List.take_append_drop]

/-- Defines, binds and their arrays, in any number. -/
theorem keeps_stmtBind {phase : Phase} {msg : String} (herr : (err, Handle.error) ∈ frame)
    (hphase : Handle.isPrepared (.statement phase) = true) :
    Keeps (fun w => w.table.owned = {(n, .statement phase)} + frame)
      (checked (stmtBind (some n) (some err)) (some err) msg) := by
  intro w hw
  have hsame : ∀ w' : World, w'.table = w.table →
      w'.table.owned = {(n, .statement phase)} + frame := fun w' hw' => hw' ▸ hw
  refine ends_checked_id (mem_frame hw herr) ?_ (fun w' => hsame w') fun _ w' => hsame w'
  rw [has_of_mem (statement_mem hw) hphase, has_of_mem (mem_frame hw herr) rfl]
  rfl

theorem ends_queryStatement {ctx : OracleContext} {phase : Phase} (hsvc : ctx.svchp = some svc)
    (herrp : ctx.errhp = some err) (hon : LoggedOn frame svc err)
    (hw : w.table.owned = {(n, .statement phase)} + frame) :
    Ends (queryStatement server ctx sql (some n)) w fun r w' =>
      (∃ phase, w'.table.owned = {(n, .statement phase)} + frame) ∧
        ∀ result, r = .ok result → result = (server sql).result := by
  have herr : (err, Handle.error) ∈ frame := hon.1
  unfold queryStatement
  rw [hsvc, herrp]
  refine ends_bind.mpr (ends_stmtPrepare herr hw (fun w₁ h₁ => ?_)
    fun text w₁ h₁ => ⟨⟨_, h₁⟩, nofun⟩)
  refine ends_bind.mpr (ends_stmtExecute hon h₁ rfl (fun w₂ h₂ => ?_)
    fun text w₂ h₂ => ⟨⟨_, h₂⟩, nofun⟩)
  refine ends_perform_bind.mpr ((returns_paramCount herr h₂).mono fun r w₃ h => ?_)
  obtain ⟨status, count⟩ := r
  obtain ⟨h₃, rfl⟩ := h
  refine ends_checkStatus (mem_frame h₃ herr) ?_ fun text => ⟨⟨_, h₃⟩, nofun⟩
  refine ends_bind.mpr ((ends_columnNames herr _ h₃).mono fun r w₄ h => ?_)
  obtain ⟨h₄, hnames⟩ := h
  cases r with
  | error e => exact ⟨⟨_, h₄⟩, nofun⟩
  | ok names =>
    refine ends_bind.mpr (ends_stmtExecute hon h₄ rfl (fun w₅ h₅ => ?_)
      fun text w₅ h₅ => ⟨⟨_, h₅⟩, nofun⟩)
    refine ends_bind.mpr ((Keeps.forM (fun _ => keeps_stmtBind herr rfl) _ w₅ h₅).mono
      fun r w₆ h₆ => ?_)
    cases r with
    | error e => exact ⟨⟨_, h₆⟩, nofun⟩
    | ok _ =>
      have hfuel : ((server sql).rows.drop 0).length < (server sql).rows.length + 1 := by
        rw [List.drop_zero]
        exact Nat.lt_succ_self _
      refine ends_bind.mpr ((ends_fetchRows herr _ hfuel h₆).mono fun r w₇ h => ?_)
      obtain ⟨h₇, hrows⟩ := h
      cases r with
      | error e => exact ⟨h₇, nofun⟩
      | ok rows =>
        refine ends_pure.mpr ⟨h₇, fun result hresult => ?_⟩
        rw [← Except.ok.inj hresult, hnames names rfl, hrows rows rfl, List.drop_zero]
        unfold Answer.result
        congr 1
        refine List.ext_getElem (by simp) fun i hi hi' => ?_
        have hlt : i < (server sql).columns.length := by simpa using hi
        simp [List.getElem?_eq_getElem hlt]

/-- **A metadata query**, with every way of failing.  It returns the names of the columns and
all rows of the result in their order, or throws; either way its statement is freed, and the
other handles are as they were. -/
theorem query_ends {ctx : OracleContext} (hctx : Usable frame ctx) (hw : w.table.owned = frame) :
    Ends (query server ctx sql) w fun r w' =>
      w'.table.owned = frame ∧ ∀ result, r = .ok result → result = (server sql).result := by
  obtain ⟨env, svc, err, henvp, hsvc, herrp, henv, hon⟩ := hctx
  refine ends_bind.mpr (ends_allocStatement henvp herrp henv hon.1 hw (fun n w₁ h₁ => ?_)
    fun text w₁ h₁ => ⟨h₁, nofun⟩)
  refine ends_scope frame ((ends_queryStatement hsvc herrp hon h₁).mono fun r w₂ h => ?_)
  obtain ⟨⟨phase, h₂⟩, hresult⟩ := h
  exact ⟨phase, h₂, fun w₃ h₃ => ⟨h₃, hresult⟩⟩

end Query

end Oci
end DuckdbOracle
