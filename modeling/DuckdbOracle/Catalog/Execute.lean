import DuckdbOracle.Catalog.Alias

/-!
# `oracle_execute` on a chunk of rows

DuckDB calls a scalar function with a chunk of rows and takes one result for each.
`OracleExecuteFunction` reads the arguments of the first row, executes its statement and
writes the first result; the other rows it never looks at, and their results stay what
the vector held before.

So it does what a batch is for exactly if there is no other row, or if the first one ends
in an exception, which ends the query (`executes_every_row_iff`).
-/

namespace DuckdbOracle
namespace Catalog

open Duckdb

/-! ## One statement -/

/-- The `OCI_STMT_…` types that the function tells apart. -/
inductive StatementType where
  | update
  | delete
  | insert
  | merge
  | other (code : ℕ)
  deriving DecidableEq

/-- What happens to a statement that is to be executed on a connection; an exception has the
text of the session pool, or of OCI. -/
inductive ExecuteAnswer where
  | acquireThrew (text : String)
  | allocFailed (text : String)
  | prepareFailed (text : String)
  | executeFailed (text : String)
  | stmtTypeFailed (text : String)
  | rowCountFailed (text : String)
  | executed (stmtType : StatementType) (rowCount : ℕ)
  deriving DecidableEq

/-- `OCIStmtExecute` was called. -/
def ExecuteAnswer.sent : ExecuteAnswer → Bool
  | .acquireThrew _ | .allocFailed _ | .prepareFailed _ => false
  | .executeFailed _ | .stmtTypeFailed _ | .rowCountFailed _ | .executed _ _ => true

/-- The message for a statement that was executed. -/
def resultMsg (stmtType : StatementType) (rowCount : ℕ) : String :=
  let isDml := stmtType = .update ∨ stmtType = .delete ∨ stmtType = .insert ∨ stmtType = .merge
  if rowCount > 0 ∨ isDml then
    "Statement executed successfully (" ++ toString rowCount ++ " rows affected)"
  else "Statement executed successfully"

/-- The result of a statement, or the exception. -/
def ExecuteAnswer.outcome : ExecuteAnswer → Except String Value
  | .acquireThrew text => .error text
  | .allocFailed text => .error ("Failed to allocate OCI statement handle: " ++ text)
  | .prepareFailed text => .error ("Failed to prepare OCI statement: " ++ text)
  | .executeFailed text => .error ("Failed to execute OCI statement: " ++ text)
  | .stmtTypeFailed text => .error ("Failed to get OCI statement type: " ++ text)
  | .rowCountFailed text => .error ("Failed to get OCI row count: " ++ text)
  | .executed stmtType rowCount => .ok (.varchar (resultMsg stmtType rowCount))

/-- The attached databases, and the statements executed so far, each with its connection
string. -/
structure ExecuteState where
  db : Instance
  executed : List (String × String)

/-- What Oracle answers to a statement on a connection, after the statements executed
before. -/
abbrev ExecuteServer := List (String × String) → String → String → ExecuteAnswer

/-- The two arguments of a row. -/
structure ExecuteRow where
  connectionString : Value
  sqlStatement : Value

/-- A row of the result vector: as it was, or set by the function. -/
inductive ResultRow where
  | untouched
  | set (value : Value)

variable (server : ExecuteServer)

/-- The body of `OracleExecuteFunction`, for one row. -/
def executeRow (s : ExecuteState) (row : ExecuteRow) : ExecuteState × Except String Value :=
  match s.db.executeConnectionString row.connectionString.toString with
  | (db, none) => ({ s with db := db }, .ok .null)
  | (db, some connectionString) =>
    let sqlStatement := row.sqlStatement.toString
    let answer := server s.executed connectionString sqlStatement
    (⟨db, if answer.sent then s.executed ++ [(connectionString, sqlStatement)]
      else s.executed⟩, answer.outcome)

/-- `OracleExecuteFunction` on a chunk, which is never empty. -/
def oracleExecuteFunction (s : ExecuteState) (first : ExecuteRow) (rest : List ExecuteRow) :
    ExecuteState × Except String (List ResultRow) :=
  match executeRow server s first with
  | (s, .ok value) => (s, .ok (.set value :: rest.map fun _ => .untouched))
  | (s, .error e) => (s, .error e)

/-! ## What a batch is for -/

/-- Every row is executed, in order, up to the first exception; each result is the one of its
row. -/
def executeEveryRow (s : ExecuteState) :
    List ExecuteRow → ExecuteState × Except String (List ResultRow)
  | [] => (s, .ok [])
  | row :: rows =>
    match executeRow server s row with
    | (s, .error e) => (s, .error e)
    | (s, .ok value) =>
      match executeEveryRow s rows with
      | (s, .error e) => (s, .error e)
      | (s, .ok results) => (s, .ok (.set value :: results))

/-- The statement of the first row ends in an exception. -/
def FirstThrows (s : ExecuteState) (first : ExecuteRow) : Prop :=
  ∃ connectionString e,
    (s.db.executeConnectionString first.connectionString.toString).2 = some connectionString ∧
      (server s.executed connectionString first.sqlStatement.toString).outcome = .error e

variable {server}

theorem firstThrows_iff {s : ExecuteState} {first : ExecuteRow} :
    FirstThrows server s first ↔ ∃ e, (executeRow server s first).2 = .error e := by
  unfold FirstThrows executeRow
  split
  · next db hnone =>
    rw [hnone]
    constructor
    · rintro ⟨connectionString, e, hsome, -⟩
      cases hsome
    · rintro ⟨e, he⟩
      cases he
  · next db connectionString hsome =>
    rw [hsome]
    constructor
    · rintro ⟨connectionString', e, hconnection, he⟩
      obtain rfl := Option.some.inj hconnection
      exact ⟨e, he⟩
    · rintro ⟨e, he⟩
      exact ⟨connectionString, e, rfl, he⟩

/-- In a batch no result is left as it was. -/
theorem set_of_executeEveryRow {s : ExecuteState} {rows : List ExecuteRow}
    {results : List ResultRow} (h : (executeEveryRow server s rows).2 = .ok results) :
    ∀ result ∈ results, ∃ value, result = .set value := by
  induction rows generalizing s results with
  | nil =>
    obtain rfl := Except.ok.inj h
    simp
  | cons row rows ih =>
    rw [executeEveryRow] at h
    split at h
    · cases h
    · next s' value _ =>
      cases hrest : executeEveryRow server s' rows with
      | mk s'' tail =>
        rw [hrest] at h
        cases tail with
        | error e => cases h
        | ok tail =>
          obtain rfl := Except.ok.inj h
          have htail : (executeEveryRow server s' rows).2 = .ok tail := by rw [hrest]
          exact List.forall_mem_cons.mpr ⟨⟨value, rfl⟩, ih htail⟩

/-- **When `oracle_execute` executes every row of a chunk**: if there is only one, or if the
first one ends in an exception. -/
theorem executes_every_row_iff (s : ExecuteState) (first : ExecuteRow) (rest : List ExecuteRow) :
    oracleExecuteFunction server s first rest = executeEveryRow server s (first :: rest) ↔
      rest = [] ∨ FirstThrows server s first := by
  rw [firstThrows_iff, oracleExecuteFunction, executeEveryRow]
  cases hfirst : executeRow server s first with
  | mk s' outcome =>
    cases outcome with
    | error e => simp
    | ok value =>
      simp only [reduceCtorEq, exists_const, or_false]
      constructor
      · intro heq
        by_contra hne
        obtain ⟨row, rows, rfl⟩ := List.exists_cons_of_ne_nil hne
        cases hrest : executeEveryRow server s' (row :: rows) with
        | mk s'' results =>
          rw [hrest] at heq
          cases results with
          | error e => cases congrArg Prod.snd heq
          | ok results =>
            -- the second result was not set
            have hresults := (List.cons.inj (Except.ok.inj (congrArg Prod.snd heq))).2
            have hset := @set_of_executeEveryRow server s' (row :: rows) results (by rw [hrest])
            obtain ⟨value', hvalue⟩ := hset .untouched (hresults ▸ List.mem_cons_self)
            cases hvalue
      · rintro rfl
        rfl

/-- A row with a statement for one connection. -/
def batchRow (stmt : String) : ExecuteRow := ⟨.varchar "user/pass@db", .varchar stmt⟩

/-- The further rows of a batch of three statements. -/
def batchRest : List ExecuteRow :=
  [batchRow "CREATE INDEX idx2 ON table2(col2)", batchRow "ANALYZE TABLE table1 COMPUTE STATISTICS"]

/-- Oracle executes everything. -/
def executesAll : ExecuteServer := fun _ _ _ => .executed (.other 5) 0

/-- **Of three statements the first is executed**, and the call returns without an error. -/
theorem batch_executes_first :
    (oracleExecuteFunction executesAll ⟨{}, []⟩
        (batchRow "CREATE INDEX idx1 ON table1(col1)") batchRest).1.executed =
      [("user/pass@db", "CREATE INDEX idx1 ON table1(col1)")] ∧
    (executeEveryRow executesAll ⟨{}, []⟩
        (batchRow "CREATE INDEX idx1 ON table1(col1)" :: batchRest)).1.executed =
      [("user/pass@db", "CREATE INDEX idx1 ON table1(col1)"),
        ("user/pass@db", "CREATE INDEX idx2 ON table2(col2)"),
        ("user/pass@db", "ANALYZE TABLE table1 COMPUTE STATISTICS")] ∧
    oracleExecuteFunction executesAll ⟨{}, []⟩
        (batchRow "CREATE INDEX idx1 ON table1(col1)") batchRest ≠
      executeEveryRow executesAll ⟨{}, []⟩
        (batchRow "CREATE INDEX idx1 ON table1(col1)" :: batchRest) := by
  refine ⟨by decide, by decide, fun heq => ?_⟩
  have hexecuted := congrArg (fun result => result.1.executed) heq
  exact absurd hexecuted (by decide)

end Catalog
end DuckdbOracle
