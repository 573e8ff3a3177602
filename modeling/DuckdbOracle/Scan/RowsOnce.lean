import DuckdbOracle.Scan.Fetch

/-!
# Every row once

OCI may deliver a result set in any split: a number of batches that are not empty, and a
last one, possibly empty, that comes with `OCI_NO_DATA`.  DuckDB calls
`OracleQueryFunction` until it returns no rows.

Two flags make the two sides agree.  `executed` lets only the first call execute the
cursor.  `finished` is set by the fetch that returns `OCI_NO_DATA`, so a call after it
does not fetch again: with rows in the last batch the end comes with the call after it,
without rows it comes at once.  Either way the calls emit the rows of all batches in
order, and then nothing for ever (`rows_exactly_once`).
-/

namespace DuckdbOracle
namespace Scan

open Catalog

/-- A delivery of the result set `R`: OCI's fetches bring these batches, and a last one
with `OCI_NO_DATA`. -/
structure Delivery (bind : OracleBindData) (R : List Row) where
  oci : Oci
  batches : List (List Row)
  last : List Row
  rows : batches.flatten ++ last = R
  execute : oci.execute = .ok ()
  nonempty : ∀ rows ∈ batches, rows ≠ []
  batch : ∀ k rows, batches[k]? = some rows → Obeys bind rows (oci.fetch k)
  batch_status : ∀ k < batches.length,
    (oci.fetch k).status = .success ∨ (oci.fetch k).status = .successWithInfo
  last_batch : Obeys bind last (oci.fetch batches.length)
  last_status : (oci.fetch batches.length).status = .noData

variable {ν : Type} (convert : Duckdb.LogicalType → List UInt8 → Option ν)

/-! ## One call -/

theorem openCursor_ok {oci : Oci} (hexecute : oci.execute = .ok ()) (state : OracleScanState)
    (cursor : Cursor) :
    openCursor oci state cursor = ({ state with executed := true },
      { cursor with executions := cursor.executions + if state.executed then 0 else 1 },
      .ok ()) := by
  unfold openCursor
  split
  · next hexecuted =>
    obtain ⟨_, _, _, _, executed, _⟩ := state
    obtain rfl : executed = true := hexecuted
    rfl
  · simp only [hexecute]

/-- **A call that fetches** returns the rows of its batch, and is the last one to fetch if
there is no more data. -/
theorem call_spec {bind : OracleBindData} (hsizes : DescribedSizes bind) {oci : Oci}
    (hexecute : oci.execute = .ok ()) {rows : List Row} {state : OracleScanState}
    {cursor : Cursor} (hfinished : state.finished = false)
    (hobeys : Obeys bind rows (oci.fetch cursor.fetches))
    (hstatus : ∀ e, (oci.fetch cursor.fetches).status ≠ .failure e)
    {columnIds projectionIds : List ℕ}
    (hmapping : state.columnMapping = columnMapping bind columnIds projectionIds)
    (types : List Duckdb.LogicalType) :
    (oracleQueryFunction convert oci types state cursor).2.2 =
        .ok (rows.map (emittedRow convert bind columnIds projectionIds types)) ∧
      ((oracleQueryFunction convert oci types state cursor).1.finished = true ↔
        (oci.fetch cursor.fetches).status = .noData) ∧
      (oracleQueryFunction convert oci types state cursor).1.executed = true ∧
      (oracleQueryFunction convert oci types state cursor).2.1 = {
        executions := cursor.executions + if state.executed then 0 else 1
        fetches := cursor.fetches + 1 } := by
  have hholds : ∀ state' : OracleScanState, state'.columnMapping = state.columnMapping →
      state'.Holds (oci.fetch cursor.fetches) →
      (List.range (oci.fetch cursor.fetches).rowsFetched).map (state'.fillRow convert types) =
        rows.map (emittedRow convert bind columnIds projectionIds types) :=
    fun state' hsame hholds =>
      map_fillRow_eq convert hsizes hobeys hholds (hsame.trans hmapping) types
  unfold oracleQueryFunction
  rw [if_neg (by rw [hfinished]; decide), openCursor_ok hexecute]
  dsimp only
  unfold fetchBatch
  dsimp only
  split
  · next e heq => exact absurd heq (hstatus e)
  · split
    · next hnone =>
      have hempty : rows = [] := by
        rw [← List.length_eq_zero_iff, ← hobeys.rowsFetched, hnone.2]
      rw [hempty]
      exact ⟨rfl, ⟨fun _ => hnone.1, fun _ => rfl⟩, rfl, rfl⟩
    · refine ⟨congrArg Except.ok (hholds _ rfl ⟨rfl, rfl, rfl⟩), ?_, rfl, rfl⟩
      exact decide_eq_true_iff

/-- A call after the end does nothing. -/
theorem call_of_finished {oci : Oci} {types : List Duckdb.LogicalType} {state : OracleScanState}
    (h : state.finished = true) (cursor : Cursor) :
    oracleQueryFunction convert oci types state cursor = (state, cursor, .ok []) := by
  rw [oracleQueryFunction, if_pos h]

/-! ## All calls of a scan -/

theorem afterCalls_succ (oci : Oci) (types : List Duckdb.LogicalType) (start : OracleScanState)
    (n : ℕ) :
    afterCalls convert oci types start (n + 1) =
      ((oracleQueryFunction convert oci types (afterCalls convert oci types start n).1
          (afterCalls convert oci types start n).2).1,
        (oracleQueryFunction convert oci types (afterCalls convert oci types start n).1
          (afterCalls convert oci types start n).2).2.1) := rfl

theorem callResult_eq (oci : Oci) (types : List Duckdb.LogicalType) (start : OracleScanState)
    (n : ℕ) :
    callResult convert oci types start n =
      (oracleQueryFunction convert oci types (afterCalls convert oci types start n).1
        (afterCalls convert oci types start n).2).2.2 := rfl

/-- The rows that the first `n` calls emit. -/
def emittedRows (oci : Oci) (types : List Duckdb.LogicalType) (start : OracleScanState) (n : ℕ) :
    List (List (OutputCell ν)) :=
  (List.range n).flatMap fun m => ((callResult convert oci types start m).toOption).getD []

theorem emittedRows_succ {oci : Oci} {types : List Duckdb.LogicalType} {start : OracleScanState}
    {n : ℕ} {rows : List (List (OutputCell ν))}
    (h : callResult convert oci types start n = .ok rows) :
    emittedRows convert oci types start (n + 1) =
      emittedRows convert oci types start n ++ rows := by
  rw [emittedRows, List.range_succ, List.flatMap_append, List.flatMap_singleton, h]
  rfl

/-- Every cell that is not NULL is read inside its buffer, at the multiple of the element
size where OCI put it. -/
def ReadsInside (bind : OracleBindData) (f : FetchResult) : Prop :=
  ∀ r < f.rowsFetched, ∀ j < bind.columnNames.length, f.indicator j r ≠ -1 →
    let elementSize := (f.buffer j).length / standardVectorSize
    elementSize = (defineOf bind j).size ∧
      r * elementSize + f.returnLen j r ≤ (f.buffer j).length

section Scan

variable {bind : OracleBindData} {R : List Row} (hsizes : DescribedSizes bind)
  (d : Delivery bind R) (columnIds projectionIds : List ℕ) (types : List Duckdb.LogicalType)

include hsizes

/-- While batches are left, each call makes one fetch, and the first one executes. -/
theorem afterCalls_batches {n : ℕ} (hn : n ≤ d.batches.length) :
    (afterCalls convert d.oci types (oracleInitGlobal bind columnIds projectionIds) n).1.finished =
        false ∧
      (afterCalls convert d.oci types
          (oracleInitGlobal bind columnIds projectionIds) n).1.executed = decide (0 < n) ∧
      (afterCalls convert d.oci types (oracleInitGlobal bind columnIds projectionIds) n).2 =
        { executions := if 0 < n then 1 else 0, fetches := n } := by
  induction n with
  | zero => exact ⟨rfl, rfl, rfl⟩
  | succ n ih =>
    obtain ⟨hfinished, hexecuted, hcursor⟩ := ih (Nat.le_of_succ_le hn)
    have hmapping := columnMapping_afterCalls convert d.oci types
      (oracleInitGlobal bind columnIds projectionIds) n
    obtain ⟨rows, hrows⟩ : ∃ rows, d.batches[n]? = some rows := ⟨_, List.getElem?_eq_getElem hn⟩
    have hbatch := d.batch n rows hrows
    have hstatus := d.batch_status n hn
    have hfetches : (afterCalls convert d.oci types
        (oracleInitGlobal bind columnIds projectionIds) n).2.fetches = n := by rw [hcursor]
    rw [← hfetches] at hbatch hstatus
    obtain ⟨-, hend, hdone, hnext⟩ := call_spec convert hsizes d.execute hfinished hbatch
      (by intro e he; rcases hstatus with h | h <;> rw [h] at he <;> cases he) hmapping types
    rw [afterCalls_succ]
    refine ⟨?_, hdone, ?_⟩
    · rw [Bool.eq_false_iff, ne_eq, hend]
      rcases hstatus with h | h <;> rw [h] <;> decide
    · rw [hnext, hcursor, hexecuted]
      cases n <;> rfl

/-- **Call `k` returns batch `k`.** -/
theorem callResult_batch {k : ℕ} {rows : List Row} (hk : d.batches[k]? = some rows) :
    callResult convert d.oci types (oracleInitGlobal bind columnIds projectionIds) k =
      .ok (rows.map (emittedRow convert bind columnIds projectionIds types)) := by
  obtain ⟨hlt, -⟩ := List.getElem?_eq_some_iff.mp hk
  obtain ⟨hfinished, -, hcursor⟩ := afterCalls_batches convert hsizes d columnIds projectionIds
    types (Nat.le_of_lt hlt)
  have hmapping := columnMapping_afterCalls convert d.oci types
    (oracleInitGlobal bind columnIds projectionIds) k
  have hbatch := d.batch k rows hk
  have hstatus := d.batch_status k hlt
  have hfetches : (afterCalls convert d.oci types
      (oracleInitGlobal bind columnIds projectionIds) k).2.fetches = k := by rw [hcursor]
  rw [← hfetches] at hbatch hstatus
  exact (call_spec convert hsizes d.execute hfinished hbatch
    (by intro e he; rcases hstatus with h | h <;> rw [h] at he <;> cases he) hmapping types).1

/-- The call after the batches returns the last rows, and ends the scan. -/
theorem call_last :
    callResult convert d.oci types (oracleInitGlobal bind columnIds projectionIds)
        d.batches.length =
        .ok (d.last.map (emittedRow convert bind columnIds projectionIds types)) ∧
      (afterCalls convert d.oci types (oracleInitGlobal bind columnIds projectionIds)
        (d.batches.length + 1)).1.finished = true ∧
      (afterCalls convert d.oci types (oracleInitGlobal bind columnIds projectionIds)
        (d.batches.length + 1)).2.executions = 1 := by
  obtain ⟨hfinished, hexecuted, hcursor⟩ := afterCalls_batches convert hsizes d columnIds
    projectionIds types (Nat.le_refl _)
  have hmapping := columnMapping_afterCalls convert d.oci types
    (oracleInitGlobal bind columnIds projectionIds) d.batches.length
  have hbatch := d.last_batch
  have hstatus := d.last_status
  have hfetches : (afterCalls convert d.oci types
      (oracleInitGlobal bind columnIds projectionIds) d.batches.length).2.fetches =
        d.batches.length := by rw [hcursor]
  rw [← hfetches] at hbatch hstatus
  obtain ⟨hrows, hend, -, hnext⟩ := call_spec convert hsizes d.execute hfinished hbatch
    (by intro e he; rw [hstatus] at he; cases he) hmapping types
  refine ⟨hrows, hend.mpr hstatus, ?_⟩
  rw [afterCalls_succ]
  dsimp only
  rw [hnext, hcursor, hexecuted]
  cases d.batches.length <;> rfl

/-- **After the end every call returns no rows**, and changes nothing. -/
theorem afterCalls_end (n : ℕ) :
    callResult convert d.oci types (oracleInitGlobal bind columnIds projectionIds)
        (d.batches.length + 1 + n) = .ok [] ∧
      (afterCalls convert d.oci types (oracleInitGlobal bind columnIds projectionIds)
        (d.batches.length + 1 + n)).2.executions = 1 := by
  obtain ⟨-, hfinished, hexecutions⟩ := call_last convert hsizes d columnIds projectionIds types
  have hstays : afterCalls convert d.oci types (oracleInitGlobal bind columnIds projectionIds)
      (d.batches.length + 1 + n) = afterCalls convert d.oci types
        (oracleInitGlobal bind columnIds projectionIds) (d.batches.length + 1) := by
    induction n with
    | zero => rfl
    | succ n ih =>
      rw [← Nat.add_assoc, afterCalls_succ, ih, call_of_finished convert hfinished]
  rw [callResult_eq, hstays, call_of_finished convert hfinished]
  exact ⟨rfl, hexecutions⟩

/-- The first calls emit the first batches. -/
theorem emittedRows_batches {n : ℕ} (hn : n ≤ d.batches.length) :
    emittedRows convert d.oci types (oracleInitGlobal bind columnIds projectionIds) n =
      (d.batches.take n).flatten.map (emittedRow convert bind columnIds projectionIds types) := by
  induction n with
  | zero => rfl
  | succ n ih =>
    obtain ⟨rows, hrows⟩ : ∃ rows, d.batches[n]? = some rows :=
      ⟨_, List.getElem?_eq_getElem hn⟩
    have hcall := callResult_batch convert hsizes d columnIds projectionIds types hrows
    rw [emittedRows_succ convert hcall, ih (Nat.le_of_succ_le hn), List.take_add_one, hrows,
      Option.toList_some, List.flatten_append, List.map_append, List.flatten_singleton]

/-- **All fetches together** emit the result set. -/
theorem emittedRows_all :
    emittedRows convert d.oci types (oracleInitGlobal bind columnIds projectionIds)
        (d.batches.length + 1) =
      R.map (emittedRow convert bind columnIds projectionIds types) := by
  have hbatches := emittedRows_batches convert hsizes d columnIds projectionIds types
    (Nat.le_refl _)
  rw [List.take_length] at hbatches
  obtain ⟨hlast, -, -⟩ := call_last convert hsizes d columnIds projectionIds types
  rw [emittedRows_succ convert hlast, hbatches, ← List.map_append, d.rows]

/-- The cursor is executed once, by the first call. -/
theorem executions_eq_one (n : ℕ) :
    (afterCalls convert d.oci types (oracleInitGlobal bind columnIds projectionIds)
      (n + 1)).2.executions = 1 := by
  rcases Nat.lt_or_ge n d.batches.length with hlt | hge
  · rw [(afterCalls_batches convert hsizes d columnIds projectionIds types hlt).2.2]
    rfl
  · obtain ⟨m, rfl⟩ := Nat.exists_eq_add_of_le hge
    have hend := (afterCalls_end convert hsizes d columnIds projectionIds types m).2
    rwa [show d.batches.length + 1 + m = d.batches.length + m + 1 by omega] at hend

/-- All fetches of a delivery are read inside the buffers. -/
theorem readsInside {k : ℕ} (hk : k ≤ d.batches.length) : ReadsInside bind (d.oci.fetch k) := by
  obtain ⟨rows, hobeys⟩ : ∃ rows, Obeys bind rows (d.oci.fetch k) := by
    rcases Nat.lt_or_eq_of_le hk with hlt | rfl
    · exact ⟨_, d.batch k _ (List.getElem?_eq_getElem hlt)⟩
    · exact ⟨_, d.last_batch⟩
  intro r hr j hj hnull
  obtain ⟨hsize, hinside⟩ := read_inside hsizes hobeys hr hj hnull
  rw [← hsize] at hinside
  exact ⟨hsize, hinside⟩

/-- **Every row exactly once.**  For every delivery of every result set there is a number
of calls that return rows; what they emit is the result set, row by row and in order, and
every later call returns no rows.  The cursor is executed once, and every cell is read
from its row's place inside its buffer. -/
theorem rows_exactly_once :
    ∃ n,
      (∀ m < n, ∃ chunk, chunk ≠ [] ∧ callResult convert d.oci types
        (oracleInitGlobal bind columnIds projectionIds) m = .ok chunk) ∧
      (∀ m, n ≤ m → callResult convert d.oci types
        (oracleInitGlobal bind columnIds projectionIds) m = .ok []) ∧
      emittedRows convert d.oci types (oracleInitGlobal bind columnIds projectionIds) n =
        R.map (emittedRow convert bind columnIds projectionIds types) ∧
      (∀ m, (afterCalls convert d.oci types (oracleInitGlobal bind columnIds projectionIds)
        (m + 1)).2.executions = 1) ∧
      ∀ k ≤ d.batches.length, ReadsInside bind (d.oci.fetch k) := by
  have hbatches := emittedRows_batches convert hsizes d columnIds projectionIds types
    (Nat.le_refl _)
  rw [List.take_length] at hbatches
  obtain ⟨hlast, -, -⟩ := call_last convert hsizes d columnIds projectionIds types
  have hnonempty : ∀ m < d.batches.length, ∃ chunk, chunk ≠ [] ∧ callResult convert d.oci types
      (oracleInitGlobal bind columnIds projectionIds) m = .ok chunk := by
    intro m hm
    refine ⟨_, ?_, callResult_batch convert hsizes d columnIds projectionIds types
      (List.getElem?_eq_getElem hm)⟩
    rw [ne_eq, List.map_eq_nil_iff]
    exact d.nonempty _ (List.getElem_mem hm)
  have hafter : ∀ m, d.batches.length < m → callResult convert d.oci types
      (oracleInitGlobal bind columnIds projectionIds) m = .ok [] := by
    intro m hm
    obtain ⟨i, rfl⟩ := Nat.exists_eq_add_of_le hm
    exact (afterCalls_end convert hsizes d columnIds projectionIds types i).1
  have hrest := And.intro (executions_eq_one convert hsizes d columnIds projectionIds types)
    (fun k hk => readsInside hsizes d (k := k) hk)
  by_cases hempty : d.last = []
  · -- the last fetch brings no rows: its call is already the end
    refine ⟨d.batches.length, hnonempty, fun m hm => ?_, ?_, hrest⟩
    · rcases Nat.lt_or_eq_of_le hm with hlt | rfl
      · exact hafter m hlt
      · rw [hlast, hempty, List.map_nil]
    · have hrows := d.rows
      rw [hempty, List.append_nil] at hrows
      rw [hbatches, hrows]
  · -- the last fetch brings rows: the end is the call after it
    refine ⟨d.batches.length + 1, fun m hm => ?_, fun m hm => hafter m hm, ?_, hrest⟩
    · rcases Nat.lt_or_eq_of_le (Nat.le_of_lt_succ hm) with hlt | rfl
      · exact hnonempty m hlt
      · exact ⟨_, by rwa [ne_eq, List.map_eq_nil_iff], hlast⟩
    · exact emittedRows_all convert hsizes d columnIds projectionIds types

end Scan

/-- **Any split can be delivered**: batches that are not empty, and a last one. -/
def splitDelivery {bind : OracleBindData} (hsizes : DescribedSizes bind)
    (batches : List (List Row)) (last : List Row)
    (hbatches : ∀ rows ∈ batches, rows ≠ [] ∧ rows.length ≤ standardVectorSize)
    (hlast : last.length ≤ standardVectorSize) : Delivery bind (batches.flatten ++ last) where
  oci := { fetch := fun k => match batches[k]? with
    | some rows => deliver bind rows .successWithInfo
    | none => deliver bind last .noData }
  batches := batches
  last := last
  rows := rfl
  execute := rfl
  nonempty rows hrows := (hbatches rows hrows).1
  batch k rows hrows := by
    simp only [hrows]
    exact obeys_deliver hsizes (hbatches rows (List.mem_of_getElem? hrows)).2
      (Or.inl (by decide))
  batch_status k hk := by
    simp only [List.getElem?_eq_getElem hk]
    exact Or.inr rfl
  last_batch := by
    simp only [List.getElem?_eq_none (Nat.le_refl batches.length)]
    exact obeys_deliver hsizes hlast (Or.inl (by decide))
  last_status := by
    simp only [List.getElem?_eq_none (Nat.le_refl batches.length)]
    rfl

/-- A query with one text column. -/
def nameBind : OracleBindData :=
  oracleBindInternal "scott/tiger@db" "SELECT ENAME FROM EMP" {}
    [{ name := "ENAME", dataType := .chr, charSize := 10 }]

theorem describedSizes_name : DescribedSizes nameBind := by
  intro ociSize hmem
  obtain rfl := List.mem_singleton.mp hmem
  decide

/-- Three rows in two batches, and an empty last one. -/
def nameDelivery : Delivery nameBind [[some [65]], [none], [some [66, 67]]] :=
  splitDelivery describedSizes_name [[[some [65]], [none]], [[some [66, 67]]]] [] (by decide)
    (by decide)

theorem rows_exactly_once_names :
    ∃ n, emittedRows (fun _ _ => (none : Option Unit)) nameDelivery.oci [.varchar]
      (oracleInitGlobal nameBind [0] []) n =
        [[.string [65]], [.null], [.string [66, 67]]] := by
  obtain ⟨n, -, -, hrows, -⟩ := rows_exactly_once (fun _ _ => (none : Option Unit))
    describedSizes_name nameDelivery [0] [] [.varchar]
  exact ⟨n, hrows⟩

end Scan
end DuckdbOracle
