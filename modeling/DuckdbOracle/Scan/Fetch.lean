import DuckdbOracle.Duckdb.Columns
import DuckdbOracle.Foundations.StridedBuffer
import DuckdbOracle.Scan.ColumnMapping

/-!
# Fetching a batch

A scan defines one buffer for each query column, of 2048 cells, and hands them to OCI.
Each call of `OracleQueryFunction` fetches one batch into the same buffers and copies it
out again: an output cell is NULL if the indicator is -1, and else it is made of as many
bytes as the length array says, from where its row begins in the buffer.

What OCI does is not code of the extension.  `Obeys` is its contract for one fetch: a
value that fits its cell is stored whole, one that does not is cut; the status is then
`OCI_SUCCESS_WITH_INFO`, if it is not `OCI_NO_DATA` because the fetch is the last one, and
the indicator is -2 or the length the value would have.  `fillRow_eq` says what the
extension makes of a fetch under this contract; `deliver` is a fetch that keeps to it.

The conversions to types that are neither `VARCHAR` nor `BLOB` are DuckDB's; they are a
parameter, which gives no value where the conversion fails.
-/

namespace DuckdbOracle
namespace Scan

open Catalog StridedBuffer

/-- The bytes of a value, as OCI converts it for its buffer; `none` is NULL. -/
abbrev OciValue := Option (List UInt8)

/-- A row of the result set. -/
abbrev Row := List OciValue

/-- `STANDARD_VECTOR_SIZE`. -/
def standardVectorSize : ℕ := 2048

/-! ## The define buffers -/

/-- How a column is defined: the size of its cells, and whether as `SQLT_BIN` (or else as
`SQLT_STR`). -/
structure Define where
  size : ℕ
  binary : Bool
  deriving DecidableEq

/-- `size`, as `OracleInitGlobal` computes it in a `ub4`. -/
def defineSize (bind : OracleBindData) (colIdx : ℕ) : ℕ :=
  let size := match bind.ociSizes[colIdx]? with
    | some ociSize => if ociSize > 0 then ociSize * 4 % 2 ^ 32 else 4000
    | none => 4000
  if size < 4000 then 4000 else size

/-- The define of a column: `BLOB` columns as they are, all others as strings. -/
def defineOf (bind : OracleBindData) (colIdx : ℕ) : Define where
  size := defineSize bind colIdx
  binary := bind.originalTypes[colIdx]? = some .blob ∧ colIdx < bind.ociTypes.length

/-- The size of a buffer: `size * STANDARD_VECTOR_SIZE`, in 32 bits. -/
def bufferSize (bind : OracleBindData) (colIdx : ℕ) : ℕ :=
  defineSize bind colIdx * standardVectorSize % 2 ^ 32

/-- The bytes of a value that a cell has place for; a string needs one for its end. -/
def Define.capacity (define : Define) : ℕ :=
  if define.binary then define.size else define.size - 1

/-! ## What OCI returns -/

/-- The status of `OCIStmtFetch2`. -/
inductive FetchStatus where
  | success
  | successWithInfo
  | noData
  | failure (message : String)
  deriving DecidableEq

/-- A fetch: its status, `OCI_ATTR_ROWS_FETCHED`, and the arrays it leaves. -/
structure FetchResult where
  status : FetchStatus
  rowsFetched : ℕ
  buffers : List (List UInt8)
  indicators : List (List ℤ)
  returnLens : List (List ℕ)

/-- The buffer of a column. -/
def FetchResult.buffer (f : FetchResult) (j : ℕ) : List UInt8 := f.buffers.getD j []

/-- The indicator of a cell. -/
def FetchResult.indicator (f : FetchResult) (j r : ℕ) : ℤ := (f.indicators.getD j []).getD r 0

/-- The length of a cell, from an array of `ub2`. -/
def FetchResult.returnLen (f : FetchResult) (j r : ℕ) : ℕ := (f.returnLens.getD j []).getD r 0

/-- What a row has in a column. -/
def Row.value (row : Row) (j : ℕ) : OciValue := row.getD j none

/-- The contract for one cell. -/
def CellObeys (define : Define) (f : FetchResult) (r j : ℕ) : OciValue → Prop
  | none => f.indicator j r = -1
  | some bytes =>
    let stored := bytes.take define.capacity
    readAt (f.buffer j) (r * define.size) stored.length = stored ∧
      f.returnLen j r = stored.length % 2 ^ 16 ∧
      if bytes.length ≤ define.capacity then f.indicator j r = 0
      else f.status ≠ .success ∧ (f.indicator j r = -2 ∨ f.indicator j r = bytes.length)

/-- **The contract of a fetch** that returns these rows. -/
structure Obeys (bind : OracleBindData) (rows : List Row) (f : FetchResult) : Prop where
  rowsFetched : f.rowsFetched = rows.length
  fits : rows.length ≤ standardVectorSize
  indicators : f.indicators.length = bind.columnNames.length
  buffers : ∀ j < bind.columnNames.length, (f.buffer j).length = bufferSize bind j
  cell : ∀ r row, rows[r]? = some row → ∀ j < bind.columnNames.length,
    CellObeys (defineOf bind j) f r j (row.value j)

/-- The sizes that OCI describes come out of a `ub2`. -/
def DescribedSizes (bind : OracleBindData) : Prop := ∀ ociSize ∈ bind.ociSizes, ociSize < 2 ^ 16

/-! ## The scan -/

/-- `OracleScanState`. -/
structure OracleScanState where
  buffers : List (List UInt8)
  indicators : List (List ℤ)
  returnLens : List (List ℕ)
  columnMapping : List ℕ
  executed : Bool := false
  finished : Bool := false

/-- `OracleInitGlobal`: the mapping, and buffers of their sizes. -/
def oracleInitGlobal (bind : OracleBindData) (columnIds projectionIds : List ℕ) :
    OracleScanState where
  buffers := (List.range bind.columnNames.length).map fun j => List.replicate (bufferSize bind j) 0
  indicators := bind.columnNames.map fun _ => List.replicate standardVectorSize 0
  returnLens := bind.columnNames.map fun _ => List.replicate standardVectorSize 0
  columnMapping := columnMapping bind columnIds projectionIds

/-- A cell of the output; `untouched` is one that is not written at all. -/
inductive OutputCell (ν : Type) where
  | untouched
  | null
  | string (bytes : List UInt8)
  | value (v : ν)
  deriving DecidableEq

variable {ν : Type} (convert : Duckdb.LogicalType → List UInt8 → Option ν)

/-- A value that goes through a conversion; NULL when that fails. -/
def OutputCell.ofOption : Option ν → OutputCell ν
  | some v => .value v
  | none => .null

/-- The bytes of a cell, by the type of its output column. -/
def OutputCell.ofBytes (type : Duckdb.LogicalType) (val : List UInt8) : OutputCell ν :=
  match type with
  | .varchar | .blob => .string val
  | .float => .untouched
  | type => .ofOption (convert type val)

/-- One cell of the output, read from buffer `j`. -/
def OracleScanState.readCell (state : OracleScanState) (type : Duckdb.LogicalType) (j r : ℕ) :
    OutputCell ν :=
  if (state.indicators.getD j []).getD r 0 = -1 then .null
  else
    let buffer := state.buffers.getD j []
    let elementSize := buffer.length / standardVectorSize
    .ofBytes convert type
      (readAt buffer (r * elementSize) ((state.returnLens.getD j []).getD r 0))

/-- The buffer of an output column; `none` when there is no such buffer. -/
def OracleScanState.bufferIdx (state : OracleScanState) (colIdx : ℕ) : Option ℕ :=
  let buffer := (state.columnMapping[colIdx]?).getD colIdx
  if buffer < state.indicators.length then some buffer else none

/-- One row of the output. -/
def OracleScanState.fillRow (state : OracleScanState) (types : List Duckdb.LogicalType) (r : ℕ) :
    List (OutputCell ν) :=
  types.mapIdx fun colIdx type =>
    match state.bufferIdx colIdx with
    | some j => state.readCell convert type j r
    | none => .untouched

/-- OCI during a scan: what an execution gives, and what each fetch gives. -/
structure Oci where
  execute : Except String Unit := .ok ()
  fetch : ℕ → FetchResult

/-- How often the cursor has been executed and fetched from. -/
structure Cursor where
  executions : ℕ := 0
  fetches : ℕ := 0

/-- Execute the cursor, the first time. -/
def openCursor (oci : Oci) (state : OracleScanState) (cursor : Cursor) :
    OracleScanState × Cursor × Except String Unit :=
  if state.executed then (state, cursor, .ok ())
  else
    let cursor := { cursor with executions := cursor.executions + 1 }
    match oci.execute with
    | .ok () => ({ state with executed := true }, cursor, .ok ())
    | .error e =>
      (state, cursor, .error ("Failed to execute OCI statement (open cursor): " ++ e))

/-- Fetch a batch and copy it out. -/
def fetchBatch (oci : Oci) (types : List Duckdb.LogicalType) (state : OracleScanState)
    (cursor : Cursor) : OracleScanState × Cursor × Except String (List (List (OutputCell ν))) :=
  let f := oci.fetch cursor.fetches
  let cursor := { cursor with fetches := cursor.fetches + 1 }
  let state := { state with
    buffers := f.buffers, indicators := f.indicators, returnLens := f.returnLens }
  match f.status with
  | .failure e => (state, cursor, .error ("Failed to fetch OCI data: " ++ e))
  | status =>
    if status = .noData ∧ f.rowsFetched = 0 then ({ state with finished := true }, cursor, .ok [])
    else ({ state with finished := status = .noData }, cursor,
      .ok ((List.range f.rowsFetched).map (state.fillRow convert types)))

/-- `OracleQueryFunction`: the rows of the chunk; none is the end. -/
def oracleQueryFunction (oci : Oci) (types : List Duckdb.LogicalType) (state : OracleScanState)
    (cursor : Cursor) : OracleScanState × Cursor × Except String (List (List (OutputCell ν))) :=
  if state.finished then (state, cursor, .ok [])
  else
    match openCursor oci state cursor with
    | (state, cursor, .error e) => (state, cursor, .error e)
    | (state, cursor, .ok ()) => fetchBatch convert oci types state cursor

/-- The scan after `n` calls. -/
def afterCalls (oci : Oci) (types : List Duckdb.LogicalType) (start : OracleScanState) :
    ℕ → OracleScanState × Cursor
  | 0 => (start, {})
  | n + 1 =>
    let (state, cursor) := afterCalls oci types start n
    let (state, cursor, _) := oracleQueryFunction convert oci types state cursor
    (state, cursor)

/-- What call `n` returns, counted from 0. -/
def callResult (oci : Oci) (types : List Duckdb.LogicalType) (start : OracleScanState) (n : ℕ) :
    Except String (List (List (OutputCell ν))) :=
  let (state, cursor) := afterCalls convert oci types start n
  (oracleQueryFunction convert oci types state cursor).2.2

/-! ## What the extension makes of a fetch -/

/-- The bytes of a value that arrive: what fits the cell, up to the length modulo `2 ^ 16`
that is left of it in the length array. -/
def delivered (define : Define) (bytes : List UInt8) : List UInt8 :=
  (bytes.take define.capacity).take ((bytes.take define.capacity).length % 2 ^ 16)

/-- The output cell of a value. -/
def emittedCell (define : Define) (type : Duckdb.LogicalType) : OciValue → OutputCell ν
  | none => .null
  | some bytes => .ofBytes convert type (delivered define bytes)

/-- The output row of a row. -/
def emittedRow (bind : OracleBindData) (columnIds projectionIds : List ℕ)
    (types : List Duckdb.LogicalType) (row : Row) : List (OutputCell ν) :=
  types.mapIdx fun colIdx type =>
    match bufferIdx bind columnIds projectionIds colIdx with
    | some j => emittedCell convert (defineOf bind j) type (row.value j)
    | none => .untouched

/-- With described sizes the cells are small enough for 32 bits. -/
theorem defineSize_le {bind : OracleBindData} (h : DescribedSizes bind) (j : ℕ) :
    defineSize bind j ≤ 2 ^ 18 := by
  unfold defineSize
  cases hj : bind.ociSizes[j]? with
  | none => simp
  | some ociSize =>
    have hlt : ociSize < 65536 := h ociSize (List.mem_of_getElem? hj)
    have hsmall : ociSize * 4 % 2 ^ 32 = ociSize * 4 := Nat.mod_eq_of_lt (by omega)
    have hle : ociSize * 4 ≤ 2 ^ 18 := by omega
    dsimp only
    rw [hsmall]
    split_ifs
    · decide
    · exact hle
    · decide
    · decide

/-- The element size that is read off the buffer is the size the column is defined with. -/
theorem bufferSize_div {bind : OracleBindData} (h : DescribedSizes bind) (j : ℕ) :
    bufferSize bind j = defineSize bind j * standardVectorSize ∧
      bufferSize bind j / standardVectorSize = defineSize bind j := by
  have hle := defineSize_le h j
  have hsize : bufferSize bind j = defineSize bind j * standardVectorSize := by
    rw [bufferSize, standardVectorSize]
    omega
  refine ⟨hsize, ?_⟩
  rw [hsize, Nat.mul_div_cancel _ (by decide)]

/-- A shorter read of the same place. -/
theorem readAt_take {α : Type} (buffer : List α) (offset : ℕ) {n m : ℕ} (h : n ≤ m) :
    (readAt buffer offset m).take n = readAt buffer offset n := by
  rw [readAt, readAt, List.take_take, Nat.min_eq_left h]

/-- The state whose arrays are those of a fetch. -/
def OracleScanState.Holds (state : OracleScanState) (f : FetchResult) : Prop :=
  state.buffers = f.buffers ∧ state.indicators = f.indicators ∧ state.returnLens = f.returnLens

/-- **One cell of a fetch.** -/
theorem readCell_eq {bind : OracleBindData} (hsizes : DescribedSizes bind) {rows : List Row}
    {f : FetchResult} (hf : Obeys bind rows f) {state : OracleScanState} (hstate : state.Holds f)
    {r : ℕ} {row : Row} (hr : rows[r]? = some row) {j : ℕ} (hj : j < bind.columnNames.length)
    (type : Duckdb.LogicalType) :
    state.readCell convert type j r =
      emittedCell convert (defineOf bind j) type (row.value j) := by
  obtain ⟨hbuffers, hindicators, hlens⟩ := hstate
  have hcell := hf.cell r row hr j hj
  unfold OracleScanState.readCell
  rw [hindicators, hbuffers, hlens]
  change (if f.indicator j r = -1 then OutputCell.null
    else OutputCell.ofBytes convert type (readAt (f.buffer j)
      (r * ((f.buffer j).length / standardVectorSize)) (f.returnLen j r))) = _
  cases hv : row.value j with
  | none =>
    rw [hv] at hcell
    exact if_pos hcell
  | some bytes =>
    rw [hv] at hcell
    obtain ⟨hread, hlen, hindicator⟩ := hcell
    have hne : f.indicator j r ≠ -1 := by
      split at hindicator
      · omega
      · rcases hindicator.2 with h | h <;> omega
    rw [if_neg hne, hf.buffers j hj, (bufferSize_div hsizes j).2, hlen, emittedCell, delivered]
    congr 1
    rw [← readAt_take _ _ (Nat.mod_le _ _)]
    exact congrArg (List.take _) hread

theorem bufferIdx_lt {bind : OracleBindData} {columnIds projectionIds : List ℕ} {colIdx j : ℕ}
    (h : bufferIdx bind columnIds projectionIds colIdx = some j) :
    j < bind.columnNames.length := by
  unfold bufferIdx at h
  dsimp only at h
  split at h
  · next hlt => exact Option.some.inj h ▸ hlt
  · cases h

/-- **One row of a fetch**: every output column gets what its buffer holds. -/
theorem fillRow_eq {bind : OracleBindData} (hsizes : DescribedSizes bind) {rows : List Row}
    {f : FetchResult} (hf : Obeys bind rows f) {columnIds projectionIds : List ℕ}
    {state : OracleScanState} (hstate : state.Holds f)
    (hmapping : state.columnMapping = columnMapping bind columnIds projectionIds)
    {r : ℕ} {row : Row} (hr : rows[r]? = some row) (types : List Duckdb.LogicalType) :
    state.fillRow convert types r = emittedRow convert bind columnIds projectionIds types row := by
  have hbuffer : ∀ colIdx, state.bufferIdx colIdx =
      bufferIdx bind columnIds projectionIds colIdx := by
    intro colIdx
    unfold OracleScanState.bufferIdx bufferIdx
    rw [hmapping, hstate.2.1, hf.indicators]
  unfold OracleScanState.fillRow emittedRow
  congr 1
  funext colIdx type
  rw [hbuffer]
  cases hidx : bufferIdx bind columnIds projectionIds colIdx with
  | none => rfl
  | some j => exact readCell_eq convert hsizes hf hstate hr (bufferIdx_lt hidx) type

/-- **All rows of a fetch**, in their order. -/
theorem map_fillRow_eq {bind : OracleBindData} (hsizes : DescribedSizes bind) {rows : List Row}
    {f : FetchResult} (hf : Obeys bind rows f) {columnIds projectionIds : List ℕ}
    {state : OracleScanState} (hstate : state.Holds f)
    (hmapping : state.columnMapping = columnMapping bind columnIds projectionIds)
    (types : List Duckdb.LogicalType) :
    (List.range f.rowsFetched).map (state.fillRow convert types) =
      rows.map (emittedRow convert bind columnIds projectionIds types) := by
  apply List.ext_getElem
  · rw [List.length_map, List.length_map, List.length_range, hf.rowsFetched]
  · intro r hr hr'
    have hlt : r < rows.length := by rwa [List.length_map] at hr'
    rw [List.getElem_map, List.getElem_map, List.getElem_range]
    exact fillRow_eq convert hsizes hf hstate hmapping (List.getElem?_eq_getElem hlt) types

/-! ## One call, and many -/

/-- The first execution neither fetches nor touches the mapping. -/
theorem openCursor_spec (oci : Oci) (state : OracleScanState) (cursor : Cursor) :
    (openCursor oci state cursor).2.1.fetches = cursor.fetches ∧
      (openCursor oci state cursor).1.columnMapping = state.columnMapping ∧
      (openCursor oci state cursor).1.finished = state.finished := by
  unfold openCursor
  split
  · exact ⟨rfl, rfl, rfl⟩
  · dsimp only
    split <;> exact ⟨rfl, rfl, rfl⟩

theorem fetchBatch_columnMapping (oci : Oci) (types : List Duckdb.LogicalType)
    (state : OracleScanState) (cursor : Cursor) :
    (fetchBatch convert oci types state cursor).1.columnMapping = state.columnMapping := by
  unfold fetchBatch
  dsimp only
  split
  · rfl
  · split <;> rfl

/-- No call changes the mapping. -/
theorem columnMapping_call (oci : Oci) (types : List Duckdb.LogicalType)
    (state : OracleScanState) (cursor : Cursor) :
    (oracleQueryFunction convert oci types state cursor).1.columnMapping =
      state.columnMapping := by
  have hopen := (openCursor_spec oci state cursor).2.1
  unfold oracleQueryFunction
  split
  · rfl
  · split
    · next heq => rw [heq] at hopen; exact hopen
    · next heq =>
      rw [heq] at hopen
      rw [fetchBatch_columnMapping]
      exact hopen

theorem columnMapping_afterCalls (oci : Oci) (types : List Duckdb.LogicalType)
    (start : OracleScanState) (n : ℕ) :
    (afterCalls convert oci types start n).1.columnMapping = start.columnMapping := by
  induction n with
  | zero => rfl
  | succ n ih => exact (columnMapping_call convert oci types _ _).trans ih

/-- What a fetch that does not fail makes of the state and the output. -/
theorem fetchBatch_eq_ok {oci : Oci} {types : List Duckdb.LogicalType} {state : OracleScanState}
    {cursor : Cursor} {chunk : List (List (OutputCell ν))}
    (h : (fetchBatch convert oci types state cursor).2.2 = .ok chunk) :
    (∀ e, (oci.fetch cursor.fetches).status ≠ .failure e) ∧
      ∃ state' : OracleScanState, state'.Holds (oci.fetch cursor.fetches) ∧
        state'.columnMapping = state.columnMapping ∧
        chunk = (List.range (oci.fetch cursor.fetches).rowsFetched).map
          (state'.fillRow convert types) := by
  unfold fetchBatch at h
  dsimp only at h
  split at h
  · cases h
  · next hok =>
    refine ⟨hok, { state with
      buffers := (oci.fetch cursor.fetches).buffers
      indicators := (oci.fetch cursor.fetches).indicators
      returnLens := (oci.fetch cursor.fetches).returnLens }, ⟨rfl, rfl, rfl⟩, rfl, ?_⟩
    split at h
    · next hnone =>
      obtain rfl := Except.ok.inj h
      rw [hnone.2]
      rfl
    · exact (Except.ok.inj h).symm

/-- **What a call returns**: nothing, or the rows of the fetch it makes. -/
theorem oracleQueryFunction_eq_ok {oci : Oci} {types : List Duckdb.LogicalType}
    {state : OracleScanState} {cursor : Cursor} {chunk : List (List (OutputCell ν))}
    (h : (oracleQueryFunction convert oci types state cursor).2.2 = .ok chunk) :
    chunk = [] ∨ (∀ e, (oci.fetch cursor.fetches).status ≠ .failure e) ∧
      ∃ state' : OracleScanState, state'.Holds (oci.fetch cursor.fetches) ∧
        state'.columnMapping = state.columnMapping ∧
        chunk = (List.range (oci.fetch cursor.fetches).rowsFetched).map
          (state'.fillRow convert types) := by
  obtain ⟨hfetches, hmapping, -⟩ := openCursor_spec oci state cursor
  unfold oracleQueryFunction at h
  split at h
  · exact Or.inl (Except.ok.inj h).symm
  · split at h
    · cases h
    · next heq =>
      rw [heq] at hfetches hmapping
      have hfetch := fetchBatch_eq_ok convert h
      rw [hfetches, hmapping] at hfetch
      exact Or.inr hfetch

/-- **A cell is read inside its buffer**, from the place where OCI put it. -/
theorem read_inside {bind : OracleBindData} (hsizes : DescribedSizes bind) {rows : List Row}
    {f : FetchResult} (hf : Obeys bind rows f) {r : ℕ} (hr : r < f.rowsFetched) {j : ℕ}
    (hj : j < bind.columnNames.length) (hnull : f.indicator j r ≠ -1) :
    (f.buffer j).length / standardVectorSize = defineSize bind j ∧
      r * defineSize bind j + f.returnLen j r ≤ (f.buffer j).length := by
  obtain ⟨hmul, hdiv⟩ := bufferSize_div hsizes j
  have hlt : r < rows.length := hf.rowsFetched ▸ hr
  have hcell := hf.cell r rows[r] (List.getElem?_eq_getElem hlt) j hj
  rw [hf.buffers j hj, hdiv, hmul, Nat.mul_comm (defineSize bind j) standardVectorSize]
  refine ⟨rfl, cell_le (Nat.lt_of_lt_of_le hlt hf.fits) ?_⟩
  cases hv : Row.value rows[r] j with
  | none =>
    rw [hv] at hcell
    exact absurd hcell hnull
  | some bytes =>
    rw [hv] at hcell
    obtain ⟨-, hlen, -⟩ := hcell
    have hcapacity : (defineOf bind j).capacity ≤ defineSize bind j := by
      unfold Define.capacity defineOf
      split
      · exact Nat.le_refl _
      · exact Nat.sub_le _ 1
    calc f.returnLen j r
        = (bytes.take (defineOf bind j).capacity).length % 2 ^ 16 := hlen
      _ ≤ (bytes.take (defineOf bind j).capacity).length := Nat.mod_le _ _
      _ ≤ (defineOf bind j).capacity := List.length_take_le _ _
      _ ≤ defineSize bind j := hcapacity

/-! ## A fetch that keeps to the contract -/

/-- The bytes that are stored of a value. -/
def storedBytes (define : Define) (v : OciValue) : List UInt8 :=
  (v.getD []).take define.capacity

/-- A fetch of some rows, which leaves zeros wherever no value is stored. -/
def deliver (bind : OracleBindData) (rows : List Row) (status : FetchStatus) : FetchResult where
  status := status
  rowsFetched := rows.length
  buffers := (List.range bind.columnNames.length).map fun j =>
    (List.range (bufferSize bind j)).map fun k =>
      (storedBytes (defineOf bind j)
        (Row.value (rows.getD (k / defineSize bind j) []) j)).getD (k % defineSize bind j) 0
  indicators := (List.range bind.columnNames.length).map fun j =>
    rows.map fun row => match row.value j with
      | none => -1
      | some bytes => if bytes.length ≤ (defineOf bind j).capacity then 0 else -2
  returnLens := (List.range bind.columnNames.length).map fun j =>
    rows.map fun row => (storedBytes (defineOf bind j) (row.value j)).length % 2 ^ 16

theorem getD_map_range {α : Type} (g : ℕ → α) {n i : ℕ} (h : i < n) (d : α) :
    ((List.range n).map g).getD i d = g i := by
  rw [List.getD_eq_getElem?_getD, List.getElem?_map, List.getElem?_range h]
  rfl

theorem getD_map_of_getElem? {α β : Type} (g : α → β) {l : List α} {i : ℕ} {a : α}
    (h : l[i]? = some a) (d : β) : (l.map g).getD i d = g a := by
  rw [List.getD_eq_getElem?_getD, List.getElem?_map, h]
  rfl

/-- What `deliver` stores of a value is found at the beginning of its cell. -/
theorem readAt_deliver {bind : OracleBindData} (hsizes : DescribedSizes bind) {rows : List Row}
    (hrows : rows.length ≤ standardVectorSize) (status : FetchStatus) {r : ℕ} {row : Row}
    (hr : rows[r]? = some row) {j : ℕ} (hj : j < bind.columnNames.length) :
    let stored := storedBytes (defineOf bind j) (row.value j)
    readAt ((deliver bind rows status).buffer j) (r * defineSize bind j) stored.length =
      stored := by
  intro stored
  have hlt : r < standardVectorSize :=
    Nat.lt_of_lt_of_le (List.getElem?_eq_some_iff.mp hr).1 hrows
  have hsmall : stored.length ≤ defineSize bind j := by
    refine Nat.le_trans (List.length_take_le _ _) ?_
    unfold Define.capacity defineOf
    split
    · exact Nat.le_refl _
    · exact Nat.sub_le _ 1
  have hbuffer : (deliver bind rows status).buffer j = (List.range (bufferSize bind j)).map fun k =>
      (storedBytes (defineOf bind j)
        (Row.value (rows.getD (k / defineSize bind j) []) j)).getD (k % defineSize bind j) 0 := by
    rw [FetchResult.buffer, deliver, getD_map_range _ hj]
  apply List.ext_getElem?
  intro i
  rw [readAt]
  by_cases hi : i < stored.length
  · -- position `i` of cell `r`
    have hinside : r * defineSize bind j + i < bufferSize bind j := by
      have hcell := @cell_le standardVectorSize (defineSize bind j) r (i + 1) hlt (by omega)
      rw [(bufferSize_div hsizes j).1, Nat.mul_comm (defineSize bind j)]
      omega
    have hpos : 0 < defineSize bind j := by omega
    have hdiv : (r * defineSize bind j + i) / defineSize bind j = r := by
      rw [Nat.mul_comm, Nat.mul_add_div hpos, Nat.div_eq_of_lt (by omega), Nat.add_zero]
    have hmod : (r * defineSize bind j + i) % defineSize bind j = i := by
      rw [Nat.mul_comm, Nat.mul_add_mod, Nat.mod_eq_of_lt (by omega)]
    have hrow : rows.getD r [] = row := by rw [List.getD_eq_getElem?_getD, hr, Option.getD_some]
    rw [List.getElem?_take_of_lt hi, List.getElem?_drop, hbuffer, List.getElem?_map,
      List.getElem?_range hinside, Option.map_some, hdiv, hmod, hrow,
      List.getD_eq_getElem?_getD, List.getElem?_eq_getElem hi, Option.getD_some]
  · rw [List.getElem?_take_eq_none (Nat.not_lt.mp hi), List.getElem?_eq_none (Nat.not_lt.mp hi)]

/-- **`deliver` keeps to the contract**, with a status that a cut value allows. -/
theorem obeys_deliver {bind : OracleBindData} (hsizes : DescribedSizes bind) {rows : List Row}
    (hrows : rows.length ≤ standardVectorSize) {status : FetchStatus}
    (hstatus : status ≠ .success ∨ ∀ row ∈ rows, ∀ j < bind.columnNames.length,
      ((row.value j).getD []).length ≤ (defineOf bind j).capacity) :
    Obeys bind rows (deliver bind rows status) where
  rowsFetched := rfl
  fits := hrows
  indicators := by rw [deliver, List.length_map, List.length_range]
  buffers j hj := by
    rw [FetchResult.buffer, deliver, getD_map_range _ hj, List.length_map, List.length_range]
  cell r row hr j hj := by
    have hread := readAt_deliver hsizes hrows status hr hj
    have hindicator : (deliver bind rows status).indicator j r = match row.value j with
        | none => -1
        | some bytes => if bytes.length ≤ (defineOf bind j).capacity then 0 else -2 := by
      rw [FetchResult.indicator, deliver, getD_map_range _ hj, getD_map_of_getElem? _ hr]
    have hlen : (deliver bind rows status).returnLen j r =
        (storedBytes (defineOf bind j) (row.value j)).length % 2 ^ 16 := by
      rw [FetchResult.returnLen, deliver, getD_map_range _ hj, getD_map_of_getElem? _ hr]
    cases hv : row.value j with
    | none =>
      rw [hv] at hindicator
      exact hindicator
    | some bytes =>
      rw [hv] at hindicator hread hlen
      refine ⟨hread, hlen, ?_⟩
      split
      · next hfits => exact hindicator.trans (if_pos hfits)
      · next hcut =>
        refine ⟨?_, Or.inl (hindicator.trans (if_neg hcut))⟩
        rcases hstatus with hinfo | hall
        · exact hinfo
        · have hfits := hall row (List.mem_of_getElem? hr) j hj
          rw [hv] at hfits
          exact absurd hfits hcut

end Scan
end DuckdbOracle
