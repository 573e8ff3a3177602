import DuckdbOracle.Scan.Fetch

/-!
# Is a cut value noticed?

OCI reports a value that does not fit its buffer in two places: the status of the fetch
is `OCI_SUCCESS_WITH_INFO`, and the indicator of the cell is -2 or the length of the
whole value.  `OracleQueryFunction` takes that status for a success and compares the
indicator with -1 only.

So a `VARCHAR` or `BLOB` cell is NULL exactly when its value is, and no fetch fails
because of a length; but the cell has the whole value only if this fits the buffer, and
its length the 16 bits of the length array (`string_cell_iff`).
-/

namespace DuckdbOracle
namespace Scan

open Catalog

variable {ν : Type} (convert : Duckdb.LogicalType → List UInt8 → Option ν)

/-- An output type whose cells are copied as they are. -/
def IsString (type : Duckdb.LogicalType) : Prop := type = .varchar ∨ type = .blob

/-- **The cell is faithful**: it is NULL exactly if the indicator is -1, and otherwise it
has the whole value. -/
def Faithful (cell : OutputCell ν) (indicator : ℤ) (value : OciValue) : Prop :=
  (cell = .null ↔ indicator = -1) ∧
    (indicator ≠ -1 → ∃ bytes, value = some bytes ∧ cell = .string bytes)

/-- The value arrives whole: it fits its buffer, and its length has 16 bits. -/
def FitsBuffer (define : Define) (value : OciValue) : Prop :=
  ∀ bytes, value = some bytes → bytes.length ≤ define.capacity ∧ bytes.length < 2 ^ 16

/-- What arrives is the whole value exactly if this fits. -/
theorem delivered_eq_iff {define : Define} {bytes : List UInt8} :
    delivered define bytes = bytes ↔ bytes.length ≤ define.capacity ∧ bytes.length < 2 ^ 16 := by
  constructor
  · intro h
    have hlength := congrArg List.length h
    rw [delivered, List.length_take, List.length_take] at hlength
    have hmod := Nat.mod_lt (min define.capacity bytes.length) (show 0 < 2 ^ 16 by decide)
    omega
  · rintro ⟨hcapacity, hlength⟩
    rw [delivered, List.take_of_length_le hcapacity, Nat.mod_eq_of_lt hlength, List.take_length]

/-- The cell of a value under the contract. -/
theorem faithful_emittedCell_iff {define : Define} {type : Duckdb.LogicalType}
    (htype : IsString type) {f : FetchResult} {r j : ℕ} {value : OciValue}
    (hcell : CellObeys define f r j value) :
    Faithful (emittedCell convert define type value) (f.indicator j r) value ↔
      FitsBuffer define value := by
  cases value with
  | none =>
    have hindicator : f.indicator j r = -1 := hcell
    constructor
    · intro _ bytes h
      cases h
    · intro _
      exact ⟨⟨fun _ => hindicator, fun _ => rfl⟩, fun hne => absurd hindicator hne⟩
  | some bytes =>
    have hne : f.indicator j r ≠ -1 := by
      obtain ⟨-, -, hindicator⟩ := hcell
      split at hindicator
      · omega
      · rcases hindicator.2 with h | h <;> omega
    have hemitted : emittedCell convert define type (some bytes) =
        .string (delivered define bytes) := by
      rcases htype with rfl | rfl <;> rfl
    rw [hemitted]
    constructor
    · rintro ⟨-, hwhole⟩ bytes' h
      obtain rfl := Option.some.inj h
      obtain ⟨bytes', h', hstring⟩ := hwhole hne
      obtain rfl := Option.some.inj h'
      exact delivered_eq_iff.mp (OutputCell.string.inj hstring)
    · intro hfits
      refine ⟨⟨fun h => absurd h (by simp), fun h => absurd h hne⟩,
        fun _ => ⟨bytes, rfl, ?_⟩⟩
      rw [delivered_eq_iff.mpr (hfits bytes rfl)]

/-- OCI keeps to its contract in every fetch that does not fail; fetch `k` is of the rows
`batch k`. -/
def OciObeys (bind : OracleBindData) (oci : Oci) (batch : ℕ → List Row) : Prop :=
  ∀ k, (∀ e, (oci.fetch k).status ≠ .failure e) → Obeys bind (batch k) (oci.fetch k)

/-- **When a value is not shortened.**  In every call of every scan that returns rows, a
`VARCHAR` or `BLOB` cell is faithful exactly if its value fits the define buffer and has
fewer than 65536 bytes. -/
theorem string_cell_iff {bind : OracleBindData} (hsizes : DescribedSizes bind) {oci : Oci}
    {batch : ℕ → List Row} (hoci : OciObeys bind oci batch) {columnIds projectionIds : List ℕ}
    {types : List Duckdb.LogicalType} {n : ℕ} {chunk : List (List (OutputCell ν))}
    (hcall : callResult convert oci types (oracleInitGlobal bind columnIds projectionIds) n =
      .ok chunk)
    {r c j : ℕ} {cells : List (OutputCell ν)} {cell : OutputCell ν} {type : Duckdb.LogicalType}
    (hcells : chunk[r]? = some cells) (hcell : cells[c]? = some cell)
    (htype : types[c]? = some type) (hstring : IsString type)
    (hbuffer : bufferIdx bind columnIds projectionIds c = some j) :
    let k := (afterCalls convert oci types (oracleInitGlobal bind columnIds projectionIds)
      n).2.fetches
    ∃ row, (batch k)[r]? = some row ∧
      (Faithful cell ((oci.fetch k).indicator j r) (row.value j) ↔
        FitsBuffer (defineOf bind j) (row.value j)) := by
  intro k
  have hmapping := columnMapping_afterCalls convert oci types
    (oracleInitGlobal bind columnIds projectionIds) n
  obtain rfl | ⟨hok, state', hholds, hmapping', rfl⟩ := oracleQueryFunction_eq_ok convert hcall
  · cases hcells
  have hobeys := hoci k hok
  rw [map_fillRow_eq convert hsizes hobeys hholds (hmapping'.trans hmapping), List.getElem?_map,
    Option.map_eq_some_iff] at hcells
  obtain ⟨row, hrow, rfl⟩ := hcells
  refine ⟨row, hrow, ?_⟩
  rw [emittedRow, List.getElem?_mapIdx, htype, Option.map_some, hbuffer] at hcell
  obtain rfl := Option.some.inj hcell
  exact faithful_emittedCell_iff convert hstring (hobeys.cell r row hrow j (bufferIdx_lt hbuffer))

/-- A query with one `CLOB` column; its buffer has 16000 bytes for a cell. -/
def clobBind : OracleBindData :=
  oracleBindInternal "scott/tiger@db" "SELECT DOC FROM DOCS" {}
    [{ name := "DOC", dataType := .clob }]

/-- No conversions are needed for it. -/
def noConversion (_ : Duckdb.LogicalType) (_ : List UInt8) : Option Unit := none

/-- The rows of the first fetch, and none after it. -/
def firstBatch (rows : List Row) (k : ℕ) : List Row := if k = 0 then rows else []

/-- OCI with a result of one row. -/
def oneRow (text : List UInt8) : Oci where
  fetch k := deliver clobBind (firstBatch [[some text]] k)
    (if k = 0 then .successWithInfo else .noData)

theorem describedSizes_clob : DescribedSizes clobBind := by
  intro ociSize hmem
  obtain rfl := List.mem_singleton.mp hmem
  decide

theorem ociObeys_oneRow (text : List UInt8) :
    OciObeys clobBind (oneRow text) (firstBatch [[some text]]) := by
  intro k _
  refine obeys_deliver describedSizes_clob ?_ (Or.inl ?_)
  · unfold firstBatch
    split
    · exact Nat.le_of_ble_eq_true rfl
    · exact Nat.zero_le _
  · split
    · decide
    · decide

/-- The first call returns the row. -/
theorem callResult_oneRow (text : List UInt8) :
    callResult noConversion (oneRow text) [.varchar] (oracleInitGlobal clobBind [0] []) 0 =
      .ok [[.string (delivered (defineOf clobBind 0) text)]] := by
  have hobeys : Obeys clobBind [[some text]] ((oneRow text).fetch 0) :=
    ociObeys_oneRow text 0 (by intro e h; cases h)
  have hholds : OracleScanState.Holds { oracleInitGlobal clobBind [0] [] with
      executed := true
      buffers := ((oneRow text).fetch 0).buffers
      indicators := ((oneRow text).fetch 0).indicators
      returnLens := ((oneRow text).fetch 0).returnLens } ((oneRow text).fetch 0) := ⟨rfl, rfl, rfl⟩
  have hmapping : (oracleInitGlobal clobBind [0] []).columnMapping =
      columnMapping clobBind [0] [] := rfl
  exact congrArg Except.ok
    (map_fillRow_eq noConversion describedSizes_clob hobeys hholds hmapping [.varchar])

theorem string_cell_short :
    ∃ cell, callResult noConversion (oneRow [104, 105]) [.varchar]
        (oracleInitGlobal clobBind [0] []) 0 = .ok [[cell]] ∧
      Faithful cell (((oneRow [104, 105]).fetch 0).indicator 0 0) (some [104, 105]) := by
  have hcall := callResult_oneRow [104, 105]
  refine ⟨_, hcall, ?_⟩
  obtain ⟨row, hrow, hiff⟩ := string_cell_iff noConversion describedSizes_clob
    (ociObeys_oneRow [104, 105]) hcall (show [[_]][0]? = some _ from rfl)
    (show [_][0]? = some _ from rfl) (show [Duckdb.LogicalType.varchar][0]? = some _ from rfl)
    (Or.inl rfl) (show bufferIdx clobBind [0] [] 0 = some 0 from rfl)
  obtain rfl := Option.some.inj hrow
  refine hiff.mpr fun bytes hbytes => ?_
  obtain rfl := Option.some.inj hbytes
  decide

/-- **A long text is cut**, and nobody is told: of 20000 bytes 15999 arrive. -/
theorem longText_cut :
    OciObeys clobBind (oneRow (List.replicate 20000 120))
        (firstBatch [[some (List.replicate 20000 120)]]) ∧
      ∃ cell, callResult noConversion (oneRow (List.replicate 20000 120)) [.varchar]
          (oracleInitGlobal clobBind [0] []) 0 = .ok [[cell]] ∧
        ¬ Faithful cell (((oneRow (List.replicate 20000 120)).fetch 0).indicator 0 0)
          (some (List.replicate 20000 120)) := by
  refine ⟨ociObeys_oneRow _, _, callResult_oneRow _, ?_⟩
  intro hfaithful
  have hcell := (ociObeys_oneRow (List.replicate 20000 120) 0 (by intro e h; cases h)).cell 0 _ rfl
    0 (by decide)
  have hfits := (faithful_emittedCell_iff noConversion (Or.inl rfl) hcell).mp hfaithful
  have hlength : (List.replicate 20000 (120 : UInt8)).length ≤ (defineOf clobBind 0).capacity :=
    (hfits _ rfl).1
  rw [List.length_replicate] at hlength
  exact absurd hlength (by decide)

end Scan
end DuckdbOracle
