import Mathlib.Data.List.Forall2
import DuckdbOracle.Duckdb.Value
import DuckdbOracle.Foundations.StepRuns
import DuckdbOracle.Foundations.StridedBuffer

/-!
# The buffers of a COPY

`OracleWriteLocalState::Sink` copies a chunk into one buffer for each column and lets
Oracle read all of its rows from there in one execution.  The buffers grow with the
values, and a buffer that grows moves, so that Oracle has to be told again where it is:
`OCIBindByPos` passes the pointers, `OCIBindArrayOfStruct` the distance of two cells.

The model has the five parallel vectors of the source as one list with a record for each
column.  Oracle reads through the pointers it was given last (`ColumnBuffers.readCell`),
and through a pointer to a buffer that has moved it reads nothing one can rely on.

* `Bound` says that Oracle's bind of a column is the one of its present buffers.
* `Holds` says that a cell of the buffers has the text of a value.
* `prepare_spec` and `bindColumn_spec` say that Sink establishes the two.
-/

namespace DuckdbOracle
namespace Write

open Duckdb StridedBuffer StepRuns

/-- `STANDARD_VECTOR_SIZE`. -/
def standardVectorSize : ℕ := 2048

/-- `OracleWriteLocalState::MAX_BATCH_SIZE`. -/
def maxBatchSize : ℕ := standardVectorSize

/-- A `DataChunk` of `n` flat columns. -/
structure DataChunk (n : ℕ) where
  size : ℕ
  data : List (List Value)
  columnCount : data.length = n
  column_length : ∀ column ∈ data, column.length = size
  size_le : size ≤ standardVectorSize

/-- What is written for a value that is not `NULL`: the bytes of a `BLOB`, the text of
anything else. -/
def text? : Value → Option (List UInt8)
  | .null => none
  | .blob bytes => some bytes
  | v => some v.toString.toUTF8.data.toList

/-! ## The state -/

/-- The external type a column is bound with: `SQLT_CHR`, `SQLT_LBI` or `SQLT_LNG`. -/
inductive BindType where
  | chr
  | lbi
  | lng
  deriving DecidableEq

/-- What Oracle was told of a column by `OCIBindByPos` and `OCIBindArrayOfStruct`.  The
indicators and the lengths are one element apart. -/
structure OCIBind where
  position : ℕ
  valuep : ℕ
  valueSz : Int32
  dty : BindType
  indp : ℕ
  alenp : ℕ
  pvskip : UInt32
  deriving DecidableEq

/-- The entries of one column in the vectors of `OracleWriteLocalState`. -/
structure ColumnBuffers where
  bindBuffer : Block UInt8
  indicatorBuffer : Block Int16
  lengthBuffer : Block UInt16
  bind : Option OCIBind
  currentBufferSize : ℕ
  deriving DecidableEq

/-- A column right after the vectors have been resized. -/
def ColumnBuffers.unbound : ColumnBuffers := ⟨Block.empty, Block.empty, Block.empty, none, 0⟩

/-- The buffers of an `OracleWriteLocalState`; there are none before the first chunk. -/
structure OracleWriteLocalState where
  columns : List ColumnBuffers
  deriving DecidableEq

/-- What the OCI calls of one Sink call answer: nothing, or the text of an error. -/
structure Replies where
  bindByPos : ℕ → Option String
  bindArrayOfStruct : ℕ → Option String
  stmtExecute : Option String

/-- `CheckOCIError`. -/
def checkOCIError (reply : Option String) (msg : String) : Except String Unit :=
  match reply with
  | none => .ok ()
  | some errbuf => .error (msg ++ ": " ++ errbuf)

/-! ## Sizes and binds -/

/-- `(n + 3) & ~3`. -/
def align (n : ℕ) : ℕ := (n + 3) / 4 * 4

/-- The length of the longest text of a column. -/
def maxLen (column : List Value) : ℕ :=
  (column.filterMap text?).foldl (fun m s => max m s.length) 0

/-- `required_sizes[col_idx]`. -/
def requiredSize (column : List Value) : ℕ :=
  align (if 4096 < maxLen column then maxLen column + 32 else 4096)

/-- A column whose buffer is too small gets a larger one. -/
def ColumnBuffers.grow (required : ℕ) (b : ColumnBuffers) : ColumnBuffers :=
  if b.currentBufferSize < required then
    { b with
      currentBufferSize := required
      bindBuffer := b.bindBuffer.resize (maxBatchSize * required) 0 }
  else b

/-- The indicators and the lengths have one entry for each row. -/
def ColumnBuffers.resizeRows (b : ColumnBuffers) : ColumnBuffers :=
  { b with
    indicatorBuffer := b.indicatorBuffer.resize maxBatchSize 0
    lengthBuffer := b.lengthBuffer.resize maxBatchSize 0 }

/-- The external type for a type of Oracle. -/
def bindType (oracleType : String) : BindType :=
  let type := upper oracleType
  if type = "BLOB" ∨ type = "RAW" then .lbi
  else if type = "CLOB" then .lng
  else .chr

/-- Oracle's bind of the column number `c` after both calls. -/
def ColumnBuffers.bindTo (oracleTypes : List String) (c : ℕ) (b : ColumnBuffers) :
    ColumnBuffers :=
  { b with
    bind := some
      { position := c + 1
        valuep := b.bindBuffer.data
        valueSz := Int32.ofNat b.currentBufferSize
        dty := bindType (oracleTypes.getD c "")
        indp := b.indicatorBuffer.data
        alenp := b.lengthBuffer.data
        pvskip := UInt32.ofNat b.currentBufferSize } }

/-- Bind the columns from the number `c` on. -/
def bindAll (oracleTypes : List String) (replies : Replies) (c : ℕ) :
    List ColumnBuffers → Except String (List ColumnBuffers)
  | [] => .ok []
  | b :: bs => do
    checkOCIError (replies.bindByPos c) "OCIBindByPos"
    checkOCIError (replies.bindArrayOfStruct c) "OCIBindArrayOfStruct"
    let bound ← bindAll oracleTypes replies (c + 1) bs
    return b.bindTo oracleTypes c :: bound

/-- Some column needs a larger buffer. -/
def tooSmall (required : List ℕ) (columns : List ColumnBuffers) : Bool :=
  (required.zip columns).any fun p => p.2.currentBufferSize < p.1

/-- The part of Sink that sees to the buffers and the binds. -/
def prepare (oracleTypes : List String) (replies : Replies) (data : List (List Value))
    (columns : List ColumnBuffers) : Except String (List ColumnBuffers) :=
  let required := data.map requiredSize
  -- bind_buffers.empty(): the first chunk
  if columns = [] then
    let unbound := List.replicate data.length ColumnBuffers.unbound
    bindAll oracleTypes replies 0
      ((List.zipWith ColumnBuffers.grow required unbound).map ColumnBuffers.resizeRows)
  else if tooSmall required columns then
    bindAll oracleTypes replies 0
      ((List.zipWith ColumnBuffers.grow required columns).map ColumnBuffers.resizeRows)
  else .ok columns

/-! ## Copying a column, and the execution -/

/-- One turn of the loop of `OracleWriteLocalState::BindColumn`. -/
def ColumnBuffers.bindCell (b : ColumnBuffers) (i : ℕ) (value : Value) :
    Except String ColumnBuffers :=
  match text? value with
  | none =>
    .ok { b with
      indicatorBuffer := b.indicatorBuffer.set i (-1)
      lengthBuffer := b.lengthBuffer.set i 0 }
  | some text =>
    if b.currentBufferSize < text.length then .error "Value too large for buffer"
    else
      .ok { b with
        indicatorBuffer := b.indicatorBuffer.set i 0
        bindBuffer := b.bindBuffer.write (i * b.currentBufferSize) text
        lengthBuffer := b.lengthBuffer.set i (UInt16.ofNat text.length) }

/-- `OracleWriteLocalState::BindColumn`, from the row `i` on. -/
def ColumnBuffers.bindColumn (b : ColumnBuffers) (i : ℕ) :
    List Value → Except String ColumnBuffers
  | [] => .ok b
  | value :: values => do
    let b ← b.bindCell i value
    b.bindColumn (i + 1) values

/-- `BindColumn` of every column. -/
def bindColumns : List (List Value) → List ColumnBuffers → Except String (List ColumnBuffers)
  | column :: data, b :: columns => do
    let b ← b.bindColumn 0 column
    let columns ← bindColumns data columns
    return b :: columns
  | _, _ => .ok []

/-- A cell as Oracle reads it. -/
inductive OracleCell where
  | null
  | bytes (bs : List UInt8)
  /-- Read through a pointer that is not good, or outside of the buffers. -/
  | undefined
  deriving DecidableEq

/-- The cell that Oracle reads in the row `i`. -/
def ColumnBuffers.readCell (b : ColumnBuffers) (i : ℕ) : OracleCell :=
  let cell : Option OracleCell := do
    let bind ← b.bind
    let indicators ← b.indicatorBuffer.deref? bind.indp
    let indicator ← indicators[i]?
    if indicator = -1 then return .null
    let lengths ← b.lengthBuffer.deref? bind.alenp
    let length ← lengths[i]?
    let bytes ← b.bindBuffer.deref? bind.valuep
    return .bytes (readAt bytes (i * bind.pvskip.toNat) length.toNat)
  cell.getD .undefined

/-- The rows Oracle inserts in `OracleWriteLocalState::ExecuteBatch`. -/
def executeBatch (columns : List ColumnBuffers) (count : ℕ) : List (List OracleCell) :=
  (List.range count).map fun i => columns.map fun b => b.readCell i

/-- `OracleWriteLocalState::Sink`, with the rows that Oracle has inserted. -/
def sink {n : ℕ} (oracleTypes : List String) (state : OracleWriteLocalState)
    (chunk : DataChunk n) (replies : Replies) :
    Except String (OracleWriteLocalState × List (List OracleCell)) :=
  if chunk.size = 0 then .ok (state, [])
  else do
    let columns ← prepare oracleTypes replies chunk.data state.columns
    let columns ← bindColumns chunk.data columns
    checkOCIError replies.stmtExecute "OCIStmtExecute Insert"
    return (⟨columns⟩, executeBatch columns chunk.size)

/-! ## What holds of a column -/

/-- The data buffer has a cell for each row. -/
def Sized (b : ColumnBuffers) : Prop :=
  b.bindBuffer.elems.length = maxBatchSize * b.currentBufferSize

/-- **Oracle's bind of the column is the one of its present buffers.** -/
structure Bound (b : ColumnBuffers) : Prop where
  sized : Sized b
  indicators : b.indicatorBuffer.elems.length = maxBatchSize
  lengths : b.lengthBuffer.elems.length = maxBatchSize
  bind : ∃ k, b.bind = some k ∧ k.valuep = b.bindBuffer.data ∧ k.indp = b.indicatorBuffer.data ∧
    k.alenp = b.lengthBuffer.data ∧ k.pvskip = UInt32.ofNat b.currentBufferSize

/-- The cell `i` of the buffers has a text, or none for a `NULL`. -/
structure Holds (b : ColumnBuffers) (i : ℕ) (value : Option (List UInt8)) : Prop where
  indicator : b.indicatorBuffer.elems[i]? = some (if value = none then -1 else 0)
  length : ∀ text, value = some text →
    b.lengthBuffer.elems[i]? = some (UInt16.ofNat text.length)
  fits : ∀ text, value = some text → text.length ≤ b.currentBufferSize
  bytes : ∀ text, value = some text →
    readAt b.bindBuffer.elems (i * b.currentBufferSize) text.length = text

/-- What Oracle sees of a cell with a text: the length it is told has 16 bits, the distance
of two cells 32. -/
def ColumnBuffers.seenCell (b : ColumnBuffers) (i : ℕ) : Option (List UInt8) → OracleCell
  | none => .null
  | some text => .bytes (readAt b.bindBuffer.elems (i * (b.currentBufferSize % 2 ^ 32))
      (text.length % 2 ^ 16))

/-- **What Oracle reads of a cell that holds a value.** -/
theorem readCell_of_holds {b : ColumnBuffers} {i : ℕ} {value : Option (List UInt8)}
    (hbound : Bound b) (h : Holds b i value) : b.readCell i = b.seenCell i value := by
  obtain ⟨k, hk, hvalue, hind, hlen, hskip⟩ := hbound.bind
  have hindicator := h.indicator
  cases value with
  | none =>
    rw [if_pos rfl] at hindicator
    simp [ColumnBuffers.readCell, ColumnBuffers.seenCell, hk, hind, hindicator]
  | some text =>
    rw [if_neg (by simp)] at hindicator
    have hlength := h.length text rfl
    simp [ColumnBuffers.readCell, ColumnBuffers.seenCell, hk, hind, hlen, hvalue, hskip,
      hindicator, hlength]

/-! ## Making room -/

theorem le_align (n : ℕ) : n ≤ align n := by
  unfold align
  omega

theorem align_le (n : ℕ) : align n ≤ n + 3 := by
  unfold align
  omega

theorem foldl_max_le {texts : List (List UInt8)} {m n : ℕ} (hm : m ≤ n)
    (h : ∀ text ∈ texts, text.length ≤ n) :
    texts.foldl (fun m s => max m s.length) m ≤ n := by
  induction texts generalizing m with
  | nil => exact hm
  | cons text texts ih =>
    refine ih (Nat.max_le.mpr ⟨hm, h text List.mem_cons_self⟩) ?_
    exact fun t ht => h t (List.mem_cons_of_mem text ht)

theorem le_foldl_max (texts : List (List UInt8)) (m : ℕ) :
    m ≤ texts.foldl (fun m s => max m s.length) m ∧
      ∀ text ∈ texts, text.length ≤ texts.foldl (fun m s => max m s.length) m := by
  induction texts generalizing m with
  | nil => exact ⟨Nat.le_refl m, by simp⟩
  | cons text texts ih =>
    obtain ⟨hle, hmem⟩ := ih (max m text.length)
    refine ⟨(Nat.le_max_left _ _).trans hle, ?_⟩
    rintro t (_ | ⟨_, ht⟩)
    · exact (Nat.le_max_right _ _).trans hle
    · exact hmem t ht

/-- **Every text of a column fits into the size that is required for it.** -/
theorem length_le_requiredSize {column : List Value} {value : Value} {text : List UInt8}
    (hvalue : value ∈ column) (htext : text? value = some text) :
    text.length ≤ requiredSize column := by
  have hmem : text ∈ column.filterMap text? := List.mem_filterMap.mpr ⟨value, hvalue, htext⟩
  have hmax : text.length ≤ maxLen column := (le_foldl_max _ 0).2 text hmem
  refine le_trans ?_ (le_align _)
  split
  · omega
  · omega

/-- The required size is little more than the longest text. -/
theorem requiredSize_le {column : List Value} {n : ℕ} (hn : 4096 ≤ n)
    (h : ∀ value ∈ column, ∀ text, text? value = some text → text.length ≤ n) :
    requiredSize column ≤ n + 35 := by
  have hmax : maxLen column ≤ n := by
    refine foldl_max_le (Nat.zero_le n) fun text htext => ?_
    obtain ⟨value, hvalue, hv⟩ := List.mem_filterMap.mp htext
    exact h value hvalue text hv
  refine (align_le _).trans ?_
  split
  · omega
  · omega

theorem sized_unbound : Sized ColumnBuffers.unbound := by
  show 0 = maxBatchSize * 0
  omega

/-- A column that has been grown is large enough, and no larger than it has to be. -/
theorem grow_spec {b : ColumnBuffers} (h : Sized b) (required : ℕ) :
    Sized (b.grow required) ∧
      (b.grow required).currentBufferSize = max b.currentBufferSize required := by
  unfold ColumnBuffers.grow
  by_cases hlt : b.currentBufferSize < required
  · rw [if_pos hlt]
    refine ⟨?_, (Nat.max_eq_right (Nat.le_of_lt hlt)).symm⟩
    show (b.bindBuffer.resize (maxBatchSize * required) 0).elems.length = maxBatchSize * required
    exact Block.length_resize _ _ _
  · rw [if_neg hlt]
    exact ⟨h, (Nat.max_eq_left (Nat.not_lt.mp hlt)).symm⟩

/-- After the two calls the bind is the one of the present buffers. -/
theorem bound_bindTo {b : ColumnBuffers} (h : Sized b) (oracleTypes : List String) (c : ℕ) :
    Bound (b.resizeRows.bindTo oracleTypes c) where
  sized := h
  indicators := Block.length_resize _ _ _
  lengths := Block.length_resize _ _ _
  bind := ⟨_, rfl, rfl, rfl, rfl, rfl⟩

theorem bindAll_spec {oracleTypes : List String} {replies : Replies} {c : ℕ}
    {columns bound : List ColumnBuffers}
    (h : bindAll oracleTypes replies c columns = .ok bound) :
    List.Forall₂ (fun b b' => ∃ c, b' = b.bindTo oracleTypes c) columns bound := by
  induction columns generalizing c bound with
  | nil =>
    obtain rfl := Except.ok.inj h
    exact List.Forall₂.nil
  | cons b bs ih =>
    rw [bindAll] at h
    obtain ⟨-, -, h⟩ := bind_eq_ok.mp h
    obtain ⟨-, -, h⟩ := bind_eq_ok.mp h
    obtain ⟨rest, hrest, h⟩ := bind_eq_ok.mp h
    obtain rfl := Except.ok.inj h
    exact List.Forall₂.cons ⟨c, rfl⟩ (ih hrest)

/-- A column is bound, and its cells are large enough for the texts of `column`.  They are
as large as they were (`size`), or as is required. -/
structure Ready (size : ℕ) (column : List Value) (b : ColumnBuffers) : Prop where
  bound : Bound b
  large : requiredSize column ≤ b.currentBufferSize
  notLarger : b.currentBufferSize ≤ max size (requiredSize column)

/-- Growing and binding makes every column ready. -/
theorem rebind_spec {oracleTypes : List String} {replies : Replies} {data : List (List Value)}
    {columns bound : List ColumnBuffers} {size : ℕ} (hlength : columns.length = data.length)
    (hsized : ∀ b ∈ columns, Sized b) (hsize : ∀ b ∈ columns, b.currentBufferSize ≤ size)
    (h : bindAll oracleTypes replies 0 ((List.zipWith ColumnBuffers.grow
      (data.map requiredSize) columns).map ColumnBuffers.resizeRows) = .ok bound) :
    List.Forall₂ (Ready size) data bound := by
  have hall := bindAll_spec h
  clear h
  induction data generalizing columns bound with
  | nil =>
    obtain rfl := List.length_eq_zero_iff.mp hlength
    obtain rfl := List.forall₂_nil_left_iff.mp hall
    exact List.Forall₂.nil
  | cons column data ih =>
    obtain ⟨b, bs, rfl⟩ := List.exists_cons_of_length_eq_add_one hlength
    simp only [List.map_cons, List.zipWith_cons_cons] at hall
    obtain ⟨b', bs', ⟨c, rfl⟩, hrest, rfl⟩ := List.forall₂_cons_left_iff.mp hall
    obtain ⟨hgrown, hsize'⟩ := grow_spec (hsized b List.mem_cons_self) (requiredSize column)
    have hb := hsize b List.mem_cons_self
    refine List.Forall₂.cons ⟨bound_bindTo hgrown oracleTypes c, ?_, ?_⟩ (ih ?_ ?_ ?_ hrest)
    · show requiredSize column ≤ (b.grow (requiredSize column)).currentBufferSize
      omega
    · show (b.grow (requiredSize column)).currentBufferSize ≤ max size (requiredSize column)
      omega
    · exact Nat.succ.inj hlength
    · exact fun x hx => hsized x (List.mem_cons_of_mem b hx)
    · exact fun x hx => hsize x (List.mem_cons_of_mem b hx)

/-- Without a rebind every column is ready as it is. -/
theorem ready_of_not_tooSmall {data : List (List Value)} {columns : List ColumnBuffers}
    {size : ℕ} (hlength : columns.length = data.length) (hbound : ∀ b ∈ columns, Bound b)
    (hsize : ∀ b ∈ columns, b.currentBufferSize ≤ size)
    (h : tooSmall (data.map requiredSize) columns = false) :
    List.Forall₂ (Ready size) data columns := by
  induction data generalizing columns with
  | nil =>
    obtain rfl := List.length_eq_zero_iff.mp hlength
    exact List.Forall₂.nil
  | cons column data ih =>
    obtain ⟨b, bs, rfl⟩ := List.exists_cons_of_length_eq_add_one hlength
    simp only [tooSmall, List.map_cons, List.zip_cons_cons, List.any_cons, Bool.or_eq_false_iff,
      decide_eq_false_iff_not, Nat.not_lt] at h
    have hb := hsize b List.mem_cons_self
    refine List.Forall₂.cons ⟨hbound b List.mem_cons_self, h.1, by omega⟩ (ih ?_ ?_ ?_ h.2)
    · exact Nat.succ.inj hlength
    · exact fun x hx => hbound x (List.mem_cons_of_mem b hx)
    · exact fun x hx => hsize x (List.mem_cons_of_mem b hx)

/-- The buffers between two calls: each is bound, and there is one for each column unless
there was no chunk yet. -/
structure Between (n size : ℕ) (state : OracleWriteLocalState) : Prop where
  length : state.columns = [] ∨ state.columns.length = n
  bound : ∀ b ∈ state.columns, Bound b
  notLarger : ∀ b ∈ state.columns, b.currentBufferSize ≤ size

/-- **After the preparations every column is ready**: bound where its buffers are now, with
cells that are large enough for the chunk. -/
theorem prepare_spec {oracleTypes : List String} {replies : Replies} {data : List (List Value)}
    {state : OracleWriteLocalState} {bound : List ColumnBuffers} {size : ℕ}
    (hstate : Between data.length size state)
    (h : prepare oracleTypes replies data state.columns = .ok bound) :
    List.Forall₂ (Ready size) data bound := by
  unfold prepare at h
  by_cases hempty : state.columns = []
  · rw [if_pos hempty] at h
    have hmem : ∀ b ∈ List.replicate data.length ColumnBuffers.unbound,
        b = ColumnBuffers.unbound := fun b hb => List.eq_of_mem_replicate hb
    refine rebind_spec List.length_replicate (fun b hb => ?_) (fun b hb => ?_) h
    · rw [hmem b hb]
      exact sized_unbound
    · rw [hmem b hb]
      exact Nat.zero_le size
  · have hlength := hstate.length.resolve_left hempty
    rw [if_neg hempty] at h
    cases hsmall : tooSmall (data.map requiredSize) state.columns with
    | true =>
      rw [if_pos hsmall] at h
      exact rebind_spec hlength (fun b hb => (hstate.bound b hb).sized) hstate.notLarger h
    | false =>
      rw [if_neg (by rw [hsmall]; exact Bool.false_ne_true)] at h
      obtain rfl := Except.ok.inj h
      exact ready_of_not_tooSmall hlength hstate.bound hstate.notLarger hsmall

/-! ## Copying -/

/-- **What copying one value does**: its cell holds it, and the other cells hold what they
held. -/
theorem bindCell_spec {b b' : ColumnBuffers} {i : ℕ} {value : Value} (hbound : Bound b)
    (hi : i < maxBatchSize) (h : b.bindCell i value = .ok b') :
    Bound b' ∧ b'.currentBufferSize = b.currentBufferSize ∧ Holds b' i (text? value) ∧
      ∀ j w, j ≠ i → Holds b j w → Holds b' j w := by
  have hind : i < b.indicatorBuffer.elems.length := by rw [hbound.indicators]; exact hi
  have hlen : i < b.lengthBuffer.elems.length := by rw [hbound.lengths]; exact hi
  unfold ColumnBuffers.bindCell at h
  cases htext : text? value with
  | none =>
    rw [htext] at h
    obtain rfl := Except.ok.inj h
    refine ⟨⟨hbound.sized, (Block.length_set _ _ _).trans hbound.indicators,
      (Block.length_set _ _ _).trans hbound.lengths, hbound.bind⟩, rfl, ⟨?_, ?_, ?_, ?_⟩, ?_⟩
    · exact List.getElem?_set_self hind
    · exact fun _ ht => nomatch ht
    · exact fun _ ht => nomatch ht
    · exact fun _ ht => nomatch ht
    · intro j w hji hw
      refine ⟨?_, fun text ht => ?_, hw.fits, hw.bytes⟩
      · exact (List.getElem?_set_ne hji.symm).trans hw.indicator
      · exact (List.getElem?_set_ne hji.symm).trans (hw.length text ht)
  | some text =>
    rw [htext] at h
    dsimp only at h
    by_cases hlarge : b.currentBufferSize < text.length
    · rw [if_pos hlarge] at h
      exact nomatch h
    · rw [if_neg hlarge] at h
      obtain rfl := Except.ok.inj h
      have hfits : text.length ≤ b.currentBufferSize := Nat.not_lt.mp hlarge
      have hroom : i * b.currentBufferSize + text.length ≤ b.bindBuffer.elems.length := by
        rw [hbound.sized]
        exact cell_le hi hfits
      refine ⟨⟨(length_writeAt hroom).trans hbound.sized,
        (Block.length_set _ _ _).trans hbound.indicators,
        (Block.length_set _ _ _).trans hbound.lengths, hbound.bind⟩, rfl, ⟨?_, ?_, ?_, ?_⟩, ?_⟩
      · exact List.getElem?_set_self hind
      · rintro _ ⟨⟩
        exact List.getElem?_set_self hlen
      · rintro _ ⟨⟩
        exact hfits
      · rintro _ ⟨⟩
        exact readAt_writeAt_self hroom
      · intro j w hji hw
        refine ⟨?_, fun t ht => ?_, hw.fits, fun t ht => ?_⟩
        · exact (List.getElem?_set_ne hji.symm).trans hw.indicator
        · exact (List.getElem?_set_ne hji.symm).trans (hw.length t ht)
        · exact (readAt_cell_of_ne hroom hfits (hw.fits t ht) hji.symm).trans (hw.bytes t ht)

/-- The buffers hold the values of a column, row by row. -/
def HoldsColumn (column : List Value) (b : ColumnBuffers) : Prop :=
  ∀ (i : ℕ) (value : Value), column[i]? = some value → Holds b i (text? value)

/-- **What copying a column does**, from the row `i` on: the rows before stay, the others
hold their values. -/
theorem bindColumn_spec {b b' : ColumnBuffers} {i : ℕ} {values : List Value} (hbound : Bound b)
    (hi : i + values.length ≤ maxBatchSize) (h : b.bindColumn i values = .ok b') :
    Bound b' ∧ b'.currentBufferSize = b.currentBufferSize ∧
      (∀ j w, j < i → Holds b j w → Holds b' j w) ∧
      ∀ (k : ℕ) (value : Value), values[k]? = some value → Holds b' (i + k) (text? value) := by
  induction values generalizing b i with
  | nil =>
    obtain rfl := Except.ok.inj h
    exact ⟨hbound, rfl, fun _ _ _ hw => hw, fun k value hk => by simp at hk⟩
  | cons value values ih =>
    rw [List.length_cons] at hi
    rw [ColumnBuffers.bindColumn] at h
    obtain ⟨c, hc, h⟩ := bind_eq_ok.mp h
    obtain ⟨hcbound, hcsize, hcell, hother⟩ := bindCell_spec hbound (by omega) hc
    obtain ⟨hbound', hsize', hbefore, hafter⟩ := ih hcbound (by omega) h
    refine ⟨hbound', hsize'.trans hcsize, fun j w hj hw => ?_, fun k v hk => ?_⟩
    · exact hbefore j w (by omega) (hother j w (by omega) hw)
    · cases k with
      | zero =>
        obtain rfl := Option.some.inj hk
        exact hbefore i _ (by omega) hcell
      | succ k =>
        rw [show i + (k + 1) = i + 1 + k by omega]
        exact hafter k v hk

theorem bindColumns_spec {data : List (List Value)} {columns columns' : List ColumnBuffers}
    {size count : ℕ} (hcount : ∀ column ∈ data, column.length = count)
    (hle : count ≤ maxBatchSize) (hready : List.Forall₂ (Ready size) data columns)
    (h : bindColumns data columns = .ok columns') :
    List.Forall₂ (fun column b => Ready size column b ∧ HoldsColumn column b) data columns' := by
  induction hready generalizing columns' with
  | nil =>
    obtain rfl := Except.ok.inj h
    exact List.Forall₂.nil
  | cons hb _ ih =>
    rw [bindColumns] at h
    obtain ⟨b', hb', h⟩ := bind_eq_ok.mp h
    obtain ⟨rest, hrest, h⟩ := bind_eq_ok.mp h
    obtain rfl := Except.ok.inj h
    have hlength := hcount _ List.mem_cons_self
    obtain ⟨hbound, hsize, -, hcells⟩ := bindColumn_spec hb.bound (by omega) hb'
    refine List.Forall₂.cons ⟨⟨hbound, ?_, ?_⟩, fun i value hi => ?_⟩ (ih ?_ hrest)
    · rw [hsize]
      exact hb.large
    · rw [hsize]
      exact hb.notLarger
    · rw [← Nat.zero_add i]
      exact hcells i value hi
    · exact fun column hcolumn => hcount column (List.mem_cons_of_mem _ hcolumn)

/-- The three parts of a Sink call with rows that returns. -/
theorem parts_of_sink {n : ℕ} {oracleTypes : List String} {state state' : OracleWriteLocalState}
    {chunk : DataChunk n} {replies : Replies} {rows : List (List OracleCell)}
    (hrows : chunk.size ≠ 0)
    (h : sink oracleTypes state chunk replies = .ok (state', rows)) :
    ∃ ready, prepare oracleTypes replies chunk.data state.columns = .ok ready ∧
      bindColumns chunk.data ready = .ok state'.columns ∧
      rows = executeBatch state'.columns chunk.size := by
  rw [sink, if_neg hrows] at h
  obtain ⟨ready, hready, h⟩ := bind_eq_ok.mp h
  obtain ⟨columns, hcolumns, h⟩ := bind_eq_ok.mp h
  obtain ⟨-, -, h⟩ := bind_eq_ok.mp h
  obtain ⟨rfl, rfl⟩ := Prod.mk.inj (Except.ok.inj h)
  exact ⟨ready, hready, hcolumns, rfl⟩

/-- **What one Sink call does.**  After a call with rows that returns, every column is
bound where its buffers are and holds the values of the chunk, and what Oracle has
inserted is what it reads there. -/
theorem sink_spec {n size : ℕ} {oracleTypes : List String} {state state' : OracleWriteLocalState}
    {chunk : DataChunk n} {replies : Replies} {rows : List (List OracleCell)}
    (hstate : Between n size state) (hrows : chunk.size ≠ 0)
    (h : sink oracleTypes state chunk replies = .ok (state', rows)) :
    List.Forall₂ (fun column b => Ready size column b ∧ HoldsColumn column b)
        chunk.data state'.columns ∧
      rows = executeBatch state'.columns chunk.size := by
  obtain ⟨ready, hready, hcolumns, hread⟩ := parts_of_sink hrows h
  rw [← chunk.columnCount] at hstate
  have hforall := prepare_spec hstate hready
  exact ⟨bindColumns_spec chunk.column_length chunk.size_le hforall hcolumns, hread⟩

/-! ## Nothing is too large -/

/-- No OCI call fails. -/
structure Replies.Ok (replies : Replies) : Prop where
  bindByPos : ∀ c, replies.bindByPos c = none
  bindArrayOfStruct : ∀ c, replies.bindArrayOfStruct c = none
  stmtExecute : replies.stmtExecute = none

theorem exists_bindAll {replies : Replies} (hreplies : replies.Ok) (oracleTypes : List String)
    (c : ℕ) (columns : List ColumnBuffers) :
    ∃ bound, bindAll oracleTypes replies c columns = .ok bound := by
  induction columns generalizing c with
  | nil => exact ⟨[], rfl⟩
  | cons b bs ih =>
    obtain ⟨bound, hbound⟩ := ih (c + 1)
    refine ⟨b.bindTo oracleTypes c :: bound, ?_⟩
    rw [bindAll, hreplies.bindByPos c, hreplies.bindArrayOfStruct c, hbound]
    rfl

theorem exists_prepare {replies : Replies} (hreplies : replies.Ok) (oracleTypes : List String)
    (data : List (List Value)) (columns : List ColumnBuffers) :
    ∃ bound, prepare oracleTypes replies data columns = .ok bound := by
  by_cases hempty : columns = []
  · rw [prepare, if_pos hempty]
    exact exists_bindAll hreplies oracleTypes 0 _
  · by_cases hsmall : tooSmall (data.map requiredSize) columns = true
    · rw [prepare, if_neg hempty, if_pos hsmall]
      exact exists_bindAll hreplies oracleTypes 0 _
    · rw [prepare, if_neg hempty, if_neg hsmall]
      exact ⟨columns, rfl⟩

/-- A column is copied without an error if all of its texts fit. -/
theorem exists_bindColumn {b : ColumnBuffers} {i : ℕ} {values : List Value}
    (hfits : ∀ value ∈ values, ∀ text, text? value = some text →
      text.length ≤ b.currentBufferSize) : ∃ b', b.bindColumn i values = .ok b' := by
  induction values generalizing b i with
  | nil => exact ⟨b, rfl⟩
  | cons value values ih =>
    have hcell : ∃ c, b.bindCell i value = .ok c ∧
        c.currentBufferSize = b.currentBufferSize := by
      unfold ColumnBuffers.bindCell
      cases htext : text? value with
      | none => exact ⟨_, rfl, rfl⟩
      | some text =>
        have hle := hfits value List.mem_cons_self text htext
        exact ⟨_, if_neg (Nat.not_lt.mpr hle), rfl⟩
    obtain ⟨c, hc, hsize⟩ := hcell
    obtain ⟨b', hb'⟩ := @ih c (i + 1) fun v hv text htext => by
      rw [hsize]
      exact hfits v (List.mem_cons_of_mem value hv) text htext
    exact ⟨b', bind_eq_ok.mpr ⟨c, hc, hb'⟩⟩

theorem exists_bindColumns {data : List (List Value)} {columns : List ColumnBuffers} {size : ℕ}
    (hready : List.Forall₂ (Ready size) data columns) :
    ∃ columns', bindColumns data columns = .ok columns' := by
  induction hready with
  | nil => exact ⟨[], rfl⟩
  | @cons column b data columns hb _ ih =>
    obtain ⟨rest, hrest⟩ := ih
    obtain ⟨b', hb'⟩ := @exists_bindColumn b 0 column fun value hvalue text htext =>
      (length_le_requiredSize hvalue htext).trans hb.large
    exact ⟨b' :: rest, bind_eq_ok.mpr ⟨b', hb', bind_eq_ok.mpr ⟨rest, hrest, rfl⟩⟩⟩

/-- **A Sink call throws only if an OCI call fails**: no value is too large for its
buffer. -/
theorem exists_sink {n size : ℕ} {oracleTypes : List String} {state : OracleWriteLocalState}
    (hstate : Between n size state) (chunk : DataChunk n) {replies : Replies}
    (hreplies : replies.Ok) : ∃ result, sink oracleTypes state chunk replies = .ok result := by
  unfold sink
  by_cases hrows : chunk.size = 0
  · exact ⟨(state, []), if_pos hrows⟩
  · rw [if_neg hrows]
    rw [← chunk.columnCount] at hstate
    obtain ⟨ready, hready⟩ := exists_prepare hreplies oracleTypes chunk.data state.columns
    obtain ⟨columns, hcolumns⟩ := exists_bindColumns (prepare_spec hstate hready)
    refine ⟨(⟨columns⟩, executeBatch columns chunk.size), bind_eq_ok.mpr ⟨ready, hready, ?_⟩⟩
    refine bind_eq_ok.mpr ⟨columns, hcolumns, ?_⟩
    rw [hreplies.stmtExecute]
    rfl

end Write
end DuckdbOracle
