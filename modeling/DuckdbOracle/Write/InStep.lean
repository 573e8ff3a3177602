import DuckdbOracle.Write.Delivery

/-!
# Are the buffers and the binds in step?

A buffer that grows moves, and its cells are farther apart than before.  Sink grows and
binds in one go, and all columns at once: whatever the earlier chunks were, at each
`ExecuteBatch` the last bind of a column has the pointers of its present buffers, and the
sizes that one loop computes have room for all that the other one copies.

The distance of two cells is computed as a `size_t` and passed as a `ub4`.  That is where
the two part: cells of 4 GiB and more are copied one such distance apart, and Oracle is
told the distance modulo `2 ^ 32`.  `stays_in_step_iff` says that this is all there is.
-/

namespace DuckdbOracle
namespace Write

open Duckdb StridedBuffer StepRuns

variable {n : ℕ}

/-! ## In step -/

/-- The buffers when Sink calls `ExecuteBatch`. -/
def buffersAtExecute (oracleTypes : List String) (state : OracleWriteLocalState)
    (call : SinkCall n) : Except String (List ColumnBuffers) := do
  let columns ← prepare oracleTypes call.replies call.chunk.data state.columns
  bindColumns call.chunk.data columns

/-- **A column is in step**: the last `OCIBindByPos` passed its present buffers, the last
`OCIBindArrayOfStruct` the size of its cells, the buffer has a cell for each row, and the
copies that `BindColumn` made of the values of `column` lie in the cells of their rows. -/
structure InStep (column : List Value) (b : ColumnBuffers) : Prop where
  bind : ∃ k, b.bind = some k ∧ k.valuep = b.bindBuffer.data ∧ k.indp = b.indicatorBuffer.data ∧
    k.alenp = b.lengthBuffer.data ∧ k.pvskip.toNat = b.currentBufferSize
  room : b.bindBuffer.elems.length = maxBatchSize * b.currentBufferSize
  copies : ∀ i value text, column[i]? = some value → text? value = some text →
    let offset := i * b.currentBufferSize
    offset + text.length ≤ (i + 1) * b.currentBufferSize ∧
      (i + 1) * b.currentBufferSize ≤ b.bindBuffer.elems.length ∧
      readAt b.bindBuffer.elems offset text.length = text

/-- No buffer has become smaller. -/
def Grows (columns columns' : List ColumnBuffers) : Prop :=
  List.Forall₂ (fun b b' => b.currentBufferSize ≤ b'.currentBufferSize) columns columns'

/-- **A call is in step**, however Oracle answers in it. -/
structure CallInStep (oracleTypes : List String) (state : OracleWriteLocalState)
    (call : SinkCall n) : Prop where
  executes : call.chunk.size ≠ 0 → ∀ columns,
    buffersAtExecute oracleTypes state call = .ok columns →
      List.Forall₂ InStep call.chunk.data columns
  fits : sink oracleTypes state call.chunk call.replies ≠ .error "Value too large for buffer"
  grows : ∀ state' rows, sink oracleTypes state call.chunk call.replies = .ok (state', rows) →
    state.columns = [] ∨ Grows state.columns state'.columns

/-- **Every call is in step**, as long as the ones before it have returned. -/
def StaysInStep (oracleTypes : List String) (calls : List (SinkCall n)) : Prop :=
  Guarded (sinkStep oracleTypes) (fun copy call => CallInStep oracleTypes copy.state call)
    Copy.start calls

/-! ## Sizes -/

/-- **When a cell is smaller than 4 GiB.** -/
theorem requiredSize_lt_iff {column : List Value} :
    requiredSize column < 2 ^ 32 ↔
      ∀ value ∈ column, ∀ text, text? value = some text → text.length ≤ 4294967260 := by
  constructor
  · intro hlt value hvalue text htext
    have hmem : text ∈ column.filterMap text? := List.mem_filterMap.mpr ⟨value, hvalue, htext⟩
    have hmax : text.length ≤ maxLen column := (le_foldl_max _ 0).2 text hmem
    unfold requiredSize align at hlt
    split at hlt
    · omega
    · omega
  · intro h
    have hle := requiredSize_le (n := 4294967260) (by omega) h
    omega

theorem grow_le (required : ℕ) (b : ColumnBuffers) :
    b.currentBufferSize ≤ (b.grow required).currentBufferSize := by
  unfold ColumnBuffers.grow
  split
  · next hlt => exact Nat.le_of_lt hlt
  · exact Nat.le_refl _

theorem grows_refl (columns : List ColumnBuffers) : Grows columns columns :=
  List.forall₂_same.mpr fun _ _ => Nat.le_refl _

theorem grows_trans {columns columns' columns'' : List ColumnBuffers}
    (h : Grows columns columns') (h' : Grows columns' columns'') : Grows columns columns'' := by
  induction h generalizing columns'' with
  | nil => exact h'
  | cons hle _ ih =>
    obtain ⟨b, bs, hle', hrest, rfl⟩ := List.forall₂_cons_left_iff.mp h'
    exact List.Forall₂.cons (hle.trans hle') (ih hrest)

/-- Binding changes no size. -/
theorem grows_rebind {oracleTypes : List String} {replies : Replies} {required : List ℕ}
    {columns bound : List ColumnBuffers} (hlength : columns.length = required.length)
    (h : bindAll oracleTypes replies 0 ((List.zipWith ColumnBuffers.grow required columns).map
      ColumnBuffers.resizeRows) = .ok bound) : Grows columns bound := by
  have hall := bindAll_spec h
  clear h
  induction required generalizing columns bound with
  | nil =>
    obtain rfl := List.length_eq_zero_iff.mp hlength
    obtain rfl := List.forall₂_nil_left_iff.mp hall
    exact List.Forall₂.nil
  | cons size required ih =>
    obtain ⟨b, bs, rfl⟩ := List.exists_cons_of_length_eq_add_one hlength
    simp only [List.zipWith_cons_cons, List.map_cons] at hall
    obtain ⟨b', bs', ⟨c, rfl⟩, hrest, rfl⟩ := List.forall₂_cons_left_iff.mp hall
    exact List.Forall₂.cons (grow_le size b) (ih (Nat.succ.inj hlength) hrest)

theorem grows_prepare {oracleTypes : List String} {replies : Replies} {data : List (List Value)}
    {columns bound : List ColumnBuffers} (hne : columns ≠ [])
    (hlength : columns.length = data.length)
    (h : prepare oracleTypes replies data columns = .ok bound) : Grows columns bound := by
  rw [prepare, if_neg hne] at h
  split at h
  · exact grows_rebind (by rw [hlength, List.length_map]) h
  · obtain rfl := Except.ok.inj h
    exact grows_refl columns

/-- Copying changes no size. -/
theorem bindCell_size {b b' : ColumnBuffers} {i : ℕ} {value : Value}
    (h : b.bindCell i value = .ok b') : b'.currentBufferSize = b.currentBufferSize := by
  unfold ColumnBuffers.bindCell at h
  split at h
  · obtain rfl := Except.ok.inj h
    rfl
  · split at h
    · cases h
    · obtain rfl := Except.ok.inj h
      rfl

theorem bindColumn_size {b b' : ColumnBuffers} {i : ℕ} {values : List Value}
    (h : b.bindColumn i values = .ok b') : b'.currentBufferSize = b.currentBufferSize := by
  induction values generalizing b i with
  | nil =>
    obtain rfl := Except.ok.inj h
    rfl
  | cons value values ih =>
    obtain ⟨c, hc, h⟩ := bind_eq_ok.mp h
    exact (ih h).trans (bindCell_size hc)

theorem grows_bindColumns {data : List (List Value)} {columns columns' : List ColumnBuffers}
    (hlength : columns.length = data.length) (h : bindColumns data columns = .ok columns') :
    Grows columns columns' := by
  induction data generalizing columns columns' with
  | nil =>
    obtain rfl := List.length_eq_zero_iff.mp hlength
    obtain rfl := Except.ok.inj h
    exact List.Forall₂.nil
  | cons column data ih =>
    obtain ⟨b, bs, rfl⟩ := List.exists_cons_of_length_eq_add_one hlength
    rw [bindColumns] at h
    obtain ⟨b', hb', h⟩ := bind_eq_ok.mp h
    obtain ⟨rest, hrest, h⟩ := bind_eq_ok.mp h
    obtain rfl := Except.ok.inj h
    exact List.Forall₂.cons (bindColumn_size hb').ge (ih (Nat.succ.inj hlength) hrest)

/-! ## Errors -/

/-- An error of OCI, with the call that it came from. -/
def FromOci (e : String) : Prop :=
  ∃ msg ∈ ["OCIBindByPos", "OCIBindArrayOfStruct", "OCIStmtExecute Insert"], ∃ errbuf : String,
    e = msg ++ ": " ++ errbuf

theorem checkOCIError_eq_error {reply : Option String} {msg e : String}
    (h : checkOCIError reply msg = .error e) : ∃ errbuf, e = msg ++ ": " ++ errbuf := by
  cases reply with
  | none => cases h
  | some errbuf => exact ⟨errbuf, (Except.error.inj h).symm⟩

theorem bindAll_error {oracleTypes : List String} {replies : Replies} {c : ℕ}
    {columns : List ColumnBuffers} {e : String}
    (h : bindAll oracleTypes replies c columns = .error e) : FromOci e := by
  induction columns generalizing c with
  | nil => cases h
  | cons b bs ih =>
    rw [bindAll] at h
    rcases bind_eq_error.mp h with hbind | ⟨-, -, h⟩
    · exact ⟨_, by simp, checkOCIError_eq_error hbind⟩
    rcases bind_eq_error.mp h with harray | ⟨-, -, h⟩
    · exact ⟨_, by simp, checkOCIError_eq_error harray⟩
    rcases bind_eq_error.mp h with hrest | ⟨rest, -, h⟩
    · exact ih hrest
    · cases h

theorem prepare_error {oracleTypes : List String} {replies : Replies} {data : List (List Value)}
    {columns : List ColumnBuffers} {e : String}
    (h : prepare oracleTypes replies data columns = .error e) : FromOci e := by
  unfold prepare at h
  dsimp only at h
  split at h
  · exact bindAll_error h
  · split at h
    · exact bindAll_error h
    · cases h

section

variable {size : ℕ} {oracleTypes : List String} {state : OracleWriteLocalState}
  {call : SinkCall n}

/-- Sink throws nothing but the errors of OCI. -/
theorem sink_error (hstate : Between n size state) {e : String}
    (h : sink oracleTypes state call.chunk call.replies = .error e) : FromOci e := by
  unfold sink at h
  split at h
  · cases h
  · rcases bind_eq_error.mp h with hprepare | ⟨ready, hprepare, h⟩
    · exact prepare_error hprepare
    rcases bind_eq_error.mp h with hcopy | ⟨columns, -, h⟩
    · rw [← call.chunk.columnCount] at hstate
      obtain ⟨columns, hcolumns⟩ := exists_bindColumns (prepare_spec hstate hprepare)
      rw [hcolumns] at hcopy
      cases hcopy
    rcases bind_eq_error.mp h with hexecute | ⟨-, -, h⟩
    · exact ⟨_, by simp, checkOCIError_eq_error hexecute⟩
    · cases h

theorem fromOci_ne {e : String} (h : FromOci e) : e ≠ "Value too large for buffer" := by
  rintro rfl
  obtain ⟨msg, hmsg, errbuf, heq⟩ := h
  have hhead := congrArg (fun s => s.toList.head?) heq
  have hO : (msg ++ ": " ++ errbuf).toList.head? = some 'O' := by
    simp only [List.mem_cons, List.not_mem_nil, or_false] at hmsg
    rw [String.toList_append, String.toList_append]
    rcases hmsg with rfl | rfl | rfl <;> rfl
  rw [show (msg ++ ": " ++ errbuf).toList.head? = some 'O' from hO] at hhead
  exact absurd hhead (by decide)

/-! ## One call -/

/-- **At `ExecuteBatch` every column is ready**, and its buffers hold the chunk. -/
theorem ready_at_execute (hstate : Between n size state) {columns : List ColumnBuffers}
    (h : buffersAtExecute oracleTypes state call = .ok columns) :
    Written size call.chunk.data columns := by
  obtain ⟨ready, hready, hcolumns⟩ := bind_eq_ok.mp h
  rw [← call.chunk.columnCount] at hstate
  exact bindColumns_spec call.chunk.column_length call.chunk.size_le (prepare_spec hstate hready)
    hcolumns

/-- A call that returns has the buffers of its `ExecuteBatch`. -/
theorem sink_eq_ok {state' : OracleWriteLocalState} {rows : List (List OracleCell)}
    (hrows : call.chunk.size ≠ 0)
    (h : sink oracleTypes state call.chunk call.replies = .ok (state', rows)) :
    buffersAtExecute oracleTypes state call = .ok state'.columns := by
  obtain ⟨ready, hready, hcolumns, -⟩ := parts_of_sink hrows h
  exact bind_eq_ok.mpr ⟨ready, hready, hcolumns⟩

theorem sink_grows (hstate : Between n size state) {state' : OracleWriteLocalState}
    {rows : List (List OracleCell)}
    (h : sink oracleTypes state call.chunk call.replies = .ok (state', rows)) :
    state.columns = [] ∨ Grows state.columns state'.columns := by
  by_cases hrows : call.chunk.size = 0
  · obtain ⟨rfl, -, -⟩ := of_size_eq_zero hrows h
    exact Or.inr (grows_refl _)
  · refine (em (state.columns = [])).imp_right fun hne => ?_
    have hlength := hstate.length.resolve_left hne
    rw [← call.chunk.columnCount] at hlength
    obtain ⟨ready, hready, hcolumns, -⟩ := parts_of_sink hrows h
    have hgrows := grows_prepare hne hlength hready
    exact grows_trans hgrows (grows_bindColumns (hgrows.length_eq.symm.trans hlength) hcolumns)

/-- **When a column is in step**: its cells are smaller than 4 GiB. -/
theorem inStep_iff {column : List Value} {b : ColumnBuffers} (hready : Ready size column b)
    (hholds : HoldsColumn column b) (hlength : column.length ≤ maxBatchSize) :
    InStep column b ↔ b.currentBufferSize < 2 ^ 32 := by
  obtain ⟨k, hk, hvalue, hind, hlen, hskip⟩ := hready.bound.bind
  have hstride : k.pvskip.toNat = b.currentBufferSize % 2 ^ 32 := by
    rw [hskip, UInt32.toNat_ofNat']
  constructor
  · intro hstep
    obtain ⟨k', hk', -, -, -, hskip'⟩ := hstep.bind
    rw [hk] at hk'
    obtain rfl := Option.some.inj hk'
    omega
  · intro hlt
    refine ⟨⟨k, hk, hvalue, hind, hlen, hstride.trans (Nat.mod_eq_of_lt hlt)⟩,
      hready.bound.sized, fun i value text hi htext => ?_⟩
    have hcell := hholds i value hi
    have hle := hcell.fits text htext
    have hrow : i < maxBatchSize :=
      Nat.lt_of_lt_of_le (List.getElem?_eq_some_iff.mp hi).1 hlength
    refine ⟨?_, ?_, hcell.bytes text htext⟩
    · rw [Nat.add_mul, Nat.one_mul]
      exact Nat.add_le_add_left hle _
    · rw [hready.bound.sized]
      exact Nat.mul_le_mul_right _ hrow

/-- The texts of a chunk are small: their cells are smaller than 4 GiB. -/
def DataChunk.Small (chunk : DataChunk n) : Prop :=
  ∀ column ∈ chunk.data, ∀ value ∈ column, ∀ text, text? value = some text →
    text.length ≤ 4294967260

theorem length_le_maxBatchSize (chunk : DataChunk n) {column : List Value}
    (hcolumn : column ∈ chunk.data) : column.length ≤ maxBatchSize := by
  rw [chunk.column_length column hcolumn]
  exact chunk.size_le

/-- A chunk whose columns are in step is small. -/
theorem small_of_inStep (hstate : Between n size state) {columns : List ColumnBuffers}
    (h : buffersAtExecute oracleTypes state call = .ok columns)
    (hstep : List.Forall₂ InStep call.chunk.data columns) : call.chunk.Small := by
  intro column hcolumn
  have hwritten := ready_at_execute hstate h
  obtain ⟨i, hi, rfl⟩ := List.mem_iff_getElem.mp hcolumn
  have hi' : i < columns.length := hwritten.length_eq ▸ hi
  obtain ⟨hready, hholds⟩ := hwritten.get hi hi'
  have hlength := length_le_maxBatchSize call.chunk (List.getElem_mem hi)
  have hsize := (inStep_iff hready hholds hlength).mp (hstep.get hi hi')
  exact requiredSize_lt_iff.mp (Nat.lt_of_le_of_lt hready.large hsize)

/-- **A call with small texts is in step**, if the cells were smaller than 4 GiB before. -/
theorem callInStep_of_small (hstate : Between n (2 ^ 32 - 1) state) (hsmall : call.chunk.Small) :
    CallInStep oracleTypes state call where
  executes _ columns h := by
    have hwritten := ready_at_execute hstate h
    refine List.forall₂_iff_get.mpr ⟨hwritten.length_eq, fun i hi hi' => ?_⟩
    obtain ⟨hready, hholds⟩ := hwritten.get hi hi'
    have hmem := List.getElem_mem hi
    refine (inStep_iff hready hholds (length_le_maxBatchSize call.chunk hmem)).mpr ?_
    have hrequired := requiredSize_lt_iff.mpr (hsmall _ hmem)
    exact Nat.lt_of_le_of_lt hready.notLarger (Nat.max_lt.mpr ⟨by decide, hrequired⟩)
  fits h := fromOci_ne (sink_error hstate h) rfl
  grows _ _ h := sink_grows hstate h

/-- After a call with small texts the cells are still smaller than 4 GiB. -/
theorem between_of_small {state' : OracleWriteLocalState} {rows : List (List OracleCell)}
    (hstate : Between n (2 ^ 32 - 1) state) (hsmall : call.chunk.Small)
    (h : sink oracleTypes state call.chunk call.replies = .ok (state', rows)) :
    Between n (2 ^ 32 - 1) state' := by
  by_cases hrows : call.chunk.size = 0
  · obtain ⟨rfl, -, -⟩ := of_size_eq_zero hrows h
    exact hstate
  · have hwritten := ready_at_execute hstate (sink_eq_ok hrows h)
    refine between_of_written call.chunk.columnCount hwritten fun b hb => ?_
    obtain ⟨column, hcolumn, hready⟩ := exists_ready hwritten b hb
    have hrequired := requiredSize_lt_iff.mpr (hsmall column hcolumn)
    exact hready.notLarger.trans (Nat.max_le.mpr ⟨Nat.le_refl _, Nat.le_pred_of_lt hrequired⟩)

end

/-! ## All calls -/

section

variable {oracleTypes : List String} {calls : List (SinkCall n)}

theorem staysInStep_of_small (hsmall : ∀ call ∈ calls, call.chunk.Small) :
    StaysInStep oracleTypes calls := by
  intro before call hstart copy hrun
  have hmem : ∀ c ∈ before ++ [call], c.chunk.Small := fun c hc => hsmall c (hstart.mem hc)
  refine callInStep_of_small ?_ (hmem call (List.mem_append_right before List.mem_cons_self))
  refine guarded_invariant (I := fun copy : Copy => Between n (2 ^ 32 - 1) copy.state)
    (G := fun _ call => call.chunk.Small) ?_ (between_start _) ?_ hrun
  · intro copy call copy' hstate hcall hstep
    obtain ⟨rows, hsink, -⟩ := sinkStep_iff.mp hstep
    exact between_of_small hstate hcall hsink
  · intro pre c hpre _ _
    exact hmem c (List.mem_append_left [call] (hpre.mem (List.mem_append_right pre
      List.mem_cons_self)))

theorem small_of_staysInStep {copy : Copy}
    (h : run (sinkStep oracleTypes) Copy.start calls = some copy)
    (hstep : StaysInStep oracleTypes calls) : ∀ call ∈ calls, call.chunk.Small := by
  induction calls using List.reverseRecOn generalizing copy with
  | nil => exact fun _ hcall => absurd hcall List.not_mem_nil
  | append_singleton calls call ih =>
    obtain ⟨before, hbefore, hlast⟩ := exists_of_run_concat h
    obtain ⟨rows, hsink, -⟩ := sinkStep_iff.mp hlast
    obtain ⟨size, hstate⟩ := exists_between hbefore
    have hcall : call.chunk.Small := by
      by_cases hrows : call.chunk.size = 0
      · obtain ⟨-, -, hshort⟩ := of_size_eq_zero hrows hsink
        intro column hcolumn value hvalue text htext
        exact (Nat.le_of_lt (hshort column hcolumn value hvalue text htext)).trans (by decide)
      · have hexecute := sink_eq_ok hrows hsink
        exact small_of_inStep hstate hexecute ((hstep.last hbefore).executes hrows _ hexecute)
    intro c hc
    rcases List.mem_append.mp hc with hc | hc
    · exact ih hbefore (hstep.of_prefix (List.prefix_append _ _)) c hc
    · rw [List.mem_singleton.mp hc]
      exact hcall

/-- **When the buffers and the binds stay in step.**  For every sequence of Sink calls, with
however many columns and whatever OCI answers: if every text has at most 4294967260 bytes,
all calls are in step; and if all calls return and are in step, every text has at most that
many. -/
theorem stays_in_step_iff (oracleTypes : List String) (calls : List (SinkCall n)) :
    ((∀ call ∈ calls, call.chunk.Small) → StaysInStep oracleTypes calls) ∧
      ((run (sinkStep oracleTypes) Copy.start calls).isSome → StaysInStep oracleTypes calls →
        ∀ call ∈ calls, call.chunk.Small) := by
  refine ⟨staysInStep_of_small, fun hreturns hstep => ?_⟩
  obtain ⟨copy, hcopy⟩ := Option.isSome_iff_exists.mp hreturns
  exact small_of_staysInStep hcopy hstep

end

/-- A call with one `BLOB`. -/
def blobCall (bytes : List UInt8) : SinkCall 1 := ⟨oneValue (.blob bytes), noErrors⟩

theorem requiredSize_blob {bytes : List UInt8} (h : 4096 < bytes.length) :
    requiredSize [.blob bytes] = align (bytes.length + 32) := by
  have hmax : maxLen [.blob bytes] = bytes.length := Nat.zero_max _
  rw [requiredSize, hmax, if_pos h]

theorem run_blobCall (bytes : List UInt8) :
    (run (sinkStep ["BLOB"]) Copy.start [blobCall bytes]).isSome := by
  obtain ⟨copy, hcopy⟩ := @exists_run 1 ["BLOB"] [blobCall bytes]
    fun call hcall => by rw [List.mem_singleton.mp hcall]; exact ok_noErrors
  rw [hcopy, Option.isSome_some]

theorem not_staysInStep_blobCall {bytes : List UInt8} (h : 4294967260 < bytes.length) :
    ¬ StaysInStep ["BLOB"] [blobCall bytes] := by
  intro hstep
  obtain ⟨copy, hcopy⟩ := Option.isSome_iff_exists.mp (run_blobCall bytes)
  have hsmall := small_of_staysInStep hcopy hstep (blobCall bytes) List.mem_cons_self [.blob bytes]
    List.mem_cons_self (.blob bytes) List.mem_cons_self bytes rfl
  exact absurd hsmall (Nat.not_le.mpr h)

/-- **A stride of 28**: the cells of a `BLOB` of 4294967290 bytes are 4294967324 bytes apart,
which times `MAX_BATCH_SIZE` is less than `2 ^ 64`, and Oracle is told a distance of 28. -/
theorem hugeValue_out_of_step :
    requiredSize [.blob (List.replicate 4294967290 0)] = 4294967324 ∧
      4294967324 * maxBatchSize < 2 ^ 64 ∧ (UInt32.ofNat 4294967324).toNat = 28 ∧
      (run (sinkStep ["BLOB"]) Copy.start [blobCall (List.replicate 4294967290 0)]).isSome ∧
      ¬ StaysInStep ["BLOB"] [blobCall (List.replicate 4294967290 0)] := by
  refine ⟨?_, by decide, by decide, run_blobCall _, not_staysInStep_blobCall ?_⟩
  · rw [requiredSize_blob (by rw [List.length_replicate]; decide), List.length_replicate]
    decide
  · rw [List.length_replicate]
    decide

end Write
end DuckdbOracle
