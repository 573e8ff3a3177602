import Mathlib.Algebra.Order.BigOperators.Group.List
import Mathlib.Algebra.Order.Group.Nat
import DuckdbOracle.Write.Sink

/-!
# Does COPY deliver its input?

A COPY calls Sink once for each chunk, and Oracle inserts in every call what it reads in
the buffers.  The buffers are always large enough and bound where they are, so the one
thing that can go wrong is the length: it is passed in 16 bits, and of a text of 65536
bytes or more the length is passed modulo 65536.  Nothing throws; the row is stored with a
shortened text.

`copy_delivers_iff` is the exact statement: the rows that Oracle inserts over all calls
are the rows of the chunks if and only if every text is shorter than 65536 bytes.
-/

namespace DuckdbOracle
namespace Write

open Duckdb StridedBuffer StepRuns

variable {n : ℕ}

/-! ## A COPY as a run of Sink calls -/

/-- The cell that a value is to become. -/
def cellOf (value : Value) : OracleCell :=
  match text? value with
  | none => .null
  | some text => .bytes text

/-- The row `i` of some columns. -/
def rowOf (data : List (List Value)) (i : ℕ) : List OracleCell :=
  data.map fun column => cellOf (column.getD i .null)

/-- The rows of a chunk. -/
def DataChunk.rows (chunk : DataChunk n) : List (List OracleCell) :=
  (List.range chunk.size).map (rowOf chunk.data)

/-- One call of Sink, and how Oracle answers in it. -/
structure SinkCall (n : ℕ) where
  chunk : DataChunk n
  replies : Replies

/-- A COPY between two calls: the buffers, and the rows that Oracle has inserted. -/
structure Copy where
  state : OracleWriteLocalState
  delivered : List (List OracleCell)

/-- No chunk has come yet. -/
def Copy.start : Copy := ⟨⟨[]⟩, []⟩

/-- One call of Sink that does not throw. -/
def sinkStep (oracleTypes : List String) (copy : Copy) (call : SinkCall n) : Option Copy :=
  match sink oracleTypes copy.state call.chunk call.replies with
  | .ok (state, rows) => some ⟨state, copy.delivered ++ rows⟩
  | .error _ => none

/-- Every text of a chunk has a length of 16 bits. -/
def DataChunk.Short (chunk : DataChunk n) : Prop :=
  ∀ column ∈ chunk.data, ∀ value ∈ column, ∀ text, text? value = some text →
    text.length < 2 ^ 16

theorem sinkStep_iff {oracleTypes : List String} {copy copy' : Copy} {call : SinkCall n} :
    sinkStep oracleTypes copy call = some copy' ↔
      ∃ rows, sink oracleTypes copy.state call.chunk call.replies = .ok (copy'.state, rows) ∧
        copy'.delivered = copy.delivered ++ rows := by
  unfold sinkStep
  cases hsink : sink oracleTypes copy.state call.chunk call.replies with
  | error e =>
    constructor
    · exact fun h => nomatch h
    · rintro ⟨rows, h, -⟩
      exact nomatch h
  | ok result =>
    obtain ⟨state, rows⟩ := result
    constructor
    · intro h
      obtain rfl := Option.some.inj h
      exact ⟨rows, rfl, rfl⟩
    · rintro ⟨rows', h, hdelivered⟩
      obtain ⟨rfl, rfl⟩ := Prod.mk.inj (Except.ok.inj h)
      dsimp only
      rw [← hdelivered]

/-! ## One cell -/

/-- A cell that is read as its value has a short text. -/
theorem length_lt_of_readCell {b : ColumnBuffers} {i : ℕ} {value : Value} (hbound : Bound b)
    (hholds : Holds b i (text? value)) (h : b.readCell i = cellOf value) {text : List UInt8}
    (htext : text? value = some text) : text.length < 2 ^ 16 := by
  rw [readCell_of_holds hbound hholds, cellOf, htext] at h
  have hlength := congrArg List.length (OracleCell.bytes.inj h)
  have hread := length_readAt_le b.bindBuffer.elems
    (i * (b.currentBufferSize % 2 ^ 32)) (text.length % 2 ^ 16)
  have hmod := Nat.mod_lt text.length (show 2 ^ 16 > 0 by omega)
  omega

/-- A short text is read as it is, if the distance of two cells has 32 bits. -/
theorem readCell_of_short {b : ColumnBuffers} {i : ℕ} {value : Value} (hbound : Bound b)
    (hsize : b.currentBufferSize < 2 ^ 32) (hholds : Holds b i (text? value))
    (hshort : ∀ text, text? value = some text → text.length < 2 ^ 16) :
    b.readCell i = cellOf value := by
  rw [readCell_of_holds hbound hholds, cellOf]
  cases htext : text? value with
  | none => rfl
  | some text =>
    dsimp only
    rw [ColumnBuffers.seenCell, Nat.mod_eq_of_lt hsize, Nat.mod_eq_of_lt (hshort text htext)]
    exact congrArg OracleCell.bytes (hholds.bytes text htext)

/-! ## One call -/

/-- The buffers after a call, column by column. -/
def Written (size : ℕ) (data : List (List Value)) (columns : List ColumnBuffers) : Prop :=
  List.Forall₂ (fun column b => Ready size column b ∧ HoldsColumn column b) data columns

theorem getD_of_getElem? {column : List Value} {i : ℕ} {value : Value}
    (h : column[i]? = some value) : column.getD i .null = value := by
  rw [List.getD_eq_getElem?_getD, h, Option.getD_some]

/-- In a row that is read as it is, every text is short. -/
theorem short_of_row {size i : ℕ} {data : List (List Value)} {columns : List ColumnBuffers}
    (hwritten : Written size data columns)
    (hrow : columns.map (fun b => b.readCell i) = rowOf data i) :
    ∀ column ∈ data, ∀ value, column[i]? = some value → ∀ text, text? value = some text →
      text.length < 2 ^ 16 := by
  induction hwritten with
  | nil => exact fun _ hcolumn => absurd hcolumn List.not_mem_nil
  | @cons column b data columns hb _ ih =>
    obtain ⟨hhead, htail⟩ := List.cons.inj hrow
    intro column' hcolumn value hvalue text htext
    rcases List.mem_cons.mp hcolumn with rfl | hmem
    · have hread : b.readCell i = cellOf (column'.getD i .null) := hhead
      rw [getD_of_getElem? hvalue] at hread
      exact length_lt_of_readCell hb.1.bound (hb.2 i value hvalue) hread htext
    · exact ih htail column' hmem value hvalue text htext

/-- A row with short texts is read as it is. -/
theorem row_of_short {size i : ℕ} {data : List (List Value)} {columns : List ColumnBuffers}
    (hwritten : Written size data columns) (hsize : ∀ b ∈ columns, b.currentBufferSize < 2 ^ 32)
    (hlength : ∀ column ∈ data, i < column.length)
    (hshort : ∀ column ∈ data, ∀ value ∈ column, ∀ text, text? value = some text →
      text.length < 2 ^ 16) :
    columns.map (fun b => b.readCell i) = rowOf data i := by
  induction hwritten with
  | nil => rfl
  | @cons column b data columns hb _ ih =>
    have hi : i < column.length := hlength column List.mem_cons_self
    have hvalue : column[i]? = some column[i] := List.getElem?_eq_getElem hi
    have hhead : b.readCell i = cellOf (column.getD i .null) := by
      rw [getD_of_getElem? hvalue]
      exact readCell_of_short hb.1.bound (hsize b List.mem_cons_self) (hb.2 i _ hvalue)
        (hshort column List.mem_cons_self _ (List.getElem_mem _))
    have htail := ih (fun x hx => hsize x (List.mem_cons_of_mem b hx))
      (fun x hx => hlength x (List.mem_cons_of_mem column hx))
      (fun x hx => hshort x (List.mem_cons_of_mem column hx))
    rw [List.map_cons, hhead, htail]
    rfl

theorem exists_ready {size : ℕ} {data : List (List Value)} {columns : List ColumnBuffers}
    (hwritten : Written size data columns) :
    ∀ b ∈ columns, ∃ column ∈ data, Ready size column b := by
  induction hwritten with
  | nil => exact fun _ hb => absurd hb List.not_mem_nil
  | @cons column b data columns hb _ ih =>
    intro b' hmem
    rcases List.mem_cons.mp hmem with rfl | hmem
    · exact ⟨column, List.mem_cons_self, hb.1⟩
    · obtain ⟨column', hcolumn, hready⟩ := ih b' hmem
      exact ⟨column', List.mem_cons_of_mem column hcolumn, hready⟩

/-- After a call the buffers are as they have to be before the next. -/
theorem between_of_written {size size' : ℕ} {data : List (List Value)}
    {columns : List ColumnBuffers} (hn : data.length = n) (hwritten : Written size data columns)
    (hsize : ∀ b ∈ columns, b.currentBufferSize ≤ size') : Between n size' ⟨columns⟩ := by
  refine ⟨Or.inr (hwritten.length_eq.symm.trans hn), fun b hb => ?_, hsize⟩
  obtain ⟨column, -, hready⟩ := exists_ready hwritten b hb
  exact hready.bound

section

variable {size : ℕ} {oracleTypes : List String} {state state' : OracleWriteLocalState}
  {chunk : DataChunk n} {replies : Replies} {rows : List (List OracleCell)}

theorem length_rows (chunk : DataChunk n) : chunk.rows.length = chunk.size := by
  rw [DataChunk.rows, List.length_map, List.length_range]

/-- A chunk without rows. -/
theorem of_size_eq_zero (hzero : chunk.size = 0)
    (h : sink oracleTypes state chunk replies = .ok (state', rows)) :
    state' = state ∧ rows = chunk.rows ∧ chunk.Short := by
  rw [sink, if_pos hzero] at h
  obtain ⟨rfl, rfl⟩ := Prod.mk.inj (Except.ok.inj h)
  refine ⟨rfl, by rw [DataChunk.rows, hzero]; rfl, fun column hcolumn value hvalue => ?_⟩
  have hlength := chunk.column_length column hcolumn
  rw [hzero, List.length_eq_zero_iff] at hlength
  rw [hlength] at hvalue
  exact absurd hvalue List.not_mem_nil

/-- **What any call does**: it inserts a row for each row of the chunk, and if these are
the rows of the chunk, its texts are short. -/
theorem sink_rows (hstate : Between n size state)
    (h : sink oracleTypes state chunk replies = .ok (state', rows)) :
    (∃ size', Between n size' state') ∧ rows.length = chunk.size ∧
      (rows = chunk.rows → chunk.Short) := by
  by_cases hzero : chunk.size = 0
  · obtain ⟨rfl, rfl, hshort⟩ := of_size_eq_zero hzero h
    exact ⟨⟨size, hstate⟩, length_rows chunk, fun _ => hshort⟩
  · obtain ⟨hwritten, rfl⟩ := sink_spec hstate hzero h
    refine ⟨⟨(state'.columns.map ColumnBuffers.currentBufferSize).sum, ?_⟩, ?_, ?_⟩
    · refine between_of_written chunk.columnCount hwritten fun b hb => ?_
      exact List.le_sum_of_mem (List.mem_map_of_mem hb)
    · rw [executeBatch, List.length_map, List.length_range]
    · intro hrows column hcolumn value hvalue
      obtain ⟨i, hi, rfl⟩ := List.mem_iff_getElem.mp hvalue
      rw [chunk.column_length column hcolumn] at hi
      have hrow := List.map_inj_left.mp hrows i (List.mem_range.mpr hi)
      exact short_of_row hwritten hrow column hcolumn _ (List.getElem?_eq_getElem _)

/-- **What a call with short texts does**: it inserts the rows of the chunk, and the
buffers stay small. -/
theorem sink_of_short (hstate : Between n (2 ^ 17) state) (hshort : chunk.Short)
    (h : sink oracleTypes state chunk replies = .ok (state', rows)) :
    Between n (2 ^ 17) state' ∧ rows = chunk.rows := by
  by_cases hzero : chunk.size = 0
  · obtain ⟨rfl, rfl, -⟩ := of_size_eq_zero hzero h
    exact ⟨hstate, rfl⟩
  · obtain ⟨hwritten, rfl⟩ := sink_spec hstate hzero h
    have hsize : ∀ b ∈ state'.columns, b.currentBufferSize ≤ 2 ^ 17 := by
      intro b hb
      obtain ⟨column, hcolumn, hready⟩ := exists_ready hwritten b hb
      have hrequired : requiredSize column ≤ 2 ^ 16 + 35 :=
        requiredSize_le (by omega) fun value hvalue text htext =>
          Nat.le_of_lt (hshort column hcolumn value hvalue text htext)
      have hle := hready.notLarger
      omega
    refine ⟨between_of_written chunk.columnCount hwritten hsize, ?_⟩
    refine List.map_congr_left fun i hi => ?_
    refine row_of_short hwritten (fun b hb => ?_) (fun column hcolumn => ?_) hshort
    · exact Nat.lt_of_le_of_lt (hsize b hb) (by omega)
    · rw [chunk.column_length column hcolumn]
      exact List.mem_range.mp hi

end

/-! ## All calls -/

section

variable {oracleTypes : List String} {calls : List (SinkCall n)} {copy : Copy}

/-- The rows of all chunks, in order. -/
def allRows (calls : List (SinkCall n)) : List (List OracleCell) :=
  calls.flatMap fun call => call.chunk.rows

theorem allRows_concat (calls : List (SinkCall n)) (call : SinkCall n) :
    allRows (calls ++ [call]) = allRows calls ++ call.chunk.rows := by
  rw [allRows, List.flatMap_append, List.flatMap_singleton]
  rfl

theorem between_start (size : ℕ) : Between n size Copy.start.state :=
  ⟨Or.inl rfl, fun _ hb => absurd hb List.not_mem_nil, fun _ hb => absurd hb List.not_mem_nil⟩

theorem exists_between (h : run (sinkStep oracleTypes) Copy.start calls = some copy) :
    ∃ size, Between n size copy.state := by
  refine run_invariant (I := fun copy => ∃ size, Between n size copy.state) ?_
    ⟨0, between_start 0⟩ h
  rintro copy call copy' ⟨size, hstate⟩ hstep
  obtain ⟨rows, hsink, -⟩ := sinkStep_iff.mp hstep
  exact (sink_rows hstate hsink).1

/-- If COPY delivers its input, every text is short. -/
theorem short_of_delivered (h : run (sinkStep oracleTypes) Copy.start calls = some copy)
    (hdelivered : copy.delivered = allRows calls) : ∀ call ∈ calls, call.chunk.Short := by
  induction calls using List.reverseRecOn generalizing copy with
  | nil => exact fun _ hcall => absurd hcall List.not_mem_nil
  | append_singleton calls call ih =>
    obtain ⟨before, hbefore, hstep⟩ := exists_of_run_concat h
    obtain ⟨rows, hsink, hrows⟩ := sinkStep_iff.mp hstep
    obtain ⟨size, hstate⟩ := exists_between hbefore
    obtain ⟨-, hlength, hshort⟩ := sink_rows hstate hsink
    rw [hrows, allRows_concat] at hdelivered
    obtain ⟨hfirst, hlast⟩ :=
      List.append_inj' hdelivered (hlength.trans (length_rows call.chunk).symm)
    intro c hc
    rcases List.mem_append.mp hc with hc | hc
    · exact ih hbefore hfirst c hc
    · rw [List.mem_singleton.mp hc]
      exact hshort hlast

/-- If every text is short, COPY delivers its input, and its buffers stay small. -/
theorem delivered_of_short (h : run (sinkStep oracleTypes) Copy.start calls = some copy)
    (hshort : ∀ call ∈ calls, call.chunk.Short) :
    Between n (2 ^ 17) copy.state ∧ copy.delivered = allRows calls := by
  induction calls using List.reverseRecOn generalizing copy with
  | nil =>
    obtain rfl := Option.some.inj h
    exact ⟨between_start _, rfl⟩
  | append_singleton calls call ih =>
    obtain ⟨before, hbefore, hstep⟩ := exists_of_run_concat h
    obtain ⟨rows, hsink, hrows⟩ := sinkStep_iff.mp hstep
    obtain ⟨hstate, hfirst⟩ :=
      ih hbefore fun c hc => hshort c (List.mem_append_left [call] hc)
    obtain ⟨hstate', rfl⟩ :=
      sink_of_short hstate (hshort call (List.mem_append_right calls List.mem_cons_self)) hsink
    refine ⟨hstate', ?_⟩
    rw [hrows, allRows_concat, hfirst]

/-- Calls whose OCI calls succeed all return. -/
theorem exists_run (hreplies : ∀ call ∈ calls, call.replies.Ok) :
    ∃ copy, run (sinkStep oracleTypes) Copy.start calls = some copy := by
  induction calls using List.reverseRecOn with
  | nil => exact ⟨_, rfl⟩
  | append_singleton calls call ih =>
    obtain ⟨copy, hcopy⟩ := ih fun c hc => hreplies c (List.mem_append_left [call] hc)
    obtain ⟨size, hstate⟩ := exists_between hcopy
    have hcall := hreplies call (List.mem_append_right calls List.mem_cons_self)
    obtain ⟨⟨state, rows⟩, hsink⟩ := exists_sink hstate call.chunk hcall
    refine ⟨⟨state, copy.delivered ++ rows⟩, run_concat_of hcopy ?_⟩
    exact sinkStep_iff.mpr ⟨rows, hsink, rfl⟩

/-- **When COPY delivers its input.**  For every sequence of chunks whose calls all
return: the rows that Oracle has inserted are the rows of the chunks in order if and only
if every text is shorter than 65536 bytes. -/
theorem copy_delivers_iff (h : run (sinkStep oracleTypes) Copy.start calls = some copy) :
    copy.delivered = allRows calls ↔
      ∀ call ∈ calls, ∀ column ∈ call.chunk.data, ∀ value ∈ column,
        ∀ text, text? value = some text → text.length < 65536 :=
  ⟨short_of_delivered h, fun hshort => (delivered_of_short h hshort).2⟩

end

/-- A chunk with one value. -/
def oneValue (value : Value) : DataChunk 1 where
  size := 1
  data := [[value]]
  columnCount := rfl
  column_length := by simp
  size_le := by decide

/-- Every OCI call succeeds. -/
def noErrors : Replies := ⟨fun _ => none, fun _ => none, none⟩

theorem ok_noErrors : noErrors.Ok := ⟨fun _ => rfl, fun _ => rfl, rfl⟩

/-- A chunk with a `NULL` and a short value. -/
def nullAndShort : DataChunk 1 where
  size := 2
  data := [[.null, .blob [120]]]
  columnCount := rfl
  column_length := by simp
  size_le := by decide

/-- Two calls; the second one needs a larger buffer than the first. -/
def growingCalls : List (SinkCall 1) :=
  [⟨nullAndShort, noErrors⟩, ⟨oneValue (.blob (List.replicate 5000 7)), noErrors⟩]

/-- A COPY of a `NULL`, a short value and a long one. -/
theorem copy_delivers_growing :
    ∃ copy, run (sinkStep ["BLOB"]) Copy.start growingCalls = some copy ∧
      copy.delivered = [[.null], [.bytes [120]], [.bytes (List.replicate 5000 7)]] := by
  obtain ⟨copy, hcopy⟩ := @exists_run 1 ["BLOB"] growingCalls fun call hcall => by
    rcases List.mem_pair.mp hcall with rfl | rfl <;> exact ok_noErrors
  refine ⟨copy, hcopy, (copy_delivers_iff hcopy).mpr ?_⟩
  intro call hcall column hcolumn value hvalue text htext
  rcases List.mem_pair.mp hcall with rfl | rfl
  · rw [List.mem_singleton.mp hcolumn] at hvalue
    rcases List.mem_pair.mp hvalue with rfl | rfl
    · cases htext
    · obtain rfl := Option.some.inj htext
      decide
  · rw [List.mem_singleton.mp hcolumn] at hvalue
    rw [List.mem_singleton.mp hvalue] at htext
    obtain rfl := Option.some.inj htext
    rw [List.length_replicate]
    decide

/-- **A value of 65536 bytes is not delivered**, and no call throws. -/
theorem longValue_not_delivered :
    ∃ copy, run (sinkStep ["BLOB"]) Copy.start
        [⟨oneValue (.blob (List.replicate 65536 0)), noErrors⟩] = some copy ∧
      copy.delivered ≠ allRows [⟨oneValue (.blob (List.replicate 65536 0)), noErrors⟩] := by
  obtain ⟨copy, hcopy⟩ := @exists_run 1 ["BLOB"]
    [⟨oneValue (.blob (List.replicate 65536 0)), noErrors⟩]
    fun call hcall => by rw [List.mem_singleton.mp hcall]; exact ok_noErrors
  refine ⟨copy, hcopy, fun hdelivered => ?_⟩
  have hshort := short_of_delivered hcopy hdelivered _ List.mem_cons_self _ List.mem_cons_self _
    List.mem_cons_self (List.replicate 65536 0) rfl
  rw [List.length_replicate] at hshort
  omega

end Write
end DuckdbOracle
