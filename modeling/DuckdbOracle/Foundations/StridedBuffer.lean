import Mathlib.Data.List.Basic

/-!
# Buffers that are written and read in cells

A buffer is a list of bytes (of any type) that is overwritten in place.  Two questions
come up wherever a program hands such a buffer to somebody else: does a read see what
was written, and does the other side still look at the buffer at all.

* `readAt_writeAt_self`, `readAt_writeAt_of_disjoint`: a read of a written range, and of
  a range apart from it.
* `readAt_cell_of_ne`: cells of one stride are apart, so that a write into one of them is
  not seen in another.
* `Block`: a buffer that moves when it grows, and pointers to it.  A pointer taken after
  the last growth is good (`Block.deref?_data`).
-/

namespace StridedBuffer

variable {α : Type*}

/-! ## Ranges -/

/-- Overwrite `buffer` with `bytes` from `offset` on. -/
def writeAt (buffer : List α) (offset : ℕ) (bytes : List α) : List α :=
  buffer.take offset ++ bytes ++ buffer.drop (offset + bytes.length)

/-- The `n` bytes of `buffer` from `offset` on. -/
def readAt (buffer : List α) (offset n : ℕ) : List α := (buffer.drop offset).take n

@[simp] theorem length_writeAt {buffer bytes : List α} {offset : ℕ}
    (h : offset + bytes.length ≤ buffer.length) :
    (writeAt buffer offset bytes).length = buffer.length := by
  simp only [writeAt, List.length_append, List.length_take, List.length_drop]
  omega

theorem length_readAt_le (buffer : List α) (offset n : ℕ) : (readAt buffer offset n).length ≤ n :=
  List.length_take_le n _

/-- **A written range is read back.** -/
theorem readAt_writeAt_self {buffer bytes : List α} {offset : ℕ}
    (h : offset + bytes.length ≤ buffer.length) :
    readAt (writeAt buffer offset bytes) offset bytes.length = bytes := by
  have htake : (buffer.take offset).length = offset := by
    rw [List.length_take]
    omega
  rw [readAt, writeAt, List.append_assoc, List.drop_left' htake, List.take_left]

/-- What a buffer holds after a write, position by position. -/
theorem getElem?_writeAt {buffer bytes : List α} {offset : ℕ}
    (h : offset + bytes.length ≤ buffer.length) {k : ℕ}
    (hk : k < offset ∨ offset + bytes.length ≤ k) :
    (writeAt buffer offset bytes)[k]? = buffer[k]? := by
  have htake : (buffer.take offset).length = offset := by
    rw [List.length_take]
    omega
  rw [writeAt, List.append_assoc]
  rcases hk with hk | hk
  · rw [List.getElem?_append_left (by omega), List.getElem?_take_of_lt hk]
  · rw [List.getElem?_append_right (by omega), List.getElem?_append_right (by omega),
      List.getElem?_drop]
    congr 1
    omega

/-- **A write is not seen in a range apart from it.** -/
theorem readAt_writeAt_of_disjoint {buffer bytes : List α} {offset at' n : ℕ}
    (h : offset + bytes.length ≤ buffer.length)
    (hapart : at' + n ≤ offset ∨ offset + bytes.length ≤ at') :
    readAt (writeAt buffer offset bytes) at' n = readAt buffer at' n := by
  apply List.ext_getElem?
  intro k
  rw [readAt, readAt]
  by_cases hk : k < n
  · rw [List.getElem?_take_of_lt hk, List.getElem?_take_of_lt hk, List.getElem?_drop,
      List.getElem?_drop]
    exact getElem?_writeAt h (by omega)
  · rw [List.getElem?_take_eq_none (Nat.not_lt.mp hk),
      List.getElem?_take_eq_none (Nat.not_lt.mp hk)]

/-! ## Cells -/

/-- A cell of a buffer of `count` cells lies inside of it. -/
theorem cell_le {count stride i n : ℕ} (hi : i < count) (hn : n ≤ stride) :
    i * stride + n ≤ count * stride := by
  have hmul : (i + 1) * stride ≤ count * stride := Nat.mul_le_mul_right stride hi
  rw [Nat.succ_mul] at hmul
  omega

/-- **A write into one cell is not seen in another.** -/
theorem readAt_cell_of_ne {buffer bytes : List α} {stride i j n : ℕ}
    (h : i * stride + bytes.length ≤ buffer.length) (hbytes : bytes.length ≤ stride)
    (hn : n ≤ stride) (hij : i ≠ j) :
    readAt (writeAt buffer (i * stride) bytes) (j * stride) n = readAt buffer (j * stride) n := by
  refine readAt_writeAt_of_disjoint h ?_
  rcases Nat.lt_or_gt_of_ne hij with hlt | hgt
  · exact Or.inr (cell_le hlt hbytes)
  · exact Or.inl (cell_le hgt hn)

/-! ## Buffers that move -/

/-- A buffer on the heap.  `moves` counts how often it has been moved; a pointer to it is
the number of the moves before it was taken. -/
structure Block (α : Type*) where
  moves : ℕ
  elems : List α
  deriving DecidableEq

/-- No buffer yet. -/
def Block.empty : Block α := ⟨0, []⟩

/-- Grow to `n` elements, the new ones `fill`; a smaller `n` cuts.  A growing buffer may
have to move, and here it always does. -/
def Block.resize (block : Block α) (n : ℕ) (fill : α) : Block α :=
  if n ≤ block.elems.length then { block with elems := block.elems.take n }
  else ⟨block.moves + 1, block.elems ++ List.replicate (n - block.elems.length) fill⟩

/-- Overwrite the block from `offset` on. -/
def Block.write (block : Block α) (offset : ℕ) (bytes : List α) : Block α :=
  { block with elems := writeAt block.elems offset bytes }

/-- Overwrite one element. -/
def Block.set (block : Block α) (i : ℕ) (a : α) : Block α :=
  { block with elems := block.elems.set i a }

/-- The pointer to the block as it is now. -/
def Block.data (block : Block α) : ℕ := block.moves

/-- What a pointer shows: nothing once the block has moved. -/
def Block.deref? (block : Block α) (pointer : ℕ) : Option (List α) :=
  if pointer = block.moves then some block.elems else none

@[simp] theorem Block.deref?_data (block : Block α) : block.deref? block.data = some block.elems :=
  if_pos rfl

@[simp] theorem Block.length_set (block : Block α) (i : ℕ) (a : α) :
    (block.set i a).elems.length = block.elems.length := List.length_set

@[simp] theorem Block.length_resize (block : Block α) (n : ℕ) (fill : α) :
    (block.resize n fill).elems.length = n := by
  unfold Block.resize
  split
  · next hle => exact List.length_take_of_le hle
  · rw [List.length_append, List.length_replicate]
    omega

end StridedBuffer
