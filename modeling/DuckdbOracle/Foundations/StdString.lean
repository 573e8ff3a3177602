import Mathlib.Algebra.Group.Nat.Defs
import Mathlib.Data.List.Basic

/-!
# Strings with machine indices

A `std::string` is a text whose size fits into half of `size_t`.  Its positions are
`size_t`, so that the position that means *not found* is the largest of them, and sums
and differences wrap around.  Whoever computes with positions and does not want that has
to say so: `checkedAdd`, `checkedSub` and `substr` fail instead, with the fault that the
unchecked operation would hide.
-/

/-- A `std::string`. -/
structure StdString where
  chars : List Char
  short : chars.length < 2 ^ 63

/-- What a computation with positions must not do. -/
inductive IndexFault where
  /-- A sum or a difference is not in the range of `size_t`. -/
  | wraps
  /-- A position lies behind the end of the text. -/
  | outOfRange
  deriving DecidableEq

namespace StdString

/-! ## Positions -/

/-- `std::string::npos`. -/
def npos : UInt64 := 0 - 1

def checkedAdd (a b : UInt64) : Except IndexFault UInt64 :=
  if a.toNat + b.toNat < 2 ^ 64 then .ok (a + b) else .error .wraps

def checkedSub (a b : UInt64) : Except IndexFault UInt64 :=
  if b ≤ a then .ok (a - b) else .error .wraps

/-- A step that does not fail. -/
theorem ok_bind {α β : Type} (a : α) (f : α → Except IndexFault β) :
    (Except.ok a >>= f) = f a := rfl

theorem toNat_npos : npos.toNat = 2 ^ 64 - 1 := rfl

theorem ofNat_toNat {n : ℕ} (h : n < 2 ^ 64) : (UInt64.ofNat n).toNat = n :=
  UInt64.toNat_ofNat_of_lt' h

theorem checkedAdd_ofNat {m n : ℕ} (h : m + n < 2 ^ 64) :
    checkedAdd (.ofNat m) (.ofNat n) = .ok (.ofNat (m + n)) := by
  rw [checkedAdd, ofNat_toNat (by omega), ofNat_toNat (by omega), if_pos h, UInt64.ofNat_add]

theorem checkedSub_ofNat {m n : ℕ} (hm : m < 2 ^ 64) (h : n ≤ m) :
    checkedSub (.ofNat m) (.ofNat n) = .ok (.ofNat (m - n)) := by
  have hle : UInt64.ofNat n ≤ UInt64.ofNat m := by
    rw [UInt64.le_iff_toNat_le, ofNat_toNat (by omega), ofNat_toNat hm]
    exact h
  rw [checkedSub, if_pos hle]
  congr 1
  apply UInt64.toNat_inj.mp
  rw [UInt64.toNat_sub_of_le _ _ hle, ofNat_toNat hm, ofNat_toNat (by omega),
    ofNat_toNat (by omega)]

theorem ofNat_inj {m n : ℕ} (hm : m < 2 ^ 64) (hn : n < 2 ^ 64) :
    UInt64.ofNat m = UInt64.ofNat n ↔ m = n := by
  rw [← UInt64.toNat_inj, ofNat_toNat hm, ofNat_toNat hn]

theorem ofNat_le_ofNat {m n : ℕ} (hm : m < 2 ^ 64) (hn : n < 2 ^ 64) :
    UInt64.ofNat m ≤ UInt64.ofNat n ↔ m ≤ n := by
  rw [UInt64.le_iff_toNat_le, ofNat_toNat hm, ofNat_toNat hn]

/-! ## Operations -/

/-- `size()` -/
def size (s : StdString) : UInt64 := .ofNat s.chars.length

/-- The position of a character, from a position on. -/
def index? (s : StdString) (c : Char) (pos : ℕ) : Option ℕ :=
  ((s.chars.drop pos).findIdx? (· = c)).map (pos + ·)

/-- `find(c, pos)` -/
def find (s : StdString) (c : Char) (pos : UInt64) : UInt64 :=
  match s.index? c pos.toNat with
  | some i => .ofNat i
  | none => npos

/-- `substr(pos, n)`, which throws `out_of_range` behind the end. -/
def substr (s : StdString) (pos n : UInt64) : Except IndexFault StdString :=
  if pos.toNat ≤ s.chars.length then
    .ok {
      chars := (s.chars.drop pos.toNat).take n.toNat
      short := by
        have hshort := s.short
        rw [List.length_take, List.length_drop]
        omega }
  else .error .outOfRange

/-- What is found is in the text, at or behind the position. -/
theorem index?_lt {s : StdString} {c : Char} {pos i : ℕ} (h : s.index? c pos = some i) :
    pos ≤ i ∧ i < s.chars.length := by
  obtain ⟨j, hj, rfl⟩ := Option.map_eq_some_iff.mp h
  obtain ⟨hlt, -⟩ := List.findIdx?_eq_some_iff_getElem.mp hj
  rw [List.length_drop] at hlt
  omega

theorem find_ofNat {s : StdString} {c : Char} {pos : ℕ} (hpos : pos < 2 ^ 64) :
    s.find c (.ofNat pos) = (s.index? c pos).elim npos .ofNat := by
  rw [find, ofNat_toNat hpos]
  cases s.index? c pos <;> rfl

/-- No position of the text is `npos`. -/
theorem ofNat_ne_npos {s : StdString} {i : ℕ} (h : i ≤ s.chars.length) :
    UInt64.ofNat i ≠ npos := by
  have hshort := s.short
  intro heq
  have hval := congrArg UInt64.toNat heq
  rw [ofNat_toNat (by omega), toNat_npos] at hval
  omega

theorem substr_ofNat {s : StdString} {pos n : ℕ} (hpos : pos ≤ s.chars.length)
    (hn : n < 2 ^ 64) :
    ∃ t : StdString, s.substr (.ofNat pos) (.ofNat n) = .ok t ∧
      t.chars = (s.chars.drop pos).take n := by
  have hshort := s.short
  have hval : (UInt64.ofNat pos).toNat = pos := ofNat_toNat (by omega)
  rw [substr, if_pos (hval.symm ▸ hpos)]
  refine ⟨_, rfl, ?_⟩
  show (s.chars.drop (UInt64.ofNat pos).toNat).take (UInt64.ofNat n).toNat = _
  rw [hval, ofNat_toNat hn]

/-- The rest of the text. -/
theorem substr_npos {s : StdString} {pos : ℕ} (hpos : pos ≤ s.chars.length) :
    ∃ t : StdString, s.substr (.ofNat pos) npos = .ok t ∧ t.chars = s.chars.drop pos := by
  have hshort := s.short
  obtain ⟨t, ht, hchars⟩ := @substr_ofNat s pos (2 ^ 64 - 1) hpos (by omega)
  refine ⟨t, ht, ?_⟩
  rw [hchars, List.take_of_length_le]
  rw [List.length_drop]
  omega

end StdString
