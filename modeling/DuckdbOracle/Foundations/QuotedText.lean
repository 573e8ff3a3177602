import Mathlib.Data.List.Basic

/-!
# Quoting by doubling the delimiter

SQL quotes an identifier or a literal by enclosing it in a delimiter and
doubling every delimiter inside.  `quote` writes such a text and `read?` reads
one off the front of an input, taking the doubled delimiter as one.

The point of the format is `read?_quote`: whatever follows a quoted text, as
long as it does not itself begin with the delimiter, the reader stops in the
right place and gives the content back.
-/

namespace QuotedText

variable {α : Type*} [DecidableEq α]

/-- The content with every delimiter doubled. -/
def double (q : α) (s : List α) : List α :=
  s.flatMap fun c => if c = q then [q, q] else [c]

/-- The quoted text. -/
def quote (q : α) (s : List α) : List α := q :: (double q s ++ [q])

@[simp] theorem double_nil (q : α) : double q [] = [] := rfl

theorem double_cons (q c : α) (s : List α) :
    double q (c :: s) = (if c = q then [q, q] else [c]) ++ double q s := by
  rw [double, List.flatMap_cons, double]

@[simp] theorem double_cons_delimiter (q : α) (s : List α) :
    double q (q :: s) = q :: q :: double q s := by
  rw [double_cons, if_pos rfl]
  rfl

theorem double_cons_of_ne {q c : α} (h : c ≠ q) (s : List α) :
    double q (c :: s) = c :: double q s := by
  rw [double_cons, if_neg h]
  rfl

theorem double_append (q : α) (s t : List α) : double q (s ++ t) = double q s ++ double q t :=
  List.flatMap_append

/-- A text without delimiters is doubled to itself. -/
theorem double_of_not_mem {q : α} {s : List α} (h : q ∉ s) : double q s = s := by
  induction s with
  | nil => rfl
  | cons c s ih =>
    have hc : c ≠ q := fun hcq => h (by rw [hcq]; exact List.mem_cons_self)
    rw [double_cons_of_ne hc, ih fun hmem => h (List.mem_cons_of_mem c hmem)]

/-- Quoting adds no characters but delimiters. -/
theorem mem_quote {q c : α} (hc : c ≠ q) (s : List α) : c ∈ quote q s ↔ c ∈ s := by
  rw [quote, double, List.mem_cons, List.mem_append, List.mem_singleton, List.mem_flatMap,
    or_iff_right hc, or_iff_left hc]
  constructor
  · rintro ⟨d, hd, hmem⟩
    split at hmem
    · simp [hc] at hmem
    · rwa [List.mem_singleton.mp hmem]
  · intro hmem
    refine ⟨c, hmem, ?_⟩
    rw [if_neg hc]
    exact List.mem_singleton_self c

/-- Read the rest of a quoted text, after its opening delimiter: the content and
what follows the closing delimiter. -/
def readRest? (q : α) : List α → Option (List α × List α)
  | [] => none
  | [c] => if c = q then some ([], []) else none
  | c :: d :: rest =>
    if c = q then
      if d = q then (readRest? q rest).map fun p => (q :: p.1, p.2)
      else some ([], d :: rest)
    else (readRest? q (d :: rest)).map fun p => (c :: p.1, p.2)

/-- Read a quoted text off the front of an input. -/
def read? (q : α) : List α → Option (List α × List α)
  | [] => none
  | c :: rest => if c = q then readRest? q rest else none

theorem readRest?_close {q : α} {rest : List α} (h : rest.head? ≠ some q) :
    readRest? q (q :: rest) = some ([], rest) := by
  cases rest with
  | nil => rw [readRest?, if_pos rfl]
  | cons d rest =>
    have hd : d ≠ q := fun hd => h (by rw [List.head?_cons, hd])
    rw [readRest?, if_pos rfl, if_neg hd]

theorem readRest?_cons_of_ne {q c : α} (hc : c ≠ q) {l s r : List α}
    (h : readRest? q l = some (s, r)) : readRest? q (c :: l) = some (c :: s, r) := by
  cases l with
  | nil => rw [readRest?] at h; exact absurd h (by simp)
  | cons d l => rw [readRest?, if_neg hc, h, Option.map_some]

theorem readRest?_double {q : α} (s : List α) {rest : List α} (h : rest.head? ≠ some q) :
    readRest? q (double q s ++ (q :: rest)) = some (s, rest) := by
  induction s with
  | nil => exact readRest?_close h
  | cons c s ih =>
    by_cases hc : c = q
    · rw [hc, double_cons_delimiter, List.cons_append, List.cons_append, readRest?, if_pos rfl,
        if_pos rfl, ih, Option.map_some]
    · rw [double_cons_of_ne hc, List.cons_append]
      exact readRest?_cons_of_ne hc ih

/-- **A quoted text is read back**, whatever follows it, unless the next letter
is again the delimiter. -/
theorem read?_quote {q : α} (s : List α) {rest : List α} (h : rest.head? ≠ some q) :
    read? q (quote q s ++ rest) = some (s, rest) := by
  rw [quote, List.cons_append, read?, if_pos rfl, List.append_assoc]
  exact readRest?_double s h

theorem read?_of_head_ne {q : α} {l : List α} (h : l.head? ≠ some q) : read? q l = none := by
  cases l with
  | nil => rfl
  | cons c l =>
    rw [read?, if_neg fun hc => h (by rw [List.head?_cons, hc])]

end QuotedText
