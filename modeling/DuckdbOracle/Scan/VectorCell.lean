import DuckdbOracle.Scan.Conversions

/-!
# The components of a vector

`VECTOR_SERIALIZE` writes a dense vector as its components between brackets, separated
by commas, with blanks here and there.  `ParseVectorJsonToList` trims, strips the
brackets, splits at the commas and trims again, and so comes back to exactly the texts
of the components (`parseVectorJsonToList_vectorText`).

But then it leaves out those that `std::stof` rejects, and the ones behind move up.  The
list has the components in their places exactly if none is rejected
(`keeps_dimension_iff`).
-/

namespace DuckdbOracle
namespace Scan

open Catalog OracleCatalogState

/-! ## The text of a vector -/

/-- Nothing but blanks. -/
abbrev Blanks := { s : List Char // ∀ c ∈ s, characterIsSpace c = true }

/-- A component, with the blanks around it: a text without blanks or commas. -/
structure VectorComponent where
  before : Blanks
  text : List Char
  after : Blanks
  nonempty : text ≠ []
  plain : ∀ c ∈ text, characterIsSpace c = false ∧ c ≠ ','

/-- How a component is written. -/
def VectorComponent.chars (component : VectorComponent) : List Char :=
  component.before.val ++ component.text ++ component.after.val

/-- How a vector is written, with the blanks around the whole. -/
def vectorText (before : Blanks) (components : List VectorComponent) (after : Blanks) :
    List Char :=
  before.val ++ ('[' :: ([','].intercalate (components.map VectorComponent.chars) ++ [']'])) ++
    after.val

/-! ## Trimming -/

theorem dropWhile_spaces {blanks text : List Char}
    (hblanks : ∀ c ∈ blanks, characterIsSpace c = true)
    (htext : ∀ c, text.head? = some c → characterIsSpace c = false) :
    (blanks ++ text).dropWhile characterIsSpace = text := by
  rw [List.dropWhile_append_of_pos hblanks]
  cases text with
  | nil => rfl
  | cons c text => rw [List.dropWhile_cons_of_neg (by simp [htext c rfl])]

/-- Trimming removes the blanks around a text that has none at its ends. -/
theorem trim_blanks (before after : Blanks) {text : List Char} (hne : text ≠ [])
    (hhead : ∀ c, text.head? = some c → characterIsSpace c = false)
    (hlast : ∀ c, text.getLast? = some c → characterIsSpace c = false) :
    (trim (before.val ++ text ++ after.val)).toList = text := by
  have hfront : (before.val ++ (text ++ after.val)).dropWhile characterIsSpace =
      text ++ after.val := by
    refine dropWhile_spaces before.property fun c hc => hhead c ?_
    rwa [List.head?_append_of_ne_nil text hne] at hc
  have hback : (after.val.reverse ++ text.reverse).dropWhile characterIsSpace =
      text.reverse := by
    refine dropWhile_spaces (fun c hc => after.property c (List.mem_reverse.mp hc))
      fun c hc => hlast c ?_
    rwa [List.head?_reverse] at hc
  rw [trim, String.toList_ofList, List.append_assoc, hfront, List.reverse_append, hback,
    List.reverse_reverse]

/-- A component is trimmed to its text. -/
theorem parseVectorPart_chars {F : Type} (stof : List Char → Option F)
    (component : VectorComponent) :
    parseVectorPart stof component.chars = stof component.text := by
  have htrim : (trim component.chars).toList = component.text :=
    trim_blanks component.before component.after component.nonempty
      (fun c hc => (component.plain c (List.mem_of_head? hc)).1)
      (fun c hc => (component.plain c (List.mem_of_getLast? hc)).1)
  rw [parseVectorPart, htrim]
  exact if_neg component.nonempty

/-! ## The list -/

/-- The brackets are removed. -/
theorem removeBrackets_eq (s : List Char) : removeBrackets ('[' :: (s ++ [']'])) = s := by
  rw [removeBrackets, if_pos ⟨by simp, rfl, by simp [List.getLast?_cons]⟩, List.tail_cons,
    List.dropLast_concat]

/-- **What becomes of a vector**: its components, less those that are rejected. -/
theorem parseVectorJsonToList_vectorText {F : Type} (stof : List Char → Option F)
    (before : Blanks) (components : List VectorComponent) (after : Blanks) :
    parseVectorJsonToList stof (vectorText before components after) =
      components.filterMap fun component => stof component.text := by
  have htrim : (trim (vectorText before components after)).toList =
      '[' :: ([','].intercalate (components.map VectorComponent.chars) ++ [']']) := by
    refine trim_blanks before after (List.cons_ne_nil _ _) (fun c hc => ?_) fun c hc => ?_
    · obtain rfl := Option.some.inj hc
      decide
    · rw [← List.cons_append, List.getLast?_concat] at hc
      obtain rfl := Option.some.inj hc
      decide
  have hsplit : splitFrom ',' [] ([','].intercalate (components.map VectorComponent.chars)) =
      components.map VectorComponent.chars := by
    refine splitFrom_intercalate fun piece hpiece => ?_
    obtain ⟨component, -, rfl⟩ := List.mem_map.mp hpiece
    constructor
    · simp [VectorComponent.chars, component.nonempty]
    · intro hmem
      have hcomma : characterIsSpace ',' = false := by decide
      simp only [VectorComponent.chars, List.mem_append] at hmem
      rcases hmem with (hmem | hmem) | hmem
      · exact absurd (component.before.property ',' hmem) (by simp [hcomma])
      · exact (component.plain ',' hmem).2 rfl
      · exact absurd (component.after.property ',' hmem) (by simp [hcomma])
  rw [parseVectorJsonToList, htrim, if_neg (by simp), removeBrackets_eq, hsplit, List.filterMap_map]
  exact List.filterMap_congr fun component _ => parseVectorPart_chars stof component

/-- **Every component keeps its place**: there are as many elements as components, and each
is what `std::stof` makes of its component. -/
def KeepsDimension {F : Type} (stof : List Char → Option F) (components : List VectorComponent)
    (elements : List F) : Prop :=
  elements.length = components.length ∧
    ∀ (i : ℕ) (component : VectorComponent), components[i]? = some component →
      ∃ element, elements[i]? = some element ∧ stof component.text = some element

theorem filterMap_eq_map_of_isSome {α β : Type*} {f : α → Option β} {l : List α}
    (h : ∀ a ∈ l, ∃ b, f a = some b) : (l.filterMap f).map some = l.map f := by
  induction l with
  | nil => rfl
  | cons a l ih =>
    obtain ⟨b, hb⟩ := h a List.mem_cons_self
    rw [List.filterMap_cons_some hb, List.map_cons, List.map_cons, hb,
      ih fun a ha => h a (List.mem_cons_of_mem _ ha)]

/-- **When a vector keeps its dimension**: exactly if `std::stof` converts every component. -/
theorem keeps_dimension_iff {F D T : Type} (lib : Library F D T) (child : Duckdb.LogicalType)
    (before : Blanks) (components : List VectorComponent) (after : Blanks) {val : List UInt8}
    (hval : cellText val = vectorText before components after) :
    (∃ elements, convertCell lib (.list child) val = some (.list elements) ∧
        KeepsDimension lib.stof components elements) ↔
      ∀ component ∈ components, ∃ element, lib.stof component.text = some element := by
  have hcell : convertCell lib (.list child) val =
      some (.list (components.filterMap fun component => lib.stof component.text)) := by
    rw [convertCell, hval, parseVectorJsonToList_vectorText]
  rw [hcell]
  constructor
  · rintro ⟨elements, -, -, hplace⟩ component hmem
    obtain ⟨i, hi⟩ := List.mem_iff_getElem?.mp hmem
    obtain ⟨element, -, helement⟩ := hplace i component hi
    exact ⟨element, helement⟩
  · intro hall
    have hmap := filterMap_eq_map_of_isSome hall
    refine ⟨_, rfl, ?_, fun i component hi => ?_⟩
    · simpa using congrArg List.length hmap
    · obtain ⟨element, helement⟩ := hall component (List.mem_of_getElem? hi)
      refine ⟨element, ?_, helement⟩
      have hget := congrArg (·[i]?) hmap
      simp only [List.getElem?_map, hi, Option.map_some, helement] at hget
      simpa using hget

/-- A library whose `std::stof` converts two texts and throws for the others. -/
def twoFloats : Library ℕ Unit Unit where
  stof text := if text = "1.0".toList then some 1 else if text = "2.0".toList then some 2 else none
  stod _ := none
  fromString _ := none
  epoch := ()
  castDecimal _ _ _ := none
  castUser _ _ := none

/-- No blanks. -/
def noBlanks : Blanks := ⟨[], by simp⟩

/-- One blank. -/
def oneBlank : Blanks := ⟨[' '], List.forall_mem_singleton.mpr (by decide)⟩

theorem plain_of_all {text : List Char}
    (h : (text.all fun c => !characterIsSpace c && c != ',') = true) :
    ∀ c ∈ text, characterIsSpace c = false ∧ c ≠ ',' := by
  intro c hc
  simpa using List.all_eq_true.mp h c hc

/-- `1.0, 2.0`, and between them a number that is out of the range of `float`. -/
def component1 : VectorComponent :=
  ⟨noBlanks, "1.0".toList, noBlanks, by decide, plain_of_all (by decide)⟩
def component2 : VectorComponent :=
  ⟨oneBlank, "2.0".toList, noBlanks, by decide, plain_of_all (by decide)⟩
def componentHuge : VectorComponent :=
  ⟨oneBlank, "1e300".toList, noBlanks, by decide, plain_of_all (by decide)⟩

theorem keeps_dimension_two :
    ∃ elements, convertCell twoFloats (.list .float) (asciiBytes "[1.0, 2.0]") =
        some (.list elements) ∧
      KeepsDimension twoFloats.stof [component1, component2] elements :=
  (keeps_dimension_iff twoFloats .float noBlanks [component1, component2] noBlanks
      (by decide)).mpr <| by
    simp [component1, component2, twoFloats]

/-- **A component is lost**: the vector of three comes back with two elements, and the last
one in the second place. -/
theorem hugeComponent_lost :
    convertCell twoFloats (.list .float) (asciiBytes "[1.0, 1e300, 2.0]") = some (.list [1, 2]) ∧
      ¬ KeepsDimension twoFloats.stof [component1, componentHuge, component2] [1, 2] :=
  ⟨by decide, fun hkeeps => absurd hkeeps.1 (by decide)⟩

end Scan
end DuckdbOracle
