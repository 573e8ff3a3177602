import DuckdbOracle.Duckdb.Value

/-!
# A catalog set with a default generator

DuckDB's `CatalogSet` keeps every entry that its generator has built, under the name
it was built for, and asks the generator only for names it has no entry for.  Names
are compared without regard to letter case.  The generator is enumerated once: the
first scan builds an entry for every name it lists, and from then on a scan lists
what is kept.

Nothing ever takes an entry out (`Grows`): that is what makes the set a cache which
only its owner's end empties.
-/

namespace DuckdbOracle
namespace Duckdb

/-- The entries of a set, each with the name it was built for. -/
structure CatalogSet (ε : Type) where
  entries : List (String × ε) := []
  createdAllEntries : Bool := false

/-- `DefaultGenerator::CreateDefaultEntry`; `none` is the null pointer. -/
abbrev Generator (ε : Type) := String → Except String (Option ε)

namespace CatalogSet

variable {ε : Type} {generate : Generator ε} {set set' : CatalogSet ε} {name : String}

/-- The entry that is kept for a name. -/
def find? (set : CatalogSet ε) (name : String) : Option ε :=
  (set.entries.find? fun entry => lower entry.1 = lower name).map (·.2)

/-- Keep one more entry. -/
def add (set : CatalogSet ε) (name : String) (entry : ε) : CatalogSet ε :=
  { set with entries := set.entries ++ [(name, entry)] }

/-- The names of the kept entries. -/
def names (set : CatalogSet ε) : List String := set.entries.map (·.1)

/-- `CatalogSet::GetEntry`. -/
def getEntry (generate : Generator ε) (set : CatalogSet ε) (name : String) :
    CatalogSet ε × Except String (Option ε) :=
  match set.find? name with
  | some entry => (set, .ok (some entry))
  | none =>
    match generate name with
    | .ok (some entry) => (set.add name entry, .ok (some entry))
    | .ok none => (set, .ok none)
    | .error e => (set, .error e)

/-- `CatalogSet::CreateDefaultEntries`, once the generator has listed its names. -/
def createDefaultEntries (generate : Generator ε) :
    CatalogSet ε → List String → CatalogSet ε × Except String Unit
  | set, [] => ({ set with createdAllEntries := true }, .ok ())
  | set, name :: names =>
    match set.getEntry generate name with
    | (set, .ok (some _)) => set.createDefaultEntries generate names
    | (set, .ok none) => (set, .error ("Failed to create default entry for " ++ name))
    | (set, .error e) => (set, .error e)

/-! ## What is kept stays -/

/-- Every kept entry is still kept. -/
def Grows (set set' : CatalogSet ε) : Prop :=
  ∀ name entry, set.find? name = some entry → set'.find? name = some entry

theorem Grows.refl (set : CatalogSet ε) : Grows set set := fun _ _ h => h

theorem Grows.trans {set'' : CatalogSet ε} (h : Grows set set') (h' : Grows set' set'') :
    Grows set set'' :=
  fun name entry hfind => h' name entry (h name entry hfind)

theorem grows_add (set : CatalogSet ε) (name : String) (entry : ε) :
    Grows set (set.add name entry) := by
  intro name' entry' h
  obtain ⟨pair, hpair, rfl⟩ := Option.map_eq_some_iff.mp h
  rw [find?, add, List.find?_append, hpair]
  rfl

theorem grows_getEntry (generate : Generator ε) (set : CatalogSet ε) (name : String) :
    Grows set (set.getEntry generate name).1 := by
  unfold getEntry
  split
  · exact Grows.refl set
  · split
    · exact grows_add set name _
    · exact Grows.refl set
    · exact Grows.refl set

theorem grows_createDefaultEntries (generate : Generator ε) (set : CatalogSet ε)
    (names : List String) : Grows set (set.createDefaultEntries generate names).1 := by
  induction names generalizing set with
  | nil => exact fun _ _ h => h
  | cons name names ih =>
    have hentry := grows_getEntry generate set name
    unfold createDefaultEntries
    split
    · next heq => rw [heq] at hentry; exact hentry.trans (ih _)
    · next heq => rw [heq] at hentry; exact hentry
    · next heq => rw [heq] at hentry; exact hentry

/-! ## Where a kept entry comes from -/

/-- The set has no entries but those of the other one, and some that the generator has
built for one of the names, each kept under a name like that. -/
def BuiltFrom (generate : Generator ε) (names : List String) (set set' : CatalogSet ε) : Prop :=
  ∀ name entry, set'.find? name = some entry → set.find? name = some entry ∨
    ∃ name' ∈ names, lower name' = lower name ∧ generate name' = .ok (some entry)

theorem BuiltFrom.refl (generate : Generator ε) (names : List String) (set : CatalogSet ε) :
    BuiltFrom generate names set set :=
  fun _ _ h => Or.inl h

theorem BuiltFrom.cons {set'' : CatalogSet ε} {names : List String}
    (h : BuiltFrom generate [name] set set') (h' : BuiltFrom generate names set' set'') :
    BuiltFrom generate (name :: names) set set'' := by
  intro name' entry hfind
  rcases h' name' entry hfind with hkept | ⟨other, hother, hbuilt⟩
  · refine (h name' entry hkept).imp id ?_
    rintro ⟨other, hother, hbuilt⟩
    exact ⟨other, List.mem_singleton.mp hother ▸ List.mem_cons_self, hbuilt⟩
  · exact Or.inr ⟨other, List.mem_cons_of_mem name hother, hbuilt⟩

/-- An entry that is added is found if there was none of such a name. -/
theorem find?_add (set : CatalogSet ε) (name name' : String) (entry : ε) :
    (set.add name entry).find? name' =
      (set.find? name').or (if lower name = lower name' then some entry else none) := by
  rw [find?, add, List.find?_append, Option.map_or, ← find?]
  congr 1
  by_cases h : lower name = lower name' <;> simp [h]

/-- The entry that is found after one more is added. -/
theorem of_find?_add {entry entry' : ε} {name' : String}
    (h : (set.add name entry).find? name' = some entry') :
    set.find? name' = some entry' ∨ lower name = lower name' ∧ entry = entry' := by
  rw [find?_add, Option.or_eq_some_iff] at h
  refine h.imp id fun hnew => ?_
  by_cases hlower : lower name = lower name'
  · exact ⟨hlower, by simpa [hlower] using hnew.2⟩
  · simp [hlower] at hnew

theorem builtFrom_getEntry (generate : Generator ε) (set : CatalogSet ε) (name : String) :
    BuiltFrom generate [name] set (set.getEntry generate name).1 := by
  unfold getEntry
  split
  · exact BuiltFrom.refl generate _ set
  · split
    · next entry hentry =>
      intro name' entry' hfind
      rcases of_find?_add hfind with hold | ⟨hlower, rfl⟩
      · exact Or.inl hold
      · exact Or.inr ⟨name, List.mem_cons_self, hlower, hentry⟩
    · exact BuiltFrom.refl generate _ set
    · exact BuiltFrom.refl generate _ set

theorem builtFrom_createDefaultEntries (generate : Generator ε) (set : CatalogSet ε)
    (names : List String) :
    BuiltFrom generate names set (set.createDefaultEntries generate names).1 := by
  induction names generalizing set with
  | nil => exact fun _ _ h => Or.inl h
  | cons name names ih =>
    have hentry := builtFrom_getEntry generate set name
    have hnone : ∀ set', BuiltFrom generate names set' set' := BuiltFrom.refl generate names
    unfold createDefaultEntries
    split
    · next heq => rw [heq] at hentry; exact hentry.cons (ih _)
    · next heq => rw [heq] at hentry; exact hentry.cons (hnone _)
    · next heq => rw [heq] at hentry; exact hentry.cons (hnone _)

/-! ## Whether all entries are there -/

theorem find?_eq_none_iff : set.find? name = none ↔ lower name ∉ set.names.map lower := by
  simp only [find?, names, Option.map_eq_none_iff, List.find?_eq_none, decide_eq_true_eq,
    List.map_map, List.mem_map, Function.comp_apply, not_exists, not_and]

/-- The names of the kept entries are kept. -/
theorem Grows.names (h : Grows set set') {k : String} (hk : k ∈ set.names.map lower) :
    k ∈ set'.names.map lower := by
  obtain ⟨name, -, rfl⟩ := List.mem_map.mp hk
  obtain ⟨entry, hentry⟩ : ∃ entry, set.find? name = some entry :=
    Option.ne_none_iff_exists'.mp fun hnone => find?_eq_none_iff.mp hnone hk
  have hkept := h name entry hentry
  by_contra hnot
  rw [find?_eq_none_iff.mpr hnot] at hkept
  cases hkept

/-- A name without an entry gets the one that the generator builds. -/
theorem getEntry_of_none (h : set.find? name = none) :
    (set.getEntry generate name).2 = generate name := by
  unfold getEntry
  rw [h]
  dsimp only
  split
  · next heq => exact heq.symm
  · next heq => exact heq.symm
  · next heq => exact heq.symm

theorem getEntry_of_some {entry : ε} (h : set.find? name = some entry) :
    set.getEntry generate name = (set, .ok (some entry)) := by
  rw [getEntry, h]

/-- What a lookup returns is kept. -/
theorem find?_getEntry {entry : ε} (h : (set.getEntry generate name).2 = .ok (some entry)) :
    (set.getEntry generate name).1.find? name = some entry := by
  cases hfind : set.find? name with
  | some kept =>
    rw [getEntry_of_some hfind] at h ⊢
    obtain rfl := Option.some.inj (Except.ok.inj h)
    exact hfind
  | none =>
    rw [getEntry_of_none hfind] at h
    simp only [getEntry, hfind, h]
    have hnone := Option.map_eq_none_iff.mp hfind
    rw [find?, add, List.find?_append, hnone, Option.none_or, List.find?_cons_of_pos (by simp),
      Option.map_some]

end CatalogSet
end Duckdb
end DuckdbOracle
