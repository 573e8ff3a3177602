import Mathlib.Logic.Function.Basic
import DuckdbOracle.Catalog.Enumeration
import DuckdbOracle.Duckdb.CatalogSet
import DuckdbOracle.Foundations.StepRuns

/-!
# The two caches of an attached database

The state of an attached database keeps the lists of names it has queried, and
`oracle_clear_cache` empties them.  But DuckDB keeps the entries themselves in the
catalog sets of the schemas, which the generators fill, and no one empties those: a kept
entry stays what it was when it was built (`lookup_never_refreshes`), from the dictionary
of that moment (`of_find?_run`), whatever changes in Oracle and however often the cache is
cleared.  Only the lists are fresh after a clear (`fresh_clear`).
-/

namespace DuckdbOracle
namespace Catalog

open Duckdb Oracle OracleCatalogState

/-! ## A catalog and its two caches -/

/-- `OracleSchemaGenerator::CreateDefaultEntry`. -/
def createSchemaEntry (state : OracleCatalogState) (db : Database) (entryName : String) :
    OracleCatalogState × OracleSchemaEntry :=
  let realName := getRealSchemaName db entryName
  let name := if realName ≠ "" then realName else entryName
  if entryName = "main" ∧ state.settings.useCurrentSchema then
    let state := (state.detectCurrentSchema (.ok ()) (.ok [[db.currentSchema]])).1
    if state.currentSchema ≠ "" then (state, ⟨entryName, state.currentSchema⟩)
    else (state, ⟨name, name⟩)
  else (state, ⟨name, name⟩)

/-- An attached database: Oracle, the state of the extension, and DuckDB's catalog sets,
those of the tables by the name of their schema in lower case. -/
structure CatalogWorld where
  db : Database
  state : OracleCatalogState
  schemas : CatalogSet OracleSchemaEntry := {}
  tables : String → CatalogSet OracleTableEntry := fun _ => {}

namespace CatalogWorld

/-- The entry of a schema, kept or built. -/
def schemaEntry (w : CatalogWorld) (schema : String) : CatalogWorld × OracleSchemaEntry :=
  match w.schemas.find? schema with
  | some entry => (w, entry)
  | none =>
    let (state, entry) := createSchemaEntry w.state w.db schema
    ({ w with state := state, schemas := w.schemas.add schema entry }, entry)

/-- The entry of a table, kept or built. -/
def lookup (w : CatalogWorld) (schema table : String) :
    CatalogWorld × Except String (Option OracleTableEntry) :=
  let (w, entry) := w.schemaEntry schema
  let (set, result) := (w.tables (lower schema)).getEntry
    (createDefaultEntry w.db w.state.settings entry) table
  ({ w with tables := Function.update w.tables (lower schema) set }, result)

/-- The names of the tables of a schema. -/
def enumerate (w : CatalogWorld) (schema : String) : CatalogWorld × Except String (List String) :=
  let (w, entry) := w.schemaEntry schema
  let set := w.tables (lower schema)
  if set.createdAllEntries then (w, .ok set.names)
  else
    let (state, listed) := w.state.getDefaultEntries w.db entry
    let (set, result) :=
      set.createDefaultEntries (createDefaultEntry w.db w.state.settings entry) listed
    ({ w with state := state, tables := Function.update w.tables (lower schema) set },
      result.map fun _ => set.names)

end CatalogWorld

/-- What happens to a catalog. -/
inductive CatalogEvent where
  | lookup (schema table : String)
  | enumerate (schema : String)
  /-- Tables are created, dropped or altered in Oracle. -/
  | change (dictionary : Dictionary)
  /-- `oracle_clear_cache()`. -/
  | clear

/-- The event leaves Oracle's dictionary alone. -/
def CatalogEvent.KeepsDictionary : CatalogEvent → Prop
  | .change _ => False
  | _ => True

/-- One event. -/
def CatalogWorld.step (w : CatalogWorld) : CatalogEvent → CatalogWorld
  | .lookup schema table => (w.lookup schema table).1
  | .enumerate schema => (w.enumerate schema).1
  | .change dictionary => { w with db := { w.db with dictionary := dictionary } }
  | .clear => { w with state := w.state.clearCaches }

/-- A sequence of events. -/
def CatalogWorld.run (w : CatalogWorld) (es : List CatalogEvent) : CatalogWorld :=
  es.foldl CatalogWorld.step w

/-! ## What is kept stays -/

theorem tables_schemaEntry (w : CatalogWorld) (schema : String) :
    (w.schemaEntry schema).1.tables = w.tables := by
  unfold CatalogWorld.schemaEntry
  split <;> rfl

/-- Replacing one set by one that keeps its entries. -/
theorem grows_update {tables : String → CatalogSet OracleTableEntry} {key : String}
    {set : CatalogSet OracleTableEntry} (h : (tables key).Grows set) (k : String) :
    (tables k).Grows (Function.update tables key set k) := by
  by_cases hk : k = key
  · rw [hk, Function.update_self]
    exact h
  · rw [Function.update_of_ne hk]
    exact CatalogSet.Grows.refl _

/-- **No event takes an entry out of a set.** -/
theorem grows_step (w : CatalogWorld) (e : CatalogEvent) (key : String) :
    (w.tables key).Grows ((w.step e).tables key) := by
  cases e with
  | lookup schema table =>
    rw [← tables_schemaEntry w schema]
    exact grows_update (CatalogSet.grows_getEntry _ _ _) key
  | enumerate schema =>
    rw [← tables_schemaEntry w schema]
    simp only [CatalogWorld.step, CatalogWorld.enumerate]
    split
    · exact CatalogSet.Grows.refl _
    · exact grows_update (CatalogSet.grows_createDefaultEntries _ _ _) key
  | change dictionary => exact CatalogSet.Grows.refl _
  | clear => exact CatalogSet.Grows.refl _

theorem grows_run (w : CatalogWorld) (es : List CatalogEvent) (key : String) :
    (w.tables key).Grows ((w.run es).tables key) := by
  induction es generalizing w with
  | nil => exact CatalogSet.Grows.refl _
  | cons e es ih => exact (grows_step w e key).trans (ih (w.step e))

/-- A lookup asks the generator only for a name that no entry is kept for. -/
theorem lookup_snd (w : CatalogWorld) (schema table : String) :
    (w.lookup schema table).2 =
      match (w.tables (lower schema)).find? table with
      | some entry => .ok (some entry)
      | none => createDefaultEntry (w.schemaEntry schema).1.db
          (w.schemaEntry schema).1.state.settings (w.schemaEntry schema).2 table := by
  simp only [CatalogWorld.lookup, tables_schemaEntry]
  split
  · next entry hfind => rw [CatalogSet.getEntry_of_some hfind]
  · next hfind => rw [CatalogSet.getEntry_of_none hfind]

/-- **An entry is never built anew**: once a lookup has found one, every later lookup of
the name finds the same one, whatever changes and is cleared in between. -/
theorem lookup_never_refreshes {w : CatalogWorld} {schema table : String}
    {entry : OracleTableEntry} (h : (w.lookup schema table).2 = .ok (some entry))
    (es : List CatalogEvent) :
    (((w.step (.lookup schema table)).run es).lookup schema table).2 = .ok (some entry) := by
  have hkept : ((w.step (.lookup schema table)).tables (lower schema)).find? table =
      some entry := by
    simp only [CatalogWorld.step, CatalogWorld.lookup, Function.update_self] at h ⊢
    exact CatalogSet.find?_getEntry h
  rw [lookup_snd, grows_run _ es (lower schema) table entry hkept]

/-! ## What building a schema leaves alone -/

theorem detectCurrentSchema_objectCache (state : OracleCatalogState) (attempt : Except String Unit)
    (answer : QueryAnswer) :
    (state.detectCurrentSchema attempt answer).1.objectCache = state.objectCache := by
  obtain ⟨connected, schema, -, hcaches, heq⟩ := exists_detectCurrentSchema state attempt answer
  rw [heq]
  exact hcaches.objectCache

/-- The entry of a schema is built without the lists of names, and keeps the settings. -/
theorem schemaEntry_keeps (w : CatalogWorld) (schema : String) :
    (w.schemaEntry schema).1.db = w.db ∧
      (w.schemaEntry schema).1.state.settings = w.state.settings ∧
      (w.schemaEntry schema).1.state.objectCache = w.state.objectCache := by
  unfold CatalogWorld.schemaEntry createSchemaEntry
  split
  · exact ⟨rfl, rfl, rfl⟩
  · refine ⟨rfl, ?_⟩
    have hsettings := (sameServer_detectCurrentSchema w.state (.ok ())
      (.ok [[w.db.currentSchema]])).settings
    have hcache := detectCurrentSchema_objectCache w.state (.ok ()) (.ok [[w.db.currentSchema]])
    dsimp only
    split
    · split
      · exact ⟨hsettings, hcache⟩
      · exact ⟨hsettings, hcache⟩
    · exact ⟨rfl, rfl⟩

/-- The list of names that is kept for a schema. -/
def CatalogWorld.keptList? (w : CatalogWorld) (schema : String) : Option (List String) :=
  w.state.objectCache.lookup
    (cacheKey (w.schemaEntry schema).2.oracleSchema w.state.settings.metadataObjectTypes)

/-- The names that an enumeration of the schema goes by: those of the list that is kept, or
else what Oracle answers. -/
def CatalogWorld.listed (w : CatalogWorld) (schema : String) : List String :=
  (w.keptList? schema).getD
    (listedNames w.db w.state.settings (w.schemaEntry schema).2.oracleSchema)

theorem snd_getDefaultEntries_schemaEntry (w : CatalogWorld) (schema : String) :
    ((w.schemaEntry schema).1.state.getDefaultEntries w.db (w.schemaEntry schema).2).2 =
      w.listed schema := by
  obtain ⟨-, hsettings, hcache⟩ := schemaEntry_keeps w schema
  rw [getDefaultEntries_snd, hsettings, hcache]
  rfl

/-- In the event DuckDB asks the generator of the schema, under its name `schema'`, for an entry
for `name`.  None is kept under such a name, and it is looked up, or listed when the schema is
enumerated for the first time. -/
inductive CatalogWorld.Asks (w : CatalogWorld) (schema table : String) :
    CatalogEvent → String → String → Prop where
  | lookup {schema' name : String} (hschema : lower schema' = lower schema)
      (hname : lower name = lower table)
      (hnone : (w.tables (lower schema)).find? table = none) :
      Asks w schema table (.lookup schema' name) schema' name
  | enumerate {schema' name : String} (hschema : lower schema' = lower schema)
      (hall : (w.tables (lower schema)).createdAllEntries = false)
      (hlisted : name ∈ w.listed schema') (hname : lower name = lower table)
      (hnone : (w.tables (lower schema)).find? table = none) :
      Asks w schema table (.enumerate schema') schema' name

/-- The event builds the entry, from the dictionary of this moment. -/
def CatalogWorld.Builds (w : CatalogWorld) (schema table : String) (e : CatalogEvent)
    (entry : OracleTableEntry) : Prop :=
  ∃ schema' name, w.Asks schema table e schema' name ∧
    createDefaultEntry w.db w.state.settings (w.schemaEntry schema').2 name = .ok (some entry)

/-- An entry that is kept after an event was kept before, or is built in it. -/
theorem of_find?_step {w : CatalogWorld} {e : CatalogEvent} {schema table : String}
    {entry : OracleTableEntry}
    (h : ((w.step e).tables (lower schema)).find? table = some entry) :
    (w.tables (lower schema)).find? table = some entry ∨ w.Builds schema table e entry := by
  cases hkept : (w.tables (lower schema)).find? table with
  | some kept =>
    rw [grows_step w e (lower schema) table kept hkept] at h
    exact Or.inl h
  | none =>
    right
    cases e with
    | lookup schema' name =>
      obtain ⟨hdb, hsettings, -⟩ := schemaEntry_keeps w schema'
      simp only [CatalogWorld.step, CatalogWorld.lookup, tables_schemaEntry, hdb, hsettings] at h
      by_cases hschema : lower schema' = lower schema
      · rw [hschema, Function.update_self] at h
        rcases CatalogSet.builtFrom_getEntry _ _ _ table entry h with hold | ⟨other, hother, hbuilt⟩
        · rw [hkept] at hold
          cases hold
        · obtain rfl := List.mem_singleton.mp hother
          exact ⟨schema', other, .lookup hschema hbuilt.1 hkept, hbuilt.2⟩
      · rw [Function.update_of_ne (Ne.symm hschema), hkept] at h
        cases h
    | enumerate schema' =>
      obtain ⟨hdb, hsettings, -⟩ := schemaEntry_keeps w schema'
      simp only [CatalogWorld.step, CatalogWorld.enumerate] at h
      split at h
      · rw [tables_schemaEntry, hkept] at h
        cases h
      · next hall =>
        simp only [tables_schemaEntry, hdb, hsettings] at h hall
        by_cases hschema : lower schema' = lower schema
        · rw [hschema, Function.update_self] at h
          rw [hschema, Bool.not_eq_true] at hall
          rcases CatalogSet.builtFrom_createDefaultEntries _ _ _ table entry h with
            hold | ⟨other, hother, hbuilt⟩
          · rw [hkept] at hold
            cases hold
          · rw [snd_getDefaultEntries_schemaEntry] at hother
            exact ⟨schema', other, .enumerate hschema hall hother hbuilt.1 hkept, hbuilt.2⟩
        · rw [Function.update_of_ne (Ne.symm hschema), hkept] at h
          cases h
    | change dictionary =>
      rw [show (w.step (.change dictionary)).tables = w.tables from rfl, hkept] at h
      cases h
    | clear =>
      rw [show (w.step .clear).tables = w.tables from rfl, hkept] at h
      cases h

/-- **An entry is as old as the event that built it**, and was built from the dictionary
of that moment: every entry that is kept after a run was kept before it, or built in one
of its events, and kept ever since. -/
theorem of_find?_run {w : CatalogWorld} {es : List CatalogEvent} {schema table : String}
    {entry : OracleTableEntry}
    (h : ((w.run es).tables (lower schema)).find? table = some entry) :
    (w.tables (lower schema)).find? table = some entry ∨ ∃ es₁ e es₂, es = es₁ ++ e :: es₂ ∧
      (w.run es₁).Builds schema table e entry := by
  induction es generalizing w with
  | nil => exact Or.inl h
  | cons e es ih =>
    rcases @ih (w.step e) h with hkept | ⟨es₁, e', es₂, rfl, hbuilds⟩
    · exact (of_find?_step hkept).imp id fun hbuilds => ⟨[], e, es, rfl, hbuilds⟩
    · exact Or.inr ⟨e :: es₁, e', es₂, rfl, hbuilds⟩

/-! ## After a clear the lists of names are fresh -/

/-- The lists of names that are kept are what Oracle would answer now. -/
def CatalogWorld.Fresh (w : CatalogWorld) : Prop := CacheCurrent w.db w.state

theorem CatalogWorld.Fresh.schemaEntry {w : CatalogWorld} (h : w.Fresh) (schema : String) :
    (w.schemaEntry schema).1.Fresh := by
  obtain ⟨hdb, hsettings, hcache⟩ := schemaEntry_keeps w schema
  unfold CatalogWorld.Fresh CacheCurrent
  rw [hdb, hsettings, hcache]
  exact h

/-- **A clear makes the lists fresh.** -/
theorem fresh_clear (w : CatalogWorld) : (w.step .clear).Fresh := by
  intro schema objects hlookup
  cases hlookup

/-- They stay so until the dictionary changes. -/
theorem CatalogWorld.Fresh.step {w : CatalogWorld} (h : w.Fresh) {e : CatalogEvent}
    (he : e.KeepsDictionary) : (w.step e).Fresh := by
  cases e with
  | lookup schema table => exact h.schemaEntry schema
  | enumerate schema =>
    simp only [CatalogWorld.step, CatalogWorld.enumerate]
    split
    · exact h.schemaEntry schema
    · exact (CacheCurrent.getDefaultEntries (h.schemaEntry schema) _).2
  | change dictionary => exact he.elim
  | clear => exact fresh_clear w

theorem CatalogWorld.Fresh.run {w : CatalogWorld} (h : w.Fresh) {es : List CatalogEvent}
    (hes : ∀ e ∈ es, e.KeepsDictionary) : (w.run es).Fresh := by
  induction es generalizing w with
  | nil => exact h
  | cons e es ih =>
    exact ih (h.step (hes e List.mem_cons_self)) fun e' he' =>
      hes e' (List.mem_cons_of_mem e he')

end Catalog
end DuckdbOracle
