import Mathlib.Data.List.Sort
import DuckdbOracle.Catalog.Entries

/-!
# Can what is listed be opened, as itself?

DuckDB lists a schema through `GetDefaultEntries` and then asks `CreateDefaultEntry`
for every name it got; a null pointer is an internal error there, so that one name
without an entry keeps the whole schema from being listed.

The names come out of the dictionary as they are stored.  The lookup that follows
goes through `UPPER` on one side or on both, and prefers tables to synonyms.  `Reopens`
lists the objects that are found again under their own names: the first table or view of
its name in an upper-case schema, a synonym with an upper-case name next to no table, and
the few that another spelling leads back to.  Everything that is listed can be opened, as
itself, exactly if every listed object is one of those, and the columns found for it can
stand in one table of DuckDB (`listed_opens_iff`).
-/

namespace DuckdbOracle
namespace Catalog

open Duckdb Oracle

/-! ## The enumeration -/

/-- `StringUtil::CharacterIsSpace`. -/
def characterIsSpace (c : Char) : Bool := c ∈ [' ', '\t', '\n', '\x0b', '\x0c', '\r']

/-- `StringUtil::Trim`. -/
def trim (text : List Char) : String :=
  String.ofList ((text.dropWhile characterIsSpace).reverse.dropWhile characterIsSpace).reverse

/-- The types in a comma-separated list. -/
def objectTypesOf (objectTypes : String) : List String :=
  (OracleCatalogState.splitFrom ',' [] objectTypes.toList).map trim

/-- What the query of `ListObjects` returns. -/
def queryObjects (db : Database) (limit : ℕ) (schema objectTypes : String) : List String :=
  let rows := db.dictionary.allObjects.filter fun row =>
    row.1.owner = db.upper schema ∧ row.2 ∈ objectTypesOf objectTypes
  let names := (rows.map (·.1.name)).insertionSort (· ≤ ·)
  if limit > 0 then names.take limit else names

/-- The key of a schema in `object_cache`. -/
def cacheKey (schema objectTypes : String) : String := schema ++ ":" ++ objectTypes

namespace OracleCatalogState

/-- `ListObjects`. -/
def listObjects (state : OracleCatalogState) (db : Database) (schema objectTypes : String) :
    OracleCatalogState × List String :=
  match state.objectCache.lookup (cacheKey schema objectTypes) with
  | some objects => (state, objects)
  | none =>
    let objects := queryObjects db state.settings.metadataResultLimit schema objectTypes
    let state := (state.ensureConnection (.ok ())).1
    ({ state with objectCache := (cacheKey schema objectTypes, objects) :: state.objectCache },
      objects)

/-- `OracleTableGenerator::GetDefaultEntries`. -/
def getDefaultEntries (state : OracleCatalogState) (db : Database) (schema : OracleSchemaEntry) :
    OracleCatalogState × List String :=
  state.listObjects db schema.oracleSchema state.settings.metadataObjectTypes

end OracleCatalogState

open OracleCatalogState

/-! ## The cache holds what the query returns -/

/-- What a fresh query for the objects of a schema returns. -/
def listedNames (db : Database) (settings : OracleSettings) (schema : String) : List String :=
  queryObjects db settings.metadataResultLimit schema settings.metadataObjectTypes

/-- Every cached list is what the query returns now. -/
def CacheCurrent (db : Database) (state : OracleCatalogState) : Prop :=
  ∀ schema objects,
    state.objectCache.lookup (cacheKey schema state.settings.metadataObjectTypes) = some objects →
      objects = listedNames db state.settings schema

theorem cacheKey_inj {schema schema' objectTypes : String}
    (h : cacheKey schema objectTypes = cacheKey schema' objectTypes) : schema = schema' := by
  have h := congrArg String.toList h
  simp only [cacheKey, String.toList_append, List.append_assoc] at h
  exact String.toList_inj.mp (List.append_cancel_right h)

theorem ensureConnection_objectCache (state : OracleCatalogState)
    (attempt : Except String Unit) :
    (state.ensureConnection attempt).1.objectCache = state.objectCache :=
  (sameCaches_ensureConnection state attempt).objectCache

/-- An enumeration keeps the settings. -/
theorem settings_getDefaultEntries (state : OracleCatalogState) (db : Database)
    (schema : OracleSchemaEntry) :
    (state.getDefaultEntries db schema).1.settings = state.settings := by
  unfold OracleCatalogState.getDefaultEntries listObjects
  split
  · rfl
  · exact (sameServer_ensureConnection state (.ok ())).settings

/-- The list that is kept for a schema is asked for no more. -/
theorem getDefaultEntries_snd (state : OracleCatalogState) (db : Database)
    (schema : OracleSchemaEntry) :
    (state.getDefaultEntries db schema).2 =
      (state.objectCache.lookup
        (cacheKey schema.oracleSchema state.settings.metadataObjectTypes)).getD
        (listedNames db state.settings schema.oracleSchema) := by
  unfold OracleCatalogState.getDefaultEntries listObjects
  split
  · next objects hlookup => rw [hlookup, Option.getD_some]
  · next hlookup =>
    rw [hlookup, Option.getD_none]
    rfl

/-- **An enumeration returns what a query would return**, and leaves the cache so. -/
theorem CacheCurrent.getDefaultEntries {db : Database} {state : OracleCatalogState}
    (h : CacheCurrent db state) (schema : OracleSchemaEntry) :
    (state.getDefaultEntries db schema).2 = listedNames db state.settings schema.oracleSchema ∧
      CacheCurrent db (state.getDefaultEntries db schema).1 := by
  unfold OracleCatalogState.getDefaultEntries listObjects
  split
  · next objects hlookup => exact ⟨h _ _ hlookup, h⟩
  · next hlookup =>
    have hsettings : (state.ensureConnection (.ok ())).1.settings = state.settings :=
      (sameServer_ensureConnection state (.ok ())).settings
    refine ⟨rfl, fun schema' objects hobjects => ?_⟩
    simp only [hsettings, ensureConnection_objectCache, List.lookup_cons] at hobjects ⊢
    split at hobjects
    · next hkey =>
      rw [← Option.some.inj hobjects, cacheKey_inj (eq_of_beq hkey)]
      rfl
    · exact h _ _ hobjects

/-- The state after the enumeration of some schemas. -/
def enumerateAll (db : Database) (state : OracleCatalogState) (schemas : List OracleSchemaEntry) :
    OracleCatalogState :=
  schemas.foldl (fun state schema => (state.getDefaultEntries db schema).1) state

theorem CacheCurrent.enumerateAll {db : Database} {state : OracleCatalogState}
    (h : CacheCurrent db state) (schemas : List OracleSchemaEntry) :
    CacheCurrent db (enumerateAll db state schemas) ∧
      (Catalog.enumerateAll db state schemas).settings = state.settings := by
  induction schemas generalizing state with
  | nil => exact ⟨h, rfl⟩
  | cons schema schemas ih =>
    obtain ⟨-, hcurrent⟩ := h.getDefaultEntries schema
    obtain ⟨hcurrent', hsettings'⟩ := ih hcurrent
    exact ⟨hcurrent', hsettings'.trans (settings_getDefaultEntries state db schema)⟩

/-! ## Opening what is listed -/

/-- Two names of one object: they are the same, or resolve to the same object. -/
def SameObject (db : Database) (p q : String × String) : Prop :=
  p = q ∨ ∃ o, db.dictionary.Resolves p o ∧ db.dictionary.Resolves q o

/-- What a listed name stands for: the target of the synonym of exactly that name, or
else the object of exactly that name. -/
def listedTarget (db : Database) (schema name : String) : String × String :=
  (synonymTarget? db (db.upper schema) name).getD (db.upper schema, name)

/-- The name opens as itself: there is an entry for it, and its query reads what the
name stands for. -/
def Opens (db : Database) (settings : OracleSettings) (schema : OracleSchemaEntry)
    (name : String) : Prop :=
  ∃ entry, createDefaultEntry db settings schema name = .ok (some entry) ∧
    ∃ p, readQualified? entry.fromClause.toList = some p ∧
      SameObject db p (listedTarget db schema.oracleSchema name)

/-- The columns stored under the name in upper case differ in more than letter case. -/
def Loadable (db : Database) (p : String × String) : Prop :=
  DistinctNames ((db.dictionary.columnsOf (db.upper p.1) (db.upper p.2)).map (·.columnName))

instance (db : Database) (p : String × String) : Decidable (Loadable db p) :=
  inferInstanceAs (Decidable (DistinctNames _))

theorem opens_iff {db : Database} {settings : OracleSettings} {schema : OracleSchemaEntry}
    {name : String} :
    Opens db settings schema name ↔ ∃ p, pickedName db schema.oracleSchema name = some p ∧
      Loadable db p ∧ SameObject db p (listedTarget db schema.oracleSchema name) := by
  constructor
  · rintro ⟨entry, hentry, q, hq, hsame⟩
    obtain ⟨p, hp, hcreate⟩ := createDefaultEntry_eq_ok_some_iff.mp hentry
    obtain ⟨hdistinct, rfl⟩ := create_eq_ok_iff.mp hcreate
    obtain rfl := Option.some.inj ((readQualified?_writeQuoted p.1 p.2).symm.trans hq)
    exact ⟨p, hp, hdistinct, hsame⟩
  · rintro ⟨p, hp, hdistinct, hsame⟩
    exact ⟨_, createDefaultEntry_eq_ok_some_iff.mpr
      ⟨p, hp, create_eq_ok_iff.mpr ⟨hdistinct, rfl⟩⟩, p, readQualified?_writeQuoted p.1 p.2, hsame⟩

/-! ## Which objects are found again under their own names -/

/-- The name of the object `o`, of the owner `UPPER(schema)`, leads back to it, or to what it
stands for if it is a synonym; `p` is the full name under which it does. -/
inductive Reopens (db : Database) (schema : String) (o : DictionaryObject) :
    String × String → Prop where
  /-- A table or view, the first of its name in any letter case, of an upper-case schema. -/
  | table (htable : o.kind.target? = none) (hschema : db.upper schema = schema)
      (hfirst : likeNamed? db schema o.name = some o) : Reopens db schema o (schema, o.name)
  /-- A synonym with an upper-case name, and no table or view of that name. -/
  | synonym {q : String × String} (htarget : o.kind.target? = some q)
      (hnone : likeNamed? db schema o.name = none) (hname : db.upper o.name = o.name) :
      Reopens db schema o q
  /-- One in another spelling, but the schema's synonym in upper case stands for the same. -/
  | respelled {p q : String × String} (htarget : o.kind.target? = some q)
      (hnone : likeNamed? db schema o.name = none) (hname : db.upper o.name ≠ o.name)
      (hown : synonymTarget? db (db.upper schema) (db.upper o.name) = some p)
      (hsame : SameObject db p q) : Reopens db schema o p
  /-- One in another spelling, but the public synonym in upper case stands for the same, and
  the schema has none. -/
  | respelledPublic {p q : String × String} (htarget : o.kind.target? = some q)
      (hnone : likeNamed? db schema o.name = none) (hname : db.upper o.name ≠ o.name)
      (hown : synonymTarget? db (db.upper schema) (db.upper o.name) = none)
      (hpublic : synonymTarget? db "PUBLIC" (db.upper o.name) = some p)
      (hsame : SameObject db p q) : Reopens db schema o p
  /-- A synonym next to tables of its name, for the first of them. -/
  | shadowed {m : DictionaryObject} {q : String × String} (htarget : o.kind.target? = some q)
      (hm : likeNamed? db schema o.name = some m) (hschema : db.upper schema = schema)
      (hq : db.dictionary.Resolves q m) : Reopens db schema o (schema, m.name)
  /-- The schema is spelled in another way, and has the same under the name of the table. -/
  | respelledSchema {m : DictionaryObject} (hm : likeNamed? db schema o.name = some m)
      (hschema : db.upper schema ≠ schema)
      (hsame : SameObject db (schema, m.name) (listedTarget db schema o.name)) :
      Reopens db schema o (schema, m.name)

theorem synonymTarget?_self {db : Database} {schema : String} {o : DictionaryObject}
    (hmem : o ∈ db.dictionary.objects) (howner : o.owner = db.upper schema) :
    synonymTarget? db (db.upper schema) o.name = o.kind.target? := by
  rw [synonymTarget?, Dictionary.object?_eq_some_iff.mpr ⟨hmem, howner, rfl⟩, Option.bind_some]

/-- The first table of a name, in an upper-case schema, is the object of its full name. -/
theorem object?_likeNamed {db : Database} {schema name : String} {m : DictionaryObject}
    (hm : likeNamed? db schema name = some m) (hschema : db.upper schema = schema) :
    db.dictionary.object? schema m.name = some m := by
  obtain ⟨hmem, -, howner, -⟩ := likeNamed?_spec hm
  exact Dictionary.object?_eq_some_iff.mpr ⟨hmem, howner.trans hschema, rfl⟩

/-- A table is found again exactly if it is the first of its name. -/
theorem sameObject_table_iff {db : Database} {schema : String} {o m : DictionaryObject}
    (hmem : o ∈ db.dictionary.objects) (howner : o.owner = db.upper schema)
    (htable : o.kind.target? = none) (hm : likeNamed? db schema o.name = some m)
    (hschema : db.upper schema = schema) :
    SameObject db (schema, m.name) (listedTarget db schema o.name) ↔ m = o := by
  have ho : db.dictionary.object? schema o.name = some o :=
    Dictionary.object?_eq_some_iff.mpr ⟨hmem, howner.trans hschema, rfl⟩
  have hmobject := object?_likeNamed hm hschema
  rw [listedTarget, synonymTarget?_self hmem howner, htable, Option.getD_none, hschema]
  constructor
  · rintro (heq | ⟨o', hresolves, hresolves'⟩)
    · rw [(Prod.mk.inj heq).2, ho] at hmobject
      exact (Option.some.inj hmobject).symm
    · have hmtable := (likeNamed?_spec hm).2.1
      rw [← (Dictionary.resolves_iff_of_object hmobject hmtable).mp hresolves,
        (Dictionary.resolves_iff_of_object ho htable).mp hresolves']
  · rintro rfl
    exact Or.inl rfl

/-- A synonym is found again at a table of its name exactly if it leads to that. -/
theorem sameObject_shadowed_iff {db : Database} {schema : String} {o m : DictionaryObject}
    {q : String × String} (hmem : o ∈ db.dictionary.objects) (howner : o.owner = db.upper schema)
    (htarget : o.kind.target? = some q) (hm : likeNamed? db schema o.name = some m)
    (hschema : db.upper schema = schema) :
    SameObject db (schema, m.name) (listedTarget db schema o.name) ↔
      db.dictionary.Resolves q m := by
  have hmobject := object?_likeNamed hm hschema
  have hmtable := (likeNamed?_spec hm).2.1
  rw [listedTarget, synonymTarget?_self hmem howner, htarget, Option.getD_some]
  constructor
  · rintro (rfl | ⟨o', hresolves, hresolves'⟩)
    · exact .object hmobject hmtable
    · exact (Dictionary.resolves_iff_of_object hmobject hmtable).mp hresolves ▸ hresolves'
  · exact fun hq => Or.inr ⟨m, .object hmobject hmtable, hq⟩

/-- **The objects that are found again are those whose name picks them.** -/
theorem reopens_iff {db : Database} {schema : String} {o : DictionaryObject} {p : String × String}
    (hmem : o ∈ db.dictionary.objects) (howner : o.owner = db.upper schema) :
    Reopens db schema o p ↔ pickedName db schema o.name = some p ∧
      SameObject db p (listedTarget db schema o.name) := by
  have hself := synonymTarget?_self hmem howner
  have htargetOf : ∀ {q}, o.kind.target? = some q → listedTarget db schema o.name = q := by
    intro q hq
    rw [listedTarget, hself, hq, Option.getD_some]
  constructor
  · rintro (⟨htable, hschema, hfirst⟩ | ⟨htarget, hnone, hname⟩ |
      ⟨htarget, hnone, -, hown, hsame⟩ | ⟨htarget, hnone, -, hown, hpublic, hsame⟩ |
      ⟨htarget, hm, hschema, hq⟩ | ⟨hm, -, hsame⟩)
    · exact ⟨by rw [pickedName, hfirst],
        (sameObject_table_iff hmem howner htable hfirst hschema).mpr rfl⟩
    · refine ⟨?_, Or.inl (htargetOf htarget).symm⟩
      simp only [pickedName, hnone, hname, hself, htarget, Option.some_or]
    · rw [htargetOf htarget]
      exact ⟨by simp only [pickedName, hnone, hown, Option.some_or], hsame⟩
    · rw [htargetOf htarget]
      exact ⟨by simp only [pickedName, hnone, hown, Option.none_or, hpublic], hsame⟩
    · exact ⟨by rw [pickedName, hm],
        (sameObject_shadowed_iff hmem howner htarget hm hschema).mpr hq⟩
    · exact ⟨by rw [pickedName, hm], hsame⟩
  · rintro ⟨hpicked, hsame⟩
    unfold pickedName at hpicked
    cases hm : likeNamed? db schema o.name with
    | some m =>
      rw [hm] at hpicked
      obtain rfl := Option.some.inj hpicked
      by_cases hschema : db.upper schema = schema
      · cases htarget : o.kind.target? with
        | none =>
          obtain rfl := (sameObject_table_iff hmem howner htarget hm hschema).mp hsame
          exact .table htarget hschema hm
        | some q =>
          exact .shadowed htarget hm hschema
            ((sameObject_shadowed_iff hmem howner htarget hm hschema).mp hsame)
      · exact .respelledSchema hm hschema hsame
    | none =>
      rw [hm] at hpicked
      obtain ⟨q, htarget⟩ : ∃ q, o.kind.target? = some q := by
        refine Option.ne_none_iff_exists'.mp fun htable => ?_
        exact (List.find?_eq_none.mp hm o hmem) (decide_eq_true ⟨htable, howner, rfl⟩)
      rw [htargetOf htarget] at hsame
      by_cases hname : db.upper o.name = o.name
      · rw [hname, hself, htarget, Option.some_or] at hpicked
        obtain rfl := Option.some.inj hpicked
        exact .synonym htarget hm hname
      · rcases Option.or_eq_some_iff.mp hpicked with hown | ⟨hown, hpublic⟩
        · exact .respelled htarget hm hname hown hsame
        · exact .respelledPublic htarget hm hname hown hpublic hsame

/-- What is listed is the name of an object of the owner `UPPER(schema)`. -/
theorem exists_of_mem_listedNames {db : Database} {settings : OracleSettings}
    {schema name : String} (h : name ∈ listedNames db settings schema) :
    ∃ o ∈ db.dictionary.objects, o.owner = db.upper schema ∧ o.name = name := by
  have hnames : ∀ rows : List String, ∀ limit : ℕ,
      name ∈ (if limit > 0 then rows.take limit else rows) → name ∈ rows := by
    intro rows limit hname
    split at hname
    · exact List.mem_of_mem_take hname
    · exact hname
  have hrow := (List.mem_insertionSort _).mp (hnames _ _ h)
  obtain ⟨⟨o, type⟩, hfilter, rfl⟩ := List.mem_map.mp hrow
  obtain ⟨hobjects, howner⟩ := List.mem_filter.mp hfilter
  obtain ⟨o', ho', hpair⟩ := List.mem_flatMap.mp hobjects
  obtain ⟨_, -, hsame⟩ := List.mem_map.mp hpair
  obtain ⟨rfl, -⟩ := Prod.mk.inj hsame
  exact ⟨o', ho', (of_decide_eq_true howner).1, rfl⟩

/-- **When whatever is listed can be opened, as itself.**  After any enumerations every
name that a schema lists has an entry, which scans the object of exactly that name or
the target of the synonym of exactly that name, if and only if every listed object is
found again under its name, with columns that can stand in one table of DuckDB. -/
theorem listed_opens_iff {db : Database} {state : OracleCatalogState}
    (hcache : state.objectCache = []) (schemas : List OracleSchemaEntry)
    (schema : OracleSchemaEntry) :
    (∀ name ∈ ((enumerateAll db state schemas).getDefaultEntries db schema).2,
        Opens db state.settings schema name) ↔
      ∀ o ∈ db.dictionary.objects, o.owner = db.upper schema.oracleSchema →
        o.name ∈ listedNames db state.settings schema.oracleSchema →
          ∃ p, Reopens db schema.oracleSchema o p ∧ Loadable db p := by
  have hcurrent : CacheCurrent db state := by
    intro schema objects hlookup
    rw [hcache] at hlookup
    cases hlookup
  obtain ⟨hafter, hsettings⟩ := hcurrent.enumerateAll schemas
  rw [(hafter.getDefaultEntries schema).1, hsettings]
  constructor
  · intro h o hmem howner hlisted
    obtain ⟨p, hp, hload, hsame⟩ := opens_iff.mp (h o.name hlisted)
    exact ⟨p, (reopens_iff hmem howner).mpr ⟨hp, hsame⟩, hload⟩
  · intro h name hlisted
    obtain ⟨o, hmem, howner, rfl⟩ := exists_of_mem_listedNames hlisted
    obtain ⟨p, hreopens, hload⟩ := h o hmem howner hlisted
    obtain ⟨hp, hsame⟩ := (reopens_iff hmem howner).mp hreopens
    exact opens_iff.mpr ⟨p, hp, hload, hsame⟩

theorem listed_opens_emp : Opens empDatabase {} ⟨"main", "SCOTT"⟩ "EMP" := by
  refine (@listed_opens_iff empDatabase { connectionString := "" } rfl []
    ⟨"main", "SCOTT"⟩).mpr ?_ "EMP" (by decide)
  intro o hmem _ _
  obtain rfl := List.mem_singleton.mp hmem
  exact ⟨("SCOTT", "EMP"), .table rfl rfl rfl, by decide⟩

/-- A synonym whose name is not in upper case. -/
def mixedSynonymDatabase : Database where
  dictionary := {
    objects := [⟨"SCOTT", "EMP", .table [⟨"EMPNO", "NUMBER", "4", "0"⟩]⟩,
      ⟨"SCOTT", "Staff", .synonym "SCOTT" "EMP"⟩]
    unique := by decide
    named := by decide }
  upper := upper

/-- **A listed name without an entry**: the synonym `Staff` is listed, but looked up as
`STAFF`, which is not there, so `CreateDefaultEntry` returns a null pointer. -/
theorem mixedSynonym_not_opened :
    "Staff" ∈ (OracleCatalogState.getDefaultEntries { connectionString := "" }
        mixedSynonymDatabase ⟨"main", "SCOTT"⟩).2 ∧
      createDefaultEntry mixedSynonymDatabase {} ⟨"main", "SCOTT"⟩ "Staff" = .ok none ∧
      ¬ Opens mixedSynonymDatabase {} ⟨"main", "SCOTT"⟩ "Staff" := by
  refine ⟨by decide, rfl, ?_⟩
  rintro ⟨entry, hentry, -⟩
  cases hentry

end Catalog
end DuckdbOracle
