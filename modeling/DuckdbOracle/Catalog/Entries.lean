import DuckdbOracle.Catalog.TableEntry

/-!
# Does an entry describe the table it scans?

DuckDB asks the generator of a schema for an entry by its name.  The generator looks
for a table or view first (`GetObjectName`: the name in any letter case, of the owner
`UPPER(schema)`), and then for a synonym (`ResolveSynonym`: stored as `UPPER(name)`,
of the owner `UPPER(schema)` or else public).

What the lookup picks, `pickedName`, is then used in two ways: the columns are those
stored under `UPPER` of both names, the query reads the names as they are.  So the
entry describes what it scans if the first table of that name has its schema and name
in upper case, or the synonym's target has; a name in another spelling will do only if
it is that of a synonym which leads to the table in upper case (`DescribedNames`).  For
any other names there are tables for which it goes wrong (`entry_describes_iff`).

The connection of the state is taken to be open, and the queries to succeed.
-/

namespace DuckdbOracle
namespace Catalog

open Duckdb Oracle

/-! ## The lookups -/

/-- The object types in `CreateDefaultEntry`. -/
def entryTypes : List String := ["TABLE", "VIEW", "MATERIALIZED VIEW"]

/-- `GetObjectName`: the first row of
`owner = UPPER(schema) AND UPPER(object_name) = UPPER(name) AND object_type IN (…)`. -/
def getObjectName (db : Database) (schema objectName : String) (objectTypes : List String) :
    String :=
  match db.dictionary.allObjects.find? fun row =>
      row.1.owner = db.upper schema ∧ db.upper row.1.name = db.upper objectName ∧
        row.2 ∈ objectTypes with
  | some row => row.1.name
  | none => ""

/-- `ResolveSynonym`: the synonyms stored as `UPPER(name)`, that of the schema before
the public one; `none` when `found` is false. -/
def resolveSynonym (db : Database) (schema synonymName : String) : Option (String × String) :=
  let rows := db.dictionary.allSynonyms.filter fun row =>
    row.1.name = db.upper synonymName ∧
      (row.1.owner = db.upper schema ∨ row.1.owner = "PUBLIC")
  let own := rows.filter fun row => row.1.owner = db.upper schema
  let other := rows.filter fun row => row.1.owner ≠ db.upper schema
  (own ++ other).head?.map (·.2)

/-- `GetRealSchemaName`. -/
def getRealSchemaName (db : Database) (name : String) : String :=
  (db.users.find? fun username => db.upper username = db.upper name).getD ""

/-- `OracleSchemaEntry`. -/
structure OracleSchemaEntry where
  name : String
  oracleSchema : String
  deriving DecidableEq

/-- `OracleTableGenerator::CreateDefaultEntry`; `none` is the null pointer. -/
def createDefaultEntry (db : Database) (settings : OracleSettings) (schema : OracleSchemaEntry)
    (entryName : String) : Except String (Option OracleTableEntry) :=
  let realName := getObjectName db schema.oracleSchema entryName entryTypes
  if realName ≠ "" then
    (OracleTableEntry.create db settings schema.name schema.oracleSchema realName
      entryName).map some
  else
    match resolveSynonym db schema.oracleSchema entryName with
    | some resolved =>
      (OracleTableEntry.create db settings schema.name resolved.1 resolved.2 entryName).map some
    | none => .ok none

/-! ## What the lookups find -/

/-- The first table or view of the owner `UPPER(schema)` whose name is `name` but for
letter case. -/
def likeNamed? (db : Database) (schema name : String) : Option DictionaryObject :=
  db.dictionary.objects.find? fun o =>
    o.kind.target? = none ∧ o.owner = db.upper schema ∧ db.upper o.name = db.upper name

/-- What the synonym of a full name stands for. -/
def synonymTarget? (db : Database) (owner name : String) : Option (String × String) :=
  (db.dictionary.object? owner name).bind fun o => o.kind.target?

/-- The name that the lookup of an entry picks. -/
def pickedName (db : Database) (schema name : String) : Option (String × String) :=
  match likeNamed? db schema name with
  | some o => some (schema, o.name)
  | none =>
    (synonymTarget? db (db.upper schema) (db.upper name)).or
      (synonymTarget? db "PUBLIC" (db.upper name))

theorem likeNamed?_spec {db : Database} {schema name : String} {o : DictionaryObject}
    (h : likeNamed? db schema name = some o) :
    o ∈ db.dictionary.objects ∧ o.kind.target? = none ∧ o.owner = db.upper schema ∧
      db.upper o.name = db.upper name := by
  have hprop := List.find?_some h
  rw [decide_eq_true_eq] at hprop
  exact ⟨List.mem_of_find?_eq_some h, hprop⟩

/-- Of an object's types one is a type of an entry exactly if it is no synonym. -/
theorem exists_entryType_iff (kind : ObjectKind) :
    (∃ type ∈ kind.objectTypes, type ∈ entryTypes) ↔ kind.target? = none := by
  cases kind <;> simp [ObjectKind.objectTypes, ObjectKind.target?, entryTypes]

/-- The first row that is looked for belongs to the first object that has such a row. -/
theorem find?_flatMap_fst {α β : Type*} {rows : α → List β} {p : α × β → Bool} {q : α → Bool}
    (hq : ∀ a, q a = true ↔ ∃ b ∈ rows a, p (a, b) = true) (l : List α) :
    ((l.flatMap fun a => (rows a).map (a, ·)).find? p).map (·.1) = l.find? q := by
  induction l with
  | nil => rfl
  | cons a l ih =>
    rw [List.flatMap_cons, List.find?_append]
    by_cases ha : q a = true
    · obtain ⟨b, hb, hp⟩ := (hq a).mp ha
      obtain ⟨row, hrow⟩ : ∃ row, ((rows a).map (a, ·)).find? p = some row :=
        Option.isSome_iff_exists.mp (List.find?_isSome.mpr ⟨(a, b), List.mem_map_of_mem hb, hp⟩)
      obtain ⟨b', -, rfl⟩ := List.mem_map.mp (List.mem_of_find?_eq_some hrow)
      rw [hrow, List.find?_cons_of_pos ha]
      rfl
    · have hnone : ((rows a).map (a, ·)).find? p = none := by
        rw [List.find?_eq_none]
        rintro row hrow hp
        obtain ⟨b, hb, rfl⟩ := List.mem_map.mp hrow
        exact ha ((hq a).mpr ⟨b, hb, hp⟩)
      rw [hnone, Option.none_or, ih, List.find?_cons_of_neg ha]

/-- `GetObjectName` gives the name of the first table or view. -/
theorem getObjectName_eq (db : Database) (schema name : String) :
    getObjectName db schema name entryTypes =
      ((likeNamed? db schema name).map (·.name)).getD "" := by
  have hrow : ∀ o : DictionaryObject,
      decide (o.kind.target? = none ∧ o.owner = db.upper schema ∧
          db.upper o.name = db.upper name) = true ↔
        ∃ type ∈ o.kind.objectTypes,
          decide (o.owner = db.upper schema ∧ db.upper o.name = db.upper name ∧
            type ∈ entryTypes) = true := by
    intro o
    simp only [decide_eq_true_eq, ← exists_entryType_iff]
    constructor
    · rintro ⟨⟨type, htype, hentry⟩, howner, hname⟩
      exact ⟨type, htype, howner, hname, hentry⟩
    · rintro ⟨type, htype, howner, hname, hentry⟩
      exact ⟨⟨type, htype, hentry⟩, howner, hname⟩
  have hfirst := find?_flatMap_fst
    (p := fun row : DictionaryObject × String => decide (row.1.owner = db.upper schema ∧
      db.upper row.1.name = db.upper name ∧ row.2 ∈ entryTypes)) hrow db.dictionary.objects
  unfold getObjectName likeNamed?
  rw [← hfirst, Dictionary.allObjects]
  split
  · next row hfind => rw [hfind]; rfl
  · next hfind => rw [hfind]; rfl

/-- Of the rows of one full name in `all_synonyms` there is at most one. -/
theorem head?_allSynonyms (db : Database) (owner name : String) :
    ((db.dictionary.allSynonyms.filter fun row =>
        row.1.owner = owner ∧ row.1.name = name).head?).map (·.2) =
      synonymTarget? db owner name := by
  rw [List.head?_filter]
  cases hfind : db.dictionary.allSynonyms.find? fun row =>
      row.1.owner = owner ∧ row.1.name = name with
  | some row =>
    obtain ⟨o, target⟩ := row
    have hid := List.find?_some hfind
    rw [decide_eq_true_eq] at hid
    obtain ⟨hmem, htarget⟩ := Dictionary.mem_allSynonyms.mp (List.mem_of_find?_eq_some hfind)
    rw [synonymTarget?, Dictionary.object?_eq_some_iff.mpr ⟨hmem, hid⟩, Option.bind_some, htarget,
      Option.map_some]
  | none =>
    rw [Option.map_none, eq_comm, Option.eq_none_iff_forall_ne_some]
    intro target htarget
    obtain ⟨o, hobject, ho⟩ := Option.bind_eq_some_iff.mp htarget
    obtain ⟨hmem, hid⟩ := Dictionary.object?_eq_some_iff.mp hobject
    have hrow := List.find?_eq_none.mp hfind _ (Dictionary.mem_allSynonyms.mpr ⟨hmem, ho⟩)
    exact hrow (decide_eq_true hid)

/-- `ResolveSynonym` gives the target of the schema's own synonym, or of the public one. -/
theorem resolveSynonym_eq (db : Database) (schema name : String) :
    resolveSynonym db schema name =
      (synonymTarget? db (db.upper schema) (db.upper name)).or
        (synonymTarget? db "PUBLIC" (db.upper name)) := by
  rw [← head?_allSynonyms, ← head?_allSynonyms]
  simp only [resolveSynonym, List.filter_filter, List.head?_append, Option.map_or]
  have hown : ∀ row : DictionaryObject × (String × String),
      (decide (row.1.owner = db.upper schema) && decide (row.1.name = db.upper name ∧
          (row.1.owner = db.upper schema ∨ row.1.owner = "PUBLIC"))) =
        decide (row.1.owner = db.upper schema ∧ row.1.name = db.upper name) := by
    intro row
    rw [← Bool.decide_and, decide_eq_decide]
    tauto
  have hother : ∀ row : DictionaryObject × (String × String),
      (decide (row.1.owner ≠ db.upper schema) && decide (row.1.name = db.upper name ∧
          (row.1.owner = db.upper schema ∨ row.1.owner = "PUBLIC"))) =
        decide (row.1.owner ≠ db.upper schema ∧ row.1.owner = "PUBLIC" ∧
          row.1.name = db.upper name) := by
    intro row
    rw [← Bool.decide_and, decide_eq_decide]
    tauto
  simp only [hown, hother]
  by_cases hpublic : db.upper schema = "PUBLIC"
  · -- the schema's own synonyms are the public ones
    rw [hpublic, Option.or_self]
    have hnone : (db.dictionary.allSynonyms.filter fun row =>
        row.1.owner ≠ "PUBLIC" ∧ row.1.owner = "PUBLIC" ∧ row.1.name = db.upper name) = [] := by
      rw [List.filter_eq_nil_iff]
      intro row _ h
      exact (of_decide_eq_true h).1 (of_decide_eq_true h).2.1
    rw [hnone, List.head?_nil, Option.map_none, Option.or_none]
  · congr 2
    refine congrArg List.head? (List.filter_congr fun row _ => ?_)
    rw [decide_eq_decide]
    constructor
    · exact fun h => h.2
    · exact fun h => ⟨h.1 ▸ Ne.symm hpublic, h⟩

/-- **An entry is made of the name that the lookup picks.** -/
theorem createDefaultEntry_eq (db : Database) (settings : OracleSettings)
    (schema : OracleSchemaEntry) (name : String) :
    createDefaultEntry db settings schema name =
      match pickedName db schema.oracleSchema name with
      | some p => (OracleTableEntry.create db settings schema.name p.1 p.2 name).map some
      | none => .ok none := by
  unfold createDefaultEntry pickedName
  rw [getObjectName_eq, resolveSynonym_eq]
  cases hlike : likeNamed? db schema.oracleSchema name with
  | none => simp
  | some o =>
    have hne : o.name ≠ "" := (db.dictionary.named o (likeNamed?_spec hlike).1).2
    simp [hne]

/-- The entry of a picked name. -/
theorem createDefaultEntry_eq_ok_some_iff {db : Database} {settings : OracleSettings}
    {schema : OracleSchemaEntry} {name : String} {entry : OracleTableEntry} :
    createDefaultEntry db settings schema name = .ok (some entry) ↔
      ∃ p, pickedName db schema.oracleSchema name = some p ∧
        OracleTableEntry.create db settings schema.name p.1 p.2 name = .ok entry := by
  rw [createDefaultEntry_eq]
  cases pickedName db schema.oracleSchema name with
  | none => simp
  | some p =>
    cases hcreate : OracleTableEntry.create db settings schema.name p.1 p.2 name with
    | error e => simp [Except.map, hcreate]
    | ok entry' => simp [Except.map, hcreate]

/-! ## Other columns under the same names -/

section

variable (db : Database) (columns : String × String → List DictionaryColumn)
  (schema name : String)

theorem likeNamed?_withColumns :
    likeNamed? (db.withColumns columns) schema name =
      (likeNamed? db schema name).map (DictionaryObject.withColumns columns) := by
  unfold likeNamed?
  refine List.find?_map.trans (congrArg (Option.map _) (congrArg (List.find? · _) ?_))
  funext o
  simp only [Function.comp_apply, DictionaryObject.withColumns, Database.withColumns,
    ObjectKind.target?_withColumns]

theorem synonymTarget?_withColumns :
    synonymTarget? (db.withColumns columns) schema name = synonymTarget? db schema name := by
  unfold synonymTarget?
  rw [show (db.withColumns columns).dictionary = db.dictionary.withColumns columns from rfl,
    Dictionary.object?_withColumns]
  cases db.dictionary.object? schema name with
  | none => rfl
  | some o => exact ObjectKind.target?_withColumns _ _

/-- The lookup does not see the columns. -/
theorem pickedName_withColumns :
    pickedName (db.withColumns columns) schema name = pickedName db schema name := by
  unfold pickedName
  rw [likeNamed?_withColumns, synonymTarget?_withColumns, synonymTarget?_withColumns]
  cases likeNamed? db schema name <;> rfl

end

/-! ## Does the entry describe what it scans? -/

/-- **The entry describes the table it scans**: its columns are those of the object that
Oracle resolves the quoted name in its query to. -/
def Describes (db : Database) (settings : OracleSettings) (entry : OracleTableEntry) : Prop :=
  ∃ o columns, entry.Scans db o ∧ o.kind.columns? = some columns ∧
    (entry.columns, entry.columnMetadata) = loaded settings columns

/-- The full name of a table or view in upper case, or that of a synonym which leads to the
table or view stored under its own name in upper case. -/
inductive NamesUpperCase (db : Database) (p : String × String) : Prop where
  | table {o : DictionaryObject} (howner : db.upper p.1 = p.1) (hname : db.upper p.2 = p.2)
      (h : db.dictionary.object? p.1 p.2 = some o) (htable : o.kind.target? = none)
  | respelled {s o : DictionaryObject} {q : String × String}
      (h : db.dictionary.object? p.1 p.2 = some s) (htarget : s.kind.target? = some q)
      (hq : db.dictionary.Resolves q o)
      (ho : db.dictionary.object? (db.upper p.1) (db.upper p.2) = some o)

/-- **The names under which an entry describes its table.**  If the schema has a table or view
of the name, in any letter case, the first of them is in upper case, and so is the schema as
it is spelled.  If not, the target of the synonym is in upper case: that of the schema's own,
or of the public one where the schema has none. -/
structure DescribedNames (db : Database) (schema name : String) : Prop where
  table : ∀ o, likeNamed? db schema name = some o → NamesUpperCase db (schema, o.name)
  ownSynonym : likeNamed? db schema name = none →
    ∀ q, synonymTarget? db (db.upper schema) (db.upper name) = some q → NamesUpperCase db q
  publicSynonym : likeNamed? db schema name = none →
    synonymTarget? db (db.upper schema) (db.upper name) = none →
      ∀ q, synonymTarget? db "PUBLIC" (db.upper name) = some q → NamesUpperCase db q

/-- Such a name resolves to what is stored under it in upper case. -/
theorem namesUpperCase_iff {db : Database} {p : String × String} :
    NamesUpperCase db p ↔ ∃ o, db.dictionary.Resolves p o ∧
      db.dictionary.object? (db.upper p.1) (db.upper p.2) = some o := by
  constructor
  · rintro (⟨howner, hname, h, htable⟩ | ⟨h, htarget, hq, ho⟩)
    · exact ⟨_, .object h htable, by rw [howner, hname]; exact h⟩
    · exact ⟨_, .synonym h htarget hq, ho⟩
  · rintro ⟨o, hresolves, ho⟩
    cases hresolves with
    | object h htable =>
      obtain ⟨-, howner, hname⟩ := Dictionary.object?_eq_some_iff.mp h
      obtain ⟨-, hupperOwner, hupperName⟩ := Dictionary.object?_eq_some_iff.mp ho
      exact .table (hupperOwner.symm.trans howner) (hupperName.symm.trans hname) h htable
    | synonym h htarget hq => exact .respelled h htarget hq ho

/-- It does not depend on the columns. -/
theorem NamesUpperCase.withColumns {db : Database} {p : String × String}
    (h : NamesUpperCase db p) (columns : String × String → List DictionaryColumn) :
    NamesUpperCase (db.withColumns columns) p := by
  obtain ⟨o, hresolves, ho⟩ := namesUpperCase_iff.mp h
  refine namesUpperCase_iff.mpr
    ⟨o.withColumns columns, Dictionary.resolves_withColumns.mpr ⟨o, hresolves, rfl⟩, ?_⟩
  exact (Dictionary.object?_withColumns columns _ _).trans (congrArg (Option.map _) ho)

/-- The names are right exactly if the picked one is. -/
theorem describedNames_iff {db : Database} {schema name : String} :
    DescribedNames db schema name ↔
      ∀ p, pickedName db schema name = some p → NamesUpperCase db p := by
  unfold pickedName
  constructor
  · rintro ⟨htable, hown, hpublic⟩ p hp
    split at hp
    · next o ho =>
      obtain rfl := Option.some.inj hp
      exact htable o ho
    · next hnone =>
      rcases Option.or_eq_some_iff.mp hp with hq | ⟨hother, hq⟩
      · exact hown hnone p hq
      · exact hpublic hnone hother p hq
  · intro h
    refine ⟨fun o ho => h _ (by rw [ho]), fun hnone q hq => h q ?_,
      fun hnone hother q hq => h q ?_⟩
    · rw [hnone]
      exact Option.or_eq_some_iff.mpr (Or.inl hq)
    · rw [hnone]
      exact Option.or_eq_some_iff.mpr (Or.inr ⟨hother, hq⟩)

/-- The entry has the columns stored under its name in upper case. -/
theorem describes_iff {db : Database} {settings : OracleSettings}
    {schema : OracleSchemaEntry} {name : String} {entry : OracleTableEntry} {p : String × String}
    (h : createDefaultEntry db settings schema name = .ok (some entry))
    (hp : pickedName db schema.oracleSchema name = some p) :
    Describes db settings entry ↔ ∃ o columns, db.dictionary.Resolves p o ∧
      o.kind.columns? = some columns ∧ loaded settings columns =
        loaded settings (db.dictionary.columnsOf (db.upper p.1) (db.upper p.2)) := by
  obtain ⟨p', hp', hcreate⟩ := createDefaultEntry_eq_ok_some_iff.mp h
  obtain rfl := Option.some.inj (hp.symm.trans hp')
  obtain ⟨-, hentry⟩ := create_eq_ok_iff.mp hcreate
  rw [hentry]
  exact exists₂_congr fun o columns => and_congr scans_iff (and_congr_right fun _ =>
    (eq_comm : loadColumns db settings p.1 p.2 = loaded settings columns ↔ _))

/-- With a picked name in upper case the entry describes its table. -/
theorem describes_of_namesUpperCase {db : Database} {settings : OracleSettings}
    {schema : OracleSchemaEntry} {name : String} {entry : OracleTableEntry} {p : String × String}
    (h : createDefaultEntry db settings schema name = .ok (some entry))
    (hp : pickedName db schema.oracleSchema name = some p) (hnames : NamesUpperCase db p) :
    Describes db settings entry := by
  obtain ⟨o, hresolves, ho⟩ := namesUpperCase_iff.mp hnames
  obtain ⟨-, columns, hcolumns⟩ := hresolves.columns
  refine (describes_iff h hp).mpr ⟨o, columns, hresolves, hcolumns, ?_⟩
  rw [Dictionary.columnsOf_eq, ho, Option.bind_some, hcolumns, Option.getD_some]

/-- One column for the object of this full name, and none for any other. -/
def oneColumn (id : String × String) : String × String → List DictionaryColumn :=
  fun p => if p = id then [⟨"ID", "NUMBER", "", ""⟩] else []

/-- At most one column is stored under a name. -/
theorem distinctNames_oneColumn (dict : Dictionary) (id : String × String)
    (owner name : String) :
    DistinctNames (((dict.withColumns (oneColumn id)).columnsOf owner name).map
      (·.columnName)) := by
  rw [Dictionary.columnsOf_withColumns]
  cases dict.object? owner name with
  | none => simp [DistinctNames]
  | some o =>
    rw [Option.bind_some]
    cases o.kind.columns? with
    | none => simp [DistinctNames]
    | some columns =>
      rw [Option.map_some, Option.getD_some, oneColumn]
      split <;> simp [DistinctNames]

/-- What is described for all columns is in upper case: the name resolves to some `o`, and a
column that only `o` has must be stored under the name in upper case. -/
theorem namesUpperCase_of_describes {db : Database} {settings : OracleSettings}
    {schema : OracleSchemaEntry} {name : String} {p : String × String}
    (hall : ∀ columns entry,
      createDefaultEntry (db.withColumns columns) settings schema name = .ok (some entry) →
        Describes (db.withColumns columns) settings entry)
    (hp : pickedName db schema.oracleSchema name = some p) : NamesUpperCase db p := by
  have hdescribes : ∀ id, ∃ o, db.dictionary.Resolves p o ∧
      loaded settings (oneColumn id o.id) = loaded settings
        ((db.dictionary.withColumns (oneColumn id)).columnsOf (db.upper p.1) (db.upper p.2)) := by
    intro id
    have hp' := (pickedName_withColumns db (oneColumn id) schema.oracleSchema name).trans hp
    obtain ⟨entry, hentry⟩ : ∃ entry, createDefaultEntry (db.withColumns (oneColumn id)) settings
        schema name = .ok (some entry) :=
      ⟨_, createDefaultEntry_eq_ok_some_iff.mpr ⟨p, hp', create_eq_ok_iff.mpr
        ⟨distinctNames_oneColumn db.dictionary id (db.upper p.1) (db.upper p.2), rfl⟩⟩⟩
    obtain ⟨o', columns, hresolves, hcolumns, hloaded⟩ :=
      (describes_iff hentry hp').mp (hall _ _ hentry)
    obtain ⟨o, ho, rfl⟩ := Dictionary.resolves_withColumns.mp hresolves
    obtain ⟨-, own, hown⟩ := ho.columns
    have hone : columns = oneColumn id o.id := by
      have hcolumns' := (ObjectKind.columns?_withColumns _ _).symm.trans hcolumns
      rw [hown] at hcolumns'
      exact (Option.some.inj hcolumns').symm
    rw [hone] at hloaded
    exact ⟨o, ho, hloaded⟩
  obtain ⟨o, ho, -⟩ := hdescribes p
  obtain ⟨o', ho', hloaded⟩ := hdescribes o.id
  obtain rfl := ho.unique ho'
  refine namesUpperCase_iff.mpr ⟨o, ho, ?_⟩
  rw [Dictionary.columnsOf_withColumns, oneColumn, if_pos rfl] at hloaded
  cases hobject : db.dictionary.object? (db.upper p.1) (db.upper p.2) with
  | none =>
    rw [hobject] at hloaded
    cases hloaded
  | some stored =>
    obtain ⟨hmem, hid⟩ := Dictionary.object?_eq_some_iff.mp hobject
    rw [hobject, Option.bind_some] at hloaded
    by_cases hsame : (db.upper p.1, db.upper p.2) = o.id
    · exact congrArg some (List.inj_on_of_nodup_map db.dictionary.unique hmem ho.columns.1
        ((Prod.ext hid.1 hid.2).trans hsame))
    · rw [oneColumn, if_neg hsame] at hloaded
      cases hcolumns : stored.kind.columns? <;> rw [hcolumns] at hloaded <;> cases hloaded

/-- **When an entry describes the table it scans**, whatever the columns of the tables are: it
does exactly if the names of the dictionary are such that the name goes to a table or view in
upper case. -/
theorem entry_describes_iff {db : Database} {settings : OracleSettings}
    {schema : OracleSchemaEntry} {name : String} :
    (∀ columns entry,
      createDefaultEntry (db.withColumns columns) settings schema name = .ok (some entry) →
        Describes (db.withColumns columns) settings entry) ↔
      DescribedNames db schema.oracleSchema name := by
  rw [describedNames_iff]
  constructor
  · exact fun hall p hp => namesUpperCase_of_describes hall hp
  · intro h columns entry hentry
    obtain ⟨p, hp, -⟩ := createDefaultEntry_eq_ok_some_iff.mp hentry
    have hpicked := (pickedName_withColumns db columns schema.oracleSchema name).symm.trans hp
    exact describes_of_namesUpperCase hentry hp ((h p hpicked).withColumns columns)

/-- One table, in upper case. -/
def empDatabase : Database where
  dictionary := {
    objects := [⟨"SCOTT", "EMP", .table [⟨"EMPNO", "NUMBER", "4", "0"⟩]⟩]
    unique := by decide
    named := by decide }
  upper := upper

theorem describedNames_emp : DescribedNames empDatabase "SCOTT" "emp" := by
  have hemp : NamesUpperCase empDatabase ("SCOTT", "EMP") := .table rfl rfl rfl rfl
  exact ⟨fun o ho => Option.some.inj ho ▸ hemp, fun hnone => absurd hnone (by decide),
    fun hnone => absurd hnone (by decide)⟩

theorem entry_describes_emp :
    ∃ entry, createDefaultEntry empDatabase {} ⟨"main", "SCOTT"⟩ "emp" = .ok (some entry) ∧
      Describes empDatabase {} entry :=
  ⟨_, rfl, (@entry_describes_iff empDatabase {} ⟨"main", "SCOTT"⟩ "emp").mpr describedNames_emp
    (fun _ => [⟨"EMPNO", "NUMBER", "4", "0"⟩]) _ rfl⟩

/-- Two tables whose names differ in letter case. -/
def empTwiceDatabase : Database where
  dictionary := {
    objects := [⟨"SCOTT", "Emp", .table [⟨"ENAME", "VARCHAR2", "", ""⟩]⟩,
      ⟨"SCOTT", "EMP", .table [⟨"EMPNO", "NUMBER", "4", "0"⟩]⟩]
    unique := by decide
    named := by decide }
  upper := upper

/-- **The columns of one table, the rows of another**: the entry `Emp` has the columns
of `EMP`, and its query reads `"Emp"`. -/
theorem mixedCase_not_described :
    ∃ entry, createDefaultEntry empTwiceDatabase {} ⟨"main", "SCOTT"⟩ "Emp" = .ok (some entry) ∧
      ¬ Describes empTwiceDatabase {} entry := by
  refine ⟨_, rfl, ?_⟩
  rintro ⟨o, columns, hscans, hcolumns, hloaded⟩
  obtain rfl := (Dictionary.resolves_iff_of_object rfl rfl).mp (scans_iff.mp hscans)
  obtain rfl := Option.some.inj hcolumns
  exact absurd hloaded (by decide)

end Catalog
end DuckdbOracle
