import Mathlib.Data.List.Nodup
import DuckdbOracle.Duckdb.Value

/-!
# Oracle's dictionary

Tables, views, materialized views and synonyms share one namespace in each schema,
and their names are compared as they are: `EMP`, `Emp` and `emp` may all exist.  A
`Dictionary` is a list of objects without two of one name in one schema; the order
of the list is the order in which Oracle happens to return rows that no `ORDER BY`
puts in order.

Of the views of the dictionary the extension reads `all_objects`, `all_synonyms`,
`all_tab_columns` and `all_users`.  A materialized view shows up in `all_objects`
twice, because it is stored in a table of the same name.

`Resolves` is what a query does with a quoted `"owner"."name"`: it takes the object
of exactly that name, and goes on with the target of a synonym.  A chain of synonyms
that runs in a circle, or ends nowhere, resolves to nothing.

The columns of the tables have no part in that: `withColumns` puts other ones into them,
and every name resolves as before (`resolves_withColumns`).
-/

namespace DuckdbOracle
namespace Oracle

open Duckdb QuotedText

/-- A column, as `all_tab_columns` shows it; a number that is NULL is an empty text. -/
structure DictionaryColumn where
  columnName : String
  dataType : String
  dataPrecision : String := ""
  dataScale : String := ""
  deriving DecidableEq

/-- What an object is. -/
inductive ObjectKind where
  | table (columns : List DictionaryColumn)
  | view (columns : List DictionaryColumn)
  | materializedView (columns : List DictionaryColumn)
  | synonym (tableOwner tableName : String)
  deriving DecidableEq

/-- The types under which `all_objects` lists an object. -/
def ObjectKind.objectTypes : ObjectKind → List String
  | .table _ => ["TABLE"]
  | .view _ => ["VIEW"]
  | .materializedView _ => ["TABLE", "MATERIALIZED VIEW"]
  | .synonym _ _ => ["SYNONYM"]

/-- The columns of an object that has some of its own. -/
def ObjectKind.columns? : ObjectKind → Option (List DictionaryColumn)
  | .table columns => some columns
  | .view columns => some columns
  | .materializedView columns => some columns
  | .synonym _ _ => none

/-- What a synonym stands for. -/
def ObjectKind.target? : ObjectKind → Option (String × String)
  | .synonym tableOwner tableName => some (tableOwner, tableName)
  | _ => none

/-- The same kind of object, with these columns if it has some of its own. -/
def ObjectKind.withColumns (columns : List DictionaryColumn) : ObjectKind → ObjectKind
  | .table _ => .table columns
  | .view _ => .view columns
  | .materializedView _ => .materializedView columns
  | .synonym tableOwner tableName => .synonym tableOwner tableName

@[simp] theorem ObjectKind.target?_withColumns (columns : List DictionaryColumn)
    (kind : ObjectKind) : (kind.withColumns columns).target? = kind.target? := by
  cases kind <;> rfl

@[simp] theorem ObjectKind.columns?_withColumns (columns : List DictionaryColumn)
    (kind : ObjectKind) :
    (kind.withColumns columns).columns? = kind.columns?.map fun _ => columns := by
  cases kind <;> rfl

/-- An object of a schema. -/
structure DictionaryObject where
  owner : String
  name : String
  kind : ObjectKind
  deriving DecidableEq

/-- The full name of an object. -/
def DictionaryObject.id (o : DictionaryObject) : String × String := (o.owner, o.name)

/-- The object with other columns, which are given by its full name. -/
def DictionaryObject.withColumns (columns : String × String → List DictionaryColumn)
    (o : DictionaryObject) : DictionaryObject :=
  { o with kind := o.kind.withColumns (columns o.id) }

/-- The objects of all schemas. -/
structure Dictionary where
  objects : List DictionaryObject
  /-- No two objects of a schema have one name. -/
  unique : (objects.map DictionaryObject.id).Nodup
  /-- Oracle has no empty names. -/
  named : ∀ o ∈ objects, o.owner ≠ "" ∧ o.name ≠ ""

/-- An Oracle database: its dictionary, its users, the schema of the session, and its
function `UPPER`. -/
structure Database where
  dictionary : Dictionary
  upper : String → String
  users : List String := []
  currentSchema : String := ""

/-- The dictionary with other columns in its tables and views. -/
def Dictionary.withColumns (dict : Dictionary)
    (columns : String × String → List DictionaryColumn) : Dictionary where
  objects := dict.objects.map (DictionaryObject.withColumns columns)
  unique := by
    rw [List.map_map]
    exact dict.unique
  named := by
    intro o ho
    obtain ⟨o', ho', rfl⟩ := List.mem_map.mp ho
    exact dict.named o' ho'

/-- The database with other columns in its tables and views. -/
def Database.withColumns (db : Database)
    (columns : String × String → List DictionaryColumn) : Database :=
  { db with dictionary := db.dictionary.withColumns columns }

/-! ## Quoted names -/

/-- Read `"owner"."name"`, with nothing after it. -/
def readQualified? (text : List Char) : Option (String × String) :=
  match read? '"' text with
  | some (owner, '.' :: rest) =>
    match read? '"' rest with
    | some (name, []) => some (String.ofList owner, String.ofList name)
    | _ => none
  | _ => none

/-- Two quoted names with a point between them are read back. -/
theorem readQualified?_writeQuoted (owner name : String) :
    readQualified? (writeQuoted owner ++ "." ++ writeQuoted name).toList = some (owner, name) := by
  have hname := @read?_writeQuoted name [] (by simp)
  rw [List.append_nil] at hname
  have howner := @read?_writeQuoted owner ('.' :: (writeQuoted name).toList) (by simp)
  simp only [readQualified?, String.toList_append, List.append_assoc]
  rw [show ".".toList ++ (writeQuoted name).toList = '.' :: (writeQuoted name).toList from rfl,
    howner]
  simp only [hname, String.ofList_toList]

/-! ## The views of the dictionary -/

namespace Dictionary

variable (dict : Dictionary)

/-- The object of a full name. -/
def object? (owner name : String) : Option DictionaryObject :=
  dict.objects.find? fun o => o.owner = owner ∧ o.name = name

/-- The rows of `all_objects`: owner, name and type. -/
def allObjects : List (DictionaryObject × String) :=
  dict.objects.flatMap fun o => o.kind.objectTypes.map (o, ·)

/-- The rows of `all_synonyms`, with their targets. -/
def allSynonyms : List (DictionaryObject × (String × String)) :=
  dict.objects.filterMap fun o => o.kind.target?.map (o, ·)

/-- The rows of `all_tab_columns`, in the order of `column_id` for each object. -/
def allTabColumns : List (DictionaryObject × DictionaryColumn) :=
  dict.objects.flatMap fun o => (o.kind.columns?.getD []).map (o, ·)

variable {dict}

/-! ## Looking an object up -/

theorem object?_eq_some_iff {owner name : String} {o : DictionaryObject} :
    dict.object? owner name = some o ↔ o ∈ dict.objects ∧ o.owner = owner ∧ o.name = name := by
  constructor
  · intro h
    have hid := List.find?_some h
    rw [decide_eq_true_eq] at hid
    exact ⟨List.mem_of_find?_eq_some h, hid⟩
  · rintro ⟨hmem, hid⟩
    obtain ⟨o', ho'⟩ : ∃ o', dict.object? owner name = some o' :=
      Option.isSome_iff_exists.mp (List.find?_isSome.mpr ⟨o, hmem, decide_eq_true hid⟩)
    have hid' := List.find?_some ho'
    rw [decide_eq_true_eq] at hid'
    have hsame : o' = o := List.inj_on_of_nodup_map dict.unique (List.mem_of_find?_eq_some ho') hmem
      (Prod.ext (hid'.1.trans hid.1.symm) (hid'.2.trans hid.2.symm))
    rw [ho', hsame]

theorem mem_allSynonyms {o : DictionaryObject} {target : String × String} :
    (o, target) ∈ dict.allSynonyms ↔ o ∈ dict.objects ∧ o.kind.target? = some target := by
  simp only [allSynonyms, List.mem_filterMap, Option.map_eq_some_iff, Prod.mk.injEq]
  constructor
  · rintro ⟨o', hmem, target', htarget, rfl, rfl⟩
    exact ⟨hmem, htarget⟩
  · rintro ⟨hmem, htarget⟩
    exact ⟨o, hmem, target, htarget, rfl, rfl⟩

/-- The columns of one object in `all_tab_columns`. -/
def columnsOf (dict : Dictionary) (owner name : String) : List DictionaryColumn :=
  (dict.allTabColumns.filter fun row => row.1.owner = owner ∧ row.1.name = name).map (·.2)

/-- The rows of one owner, when the owners of the rows are told apart by `key`. -/
theorem filter_flatMap_of_nodup {α β κ : Type*} [DecidableEq κ] (key : α → κ) (rows : α → List β)
    (k : κ) : ∀ {l : List α}, (l.map key).Nodup →
      ((l.flatMap fun a => (rows a).map (a, ·)).filter fun row => key row.1 = k).map (·.2) =
        ((l.find? fun a => key a = k).map rows).getD []
  | [], _ => rfl
  | a :: l, h => by
    rw [List.map_cons, List.nodup_cons] at h
    obtain ⟨ha, hl⟩ := h
    have ih := filter_flatMap_of_nodup key rows k hl
    rw [List.flatMap_cons, List.filter_append, List.map_append]
    by_cases hk : key a = k
    · have hown : ((rows a).map (a, ·)).filter (fun row => key row.1 = k) =
          (rows a).map (a, ·) := by
        rw [List.filter_eq_self]
        rintro row hrow
        obtain ⟨b, -, rfl⟩ := List.mem_map.mp hrow
        exact decide_eq_true hk
      have hnone : (l.find? fun a => key a = k) = none := by
        rw [List.find?_eq_none]
        intro b hb hbk
        exact ha (hk ▸ of_decide_eq_true hbk ▸ List.mem_map_of_mem hb)
      rw [hnone] at ih
      rw [hown, ih, List.find?_cons_of_pos (by simpa using hk), List.map_map]
      simp [Function.comp_def]
    · have hother : ((rows a).map (a, ·)).filter (fun row => key row.1 = k) = [] := by
        rw [List.filter_eq_nil_iff]
        rintro row hrow
        obtain ⟨b, -, rfl⟩ := List.mem_map.mp hrow
        simpa using hk
      rw [hother, List.find?_cons_of_neg (by simpa using hk), ← ih]
      rfl

/-- **`all_tab_columns` has the columns of the object of that name**, and none for a
synonym or a name that nothing has. -/
theorem columnsOf_eq (owner name : String) :
    dict.columnsOf owner name =
      ((dict.object? owner name).bind fun o => o.kind.columns?).getD [] := by
  have h := filter_flatMap_of_nodup DictionaryObject.id (fun o => o.kind.columns?.getD [])
    (owner, name) dict.unique
  simp only [DictionaryObject.id, Prod.mk.injEq] at h
  rw [columnsOf, allTabColumns, h, object?]
  cases dict.objects.find? fun o => o.owner = owner ∧ o.name = name <;> rfl

/-! ## Resolving a qualified name -/

/-- The object that a query on the quoted `"owner"."name"` reads. -/
inductive Resolves (dict : Dictionary) : String × String → DictionaryObject → Prop where
  | object {p : String × String} {o : DictionaryObject} (h : dict.object? p.1 p.2 = some o)
      (hcolumns : o.kind.target? = none) : Resolves dict p o
  | synonym {p q : String × String} {s o : DictionaryObject} (h : dict.object? p.1 p.2 = some s)
      (htarget : s.kind.target? = some q) (hq : Resolves dict q o) : Resolves dict p o

theorem resolves_iff_of_object {p : String × String} {o o' : DictionaryObject}
    (h : dict.object? p.1 p.2 = some o) (hcolumns : o.kind.target? = none) :
    dict.Resolves p o' ↔ o' = o := by
  constructor
  · rintro (⟨h', -⟩ | ⟨h', htarget, -⟩)
    · exact Option.some.inj (h'.symm.trans h)
    · obtain rfl := Option.some.inj (h.symm.trans h')
      rw [hcolumns] at htarget
      cases htarget
  · rintro rfl
    exact .object h hcolumns

/-- A synonym reads what its target reads. -/
theorem resolves_iff_of_synonym {p q : String × String} {s o : DictionaryObject}
    (h : dict.object? p.1 p.2 = some s) (htarget : s.kind.target? = some q) :
    dict.Resolves p o ↔ dict.Resolves q o := by
  constructor
  · rintro (⟨h', hcolumns⟩ | ⟨h', htarget', hq⟩)
    · obtain rfl := Option.some.inj (h.symm.trans h')
      rw [hcolumns] at htarget
      cases htarget
    · obtain rfl := Option.some.inj (h.symm.trans h')
      obtain rfl := Option.some.inj (htarget.symm.trans htarget')
      exact hq
  · exact .synonym h htarget

/-- **A name resolves to one object.** -/
theorem Resolves.unique {p : String × String} {o o' : DictionaryObject}
    (h : dict.Resolves p o) (h' : dict.Resolves p o') : o = o' := by
  induction h with
  | object hp hcolumns => exact ((resolves_iff_of_object hp hcolumns).mp h').symm
  | synonym hp htarget _ ih => exact ih ((resolves_iff_of_synonym hp htarget).mp h')

/-- What a name resolves to is an object with columns of its own. -/
theorem Resolves.columns {p : String × String} {o : DictionaryObject} (h : dict.Resolves p o) :
    o ∈ dict.objects ∧ ∃ columns, o.kind.columns? = some columns := by
  induction h with
  | @object p o hp hcolumns =>
    refine ⟨(object?_eq_some_iff.mp hp).1, ?_⟩
    cases hkind : o.kind <;> rw [hkind] at hcolumns <;> first | exact ⟨_, rfl⟩ | cases hcolumns
  | synonym _ _ _ ih => exact ih

/-! ## Other columns under the same names -/

theorem object?_withColumns (columns : String × String → List DictionaryColumn)
    (owner name : String) :
    (dict.withColumns columns).object? owner name =
      (dict.object? owner name).map (DictionaryObject.withColumns columns) :=
  List.find?_map

theorem object?_of_withColumns {columns : String × String → List DictionaryColumn}
    {owner name : String} {o : DictionaryObject}
    (h : (dict.withColumns columns).object? owner name = some o) :
    ∃ o', dict.object? owner name = some o' ∧ o'.withColumns columns = o :=
  Option.map_eq_some_iff.mp ((object?_withColumns columns owner name).symm.trans h)

/-- **A name resolves to the same object, whatever its columns.** -/
theorem resolves_withColumns {columns : String × String → List DictionaryColumn}
    {p : String × String} {o : DictionaryObject} :
    (dict.withColumns columns).Resolves p o ↔
      ∃ o', dict.Resolves p o' ∧ o'.withColumns columns = o := by
  constructor
  · intro h
    induction h with
    | object hp hcolumns =>
      obtain ⟨o', ho', rfl⟩ := object?_of_withColumns hp
      exact ⟨o', .object ho' ((ObjectKind.target?_withColumns _ _).symm.trans hcolumns), rfl⟩
    | synonym hp htarget _ ih =>
      obtain ⟨s, hs, rfl⟩ := object?_of_withColumns hp
      obtain ⟨o', ho', rfl⟩ := ih
      exact ⟨o', .synonym hs ((ObjectKind.target?_withColumns _ _).symm.trans htarget) ho', rfl⟩
  · rintro ⟨o', h, rfl⟩
    induction h with
    | object hp hcolumns =>
      refine .object (by rw [object?_withColumns, hp, Option.map_some]) ?_
      exact (ObjectKind.target?_withColumns _ _).trans hcolumns
    | synonym hp htarget _ ih =>
      refine .synonym (by rw [object?_withColumns, hp, Option.map_some]) ?_ ih
      exact (ObjectKind.target?_withColumns _ _).trans htarget

/-- The columns stored under a name are those given for it, if it is that of a table. -/
theorem columnsOf_withColumns (columns : String × String → List DictionaryColumn)
    (owner name : String) :
    (dict.withColumns columns).columnsOf owner name =
      ((dict.object? owner name).bind fun o =>
        o.kind.columns?.map fun _ => columns (owner, name)).getD [] := by
  rw [columnsOf_eq, object?_withColumns]
  cases ho : dict.object? owner name with
  | none => rfl
  | some o =>
    obtain ⟨-, rfl, rfl⟩ := object?_eq_some_iff.mp ho
    rw [Option.map_some, Option.bind_some, Option.bind_some]
    exact congrArg (·.getD []) (ObjectKind.columns?_withColumns _ _)

end Dictionary
end Oracle
end DuckdbOracle
