import Mathlib.Data.List.TakeWhile
import DuckdbOracle.Catalog.Enumeration

/-!
# The texts of the metadata queries

The catalog asks Oracle's dictionary by SQL texts that it puts together from names.  A
name goes into the text through `Value(name).ToSQLString().c_str()`: in single quotes, with
the quotes inside doubled, and then as a C string, which ends at the first null character.
`StringUtil::Format` puts it in place of a `%s`.
-/

namespace DuckdbOracle
namespace Catalog

open Duckdb

/-- `Value(s).ToSQLString()`. -/
def sqlString (s : String) : String := String.ofList (Value.varchar s).toSQLString

/-- `Value(s).ToSQLString().c_str()`. -/
def sqlArgument (s : String) : String := cString (sqlString s)

/-- The query of `DetectCurrentSchema` and `ListSchemas` for the current schema. -/
def currentSchemaQuery : String := "SELECT SYS_CONTEXT('USERENV', 'CURRENT_SCHEMA') FROM DUAL"

/-- The query of `ListSchemas` for all schemas. -/
def listSchemasQuery : String := "SELECT username FROM all_users ORDER BY username"

/-- The query of `ListTables`. -/
def listTablesQuery (schema : String) : String :=
  "SELECT table_name FROM all_tables WHERE owner = UPPER(" ++ sqlArgument schema ++
    ") ORDER BY table_name"

/-- `types_sql` of `ListObjects`. -/
def typesSql (objectTypes : String) : String :=
  join "," ((objectTypesOf objectTypes).map sqlString)

/-- The query of `ListObjects`, without the limit. -/
def allObjectsQuery (schema objectTypes : String) : String :=
  "SELECT object_name FROM all_objects WHERE owner = UPPER(" ++ sqlArgument schema ++
    ") AND object_type IN (" ++ cString (typesSql objectTypes) ++ ") ORDER BY object_name"

/-- The query of `ListObjects`. -/
def listObjectsQuery (limit : ℕ) (schema objectTypes : String) : String :=
  let query := allObjectsQuery schema objectTypes
  if limit > 0 then
    "SELECT * FROM (" ++ cString query ++ ") WHERE ROWNUM <= " ++ toString limit
  else query

/-- The query of `ResolveSynonym`. -/
def resolveSynonymQuery (schema synonymName : String) : String :=
  "SELECT table_owner, table_name FROM all_synonyms WHERE synonym_name = UPPER(" ++
    sqlArgument synonymName ++ ") AND (owner = UPPER(" ++ sqlArgument schema ++
    ") OR owner = 'PUBLIC') ORDER BY CASE WHEN owner = UPPER(" ++ sqlArgument schema ++
    ") THEN 0 ELSE 1 END"

/-- The query of `GetObjectName`; the types are a part of the text as they are. -/
def getObjectNameQuery (schema objectName objectTypes : String) : String :=
  "SELECT object_name FROM all_objects WHERE owner = UPPER(" ++ sqlArgument schema ++
    ") AND UPPER(object_name) = UPPER(" ++ sqlArgument objectName ++ ") AND object_type IN (" ++
    cString objectTypes ++ ")"

/-- The query of `GetRealSchemaName`. -/
def getRealSchemaNameQuery (name : String) : String :=
  "SELECT username FROM all_users WHERE UPPER(username) = UPPER(" ++ sqlArgument name ++ ")"

/-- The query of `LoadColumns`. -/
def loadColumnsQuery (schema table : String) : String :=
  "SELECT column_name, data_type, data_length, data_precision, data_scale, nullable FROM " ++
    "all_tab_columns WHERE owner = UPPER(" ++ sqlArgument schema ++
    ") AND table_name = UPPER(" ++ sqlArgument table ++ ") ORDER BY column_id"

/-! ## The pieces of the type list -/

/-- A character that does not separate pieces is in one of them. -/
theorem exists_mem_splitFrom {c d : Char} (hne : c ≠ d) {piece text : List Char}
    (h : c ∈ piece ∨ c ∈ text) : ∃ p ∈ OracleCatalogState.splitFrom d piece text, c ∈ p := by
  induction text generalizing piece with
  | nil =>
    have hc : c ∈ piece := h.resolve_right List.not_mem_nil
    rw [OracleCatalogState.splitFrom, if_neg (List.ne_nil_of_mem hc)]
    exact ⟨_, List.mem_singleton_self _, List.mem_reverse.mpr hc⟩
  | cons e text ih =>
    rw [OracleCatalogState.splitFrom]
    split
    · next he =>
      rcases h with hpiece | htext
      · exact ⟨_, List.mem_cons_self, List.mem_reverse.mpr hpiece⟩
      · have hrest : c ∈ text := (List.mem_cons.mp htext).resolve_left fun hce => hne (hce.trans he)
        obtain ⟨p, hp, hc⟩ := @ih [] (Or.inr hrest)
        exact ⟨p, List.mem_cons_of_mem _ hp, hc⟩
    · refine ih ?_
      rcases h with hpiece | htext
      · exact Or.inl (List.mem_cons_of_mem _ hpiece)
      · refine (List.mem_cons.mp htext).imp_left fun hce => ?_
        rw [hce]
        exact List.mem_cons_self

/-- The pieces have no other characters than the text. -/
theorem mem_of_mem_splitFrom {c d : Char} {piece text p : List Char}
    (hp : p ∈ OracleCatalogState.splitFrom d piece text) (hc : c ∈ p) :
    c ∈ piece ∨ c ∈ text := by
  induction text generalizing piece with
  | nil =>
    rw [OracleCatalogState.splitFrom] at hp
    split at hp
    · exact absurd hp List.not_mem_nil
    · rw [List.mem_singleton.mp hp, List.mem_reverse] at hc
      exact Or.inl hc
  | cons e text ih =>
    rw [OracleCatalogState.splitFrom] at hp
    split at hp
    · rcases List.mem_cons.mp hp with rfl | hmem
      · exact Or.inl (List.mem_reverse.mp hc)
      · exact Or.inr (List.mem_cons_of_mem e ((ih hmem).resolve_left List.not_mem_nil))
    · rcases ih hp with hpiece | htext
      · rcases List.mem_cons.mp hpiece with rfl | hmem
        · exact Or.inr List.mem_cons_self
        · exact Or.inl hmem
      · exact Or.inr (List.mem_cons_of_mem e htext)

theorem mem_dropWhile_of_not {p : Char → Bool} {c : Char} (hp : p c = false) {text : List Char} :
    c ∈ text.dropWhile p ↔ c ∈ text := by
  constructor
  · exact fun h => (List.dropWhile_sublist p).subset h
  · intro h
    rw [← List.takeWhile_append_dropWhile (p := p) (l := text)] at h
    rcases List.mem_append.mp h with htake | hdrop
    · exact absurd (List.mem_takeWhile_imp htake) (Bool.eq_false_iff.mp hp)
    · exact hdrop

/-- Trimming takes away spaces only. -/
theorem mem_trim {c : Char} (h : characterIsSpace c = false) (text : List Char) :
    c ∈ (trim text).toList ↔ c ∈ text := by
  rw [trim, String.toList_ofList, List.mem_reverse, mem_dropWhile_of_not h, List.mem_reverse,
    mem_dropWhile_of_not h]

/-- A null character of the list of types is in one of the types. -/
theorem nullChar_mem_objectTypes (objectTypes : String) :
    nullChar ∈ objectTypes.toList ↔
      ∃ type ∈ objectTypesOf objectTypes, nullChar ∈ type.toList := by
  have htrim := fun text => @mem_trim nullChar (by decide) text
  constructor
  · intro h
    obtain ⟨p, hp, hmem⟩ := @exists_mem_splitFrom nullChar ',' (by decide) [] _ (Or.inr h)
    exact ⟨trim p, List.mem_map_of_mem hp, (htrim p).mpr hmem⟩
  · rintro ⟨type, htype, hmem⟩
    obtain ⟨p, hp, rfl⟩ := List.mem_map.mp htype
    exact (mem_of_mem_splitFrom hp ((htrim p).mp hmem)).resolve_left List.not_mem_nil

end Catalog
end DuckdbOracle
