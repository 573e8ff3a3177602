import Mathlib.Data.List.Nodup
import DuckdbOracle.Duckdb.Value

/-!
# Columns of a DuckDB table

The types that the extension gives to columns, and `ColumnList`, which does not take
two columns whose names differ in letter case only.
-/

namespace DuckdbOracle
namespace Duckdb

/-- A `LogicalType`. -/
inductive LogicalType where
  | varchar
  | bigint
  | float
  | double
  | timestamp
  | blob
  | decimal (width scale : ℕ)
  | list (child : LogicalType)
  | user (name : String)
  deriving DecidableEq

/-- `ColumnDefinition`. -/
structure ColumnDefinition where
  name : String
  type : LogicalType
  deriving DecidableEq

/-- `ColumnList::AddColumn`. -/
def addColumn (columns : List ColumnDefinition) (column : ColumnDefinition) :
    Except String (List ColumnDefinition) :=
  if lower column.name ∈ columns.map fun c => lower c.name then
    .error ("Column with name " ++ column.name ++ " already exists!")
  else .ok (columns ++ [column])

/-- Names that differ in more than letter case. -/
def DistinctNames (names : List String) : Prop := (names.map lower).Nodup

instance (names : List String) : Decidable (DistinctNames names) :=
  inferInstanceAs (Decidable (names.map lower).Nodup)

theorem foldlM_addColumn_eq_ok_iff {columns before after : List ColumnDefinition}
    (hbefore : DistinctNames (before.map (·.name))) :
    columns.foldlM addColumn before = .ok after ↔
      after = before ++ columns ∧ DistinctNames ((before ++ columns).map (·.name)) := by
  induction columns generalizing before with
  | nil =>
    rw [List.append_nil]
    constructor
    · intro h
      exact ⟨(Except.ok.inj h).symm, hbefore⟩
    · rintro ⟨rfl, -⟩
      rfl
  | cons column columns ih =>
    rw [List.foldlM_cons, addColumn]
    split
    · next hdup =>
      constructor
      · intro h
        cases h
      · rintro ⟨-, hdistinct⟩
        -- the name that is there already stands twice among all names
        simp only [DistinctNames, List.map_append, List.map_cons, List.map_map] at hdistinct
        have hdisjoint := (List.nodup_append.mp hdistinct).2.2
        exact absurd rfl (hdisjoint _ hdup _ List.mem_cons_self)
    · next hnew =>
      have hdistinct : DistinctNames ((before ++ [column]).map (·.name)) := by
        simp only [DistinctNames, List.map_append, List.map_cons, List.map_nil, List.map_map]
        refine List.nodup_append.mpr ⟨by simpa only [DistinctNames, List.map_map] using hbefore,
          List.nodup_singleton _, ?_⟩
        rintro a ha b hb rfl
        rw [List.mem_singleton] at hb
        exact hnew (hb ▸ ha)
      show (columns.foldlM addColumn (before ++ [column])) = _ ↔ _
      rw [ih hdistinct, List.append_assoc, List.singleton_append]

/-- **Columns are added as they are**, if no two names differ in letter case only. -/
theorem addColumns_eq_ok_iff {columns columns' : List ColumnDefinition} :
    columns.foldlM addColumn [] = .ok columns' ↔
      columns' = columns ∧ DistinctNames (columns.map (·.name)) :=
  foldlM_addColumn_eq_ok_iff List.nodup_nil

end Duckdb
end DuckdbOracle
