import DuckdbOracle.Duckdb.Value

/-!
# Settings of an attached Oracle database

`OracleSettings` with the defaults of the struct, and the translation of `ATTACH`
options into settings (`OracleCatalogState::ApplyOptions`).

The options arrive in an `unordered_map`; the model takes them as a list, in the
order in which the map is walked.  A value that does not cast makes `GetValue`
throw in the middle of the walk, and the settings written so far stay, so
`applyOptions` returns the settings next to the outcome.
-/

namespace DuckdbOracle
namespace Catalog

open Duckdb

/-- `OracleSettings`. -/
structure OracleSettings where
  enablePushdown : Bool := true
  prefetchRows : ℕ := 200
  prefetchMemory : ℕ := 0
  arraySize : ℕ := 256
  connectionCache : Bool := true
  connectionLimit : ℕ := 8
  debugShowQueries : Bool := false
  lazySchemaLoading : Bool := true
  metadataObjectTypes : String := "TABLE,VIEW,SYNONYM,MATERIALIZED VIEW"
  metadataResultLimit : ℕ := 10000
  useCurrentSchema : Bool := true
  tryNativeLobs : Bool := true
  lobMaxSize : ℕ := 33554432
  vectorToList : Bool := true
  enableTypeConversion : Bool := true
  enableSpatialTypes : Bool := true
  deriving DecidableEq

/-- `static_cast<idx_t>` of an `int64_t`: negative values wrap. -/
def castIdx (val : ℤ) : ℕ := (val % 2 ^ 64).toNat

/-- `MaxValue<idx_t>(1, static_cast<idx_t>(val))`. -/
def atLeastOne (val : ℤ) : ℕ := max 1 (castIdx val)

/-- `val <= 0 ? 0 : static_cast<idx_t>(val)`. -/
def atLeastZero (val : ℤ) : ℕ := if val ≤ 0 then 0 else castIdx val

/-- One `ATTACH` option; unknown keys are ignored. -/
def applyOption (settings : OracleSettings) (entry : String × Value) :
    Except String OracleSettings :=
  match lower entry.1 with
  | "enable_pushdown" => do return { settings with enablePushdown := ← entry.2.getBool }
  | "prefetch_rows" => do return { settings with prefetchRows := atLeastOne (← entry.2.getInt64) }
  | "prefetch_memory" => do
    return { settings with prefetchMemory := atLeastZero (← entry.2.getInt64) }
  | "array_size" => do return { settings with arraySize := atLeastOne (← entry.2.getInt64) }
  | "connection_cache" => do return { settings with connectionCache := ← entry.2.getBool }
  | "connection_limit" => do
    return { settings with connectionLimit := atLeastOne (← entry.2.getInt64) }
  | "debug_show_queries" => do return { settings with debugShowQueries := ← entry.2.getBool }
  | "lazy_schema_loading" => do return { settings with lazySchemaLoading := ← entry.2.getBool }
  | "metadata_object_types" => .ok { settings with metadataObjectTypes := entry.2.toString }
  | "metadata_result_limit" => do
    return { settings with metadataResultLimit := atLeastZero (← entry.2.getInt64) }
  | "use_current_schema" => do return { settings with useCurrentSchema := ← entry.2.getBool }
  | "try_native_lobs" => do return { settings with tryNativeLobs := ← entry.2.getBool }
  | "lob_max_size" => do return { settings with lobMaxSize := atLeastZero (← entry.2.getInt64) }
  | "vector_to_list" => do return { settings with vectorToList := ← entry.2.getBool }
  | "enable_type_conversion" => do
    return { settings with enableTypeConversion := ← entry.2.getBool }
  | "enable_spatial_types" => do return { settings with enableSpatialTypes := ← entry.2.getBool }
  | _ => .ok settings

/-- `OracleCatalogState::ApplyOptions`: the settings afterwards, and the exception
of the first option whose value does not cast. -/
def applyOptions (settings : OracleSettings) :
    List (String × Value) → OracleSettings × Except String Unit
  | [] => (settings, .ok ())
  | entry :: entries =>
    match applyOption settings entry with
    | .ok settings' => applyOptions settings' entries
    | .error e => (settings, .error e)

end Catalog
end DuckdbOracle
