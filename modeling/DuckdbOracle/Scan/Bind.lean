import DuckdbOracle.Catalog.Settings

/-!
# Binding a scan

`OracleBindInternal` describes the base query and fills an `OracleBindData`: for
every result column its name, its OCI type, its size, and the DuckDB type it is
delivered as.  The statement and the connection it used are given back before it
returns, so they are not part of the model.
-/

namespace DuckdbOracle
namespace Scan

open Catalog

/-- The `SQLT_…` codes that the extension tells apart. -/
inductive OciType where
  | chr | afc | vcs | avc
  | num | vnu
  | int | uin
  | flt | bfloat | bdouble | ibfloat | ibdouble
  | dat | odt | timestamp | timestampTz | timestampLtz
  | clob
  | blob | bin | lbi | lng | lvc
  | json | vec
  | other (code : ℕ)
  deriving DecidableEq

/-- The `LogicalType`s of a scan. -/
inductive LogicalType where
  | varchar
  | bigint
  | double
  | timestamp
  | blob
  deriving DecidableEq

/-- What OCI describes of a result column. -/
structure DescribedColumn where
  name : String
  dataType : OciType
  precision : ℕ := 0
  scale : ℤ := 0
  charSize : ℕ := 0
  deriving DecidableEq

/-- The DuckDB type of a described column. -/
def DescribedColumn.returnType (column : DescribedColumn) : LogicalType :=
  match column.dataType with
  | .chr | .afc | .vcs | .avc => .varchar
  | .num | .vnu =>
    if column.scale = 0 then
      if column.precision > 18 then .double else .bigint
    else .double
  | .int | .uin => .bigint
  | .flt | .bfloat | .bdouble | .ibfloat | .ibdouble => .double
  | .dat | .odt | .timestamp | .timestampTz | .timestampLtz => .timestamp
  | .clob => .varchar
  | .blob | .bin | .lbi | .lng | .lvc => .blob
  | .json | .vec | .other _ => .varchar

/-- The size the bind data keeps: `OCI_ATTR_CHAR_SIZE`, or the default. -/
def DescribedColumn.size (column : DescribedColumn) : ℕ :=
  if column.charSize > 0 then column.charSize else 4000

/-- `OracleBindData`. -/
structure OracleBindData where
  connectionString : String
  baseQuery : String
  query : String
  ociTypes : List OciType
  ociSizes : List ℕ
  columnNames : List String
  originalTypes : List LogicalType
  originalNames : List String
  settings : OracleSettings
  deriving DecidableEq

/-- `OracleBindInternal`, once the describe has returned `columns`. -/
def oracleBindInternal (connectionString query : String) (settings : OracleSettings)
    (columns : List DescribedColumn) : OracleBindData where
  connectionString := connectionString
  baseQuery := query
  query := query
  ociTypes := columns.map (·.dataType)
  ociSizes := columns.map DescribedColumn.size
  columnNames := columns.map (·.name)
  originalTypes := columns.map DescribedColumn.returnType
  originalNames := columns.map (·.name)
  settings := settings

end Scan
end DuckdbOracle
