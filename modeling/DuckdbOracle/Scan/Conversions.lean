import DuckdbOracle.Catalog.Enumeration
import DuckdbOracle.Catalog.TableEntry
import DuckdbOracle.Scan.Fetch

/-!
# From the text of a cell to a value

`OracleQueryFunction` fetches everything but binary columns as text, and converts the
text by the type of the output column.  `BIGINT` goes through `std::stoll`, and so on; a
conversion that throws leaves `NULL`, but for timestamps, where it leaves the value
that a `timestamp_t` is initialized with, and for the elements of a vector, where it
leaves nothing at all.

The conversions that are the libraries' own are parameters.
-/

namespace DuckdbOracle
namespace Scan

open Catalog OracleCatalogState

/-- The text of a cell; a `std::string` is a sequence of bytes. -/
def cellText (val : List UInt8) : List Char := val.map fun b => Char.ofNat b.toNat

/-- The bytes of a text in ASCII. -/
def asciiBytes (text : String) : List UInt8 := text.toList.map fun c => UInt8.ofNat c.toNat

/-- What the libraries do, `none` being an exception: `std::stof`, `std::stod`,
`Timestamp::FromString` and a `timestamp_t()`, and DuckDB's casts from a text. -/
structure Library (F D T : Type) where
  stof : List Char → Option F
  stod : List Char → Option D
  fromString : List Char → Option T
  epoch : T
  castDecimal : ℕ → ℕ → List Char → Option ℚ
  castUser : String → List Char → Option String

/-- A value of an output column. -/
inductive ScanValue (F D T : Type) where
  | bigint (i : ℤ)
  | double (d : D)
  | decimal (q : ℚ)
  | timestamp (t : T)
  | list (elements : List F)
  | user (text : String)
  deriving DecidableEq

variable {F D T : Type}

/-- `ParseOciTimestamp`. -/
def parseOciTimestamp (lib : Library F D T) (data : List UInt8) : T :=
  if data = [] then lib.epoch
  else
    -- up to the first null byte
    let s := (cellText data).takeWhile (· ≠ '\x00')
    if s = [] then lib.epoch
    else
      match lib.fromString s with
      | some t => t
      | none => lib.epoch

/-- The text between the brackets. -/
def removeBrackets (s : List Char) : List Char :=
  if s.length ≥ 2 ∧ s.head? = some '[' ∧ s.getLast? = some ']' then s.tail.dropLast else s

/-- One piece of a vector's text; an empty one, or one that throws, is skipped. -/
def parseVectorPart (stof : List Char → Option F) (part : List Char) : Option F :=
  let part := (trim part).toList
  if part = [] then none else stof part

/-- `ParseVectorJsonToList`. -/
def parseVectorJsonToList (stof : List Char → Option F) (jsonStr : List Char) : List F :=
  let s := (trim jsonStr).toList
  if s = [] ∨ s.head? ≠ some '[' then []
  else (splitFrom ',' [] (removeBrackets s)).filterMap (parseVectorPart stof)

/-- The conversion of a cell that is neither `VARCHAR` nor `BLOB`; a `FLOAT` has none. -/
def convertCell (lib : Library F D T) : Duckdb.LogicalType → List UInt8 → Option (ScanValue F D T)
  | .bigint, val => (stoll (cellText val)).map .bigint
  | .double, val => (lib.stod (cellText val)).map .double
  | .decimal width scale, val => (lib.castDecimal width scale (cellText val)).map .decimal
  | .timestamp, val => some (.timestamp (parseOciTimestamp lib val))
  | .list _, val => some (.list (parseVectorJsonToList lib.stof (cellText val)))
  | .user name, val => (lib.castUser name (cellText val)).map .user
  | .varchar, _ | .blob, _ | .float, _ => none

end Scan
end DuckdbOracle
