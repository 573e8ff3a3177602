import Mathlib.Algebra.Group.Int.Defs
import Mathlib.Algebra.Group.Nat.Defs
import Mathlib.Data.Rat.Defs
import DuckdbOracle.Foundations.QuotedText

/-!
# DuckDB values and texts

The part of DuckDB's `Value`, `StringUtil` and `KeywordHelper` that the extension
calls.  A numeric value that is not an integer keeps its decimal digits, so that
its text and the number it denotes are both read off the same data; a `BLOB` keeps
its bytes; a value of any other scalar type (`DATE`, `TIMESTAMP`, `INTERVAL`, `UUID`,
a non-finite float and so on) keeps its text, which has no single quote in it, and
the name of its type, which is all `ToSQLString` uses.
-/

namespace DuckdbOracle
namespace Duckdb

open QuotedText

/-- `StringUtil::Lower`, which maps ASCII letters only. -/
def lower (s : String) : String := String.ofList (s.toList.map Char.toLower)

/-- `StringUtil::Upper`, which maps ASCII letters only. -/
def upper (s : String) : String := String.ofList (s.toList.map Char.toUpper)

/-- `StringUtil::Join`. -/
def join (sep : String) : List String → String
  | [] => ""
  | [s] => s
  | s :: t :: ss => s ++ sep ++ join sep (t :: ss)

/-- `KeywordHelper::WriteQuoted(name, '"')`: enclose in double quotes, double the
quotes inside. -/
def writeQuoted (name : String) : String := String.ofList (quote '"' name.toList)

/-- A decimal number by its digits: sign, whole part, digits after the point. -/
structure PlainNumber where
  negative : Bool
  whole : ℕ
  fraction : List (Fin 10)
  deriving DecidableEq

/-- All digits read as one natural number. -/
def PlainNumber.unscaled (n : PlainNumber) : ℕ :=
  n.fraction.foldl (fun a d => 10 * a + d.val) n.whole

/-- The number the digits denote. -/
def PlainNumber.value (n : PlainNumber) : ℚ :=
  (if n.negative then -(n.unscaled : ℚ) else n.unscaled) / 10 ^ n.fraction.length

/-- The digits of the fraction as characters. -/
def fractionText (ds : List (Fin 10)) : List Char := ds.map fun d => Nat.digitChar d.val

/-- The plain text of a number: no exponent, no grouping. -/
def PlainNumber.text (n : PlainNumber) : List Char :=
  (if n.negative then ['-'] else []) ++ Nat.toDigits 10 n.whole ++
    (if n.fraction = [] then [] else '.' :: fractionText n.fraction)

/-- `Blob::IsRegularCharacter`: the bytes a blob's text shows as they are. -/
def isRegularCharacter (b : UInt8) : Bool :=
  32 ≤ b.toNat && b.toNat ≤ 126 && b.toNat ∉ ['\\'.toNat, '\''.toNat, '"'.toNat]

/-- A hexadecimal digit. -/
def hexDigit (n : ℕ) : Char := "0123456789ABCDEF".toList.getD n '0'

/-- `Blob::ToString`: a byte that is not regular is written `\xHH`. -/
def blobText (bytes : List UInt8) : List Char :=
  bytes.flatMap fun b =>
    if isRegularCharacter b then [Char.ofNat b.toNat]
    else ['\\', 'x', hexDigit (b.toNat / 16), hexDigit (b.toNat % 16)]

/-- A text without single quotes. -/
abbrev PlainText := { s : String // '\'' ∉ s.toList }

/-- A DuckDB `Value`. -/
inductive Value where
  | null
  | boolean (b : Bool)
  | integer (i : ℤ)
  | decimal (n : PlainNumber)
  | varchar (s : String)
  | blob (bytes : List UInt8)
  | typed (text : PlainText) (type : String)
  | list (elements : List Value)

/-- `Value::GetValue<bool>`; a failed cast throws. -/
def Value.getBool : Value → Except String Bool
  | .boolean b => .ok b
  | .integer i => .ok (i != 0)
  | .decimal n => .ok (n.unscaled != 0)
  | .varchar s =>
    match lower s with
    | "true" => .ok true
    | "t" => .ok true
    | "1" => .ok true
    | "false" => .ok false
    | "f" => .ok false
    | "0" => .ok false
    | _ => .error ("Could not convert string '" ++ s ++ "' to BOOL")
  | _ => .error "Unimplemented type for cast to BOOL"

/-- The integers an `int64_t` holds. -/
def isInt64 (i : ℤ) : Bool := -(2 ^ 63) ≤ i && i < 2 ^ 63

/-- `Value::GetValue<int64_t>`; a failed cast throws. -/
def Value.getInt64 : Value → Except String ℤ
  | .boolean b => .ok (if b then 1 else 0)
  | .integer i =>
    if isInt64 i then .ok i else .error "Value out of range for the destination type INT64"
  | .varchar s =>
    match s.toInt? with
    | some i =>
      if isInt64 i then .ok i else .error ("Could not convert string '" ++ s ++ "' to INT64")
    | none => .error ("Could not convert string '" ++ s ++ "' to INT64")
  | _ => .error "Unimplemented type for cast to INT64"

/-- The integer `i` as a plain number. -/
def PlainNumber.ofInt (i : ℤ) : PlainNumber := ⟨decide (i < 0), i.natAbs, []⟩

mutual

/-- `Value::ToString`. -/
def Value.toString : Value → String
  | .null => "NULL"
  | .boolean b => if b then "true" else "false"
  | .integer i => String.ofList (PlainNumber.ofInt i).text
  | .decimal n => String.ofList n.text
  | .varchar s => s
  | .blob bytes => String.ofList (blobText bytes)
  | .typed text _ => text.val
  | .list elements => "[" ++ join ", " (Value.toStrings elements) ++ "]"

/-- `Value::ToString` of every element. -/
def Value.toStrings : List Value → List String
  | [] => []
  | v :: vs => v.toString :: Value.toStrings vs

end

mutual

/-- `Value::ToSQLString`: strings in single quotes with the quotes inside doubled,
numbers plain, other scalar types as `'<text>'::<TYPE>`. -/
def Value.toSQLString : Value → List Char
  | .null => "NULL".toList
  | .boolean b => (if b then "true" else "false").toList
  | .integer i => (PlainNumber.ofInt i).text
  | .decimal n => n.text
  | .varchar s => quote '\'' s.toList
  | .blob bytes => '\'' :: (blobText bytes ++ "'::BLOB".toList)
  | .typed text type => '\'' :: (text.val.toList ++ "'::".toList ++ type.toList)
  | .list elements => '[' :: (Value.toSQLStrings elements ++ [']'])

/-- `Value::ToSQLString` of every element, separated by a comma and a blank. -/
def Value.toSQLStrings : List Value → List Char
  | [] => []
  | [v] => v.toSQLString
  | v :: w :: vs => v.toSQLString ++ ", ".toList ++ Value.toSQLStrings (w :: vs)

end

/-- A quoted name is read back from the front of any text that does not go on
with another double quote. -/
theorem read?_writeQuoted (name : String) {rest : List Char} (h : rest.head? ≠ some '"') :
    read? '"' ((writeQuoted name).toList ++ rest) = some (name.toList, rest) := by
  rw [writeQuoted, String.toList_ofList]
  exact read?_quote name.toList h

end Duckdb
end DuckdbOracle
