import ScriptedSql.Error
import ScriptedSql.Value

/-!
Contract: typed reading of values, the last step between a row and a program.

Owns:
- the types that values are read as, and what reading as each yields;
- reading itself and its errors.
-/

namespace ScriptedSql

inductive ScanType where
  | bool
  | int32
  | int64
  | double
  | text
  | bytes
  | texts
  | value
  | optional (inner : ScanType)
deriving DecidableEq, Repr

namespace ScanType

abbrev Carrier : ScanType → Type
  | .bool => Bool
  | .int32 => Int32
  | .int64 => Int64
  | .double => Floating
  | .text => String
  | .bytes => List UInt8
  | .texts => List String
  | .value => Value
  | .optional inner => Option (Carrier inner)

/-- The full name of a type, which an error about a missing value gives. -/
def fullName : ScanType → String
  | .bool => "bool"
  | .int32 => "i32"
  | .int64 => "i64"
  | .double => "f64"
  | .text => "alloc::string::String"
  | .bytes => "alloc::vec::Vec<u8>"
  | .texts => "alloc::vec::Vec<alloc::string::String>"
  | .value => "sqlmock_core::value::Value"
  | .optional inner => "core::option::Option<" ++ inner.fullName ++ ">"

end ScanType

namespace Value

def notOfType {α : Type} (value : Value) (expected : String) : Except Error α :=
  .error (.type ⟨expected, value.typeName, none⟩)

/-- What a reading found, or the error of a value that is not of the expected
type. -/
def orNotOfType {α : Type} (value : Value) (expected : String) : Option α → Except Error α
  | some found => .ok found
  | none => value.notOfType expected

def scanText (value : Value) : Except Error String :=
  value.orNotOfType "String" value.asText?

def scanTexts : List Value → Except Error (List String)
  | [] => .ok []
  | value :: rest =>
    match value.scanText with
    | .error error => .error error
    | .ok first =>
      match scanTexts rest with
      | .error error => .error error
      | .ok others => .ok (first :: others)

/-- Read a value as an integer of 32 bits, which it must fit. -/
def scanInt32 (value : Value) : Except Error Int32 :=
  match value.asInt64? with
  | none => value.notOfType "i32"
  | some number =>
    if number.toInt32.toInt64 = number then .ok number.toInt32
    else
      .error (.type ⟨"i32", "value " ++ Text.signed number.toInt ++ " out of range", none⟩)

/-- Read a value as a type. A truth value is read from a truth value only, though
it also counts as an integer. NULL is read as nothing where nothing is
allowed. -/
def scan : (type : ScanType) → Value → Except Error type.Carrier
  | .bool, .bool flag => .ok flag
  | .bool, value => value.notOfType "bool"
  | .int32, value => value.scanInt32
  | .int64, value => value.orNotOfType "i64" value.asInt64?
  | .double, value => value.orNotOfType "f64" value.asDouble?
  | .text, value => value.scanText
  | .bytes, value => value.orNotOfType "Vec<u8>" value.asBytes?
  | .texts, .array items => scanTexts items
  | .texts, value => value.notOfType "Vec<String>"
  | .value, value => .ok value
  | .optional inner, value =>
    if value.isNull then .ok none
    else
      match scan inner value with
      | .ok found => .ok (some found)
      | .error error => .error error

end Value

end ScriptedSql
