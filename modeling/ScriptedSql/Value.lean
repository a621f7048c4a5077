import ScriptedSql.Json.Document
import ScriptedSql.Text.Quoted

/-!
Contract: dynamic SQL values.

Owns:
- the values that statements take as arguments and rows hold;
- their type names, their equality, and their text in messages;
- the reading of a value as a truth value, a number, a text or bytes.

Does not own: conversion before comparison (`Converter`), typed reading of rows
(`Scan`), and the tagged JSON form (`Value.Tagged`).
-/

namespace ScriptedSql

structure Uuid where
  bytes : List UInt8
  sixteen : bytes.length = 16
deriving DecidableEq

/-- A dynamically typed SQL value. Dates count days, times and time stamps
microseconds; a time stamp without zone is read as one of UTC. -/
inductive Value where
  | null
  | bool (flag : Bool)
  | tinyInt (number : Int8)
  | smallInt (number : Int16)
  | int (number : Int32)
  | bigInt (number : Int64)
  | float (number : Floating)
  | double (number : Floating)
  | decimal (digits : String)
  | text (content : String)
  | bytes (content : List UInt8)
  | date (days : Int32)
  | time (microseconds : Int64)
  | timestamp (microseconds : Int64)
  | timestampTz (microseconds : Int64)
  | uuid (id : Uuid)
  | json (document : Json.Document)
  | array (items : List Value)
  | defaultKeyword

namespace Value

def isNull : Value → Bool
  | .null => true
  | _ => false

def typeName : Value → String
  | .null => "NULL"
  | .bool _ => "BOOLEAN"
  | .tinyInt _ => "TINYINT"
  | .smallInt _ => "SMALLINT"
  | .int _ => "INTEGER"
  | .bigInt _ => "BIGINT"
  | .float _ => "REAL"
  | .double _ => "DOUBLE"
  | .decimal _ => "DECIMAL"
  | .text _ => "TEXT"
  | .bytes _ => "BLOB"
  | .date _ => "DATE"
  | .time _ => "TIME"
  | .timestamp _ => "TIMESTAMP"
  | .timestampTz _ => "TIMESTAMPTZ"
  | .uuid _ => "UUID"
  | .json _ => "JSON"
  | .array _ => "ARRAY"
  | .defaultKeyword => "DEFAULT"

mutual

/-- Equality of values: only values of one type are equal, and floating-point
numbers are equal as numbers. -/
def sameAs : Value → Value → Bool
  | .null, .null => true
  | .bool left, .bool right => left == right
  | .tinyInt left, .tinyInt right => left == right
  | .smallInt left, .smallInt right => left == right
  | .int left, .int right => left == right
  | .bigInt left, .bigInt right => left == right
  | .float left, .float right => left.sameNumber right
  | .double left, .double right => left.sameNumber right
  | .decimal left, .decimal right => left == right
  | .text left, .text right => left == right
  | .bytes left, .bytes right => left == right
  | .date left, .date right => left == right
  | .time left, .time right => left == right
  | .timestamp left, .timestamp right => left == right
  | .timestampTz left, .timestampTz right => left == right
  | .uuid left, .uuid right => left.bytes == right.bytes
  | .json left, .json right => left.sameAs right
  | .array left, .array right => sameItems left right
  | .defaultKeyword, .defaultKeyword => true
  | _, _ => false

def sameItems : List Value → List Value → Bool
  | [], [] => true
  | left :: lefts, right :: rights => sameAs left right && sameItems lefts rights
  | _, _ => false

end

def bracketed (items : List String) : String :=
  "[" ++ ", ".intercalate items ++ "]"

mutual

/-- A value as messages show it: texts quoted, bytes as a list of numbers, a UUID
in hexadecimal, and the plain text of everything else. -/
def shown : Value → String
  | .null => "NULL"
  | .bool flag => if flag then "true" else "false"
  | .tinyInt number => Text.signed number.toInt
  | .smallInt number => Text.signed number.toInt
  | .int number => Text.signed number.toInt
  | .bigInt number => Text.signed number.toInt
  | .float number => number.written .single
  | .double number => number.written .double
  | .decimal digits => digits
  | .text content => Text.quoted content
  | .bytes content => bracketed (content.map fun byte => Text.decimal byte.toNat)
  | .date days => Text.signed days.toInt
  | .time microseconds => Text.signed microseconds.toInt
  | .timestamp microseconds => Text.signed microseconds.toInt
  | .timestampTz microseconds => Text.signed microseconds.toInt
  | .uuid id => String.ofList (id.bytes.flatMap fun byte => Text.hexPadded 2 byte.toNat)
  | .json document => document.text
  | .array items => bracketed (shownItems items)
  | .defaultKeyword => "DEFAULT"

def shownItems : List Value → List String
  | [] => []
  | item :: rest => shown item :: shownItems rest

end

/-- The value as a truth value: an integer is true unless it is zero. -/
def asBool? : Value → Option Bool
  | .bool flag => some flag
  | .tinyInt number => some (number != 0)
  | .smallInt number => some (number != 0)
  | .int number => some (number != 0)
  | .bigInt number => some (number != 0)
  | _ => none

/-- The value as an integer of 64 bits; the truth values are one and zero. -/
def asInt64? : Value → Option Int64
  | .tinyInt number => some number.toInt64
  | .smallInt number => some number.toInt64
  | .int number => some number.toInt64
  | .bigInt number => some number
  | .bool flag => some (if flag then 1 else 0)
  | _ => none

/-- The value as a double: the nearest one to an integer, and what a decimal
reads as. -/
def asDouble? : Value → Option Floating
  | .float number => some number
  | .double number => some number
  | .tinyInt number => some (Format.double.ofInt number.toInt)
  | .smallInt number => some (Format.double.ofInt number.toInt)
  | .int number => some (Format.double.ofInt number.toInt)
  | .bigInt number => some (Format.double.ofInt number.toInt)
  | .decimal digits => Format.double.read? digits
  | _ => none

def asText? : Value → Option String
  | .text content => some content
  | .decimal digits => some digits
  | _ => none

/-- The value as bytes; a text stands for its UTF-8 encoding. -/
def asBytes? : Value → Option (List UInt8)
  | .bytes content => some content
  | .text content => some content.toUTF8.toList
  | _ => none

end Value

/-- What can be bound as an argument without naming its SQL type. -/
class Bindable (α : Type) where
  toValue : α → Value

namespace Bindable

instance : Bindable Value := ⟨id⟩

instance : Bindable Bool := ⟨.bool⟩

instance : Bindable Int8 := ⟨.tinyInt⟩

instance : Bindable Int16 := ⟨.smallInt⟩

instance : Bindable Int32 := ⟨.int⟩

instance : Bindable Int64 := ⟨.bigInt⟩

/-- An unsigned integer of 32 bits fits into a signed one of 64. -/
instance : Bindable UInt32 := ⟨fun number => .bigInt (Int64.ofNat number.toNat)⟩

instance : Bindable String := ⟨.text⟩

instance : Bindable (List UInt8) := ⟨.bytes⟩

instance : Bindable Uuid := ⟨.uuid⟩

instance : Bindable Json.Document := ⟨.json⟩

/-- A missing value is NULL. -/
instance {α : Type} [Bindable α] : Bindable (Option α) :=
  ⟨fun value => (value.map toValue).getD .null⟩

instance : Bindable (List String) := ⟨fun texts => .array (texts.map .text)⟩

instance : Bindable (List Int64) := ⟨fun numbers => .array (numbers.map .bigInt)⟩

end Bindable

end ScriptedSql
