import ScriptedSql.Error
import ScriptedSql.Value

/-!
Contract: conversion of argument values before they are compared.

Owns:
- converters, which are functions on values that may refuse;
- the default converter and four others in common use.
-/

namespace ScriptedSql

/-- Brings a value into the form in which arguments are compared, or refuses
it. -/
abbrev Converter := Value → Except Error Value

namespace Converter

mutual

/-- The converter in force when none is chosen: integers of every width become
those of 64 bits, singles become doubles, time stamps without zone become
instants, arrays are converted item by item, and DEFAULT, which cannot be bound,
is refused. A truth value stays one and never equals a number. -/
def normalize : Value → Except Error Value
  | .tinyInt number => .ok (.bigInt number.toInt64)
  | .smallInt number => .ok (.bigInt number.toInt64)
  | .int number => .ok (.bigInt number.toInt64)
  | .float number => .ok (.double number)
  | .timestamp microseconds => .ok (.timestampTz microseconds)
  | .array items =>
    match normalizeItems items with
    | .ok items => .ok (.array items)
    | .error error => .error error
  | .defaultKeyword => .error (.type ⟨"bindable argument", "DEFAULT", none⟩)
  | value => .ok value

def normalizeItems : List Value → Except Error (List Value)
  | [] => .ok []
  | item :: rest =>
    match normalize item with
    | .error error => .error error
    | .ok item =>
      match normalizeItems rest with
      | .error error => .error error
      | .ok rest => .ok (item :: rest)

end

def identity : Converter := .ok

def reject : Converter := fun _ => .error (.custom "rejected")

def isText : Value → Bool
  | .text _ => true
  | _ => false

/-- Takes texts, the two wider integers and arrays of texts, as they are. -/
def textOnly : Converter := fun value =>
  let taken : Bool :=
    match value with
    | .text _ | .int _ | .bigInt _ => true
    | .array items => items.all isText
    | _ => false
  if taken then .ok value
  else
    .error (.custom ("cannot convert " ++ value.typeName ++ " with value " ++ value.shown))

/-- Lowers the ASCII letters of a text; all else goes through the default
converter. -/
def asciiFold : Converter
  | .text text => .ok (.text (String.ofList (text.toList.map Char.toLower)))
  | value => normalize value

end Converter

end ScriptedSql
