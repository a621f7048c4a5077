import ScriptedSql.Converter
import ScriptedSql.Text.Numeral

/-!
Contract: arguments, as a call supplies them and as an expectation declares them.

Owns:
- supplied arguments with their position and name;
- what an expectation accepts at one position: anything, an equal value, what a
  predicate accepts, or the value that another value stands for;
- common predicates and value wrappers.
-/

namespace ScriptedSql

/-- An argument of a call: its position, from one on, its value, and its name if
it has one. -/
structure Argument where
  ordinal : Nat
  name : Option String
  value : Value

namespace Argument

def numberedFrom (first : Nat) : List Value → List Argument
  | [] => []
  | value :: rest => ⟨first, none, value⟩ :: numberedFrom (first + 1) rest

def ofValues (values : List Value) : List Argument :=
  numberedFrom 1 values

def shown (argument : Argument) : String :=
  match argument.name with
  | some name => name ++ "=" ++ argument.value.shown
  | none => argument.value.shown

end Argument

/-- A test of argument values, with the label under which messages show it. -/
structure Predicate where
  label : String
  accepts : Value → Bool

/-- Something that stands for a value once the driver asks for it, with the label
under which messages show it when it has none. -/
structure Valuer where
  label : String
  driverValue : Except Error Value

namespace Predicate

def even : Predicate where
  label := "Even"
  accepts value := value.asInt64?.any fun number => number.toInt % 2 == 0

def notNull : Predicate where
  label := "NotNull"
  accepts value := !value.isNull

def between (low high : Int64) : Predicate where
  label := "Between(" ++ Text.signed low.toInt ++ ", " ++ Text.signed high.toInt ++ ")"
  accepts value := value.asInt64?.any fun number => low ≤ number && number ≤ high

def startsWith (start : String) : Predicate where
  label := "Prefix(" ++ Text.quoted start ++ ")"
  accepts value := value.asText?.any fun text => start.toList.isPrefixOf text.toList

end Predicate

namespace Valuer

def constant (value : Value) : Valuer where
  label := "Const(" ++ value.shown ++ ")"
  driverValue := .ok value

def broken (reason : String) : Valuer where
  label := "Broken(" ++ Text.quoted reason ++ ")"
  driverValue := .error (.custom reason)

end Valuer

inductive ArgumentSpec where
  | any
  | value (expected : Value)
  | predicate (test : Predicate)
  | valuer (source : Valuer)

/-- Equality after conversion; a value that the converter refuses equals
nothing. -/
def Converter.equates (converter : Converter) (expected actual : Value) : Bool :=
  match converter expected, converter actual with
  | .ok expected, .ok actual => expected.sameAs actual
  | _, _ => false

namespace ArgumentSpec

/-- Whether a supplied value is acceptable. Predicates see it as it is; values are
compared after conversion. -/
def accepts (converter : Converter) (actual : Value) : ArgumentSpec → Bool
  | .any => true
  | .value expected => converter.equates expected actual
  | .predicate test => test.accepts actual
  | .valuer source =>
    match source.driverValue with
    | .ok expected => converter.equates expected actual
    | .error _ => false

def shown : ArgumentSpec → String
  | .any => "<any>"
  | .value expected => expected.shown
  | .predicate test => "<matcher " ++ test.label ++ ">"
  | .valuer source =>
    match source.driverValue with
    | .ok expected => expected.shown
    | .error _ => "<valuer " ++ source.label ++ ">"

def typeName : ArgumentSpec → String
  | .any => "ANY"
  | .value expected => expected.typeName
  | .predicate _ => "MATCHER"
  | .valuer source =>
    match source.driverValue with
    | .ok expected => expected.typeName
    | .error _ => "VALUER"

end ArgumentSpec

/-- A declared argument: what is accepted at its position, under a name if one is
asked for. -/
structure ExpectedArgument where
  name : Option String
  spec : ArgumentSpec

namespace ExpectedArgument

def shown (expected : ExpectedArgument) : String :=
  match expected.name with
  | some name => name ++ "=" ++ expected.spec.shown
  | none => expected.spec.shown

end ExpectedArgument

end ScriptedSql
