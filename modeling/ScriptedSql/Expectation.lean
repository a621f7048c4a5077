import ScriptedSql.Argument
import ScriptedSql.ResultSet
import ScriptedSql.SqlMatcher

/-!
Contract: single expectations and the calls that they accept.

Owns:
- the kinds of calls, calls, and declared expectations;
- the check of a call against one expectation, by kind, text and arguments in
  this order, with the reason for a refusal;
- what an expectation still owes, and the texts of calls and expectations.
-/

namespace ScriptedSql

inductive CallKind where
  | query
  | exec
  | prepare
  | begin
  | commit
  | rollback
  | ping
  | close
deriving DecidableEq, Repr

namespace CallKind

def name : CallKind → String
  | .query => "Query"
  | .exec => "Exec"
  | .prepare => "Prepare"
  | .begin => "Begin"
  | .commit => "Commit"
  | .rollback => "Rollback"
  | .ping => "Ping"
  | .close => "Close"

end CallKind

structure Call where
  kind : CallKind
  sql : Option String
  arguments : List Argument

namespace Call

def shown (call : Call) : String :=
  let sql := match call.sql with
    | some sql => " '" ++ sql ++ "'"
    | none => ""
  let arguments :=
    if call.arguments.isEmpty then ""
    else " with args " ++ Value.bracketed (call.arguments.map (·.shown))
  call.kind.name ++ sql ++ arguments

def sqlOrEmpty (call : Call) : String :=
  call.sql.getD ""

end Call

/-- Which argument lists an expectation accepts: all of them, or those that agree
with a declared list. -/
inductive ExpectedArguments where
  | any
  | exactly (expected : List ExpectedArgument)

/-- A declared expectation. The rows and the result answer a query and an exec; the
close error and the two flags about closing concern prepared statements. -/
structure Expectation where
  kind : CallKind
  sql : Option SqlMatcher
  arguments : ExpectedArguments
  ordered : Bool
  rows : Option ResultSet
  result : Option ExecResult
  error : Option Error
  fulfilled : Bool
  closeError : Option Error
  mustBeClosed : Bool
  wasClosed : Bool

inductive ArgumentFault where
  | count (expected actual : Nat)
  | missing (ordinal : Nat)
  | name (ordinal : Nat) (expected : String) (actual : Option String)
  | value (ordinal : Nat) (expected : ArgumentSpec) (actual : Value)

namespace ArgumentFault

/-- A wrong number of arguments is told apart from a wrong argument. -/
def kind : ArgumentFault → MockFault
  | .count _ _ => .argumentCount
  | _ => .argumentMismatch

def message : ArgumentFault → String
  | .count expected actual =>
    "expected " ++ Text.decimal expected ++ " arguments, got " ++ Text.decimal actual
  | .missing ordinal => "argument " ++ Text.decimal ordinal ++ " is missing"
  | .name ordinal expected actual =>
    "named argument " ++ Text.decimal ordinal ++ " expected name '" ++ expected ++
      "' does not match actual name '" ++ actual.getD "" ++ "'"
  | .value ordinal expected actual =>
    "argument " ++ Text.decimal ordinal ++ " expected [" ++ expected.typeName ++ " - " ++
      expected.shown ++ "] does not match actual [" ++ actual.typeName ++ " - " ++
      actual.shown ++ "]"

end ArgumentFault

inductive Refusal where
  | kind
  | sql
  | arguments (fault : ArgumentFault)

namespace ExpectedArgument

/-- Where a declared argument disagrees with the supplied ones. The first supplied
argument of its position counts. -/
def fault? (converter : Converter) (supplied : List Argument) (ordinal : Nat)
    (expected : ExpectedArgument) : Option ArgumentFault :=
  match supplied.find? (·.ordinal == ordinal) with
  | none => some (.missing ordinal)
  | some actual =>
    if expected.name.any fun name => actual.name != some name then
      some (.name ordinal (expected.name.getD "") actual.name)
    else if expected.spec.accepts converter actual.value then
      none
    else
      some (.value ordinal expected.spec actual.value)

/-- The first disagreement of declared arguments, numbered from `ordinal` on. -/
def firstFault? (converter : Converter) (supplied : List Argument) :
    Nat → List ExpectedArgument → Option ArgumentFault
  | _, [] => none
  | ordinal, expected :: rest =>
    match expected.fault? converter supplied ordinal with
    | some fault => some fault
    | none => firstFault? converter supplied (ordinal + 1) rest

end ExpectedArgument

namespace ExpectedArguments

/-- Where supplied arguments disagree with the declared ones. Their number is
compared before any of them is looked at. -/
def fault? (converter : Converter) (supplied : List Argument) :
    ExpectedArguments → Option ArgumentFault
  | .any => none
  | .exactly expected =>
    if expected.length = supplied.length then
      ExpectedArgument.firstFault? converter supplied 1 expected
    else
      some (.count expected.length supplied.length)

def shown : ExpectedArguments → String
  | .any => ""
  | .exactly [] => " without arguments"
  | .exactly expected => " with args " ++ Value.bracketed (expected.map (·.shown))

end ExpectedArguments

namespace Expectation

/-- An expectation as it is declared: any arguments, no answer, nothing done
yet. -/
def fresh (kind : CallKind) (sql : Option SqlMatcher) (ordered : Bool) : Expectation where
  kind := kind
  sql := sql
  arguments := .any
  ordered := ordered
  rows := none
  result := none
  error := none
  fulfilled := false
  closeError := none
  mustBeClosed := false
  wasClosed := false

/-- Whether the text of a call is accepted. Without a pattern all texts are; with
one a call must have a text. -/
def sqlAccepts (expectation : Expectation) (sql : Option String) : Bool :=
  match expectation.sql, sql with
  | none, _ => true
  | some matcher, some sql => matcher.accepts sql
  | some _, none => false

/-- Why the expectation refuses a call, if it does: for its kind, else for its
text, else for its arguments. -/
def refusal? (converter : Converter) (call : Call) (expectation : Expectation) :
    Option Refusal :=
  if expectation.kind ≠ call.kind then some .kind
  else if expectation.sqlAccepts call.sql = false then some .sql
  else (expectation.arguments.fault? converter call.arguments).map .arguments

/-- Whether the expectation accepts a call, its order left aside. -/
def accepts (converter : Converter) (call : Call) (expectation : Expectation) : Bool :=
  (expectation.refusal? converter call).isNone

/-- A prepared statement that must be closed and has not been. -/
def isLeftOpen (expectation : Expectation) : Bool :=
  expectation.mustBeClosed && !expectation.wasClosed

def isOwed (expectation : Expectation) : Bool :=
  !expectation.fulfilled || expectation.isLeftOpen

def shown (expectation : Expectation) : String :=
  let sql := match expectation.sql with
    | some matcher => " matching " ++ matcher.shown
    | none => ""
  let note :=
    if expectation.fulfilled && expectation.isLeftOpen then
      " (prepared statement was not closed)"
    else ""
  expectation.kind.name ++ sql ++ expectation.arguments.shown ++ note

end Expectation

namespace Refusal

def toError (call : Call) (expectation : Expectation) : Refusal → Error
  | .kind =>
    .ofMock .unexpectedCall
      ("call to " ++ call.shown ++ " was not expected, next expectation is: " ++
        expectation.shown)
  | .sql =>
    .ofMock .unexpectedCall
      (expectation.kind.name ++ ": could not match actual sql '" ++ call.sqlOrEmpty ++
        "' with expected pattern " ++ (expectation.sql.map (·.shown)).getD "")
  | .arguments fault =>
    .ofMock fault.kind
      (expectation.kind.name ++ " '" ++ call.sqlOrEmpty ++ "', arguments do not match: " ++
        fault.message)

end Refusal

end ScriptedSql
