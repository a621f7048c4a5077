import ScriptedSql.Text.Numeral

/-!
Contract: the errors that a connection answers with.

Owns:
- errors of the connection, of the database, of typed reading, of the mock
  itself, and free ones;
- their messages and the questions that a caller asks of them;
- the error that lists unmet expectations.
-/

namespace ScriptedSql

inductive ConnectionFault where
  | connect
  | disconnected
  | refused
deriving DecidableEq, Repr

structure ConnectionError where
  kind : ConnectionFault
  message : String
  source : Option String
deriving DecidableEq, Repr

inductive QueryFault where
  | malformed
  | constraint
  | notFound
  | deadlock
  | database
deriving DecidableEq, Repr

structure QueryError where
  kind : QueryFault
  sql : Option String
  sqlstate : Option String
  message : String
  source : Option String
deriving DecidableEq, Repr

structure TypeError where
  expected : String
  actual : String
  column : Option String
deriving DecidableEq, Repr

inductive MockFault where
  | declaration
  | argumentCount
  | argumentMismatch
  | unexpectedCall
  | missingOutcome
  | unmetExpectations
  | closed
deriving DecidableEq, Repr

/-- The mock itself objects to a call, a declaration or the state at the end. -/
structure MockError where
  kind : MockFault
  message : String
deriving DecidableEq, Repr

inductive Error where
  | connection (error : ConnectionError)
  | query (error : QueryError)
  | type (error : TypeError)
  | mock (error : MockError)
  | custom (message : String)
deriving DecidableEq, Repr

namespace QueryError

/-- The violation of a unique constraint has the SQLSTATE 23505. -/
def isUniqueViolation (error : QueryError) : Bool :=
  error.sqlstate == some "23505"

def text (error : QueryError) : String :=
  match error.sqlstate with
  | some state => error.message ++ " (SQLSTATE " ++ state ++ ")"
  | none => error.message

end QueryError

namespace TypeError

def text (error : TypeError) : String :=
  match error.column with
  | some column =>
    "expected " ++ error.expected ++ " for column '" ++ column ++ "', found " ++ error.actual
  | none => "expected " ++ error.expected ++ ", found " ++ error.actual

end TypeError

namespace MockError

/-- One numbered line for each of the items, from `number` on. -/
def numberedLines (number : Nat) : List String → String
  | [] => ""
  | item :: rest =>
    "\n  " ++ Text.decimal number ++ ". " ++ item ++ numberedLines (number + 1) rest

def unmet (owed : List String) : MockError where
  kind := .unmetExpectations
  message :=
    "there are remaining expectations which were not met" ++ numberedLines 1 owed

end MockError

namespace Error

def ofMock (kind : MockFault) (message : String) : Error :=
  .mock ⟨kind, message⟩

def database (message : String) : Error :=
  .query ⟨.database, none, none, message, none⟩

def message : Error → String
  | .connection error => "Connection error: " ++ error.message
  | .query error =>
    match error.sqlstate with
    | some state => "Query error (SQLSTATE " ++ state ++ "): " ++ error.message
    | none => error.message
  | .type error => "Type error: " ++ error.text
  | .mock error => error.message
  | .custom message => message

def innerMessage : Error → String
  | .connection error => error.message
  | .query error => error.text
  | .type error => error.text
  | .mock error => error.message
  | .custom message => message

def mockFault? : Error → Option MockFault
  | .mock error => some error.kind
  | _ => none

/-- Whether a caller had better connect anew. -/
def isConnectionError : Error → Bool
  | .connection _ => true
  | _ => false

def sqlstate? : Error → Option String
  | .query error => error.sqlstate
  | _ => none

def sql? : Error → Option String
  | .query error => error.sql
  | _ => none

/-- Whether a unique constraint was violated; none unless the database refused a
statement. -/
def isUniqueViolation? : Error → Option Bool
  | .query error => some error.isUniqueViolation
  | _ => none

/-- The text of the error behind this one. -/
def source? : Error → Option String
  | .connection error => error.source
  | .query error => error.source
  | _ => none

end Error

end ScriptedSql
