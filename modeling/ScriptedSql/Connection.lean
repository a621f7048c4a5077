import ScriptedSql.Mock

/-!
Contract: what a connection can ask of its mock.

Owns:
- queries, execs and prepares, with positional parameters or with numbered and
  named arguments;
- the calls that read an answer to its end or take one number from it;
- batches, pings and the closing of a mock.

All connections to a mock, its statements and its transactions share these.

Does not own: what transactions are made of (`Isolation`).
-/

namespace ScriptedSql

namespace Exchange

def query (sql : String) (arguments : List Argument) : Exchange Cursor := do
  let set ← dispatch .query (some sql) arguments
  return .ofSet set

/-- Run a statement that reports a result. -/
def exec (sql : String) (arguments : List Argument) : Exchange ExecResult :=
  dispatch .exec (some sql) arguments

def prepare (sql : String) : Exchange Prepared :=
  dispatch .prepare (some sql) []

/-- Ping the mock. Unless it monitors pings, all that counts is that it is
open. -/
def ping : Exchange Unit := do
  let mock ← get
  if mock.config.monitorPings then dispatch .ping none []
  else if mock.closed then throw mock.closedConnection
  else pure ()

/-- Whether an answer says that the mock was closed before. -/
def saysClosed : Except Error Unit → Bool
  | .error error => error.mockFault? == some .closed
  | .ok _ => false

/-- Close the mock, whether or not that was expected, unless the answer says that
it was closed before. -/
def close : Exchange Unit := fun mock =>
  let (answer, mock) := dispatch .close none [] mock
  if saysClosed answer then (answer, mock) else (answer, { mock with closed := true })

def fetch (sql : String) (parameters : List Value) : Exchange (List Row) := do
  let cursor ← query sql (Argument.ofValues parameters)
  ExceptT.mk (pure cursor.collect)

def fetchFirst (sql : String) (parameters : List Value) : Exchange (Option Row) := do
  let cursor ← query sql (Argument.ofValues parameters)
  ExceptT.mk (pure cursor.first)

/-- Run a statement and count the rows affected. -/
def execute (sql : String) (parameters : List Value) : Exchange UInt64 := do
  let result ← exec sql (Argument.ofValues parameters)
  ExceptT.mk (pure result.rowsAffected)

/-- Run a statement and take the last inserted id. -/
def insert (sql : String) (parameters : List Value) : Exchange Int64 := do
  let result ← exec sql (Argument.ofValues parameters)
  ExceptT.mk (pure result.lastInsertId)

/-- Run statements in order up to the first that fails, and count the rows
affected by each. -/
def batch (statements : List (String × List Value)) : Exchange (List UInt64) :=
  statements.mapM fun (sql, parameters) => execute sql parameters

end Exchange

end ScriptedSql
