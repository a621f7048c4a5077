import ScriptedSql.Connection

/-!
Contract: transactions, as what a connection asks of its mock.

Owns:
- the four levels of isolation, their names in SQL, and the level in force when none
  is asked for;
- the beginning of a transaction, its two ends, and its savepoints.

Does not own: which transactions are held, and how one ends that is let go of
(`Session`).
-/

namespace ScriptedSql

inductive IsolationLevel where
  | readUncommitted
  | readCommitted
  | repeatableRead
  | serializable
deriving DecidableEq, Repr

namespace IsolationLevel

def standard : IsolationLevel := .readCommitted

def sql : IsolationLevel → String
  | .readUncommitted => "READ UNCOMMITTED"
  | .readCommitted => "READ COMMITTED"
  | .repeatableRead => "REPEATABLE READ"
  | .serializable => "SERIALIZABLE"

end IsolationLevel

namespace Exchange

def begin : Exchange Unit :=
  dispatch .begin none []

/-- Begin a transaction at an isolation level. A script knows no levels, so every
one is taken alike. -/
def beginAt (_ : IsolationLevel) : Exchange Unit :=
  begin

def commit : Exchange Unit :=
  dispatch .commit none []

def rollback : Exchange Unit :=
  dispatch .rollback none []

def command (sql : String) : Exchange Unit := do
  let _ ← exec sql []

def savepoint (name : String) : Exchange Unit :=
  command ("SAVEPOINT " ++ name)

def rollbackTo (name : String) : Exchange Unit :=
  command ("ROLLBACK TO SAVEPOINT " ++ name)

def release (name : String) : Exchange Unit :=
  command ("RELEASE SAVEPOINT " ++ name)

end Exchange

end ScriptedSql
