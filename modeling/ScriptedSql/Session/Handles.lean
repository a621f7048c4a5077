import ScriptedSql.Request
import ScriptedSql.World

/-!
Contract: the handles that a program holds, by kind and name.

Owns:
- a table for every kind of handle, together with the world that they refer to;
- which mocks are alive: those that a mock handle, a connection, a statement, a
  transaction or an expectation refers to. Cursors and prepared texts refer to
  no mock;
- letting go of a transaction, which rolls it back unless a commit or a rollback
  has finished it.
-/

namespace ScriptedSql

structure Statement where
  mock : MockId
  sql : String
  prepared : Prepared
deriving DecidableEq, Repr

structure Declaration where
  mock : MockId
  slot : Nat
deriving DecidableEq, Repr

/-- A transaction: the mock that it was begun on, and whether it was ended by a commit or a
rollback. -/
structure Transaction where
  mock : MockId
  finished : Bool
deriving DecidableEq, Repr

def Transaction.begun (mock : MockId) : Transaction :=
  ⟨mock, false⟩

/-- A transaction from when it is being ended, whatever the mock answers to that. -/
def Transaction.finish (transaction : Transaction) : Transaction :=
  { transaction with finished := true }

/-- The handles of a program. Mock handles, connections and transactions are known
by the mock they refer to; a transaction that is held is not finished. -/
structure Session where
  world : World
  mocks : Table MockId
  connections : Table MockId
  statements : Table Statement
  prepared : Table PreparedText
  cursors : Table Cursor
  transactions : Table MockId
  expectations : Table Declaration

namespace Session

def empty : Session where
  world := World.empty
  mocks := []
  connections := []
  statements := []
  prepared := []
  cursors := []
  transactions := []
  expectations := []

def held (session : Session) : List MockId :=
  session.mocks.values ++ session.connections.values ++
    session.statements.values.map (·.mock) ++ session.transactions.values ++
    session.expectations.values.map (·.mock)

def isAlive (session : Session) (id : MockId) : Bool :=
  session.held.contains id

def isRegistered (session : Session) (dsn : String) : Bool :=
  session.world.isRegistered session.isAlive dsn

def exchange {α : Type} (session : Session) (id : MockId) (exchange : Exchange α) :
    Except Error α × Session :=
  let (answer, world) := session.world.exchange id exchange
  (answer, { session with world := world })

def change {α : Type} (session : Session) (id : MockId) (change : Mock → Mock × α) :
    α × Session :=
  let (answer, world) := session.world.change id change
  (answer, { session with world := world })

/-- Let go of a transaction. Unless it is finished it is rolled back, and nobody looks at
the answer. -/
def letGo (session : Session) (transaction : Transaction) : Session :=
  if transaction.finished then session
  else (session.exchange transaction.mock Exchange.rollback).2

/-- Keep a transaction under a name. One that stood there before is let go. -/
def keepTransaction (session : Session) (name : String) (id : MockId) : Session :=
  let kept := { session with transactions := session.transactions.put name id }
  match session.transactions.get? name with
  | some former => kept.letGo (.begun former)
  | none => kept

end Session

end ScriptedSql
