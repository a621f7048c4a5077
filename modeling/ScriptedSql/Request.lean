import ScriptedSql.Isolation

/-!
Contract: what connections and transactions are asked to do, as data.

Owns:
- the requests that need nothing but a mock, and the exchange that each stands
  for;
- what requests and other steps yield when all goes well.

Does not own: steps that make or consume handles (`Session`).
-/

namespace ScriptedSql

/-- A query that was read to its end and closed. -/
structure Replay where
  columns : List String
  items : List (Except Error Row)
  closing : Except Error Unit

/-- A prepared text: the id under which it was prepared, and the text. It is not
tied to a connection. -/
structure PreparedText where
  id : Nat
  sql : String
deriving DecidableEq, Repr

inductive Outcome where
  | unit
  | dsn (name : String)
  | columns (names : List String)
  | replay (replay : Replay)
  | report (report : ExecResult)
  | prepared (statement : PreparedText)
  | rows (rows : List Row)
  | row (row : Option Row)
  | count (rows : UInt64)
  | counts (rows : List UInt64)
  | insertedId (id : Int64)

inductive Request where
  | replay (sql : String) (arguments : List Argument)
  | exec (sql : String) (arguments : List Argument)
  | begin
  | commit
  | rollback
  | ping
  | close
  | fetch (sql : String) (parameters : List Value)
  | fetchFirst (sql : String) (parameters : List Value)
  | execute (sql : String) (parameters : List Value)
  | insert (sql : String) (parameters : List Value)
  | batch (statements : List (String × List Value))
  | savepoint (name : String)
  | rollbackTo (name : String)
  | release (name : String)

namespace Cursor

def replay (cursor : Cursor) : Replay where
  columns := cursor.set.columns.names
  items := cursor.drain.1
  closing := cursor.close

end Cursor

namespace Request

def exchange : Request → Exchange Outcome
  | .replay sql arguments => do return .replay (← Exchange.query sql arguments).replay
  | .exec sql arguments => do return .report (← Exchange.exec sql arguments)
  | .begin => do Exchange.begin; return .unit
  | .commit => do Exchange.commit; return .unit
  | .rollback => do Exchange.rollback; return .unit
  | .ping => do Exchange.ping; return .unit
  | .close => do Exchange.close; return .unit
  | .fetch sql parameters => do return .rows (← Exchange.fetch sql parameters)
  | .fetchFirst sql parameters => do return .row (← Exchange.fetchFirst sql parameters)
  | .execute sql parameters => do return .count (← Exchange.execute sql parameters)
  | .insert sql parameters => do return .insertedId (← Exchange.insert sql parameters)
  | .batch statements => do return .counts (← Exchange.batch statements)
  | .savepoint name => do Exchange.savepoint name; return .unit
  | .rollbackTo name => do Exchange.rollbackTo name; return .unit
  | .release name => do Exchange.release name; return .unit

end Request

end ScriptedSql
