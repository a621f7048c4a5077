import ScriptedSql.Session.Handles

/-!
Contract: the steps of a program and their answers.

Owns:
- steps, which name the handles that they use, make or consume;
- answers, one for each step.

Does not own: what the steps do (`Session.Run`).
-/

namespace ScriptedSql

inductive HandleKind where
  | mock
  | connection
  | statement
  | cursor
  | transaction
  | expectation
deriving DecidableEq, Repr

/-- What a query or an exec goes through: a connection with a text, or a statement
with the text it was prepared from. -/
inductive Channel where
  | connection (name sql : String)
  | statement (name : String)
deriving DecidableEq, Repr

/-- A step of a program. Names after `as` are those of handles that it makes. -/
inductive Step where
  | create (asMock asConnection : String) (config : Config)
  | connect (dsn asConnection : String)
  | isRegistered (dsn : String)
  | dsn (mock : String)
  | clone (connection asConnection : String)
  | cloneMock (mock asMock : String)
  | cloneExpectation (expectation asExpectation : String)
  | drop (kind : HandleKind) (name : String)
  | setOrdered (mock : String) (ordered : Bool)
  | expect (mock : String) (kind : CallKind) (sql : Option String)
      (adjustments : List Adjustment) (asExpectation : Option String)
  | follow (expectation : String) (kind : CallKind) (adjustments : List Adjustment)
      (asExpectation : Option String)
  | adjust (expectation : String) (adjustments : List Adjustment)
  | newRows (mock : String) (columns : List String)
  | verify (mock : String)
  | query (channel : Channel) (arguments : List Argument)
  | openCursor (channel : Channel) (arguments : List Argument) (asCursor : String)
  | exec (channel : Channel) (arguments : List Argument)
  | prepare (connection sql asStatement : String)
  | closeStatement (statement : String)
  | next (cursor : String)
  | drain (cursor : String)
  | describe (cursor : String)
  | closeCursor (cursor : String)
  | request (connection : String) (request : Request)
  | isValid (connection : String)
  | closeConnection (connection : String)
  | prepareText (connection sql asPrepared : String)
  | fetchPrepared (connection prepared : String) (parameters : List Value)
  | executePrepared (connection prepared : String) (parameters : List Value)
  | beginTransaction (connection asTransaction : String) (level : IsolationLevel)
  | requestWithin (transaction : String) (request : Request)
  | commitTransaction (transaction : String)
  | rollbackTransaction (transaction : String)

inductive Answer where
  | noHandle (name : String)
  | nothing
  | flag (value : Bool)
  | name (text : String)
  | attempt (outcome : Except Error Outcome)
  | resultSet (set : ResultSet)
  | metadata (set : ResultSet)
  | item (item : Option (Except Error Row))
  | items (items : List (Except Error Row))

namespace Answer

def ofUnit (outcome : Except Error Unit) : Answer :=
  .attempt (outcome.map fun _ => .unit)

end Answer

end ScriptedSql
