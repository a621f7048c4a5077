import ScriptedSql.Session.Step

/-!
Contract: what the steps of a program do.

Owns:
- one step and runs of steps, with the answers and the state after each;
- the audit of all mock handles.

A step that names a handle that is not there does nothing. A handle made under a
name in use takes the place of the old one after the call succeeded. The
handles of ended transactions, closed statements, cursors and connections are
gone, whatever the answer was.
-/

namespace ScriptedSql

namespace Session

/-- Use the handle of a name, or say that there is none. -/
def require {α : Type} (session : Session) (table : Table α) (name : String)
    (use : α → Session × Answer) : Session × Answer :=
  match table.get? name with
  | some handle => use handle
  | none => (session, .noHandle name)

def withConnection (session : Session) (name : String) (use : MockId → Session × Answer) :
    Session × Answer :=
  session.require session.connections name use

def withChannel (session : Session) (channel : Channel)
    (use : MockId → String → Session × Answer) : Session × Answer :=
  match channel with
  | .connection name sql => session.withConnection name fun id => use id sql
  | .statement name =>
    session.require session.statements name fun statement => use statement.mock statement.sql

def ask (session : Session) (id : MockId) (request : Request) : Session × Answer :=
  let (outcome, session) := session.exchange id request.exchange
  (session, .attempt outcome)

/-- Create a mock, with a handle and a connection. -/
def create (session : Session) (asMock asConnection : String) (config : Config) :
    Session × Answer :=
  match session.world.create session.isAlive config with
  | (.error error, world) => ({ session with world := world }, .attempt (.error error))
  | (.ok id, world) =>
    ({ session with
        world := world
        mocks := session.mocks.put asMock id
        connections := session.connections.put asConnection id },
      .attempt (.ok (.dsn (world.mockAt id).dsn)))

def connect (session : Session) (dsn asConnection : String) : Session × Answer :=
  match session.world.connect session.isAlive dsn with
  | .error error => (session, .attempt (.error error))
  | .ok id =>
    ({ session with connections := session.connections.put asConnection id },
      .attempt (.ok (.dsn (session.world.mockAt id).dsn)))

def drop (session : Session) (kind : HandleKind) (name : String) : Session × Answer :=
  match kind with
  | .mock =>
    session.require session.mocks name fun _ =>
      ({ session with mocks := session.mocks.remove name }, .nothing)
  | .connection =>
    session.require session.connections name fun _ =>
      ({ session with connections := session.connections.remove name }, .nothing)
  | .statement =>
    session.require session.statements name fun _ =>
      ({ session with statements := session.statements.remove name }, .nothing)
  | .cursor =>
    session.require session.cursors name fun _ =>
      ({ session with cursors := session.cursors.remove name }, .nothing)
  | .transaction =>
    session.require session.transactions name fun id =>
      (({ session with transactions := session.transactions.remove name }).letGo (.begun id),
        .nothing)
  | .expectation =>
    session.require session.expectations name fun _ =>
      ({ session with expectations := session.expectations.remove name }, .nothing)

/-- Append an expectation to a mock by `declare` and make changes to it. Its handle is
kept if a name is given, even when a change fails. -/
def declare (session : Session) (id : MockId) (declare : Mock → Mock)
    (adjustments : List Adjustment) (asExpectation : Option String) : Session × Answer :=
  let slot := (session.world.mockAt id).queue.length
  let (answer, session) :=
    session.change id fun mock => (declare mock).adjust slot adjustments
  let session :=
    match asExpectation with
    | some name => { session with expectations := session.expectations.put name ⟨id, slot⟩ }
    | none => session
  (session, .ofUnit answer)

/-- Declare an expectation of a kind. A pattern that does not compile is refused, and
nothing is declared. -/
def expect (session : Session) (id : MockId) (kind : CallKind) (sql : Option String)
    (adjustments : List Adjustment) (asExpectation : Option String) : Session × Answer :=
  match sql.mapM (session.world.mockAt id).compile with
  | .error error => (session, .attempt (.error error))
  | .ok matcher => session.declare id (·.declare kind matcher) adjustments asExpectation

def openCursor (session : Session) (id : MockId) (sql : String) (arguments : List Argument)
    (asCursor : String) : Session × Answer :=
  match session.exchange id (Exchange.query sql arguments) with
  | (.error error, session) => (session, .attempt (.error error))
  | (.ok cursor, session) =>
    ({ session with cursors := session.cursors.put asCursor cursor },
      .attempt (.ok (.columns cursor.set.columns.names)))

def prepare (session : Session) (id : MockId) (sql asStatement : String) : Session × Answer :=
  match session.exchange id (Exchange.prepare sql) with
  | (.error error, session) => (session, .attempt (.error error))
  | (.ok prepared, session) =>
    ({ session with statements := session.statements.put asStatement ⟨id, sql, prepared⟩ },
      .attempt (.ok (.prepared ⟨prepared.id, sql⟩)))

def prepareText (session : Session) (id : MockId) (sql asPrepared : String) :
    Session × Answer :=
  match session.exchange id (Exchange.prepare sql) with
  | (.error error, session) => (session, .attempt (.error error))
  | (.ok prepared, session) =>
    ({ session with prepared := session.prepared.put asPrepared ⟨prepared.id, sql⟩ },
      .attempt (.ok (.prepared ⟨prepared.id, sql⟩)))

def beginTransaction (session : Session) (id : MockId) (asTransaction : String)
    (level : IsolationLevel) : Session × Answer :=
  match session.exchange id (Exchange.beginAt level) with
  | (.error error, session) => (session, .attempt (.error error))
  | (.ok _, session) => (session.keepTransaction asTransaction id, .attempt (.ok .unit))

/-- Close a statement, whose handle is gone after that. -/
def closeStatement (session : Session) (name : String) (statement : Statement) :
    Session × Answer :=
  let (answer, session) :=
    session.change statement.mock (·.closeStatement statement.prepared.slot)
  ({ session with statements := session.statements.remove name }, .ofUnit answer)

/-- End a transaction by a commit or a rollback. It is finished before the mock is asked,
and its handle is let go after that, so that nothing is rolled back once more. -/
def endTransaction (session : Session) (name : String) (request : Request) :
    Session × Answer :=
  session.require session.transactions name fun id =>
    let transaction := (Transaction.begun id).finish
    let (session, answer) := session.ask transaction.mock request
    (({ session with transactions := session.transactions.remove name }).letGo transaction,
      answer)

def step (session : Session) : Step → Session × Answer
  | .create asMock asConnection config => session.create asMock asConnection config
  | .connect dsn asConnection => session.connect dsn asConnection
  | .isRegistered dsn => (session, .flag (session.isRegistered dsn))
  | .dsn mock =>
    session.require session.mocks mock fun id =>
      (session, .name (session.world.mockAt id).dsn)
  | .clone connection asConnection =>
    session.withConnection connection fun id =>
      ({ session with connections := session.connections.put asConnection id }, .nothing)
  | .cloneMock mock asMock =>
    session.require session.mocks mock fun id =>
      ({ session with mocks := session.mocks.put asMock id }, .nothing)
  | .cloneExpectation expectation asExpectation =>
    session.require session.expectations expectation fun declared =>
      ({ session with expectations := session.expectations.put asExpectation declared },
        .nothing)
  | .drop kind name => session.drop kind name
  | .setOrdered mock ordered =>
    session.require session.mocks mock fun id =>
      ((session.change id fun mock => (mock.setOrdered ordered, ())).2, .nothing)
  | .expect mock kind sql adjustments asExpectation =>
    session.require session.mocks mock fun id =>
      session.expect id kind sql adjustments asExpectation
  | .follow expectation kind adjustments asExpectation =>
    session.require session.expectations expectation fun declared =>
      session.declare declared.mock (·.follow declared.slot kind) adjustments asExpectation
  | .adjust expectation adjustments =>
    session.require session.expectations expectation fun declared =>
      let (answer, session) :=
        session.change declared.mock (·.adjust declared.slot adjustments)
      (session, .ofUnit answer)
  | .newRows mock columns =>
    session.require session.mocks mock fun _ => (session, .resultSet (.ofColumns columns))
  | .verify mock =>
    session.require session.mocks mock fun id =>
      (session, .ofUnit (session.world.mockAt id).verify)
  | .query channel arguments =>
    session.withChannel channel fun id sql => session.ask id (.replay sql arguments)
  | .openCursor channel arguments asCursor =>
    session.withChannel channel fun id sql => session.openCursor id sql arguments asCursor
  | .exec channel arguments =>
    session.withChannel channel fun id sql => session.ask id (.exec sql arguments)
  | .prepare connection sql asStatement =>
    session.withConnection connection fun id => session.prepare id sql asStatement
  | .closeStatement name =>
    session.require session.statements name fun statement =>
      session.closeStatement name statement
  | .next name =>
    session.require session.cursors name fun cursor =>
      let (item, cursor) := cursor.next
      ({ session with cursors := session.cursors.put name cursor }, .item item)
  | .drain name =>
    session.require session.cursors name fun cursor =>
      let (items, cursor) := cursor.drain
      ({ session with cursors := session.cursors.put name cursor }, .items items)
  | .describe name =>
    session.require session.cursors name fun cursor => (session, .metadata cursor.set)
  | .closeCursor name =>
    session.require session.cursors name fun cursor =>
      ({ session with cursors := session.cursors.remove name }, .ofUnit cursor.close)
  | .request connection request =>
    session.withConnection connection fun id => session.ask id request
  | .isValid connection =>
    session.withConnection connection fun id =>
      let (answer, session) := session.exchange id Exchange.ping
      (session, .flag answer.isOk)
  | .closeConnection connection =>
    session.withConnection connection fun id =>
      let (session, answer) := session.ask id .close
      ({ session with connections := session.connections.remove connection }, answer)
  | .prepareText connection sql asPrepared =>
    session.withConnection connection fun id => session.prepareText id sql asPrepared
  | .fetchPrepared connection prepared parameters =>
    session.withConnection connection fun id =>
      session.require session.prepared prepared fun text =>
        session.ask id (.fetch text.sql parameters)
  | .executePrepared connection prepared parameters =>
    session.withConnection connection fun id =>
      session.require session.prepared prepared fun text =>
        session.ask id (.execute text.sql parameters)
  | .beginTransaction connection asTransaction level =>
    session.withConnection connection fun id =>
      session.beginTransaction id asTransaction level
  | .requestWithin transaction request =>
    session.require session.transactions transaction fun id => session.ask id request
  | .commitTransaction transaction => session.endTransaction transaction .commit
  | .rollbackTransaction transaction => session.endTransaction transaction .rollback

def trace (session : Session) : List Step → List (Answer × Session)
  | [] => []
  | step :: rest =>
    let (after, answer) := session.step step
    (answer, after) :: after.trace rest

/-- What each mock handle has to say about what its mock is owed: nothing, or the
message of the verification. -/
def audit (session : Session) : Table (Option String) :=
  session.mocks.map fun (name, id) =>
    (name,
      match (session.world.mockAt id).verify with
      | .ok _ => none
      | .error error => some error.message)

end Session

end ScriptedSql
