import ScriptedSql.Proofs.Mock.Request
import ScriptedSql.Session.Run

/-!
Contract: steps of a program as events at its mocks.

Owns:
- the visits of a step: the mocks that it turns to, with the events that it brings to
  each;
- the agreement: a step that creates no mock leaves the world as its visits do;
- runs of steps, the events of a run at one mock, and the expectations that they fulfil.

Does not own: answers, and which handles a step makes or consumes.
-/

namespace ScriptedSql

/-- Events that a step brings to one mock in one go. -/
structure Visit where
  mock : MockId
  events : List Event

namespace World

def visit (world : World) (visit : Visit) : World :=
  world.restore visit.mock ((world.mockAt visit.mock).run visit.events)

def visitAll (world : World) (visits : List Visit) : World :=
  visits.foldl World.visit world

end World

namespace Table

variable {α β : Type}

/-- What comes of the handle of a name; nothing if there is none. -/
def through (table : Table α) (name : String) (use : α → List β) : List β :=
  match table.get? name with
  | some handle => use handle
  | none => []

end Table

namespace Step

/-- Creations add a mock; no other step does. -/
def isCreation : Step → Bool
  | .create _ _ _ => true
  | _ => false

end Step

namespace Session

def requestVisit (session : Session) (id : MockId) (request : Request) : Visit :=
  ⟨id, request.events (session.world.mockAt id)⟩

def channelVisits (session : Session) (channel : Channel) (use : MockId → String → List Visit) :
    List Visit :=
  match channel with
  | .connection name sql => session.connections.through name fun id => use id sql
  | .statement name =>
    session.statements.through name fun statement => use statement.mock statement.sql

/-- A declaration is followed by the builder calls on it. -/
def declareVisit (session : Session) (id : MockId) (declaration : Event)
    (adjustments : List Adjustment) : Visit :=
  ⟨id, [declaration, .adjust (session.world.mockAt id).queue.length adjustments]⟩

/-- A transaction that takes the name of another, once it has begun, rolls that back. -/
def beginVisits (session : Session) (id : MockId) (asTransaction : String) : List Visit :=
  ⟨id, [.call (.plain .begin)]⟩ ::
    match (Exchange.begin (session.world.mockAt id)).1 with
    | .error _ => []
    | .ok _ =>
      session.transactions.through asTransaction fun former =>
        [⟨former, [.call (.plain .rollback)]⟩]

/-- The mocks that a step turns to, and the events that it brings to them. Only
transactions make calls when they are dropped. -/
def visits (session : Session) : Step → List Visit
  | .drop .transaction name =>
    session.transactions.through name fun id => [⟨id, [.call (.plain .rollback)]⟩]
  | .setOrdered mock ordered =>
    session.mocks.through mock fun id => [⟨id, [.setOrdered ordered]⟩]
  | .expect mock kind sql adjustments _ =>
    session.mocks.through mock fun id =>
      match sql.mapM (session.world.mockAt id).compile with
      | .error _ => []
      | .ok matcher => [session.declareVisit id (.declare kind matcher) adjustments]
  | .follow expectation kind adjustments _ =>
    session.expectations.through expectation fun declared =>
      [session.declareVisit declared.mock (.follow declared.slot kind) adjustments]
  | .adjust expectation adjustments =>
    session.expectations.through expectation fun declared =>
      [⟨declared.mock, [.adjust declared.slot adjustments]⟩]
  | .query channel arguments =>
    session.channelVisits channel fun id sql => [session.requestVisit id (.replay sql arguments)]
  | .openCursor channel arguments _ =>
    session.channelVisits channel fun id sql => [⟨id, [.call ⟨.query, some sql, arguments⟩]⟩]
  | .exec channel arguments =>
    session.channelVisits channel fun id sql => [session.requestVisit id (.exec sql arguments)]
  | .prepare connection sql _ =>
    session.connections.through connection fun id => [⟨id, [.call ⟨.prepare, some sql, []⟩]⟩]
  | .closeStatement name =>
    session.statements.through name fun statement =>
      [⟨statement.mock, [.closeStatement statement.prepared.slot]⟩]
  | .request connection request =>
    session.connections.through connection fun id => [session.requestVisit id request]
  | .isValid connection =>
    session.connections.through connection fun id => [session.requestVisit id .ping]
  | .closeConnection connection =>
    session.connections.through connection fun id => [session.requestVisit id .close]
  | .prepareText connection sql _ =>
    session.connections.through connection fun id => [⟨id, [.call ⟨.prepare, some sql, []⟩]⟩]
  | .fetchPrepared connection prepared parameters =>
    session.connections.through connection fun id =>
      session.prepared.through prepared fun text =>
        [session.requestVisit id (.fetch text.sql parameters)]
  | .executePrepared connection prepared parameters =>
    session.connections.through connection fun id =>
      session.prepared.through prepared fun text =>
        [session.requestVisit id (.execute text.sql parameters)]
  | .beginTransaction connection asTransaction _ =>
    session.connections.through connection fun id => session.beginVisits id asTransaction
  | .requestWithin transaction request =>
    session.transactions.through transaction fun id => [session.requestVisit id request]
  | .commitTransaction transaction =>
    session.transactions.through transaction fun id => [session.requestVisit id .commit]
  | .rollbackTransaction transaction =>
    session.transactions.through transaction fun id => [session.requestVisit id .rollback]
  | _ => []

/-! ## Steps and their visits -/

@[simp]
private theorem exchange_world {α : Type} (session : Session) (id : MockId)
    (exchange : Exchange α) :
    (session.exchange id exchange).2.world =
      session.world.restore id (exchange (session.world.mockAt id)).2 :=
  rfl

@[simp]
theorem require_of_some {α : Type} {table : Table α} {name : String} {handle : α}
    (found : table.get? name = some handle) (session : Session) (use : α → Session × Answer) :
    session.require table name use = use handle := by
  rw [require, found]

@[simp]
theorem require_of_none {α : Type} {table : Table α} {name : String}
    (absent : table.get? name = none) (session : Session) (use : α → Session × Answer) :
    session.require table name use = (session, .noHandle name) := by
  rw [require, absent]

/-- A step that needs a handle leaves the world as the visits through the handle do. -/
theorem require_world {α : Type} {session : Session} {table : Table α} {name : String}
    {use : α → Session × Answer} {visits : α → List Visit}
    (agree : ∀ handle, (use handle).1.world = session.world.visitAll (visits handle)) :
    (session.require table name use).1.world =
      session.world.visitAll (table.through name visits) := by
  unfold require Table.through
  cases table.get? name with
  | none => rfl
  | some handle => exact agree handle

/-- A step that only looks at a handle, or at others, leaves the world as it is. -/
theorem require_idle {α : Type} {session : Session} {table : Table α} {name : String}
    {use : α → Session × Answer} (still : ∀ handle, (use handle).1.world = session.world) :
    (session.require table name use).1.world = session.world := by
  unfold require
  cases table.get? name with
  | none => rfl
  | some handle => exact still handle

private theorem withChannel_world {session : Session} {channel : Channel}
    {use : MockId → String → Session × Answer} {visits : MockId → String → List Visit}
    (agree : ∀ id sql, (use id sql).1.world = session.world.visitAll (visits id sql)) :
    (session.withChannel channel use).1.world =
      session.world.visitAll (session.channelVisits channel visits) := by
  cases channel with
  | connection name sql => exact require_world fun id => agree id sql
  | statement name => exact require_world fun statement => agree statement.mock statement.sql

private theorem ask_world (session : Session) (id : MockId) (request : Request) :
    (session.ask id request).1.world =
      session.world.visitAll [session.requestVisit id request] := by
  unfold ask
  rw [exchange_world, request.exchange_state]
  rfl

private theorem declare_world (session : Session) (id : MockId) (declaration : Event)
    (adjustments : List Adjustment) (asExpectation : Option String) :
    (session.declare id (·.after declaration) adjustments asExpectation).1.world =
      session.world.visitAll [session.declareVisit id declaration adjustments] := by
  unfold Session.declare
  cases asExpectation <;> rfl

private theorem openCursor_world (session : Session) (id : MockId) (sql : String)
    (arguments : List Argument) (asCursor : String) :
    (session.openCursor id sql arguments asCursor).1.world =
      session.world.visitAll [⟨id, [.call ⟨.query, some sql, arguments⟩]⟩] := by
  have state := Exchange.query_state sql arguments (session.world.mockAt id)
  have world := session.exchange_world id (Exchange.query sql arguments)
  rw [state] at world
  unfold openCursor
  generalize session.exchange id (Exchange.query sql arguments) = outcome at world ⊢
  rcases outcome with ⟨error | cursor, after⟩ <;> exact world

private theorem prepare_world (session : Session) (id : MockId) (sql asStatement : String) :
    (session.prepare id sql asStatement).1.world =
      session.world.visitAll [⟨id, [.call ⟨.prepare, some sql, []⟩]⟩] := by
  have world := session.exchange_world id (Exchange.prepare sql)
  unfold prepare
  generalize session.exchange id (Exchange.prepare sql) = outcome at world ⊢
  rcases outcome with ⟨error | prepared, after⟩ <;> exact world

private theorem prepareText_world (session : Session) (id : MockId) (sql asPrepared : String) :
    (session.prepareText id sql asPrepared).1.world =
      session.world.visitAll [⟨id, [.call ⟨.prepare, some sql, []⟩]⟩] := by
  have world := session.exchange_world id (Exchange.prepare sql)
  unfold prepareText
  generalize session.exchange id (Exchange.prepare sql) = outcome at world ⊢
  rcases outcome with ⟨error | prepared, after⟩ <;> exact world

private theorem keepTransaction_world (session : Session) (name : String) (id : MockId) :
    (session.keepTransaction name id).world =
      session.world.visitAll
        (session.transactions.through name fun former =>
          [⟨former, [.call (.plain .rollback)]⟩]) := by
  unfold keepTransaction Table.through
  cases session.transactions.get? name <;> rfl

private theorem beginTransaction_world (session : Session) (id : MockId) (asTransaction : String)
    (level : IsolationLevel) :
    (session.beginTransaction id asTransaction level).1.world =
      session.world.visitAll (session.beginVisits id asTransaction) := by
  have answered : (session.exchange id (Exchange.beginAt level)).1 =
      (Exchange.begin (session.world.mockAt id)).1 := rfl
  have world := session.exchange_world id (Exchange.beginAt level)
  have kept : (session.exchange id (Exchange.beginAt level)).2.transactions =
      session.transactions := rfl
  unfold beginTransaction beginVisits
  rw [← answered]
  generalize session.exchange id (Exchange.beginAt level) = outcome at world kept ⊢
  rcases outcome with ⟨error | _, begun⟩
  · exact world
  · -- What a transaction of the same name needs is its handle from before the begin.
    show (begun.keepTransaction asTransaction id).world = _
    rw [keepTransaction_world, kept, world]
    rfl

private theorem endTransaction_world (session : Session) (name : String) (request : Request) :
    (session.endTransaction name request).1.world =
      session.world.visitAll
        (session.transactions.through name fun id => [session.requestVisit id request]) :=
  require_world fun id => session.ask_world id request

private theorem drop_world (session : Session) (kind : HandleKind) (name : String) :
    (session.drop kind name).1.world =
      session.world.visitAll (session.visits (.drop kind name)) := by
  cases kind with
  | transaction => exact require_world fun id => rfl
  | _ => exact require_idle fun _ => rfl

/-- Every step but the creation of a mock leaves the world as its visits do. -/
theorem step_world (session : Session) {step : Step} (noCreation : step.isCreation = false) :
    (session.step step).1.world = session.world.visitAll (session.visits step) := by
  cases step with
  | create asMock asConnection config => contradiction
  | connect dsn asConnection =>
      show (session.connect dsn asConnection).1.world = session.world
      unfold connect
      cases session.world.connect session.isAlive dsn <;> rfl
  | isRegistered dsn => rfl
  | dsn mock => exact require_idle fun _ => rfl
  | clone connection asConnection => exact require_idle fun _ => rfl
  | cloneMock mock asMock => exact require_idle fun _ => rfl
  | cloneExpectation expectation asExpectation => exact require_idle fun _ => rfl
  | drop kind name => exact session.drop_world kind name
  | setOrdered mock ordered => exact require_world fun _ => rfl
  | expect mock kind sql adjustments asExpectation =>
      apply require_world
      intro id
      unfold expect
      cases sql.mapM (session.world.mockAt id).compile with
      | error error => rfl
      | ok matcher =>
          exact session.declare_world id (.declare kind matcher) adjustments asExpectation
  | follow expectation kind adjustments asExpectation =>
      exact require_world fun declared =>
        session.declare_world declared.mock (.follow declared.slot kind) adjustments asExpectation
  | adjust expectation adjustments => exact require_world fun _ => rfl
  | newRows mock columns => exact require_idle fun _ => rfl
  | verify mock => exact require_idle fun _ => rfl
  | query channel arguments => exact withChannel_world fun id _ => session.ask_world id _
  | openCursor channel arguments asCursor =>
      exact withChannel_world fun id sql => session.openCursor_world id sql arguments asCursor
  | exec channel arguments => exact withChannel_world fun id _ => session.ask_world id _
  | prepare connection sql asStatement =>
      exact require_world fun id => session.prepare_world id sql asStatement
  | closeStatement name => exact require_world fun _ => rfl
  | next name => exact require_idle fun _ => rfl
  | drain name => exact require_idle fun _ => rfl
  | describe name => exact require_idle fun _ => rfl
  | closeCursor name => exact require_idle fun _ => rfl
  | request connection request => exact require_world fun id => session.ask_world id request
  | isValid connection =>
      apply require_world
      intro id
      show (session.exchange id Exchange.ping).2.world = _
      rw [exchange_world, Exchange.ping_state]
      rfl
  | closeConnection connection => exact require_world fun id => session.ask_world id .close
  | prepareText connection sql asPrepared =>
      exact require_world fun id => session.prepareText_world id sql asPrepared
  | fetchPrepared connection prepared parameters =>
      exact require_world fun id => require_world fun _ => session.ask_world id _
  | executePrepared connection prepared parameters =>
      exact require_world fun id => require_world fun _ => session.ask_world id _
  | beginTransaction connection asTransaction level =>
      exact require_world fun id => session.beginTransaction_world id asTransaction level
  | requestWithin transaction request => exact require_world fun id => session.ask_world id request
  | commitTransaction transaction => exact session.endTransaction_world transaction .commit
  | rollbackTransaction transaction => exact session.endTransaction_world transaction .rollback

theorem create_world (session : Session) (asMock asConnection : String) (config : Config) :
    (session.step (.create asMock asConnection config)).1.world =
      (session.world.create session.isAlive config).2 := by
  show (session.create asMock asConnection config).1.world = _
  unfold Session.create
  rcases session.world.create session.isAlive config with ⟨_ | _, _⟩ <;> rfl

/-- A step creates a mock and brings no events, or leaves the world as its visits do. -/
theorem step_world_cases (session : Session) (step : Step) :
    (∃ config, session.visits step = [] ∧
        (session.step step).1.world = (session.world.create session.isAlive config).2) ∨
      (session.step step).1.world = session.world.visitAll (session.visits step) := by
  by_cases creation : step.isCreation = true
  · cases step with
    | create asMock asConnection config =>
        exact .inl ⟨config, rfl, session.create_world asMock asConnection config⟩
    | _ => contradiction
  · exact .inr (session.step_world (Bool.eq_false_iff.mpr creation))

end Session

end ScriptedSql
