import ScriptedSql.Proofs.Mock.Closing
import ScriptedSql.Proofs.Session.Registry

/-!
Contract: the closing of a mock through one of its connections.

Owns:
- the mock that a step calls, through a connection, a statement or a transaction;
- what it means that a mock is shut down, and that this lasts;
- exactly when the closing of a connection shuts the mock down.
-/

namespace ScriptedSql

namespace Answer

def fault? : Answer → Option MockFault
  | .attempt (.error error) => error.mockFault?
  | _ => none

private theorem fault_of_refusal {outcome : Except Error Outcome}
    (refused : Exchange.IsRefusal outcome) :
    (Answer.attempt outcome).fault? = some .closed := by
  obtain ⟨error, failed, kind⟩ := refused
  subst failed
  exact kind

end Answer

namespace Session

/-! ## Called mocks -/

/-- The mock that a query or an exec goes to. -/
def channelMock? (session : Session) : Channel → Option MockId
  | .connection name _ => session.connections.get? name
  | .statement name => (session.statements.get? name).map (·.mock)

/-- The mock that a step calls through a connection, a statement or a transaction. The
answer to such a step is that of the mock. -/
def callee? (session : Session) : Step → Option MockId
  | .query channel _ => session.channelMock? channel
  | .openCursor channel _ _ => session.channelMock? channel
  | .exec channel _ => session.channelMock? channel
  | .prepare connection _ _ => session.connections.get? connection
  | .request connection request =>
    if request.isEmpty then none else session.connections.get? connection
  | .closeConnection connection => session.connections.get? connection
  | .prepareText connection _ _ => session.connections.get? connection
  | .fetchPrepared connection prepared _ =>
    (session.prepared.get? prepared).bind fun _ => session.connections.get? connection
  | .executePrepared connection prepared _ =>
    (session.prepared.get? prepared).bind fun _ => session.connections.get? connection
  | .beginTransaction connection _ _ => session.connections.get? connection
  | .requestWithin transaction request =>
    if request.isEmpty then none else session.transactions.get? transaction
  | .commitTransaction transaction => session.transactions.get? transaction
  | .rollbackTransaction transaction => session.transactions.get? transaction
  | _ => none

section Refusals

/-- What a closed mock refuses, the session reports as refused. -/
theorem exchange_of_refused {α : Type} (session : Session) {id : MockId} {exchange : Exchange α}
    (refused : Exchange.IsRefusal (exchange (session.world.mockAt id)).1) :
    ∃ error after, session.exchange id exchange = (.error error, after) ∧
      error.mockFault? = some .closed := by
  obtain ⟨error, failed, kind⟩ := refused
  exact ⟨error, (session.exchange id exchange).2, Prod.ext failed rfl, kind⟩

variable {session : Session} {id : MockId} (closed : (session.world.mockAt id).closed = true)
include closed

private theorem ask_refused {request : Request} (nonempty : request.isEmpty = false) :
    (session.ask id request).2.fault? = some .closed :=
  Answer.fault_of_refusal (Exchange.request_refused closed nonempty)

private theorem openCursor_refused (sql : String) (arguments : List Argument) (asCursor : String) :
    (session.openCursor id sql arguments asCursor).2.fault? = some .closed := by
  obtain ⟨error, after, failed, kind⟩ :=
    session.exchange_of_refused (Exchange.query_refused closed sql arguments)
  rw [openCursor, failed]
  exact kind

theorem prepare_refused (sql asStatement : String) :
    (session.prepare id sql asStatement).2.fault? = some .closed := by
  obtain ⟨error, after, failed, kind⟩ :=
    session.exchange_of_refused (Exchange.prepare_refused closed sql)
  rw [prepare, failed]
  exact kind

private theorem prepareText_refused (sql asPrepared : String) :
    (session.prepareText id sql asPrepared).2.fault? = some .closed := by
  obtain ⟨error, after, failed, kind⟩ :=
    session.exchange_of_refused (Exchange.prepare_refused closed sql)
  rw [prepareText, failed]
  exact kind

private theorem beginTransaction_refused (asTransaction : String) (level : IsolationLevel) :
    (session.beginTransaction id asTransaction level).2.fault? = some .closed := by
  obtain ⟨error, after, failed, kind⟩ :=
    session.exchange_of_refused (Exchange.beginAt_refused closed level)
  rw [beginTransaction, failed]
  exact kind

omit closed in
private theorem withChannel_refused {channel : Channel}
    (calls : session.channelMock? channel = some id)
    {use : MockId → String → Session × Answer}
    (refused : ∀ sql, (use id sql).2.fault? = some .closed) :
    (session.withChannel channel use).2.fault? = some .closed := by
  cases channel with
  | connection name sql =>
      have found : session.connections.get? name = some id := calls
      simpa [withChannel, withConnection, found] using refused sql
  | statement name =>
      obtain ⟨statement, found, sameMock⟩ := Option.map_eq_some_iff.mp calls
      simpa [withChannel, found, sameMock] using refused statement.sql

private theorem ask_through_refused {table : Table MockId} {name : String} {request : Request}
    (calls : (if request.isEmpty then none else table.get? name) = some id) :
    (session.require table name fun id => session.ask id request).2.fault? = some .closed := by
  by_cases empty : request.isEmpty = true
  · simp [empty] at calls
  · have found : table.get? name = some id := by simpa [empty] using calls
    simpa [found] using ask_refused closed (Bool.eq_false_iff.mpr empty)

/-- Every step that calls a closed mock is answered with its refusal. -/
theorem step_refused {step : Step} (calls : session.callee? step = some id) :
    (session.step step).2.fault? = some .closed := by
  have through {table : Table MockId} {name : String} {use : MockId → Session × Answer}
      (found : table.get? name = some id) (refused : (use id).2.fault? = some .closed) :
      (session.require table name use).2.fault? = some .closed := by
    simpa [found] using refused
  cases step with
  | query channel arguments => exact withChannel_refused calls fun _ => ask_refused closed rfl
  | openCursor channel arguments asCursor =>
      exact withChannel_refused calls fun sql => openCursor_refused closed sql arguments asCursor
  | exec channel arguments => exact withChannel_refused calls fun _ => ask_refused closed rfl
  | prepare connection sql asStatement =>
      exact through calls (prepare_refused closed sql asStatement)
  | request connection request => exact ask_through_refused closed calls
  | closeConnection connection =>
      have refused : (session.ask id .close).2.fault? = some .closed := ask_refused closed rfl
      exact through calls refused
  | prepareText connection sql asPrepared =>
      exact through calls (prepareText_refused closed sql asPrepared)
  | fetchPrepared connection prepared parameters =>
      obtain ⟨text, found, connected⟩ := Option.bind_eq_some_iff.mp calls
      refine through connected ?_
      rw [require_of_some found]
      exact ask_refused closed rfl
  | executePrepared connection prepared parameters =>
      obtain ⟨text, found, connected⟩ := Option.bind_eq_some_iff.mp calls
      refine through connected ?_
      rw [require_of_some found]
      exact ask_refused closed rfl
  | beginTransaction connection asTransaction level =>
      exact through calls (beginTransaction_refused closed asTransaction level)
  | requestWithin transaction request => exact ask_through_refused closed calls
  | commitTransaction transaction =>
      have refused : (session.ask id .commit).2.fault? = some .closed := ask_refused closed rfl
      exact through calls refused
  | rollbackTransaction transaction =>
      have refused : (session.ask id .rollback).2.fault? = some .closed := ask_refused closed rfl
      exact through calls refused
  | _ => contradiction

end Refusals

/-! ## Shut down for good -/

/-- A mock is shut down: it is closed, no DSN leads to it, and every call through a
handle of it is refused. -/
structure IsShutDown (session : Session) (id : MockId) : Prop where
  closed : (session.world.mockAt id).closed = true
  unlisted : ∀ dsn, session.world.lookup? session.isAlive dsn ≠ some id
  refuses : ∀ step, session.callee? step = some id →
    (session.step step).2.fault? = some .closed

/-- No step opens a closed mock. -/
theorem step_closed {session : Session} {id : MockId}
    (created : id < session.world.mocks.length)
    (closed : (session.world.mockAt id).closed = true) (step : Step) :
    ((session.step step).1.world.mockAt id).closed = true := by
  rw [step_mockAt created]
  exact Mock.run_closed closed _

/-- A mock that is closed and not listed remains shut down, whatever comes. -/
theorem run_isShutDown {session : Session} {id : MockId}
    (created : id < session.world.mocks.length)
    (closed : (session.world.mockAt id).closed = true) (unlisted : session.world.Unlisted id)
    (later : List Step) : (session.run later).IsShutDown id := by
  induction later generalizing session with
  | nil =>
      exact ⟨closed, World.lookup_of_unlisted unlisted session.isAlive,
        fun _ calls => step_refused closed calls⟩
  | cons step rest inductionHypothesis =>
      exact inductionHypothesis (step_created created step) (step_closed created closed step)
        (step_unlisted created unlisted step)

private theorem ask_close_world (session : Session) (id : MockId) :
    (session.ask id .close).1.world =
      session.world.restore id (Exchange.close (session.world.mockAt id)).2 := by
  show session.world.restore id (Request.close.exchange (session.world.mockAt id)).2 = _
  rw [Request.exchange, Exchange.bind_state _ fun _ _ => rfl]

/-- The closing of an open mock through any of its connections, whatever it answers, shuts
the mock down for good: it is closed, no DSN leads to it, and all later calls are refused.
The one exception is a close that was answered with a configured error of the kind that
stands for closed mocks. -/
theorem closing_shuts_down_iff {session : Session} {connection : String} {id : MockId}
    {closing : Step} (connected : session.connections.get? connection = some id)
    (isOpen : (session.world.mockAt id).closed = false)
    (isClosing : closing = .request connection .close ∨ closing = .closeConnection connection) :
    (∀ later, ((session.step closing).1.run later).IsShutDown id) ↔
      ¬ (session.world.mockAt id).FeignsClosed := by
  have created : id < session.world.mocks.length := by
    apply Nat.lt_of_not_le
    intro uncreated
    rw [World.mockAt_of_uncreated uncreated] at isOpen
    contradiction
  have world : (session.step closing).1.world =
      session.world.restore id (Exchange.close (session.world.mockAt id)).2 := by
    rcases isClosing with rfl | rfl <;>
      simp [step, withConnection, connected, ask_close_world]
  have closes : ((session.step closing).1.world.mockAt id).closed = true ↔
      ¬ (session.world.mockAt id).FeignsClosed := by
    simp [world, created, Exchange.close_closed_iff isOpen]
  constructor
  · intro shutDown
    exact closes.mp (shutDown []).closed
  · intro honest later
    have closed := closes.mpr honest
    refine run_isShutDown (step_created created closing) closed ?_ later
    rw [world]
    exact World.unlisted_restore_closed session.world id (by simpa [world, created] using closed)

/-- A close that nobody expected is rejected, and shuts the mock down all the same. -/
theorem unexpected_closing_shuts_down :
    let session := empty.run
      [.create "mock" "connection" { Config.standard with dsn := some "dsn" },
        .expect "mock" .begin none [] none]
    ∀ later, ((session.step (.request "connection" .close)).1.run later).IsShutDown 0 := by
  intro session
  have connected : session.connections.get? "connection" = some 0 := by decide
  have isOpen : (session.world.mockAt 0).closed = false := by decide
  refine (closing_shuts_down_iff connected isOpen (.inl rfl)).mpr ?_
  rintro ⟨slot, error, taken, -⟩
  have untaken : (session.world.mockAt 0).taker? (.plain .close) = none := by decide
  rw [untaken] at taken
  contradiction

/-- A close that is answered with an error of the kind that stands for closed mocks leaves
the mock open, listed and at work. -/
theorem feigned_closing_leaves_open :
    let session := empty.run
      [.create "mock" "connection" { Config.standard with dsn := some "dsn" },
        .expect "mock" .close none [.error (.ofMock .closed "gone")] none]
    let after := (session.step (.request "connection" .close)).1
    session.connections.get? "connection" = some 0 ∧
      (session.world.mockAt 0).closed = false ∧
      (after.world.mockAt 0).closed = false ∧
      after.world.lookup? after.isAlive "dsn" = some 0 ∧
      (after.step (.request "connection" .ping)).2.fault? = none := by
  decide

end Session

end ScriptedSql
