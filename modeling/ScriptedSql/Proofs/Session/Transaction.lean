import ScriptedSql.Proofs.Mock.Request
import ScriptedSql.Proofs.Session.History

/-!
Contract: transactions as calls on their connection.

Owns:
- the life of a transaction as data: what it is asked, in order, and how it ends;
- the calls that the same life takes when it is lived on the connection itself: savepoints are
  execs without arguments, and all three ends are one commit or one rollback;
- the agreement of the two, call by call and over the whole life.

Does not own: calls that others make meanwhile.
-/

namespace ScriptedSql

namespace Answer

/-- An answer of which only the success is passed on, not what it yields. -/
def bare : Answer → Answer
  | .attempt outcome => .attempt (outcome.map fun _ => .unit)
  | other => other

end Answer

inductive Operation where
  | fetch (sql : String) (parameters : List Value)
  | fetchFirst (sql : String) (parameters : List Value)
  | execute (sql : String) (parameters : List Value)
  | savepoint (name : String)
  | rollbackTo (name : String)
  | release (name : String)

namespace Operation

def within (transaction : String) : Operation → Step
  | .fetch sql parameters => .requestWithin transaction (.fetch sql parameters)
  | .fetchFirst sql parameters => .requestWithin transaction (.fetchFirst sql parameters)
  | .execute sql parameters => .requestWithin transaction (.execute sql parameters)
  | .savepoint name => .requestWithin transaction (.savepoint name)
  | .rollbackTo name => .requestWithin transaction (.rollbackTo name)
  | .release name => .requestWithin transaction (.release name)

def directly (connection : String) : Operation → Step
  | .fetch sql parameters => .request connection (.fetch sql parameters)
  | .fetchFirst sql parameters => .request connection (.fetchFirst sql parameters)
  | .execute sql parameters => .request connection (.execute sql parameters)
  | .savepoint name => .exec (.connection connection ("SAVEPOINT " ++ name)) []
  | .rollbackTo name => .exec (.connection connection ("ROLLBACK TO SAVEPOINT " ++ name)) []
  | .release name => .exec (.connection connection ("RELEASE SAVEPOINT " ++ name)) []

/-- What a transaction makes of the answer to the call. -/
def reply : Operation → Answer → Answer
  | .savepoint _ => Answer.bare
  | .rollbackTo _ => Answer.bare
  | .release _ => Answer.bare
  | _ => id

end Operation

inductive Conclusion where
  | commit
  | rollback
  | drop

namespace Conclusion

def within (transaction : String) : Conclusion → Step
  | .commit => .commitTransaction transaction
  | .rollback => .rollbackTransaction transaction
  | .drop => .drop .transaction transaction

/-- The one call on a connection that ends what was begun there. -/
def directly (connection : String) : Conclusion → Step
  | .commit => .request connection .commit
  | .rollback => .request connection .rollback
  | .drop => .request connection .rollback

/-- What a transaction makes of the answer to the call: nobody looks at it when the
transaction is only let go. -/
def reply : Conclusion → Answer → Answer
  | .drop => fun _ => .nothing
  | _ => id

end Conclusion

namespace Session

/-- The answers to steps in order. -/
def answers (session : Session) (steps : List Step) : List Answer :=
  (session.trace steps).map (·.1)

@[simp]
private theorem answers_cons (session : Session) (step : Step) (rest : List Step) :
    session.answers (step :: rest) =
      (session.step step).2 :: (session.step step).1.answers rest :=
  rfl

def holding (session : Session) (name : String) (id : MockId) : Session :=
  { session with transactions := session.transactions.put name id }

/-- A connection leads to a mock, and no transaction goes by a name. -/
structure Ready (session : Session) (connection name : String) (id : MockId) : Prop where
  connected : session.connections.get? connection = some id
  free : session.transactions.remove name = session.transactions

variable {session : Session} {connection name : String} {id : MockId}

private theorem ask_eq (session : Session) (id : MockId) (request : Request) :
    session.ask id request =
      ({ session with world := (session.world.exchange id request.exchange).2 },
        .attempt (session.world.exchange id request.exchange).1) :=
  rfl

theorem Ready.ask (ready : session.Ready connection name id) (request : Request) :
    (session.ask id request).1.Ready connection name id :=
  ⟨ready.connected, ready.free⟩

theorem Ready.unheld (ready : session.Ready connection name id) :
    session.transactions.get? name = none := by
  rw [← ready.free]
  simp

private theorem request_of_connected (connected : session.connections.get? connection = some id)
    (request : Request) : session.step (.request connection request) = session.ask id request :=
  require_of_some connected session _

@[simp]
private theorem holding_get? (session : Session) (name : String) (id : MockId) :
    (session.holding name id).transactions.get? name = some id := by
  simp [holding]

/-! ## Operations -/

/-- A command is an exec without arguments whose report is not looked at. -/
theorem ask_command {request : Request} {sql : String}
    (isCommand : request.exchange = do Exchange.command sql; return .unit) :
    session.ask id request =
      ((session.ask id (.exec sql [])).1, (session.ask id (.exec sql [])).2.bare) := by
  have sameExchange : ∀ mock,
      request.exchange mock =
        (((Request.exec sql []).exchange mock).1.map fun _ => Outcome.unit,
          ((Request.exec sql []).exchange mock).2) := by
    intro mock
    rw [isCommand]
    simp only [Request.exchange, Exchange.command, Exchange.bind_apply]
    rcases Exchange.exec sql [] mock with ⟨error | report, after⟩ <;> rfl
  simp only [ask_eq, World.exchange, sameExchange]
  rfl

private theorem step_within (ready : session.Ready connection name id) (operation : Operation) :
    (session.holding name id).step (operation.within name) =
      ((session.step (operation.directly connection)).1.holding name id,
        operation.reply (session.step (operation.directly connection)).2) := by
  have asked (request : Request) : (session.holding name id).step (.requestWithin name request) =
      ((session.ask id request).1.holding name id, (session.ask id request).2) := by
    simp [step, ask_eq, holding]
  have requested := request_of_connected ready.connected
  have executed (sql : String) : session.step (.exec (.connection connection sql) []) =
      session.ask id (.exec sql []) := require_of_some ready.connected session _
  cases operation with
  | fetch sql parameters => exact (asked _).trans (by rw [Operation.directly, requested]; rfl)
  | fetchFirst sql parameters => exact (asked _).trans (by rw [Operation.directly, requested]; rfl)
  | execute sql parameters => exact (asked _).trans (by rw [Operation.directly, requested]; rfl)
  | savepoint savepoint =>
      rw [Operation.within, asked, Operation.directly, executed, ask_command rfl, Operation.reply]
  | rollbackTo savepoint =>
      rw [Operation.within, asked, Operation.directly, executed, ask_command rfl, Operation.reply]
  | release savepoint =>
      rw [Operation.within, asked, Operation.directly, executed, ask_command rfl, Operation.reply]

private theorem Ready.directly (ready : session.Ready connection name id)
    (operation : Operation) :
    (session.step (operation.directly connection)).1.Ready connection name id := by
  have requested (request : Request) :
      (session.step (.request connection request)).1.Ready connection name id := by
    rw [request_of_connected ready.connected]
    exact ready.ask request
  have executed (sql : String) :
      (session.step (.exec (.connection connection sql) [])).1.Ready connection name id := by
    simpa [step, withChannel, withConnection, ready.connected] using ready.ask (.exec sql [])
  cases operation with
  | fetch sql parameters => exact requested _
  | fetchFirst sql parameters => exact requested _
  | execute sql parameters => exact requested _
  | savepoint savepoint => exact executed _
  | rollbackTo savepoint => exact executed _
  | release savepoint => exact executed _

/-- While a transaction lasts, what it is asked is answered as on its connection, and leaves
everything as there, but for the handle of the transaction. -/
theorem run_within (ready : session.Ready connection name id)
    (operations : List Operation) :
    let after := session.run (operations.map (·.directly connection))
    after.Ready connection name id ∧
      (session.holding name id).run (operations.map (·.within name)) = after.holding name id ∧
      (session.holding name id).answers (operations.map (·.within name)) =
        List.zipWith Operation.reply operations
          (session.answers (operations.map (·.directly connection))) := by
  induction operations generalizing session with
  | nil => exact ⟨ready, rfl, rfl⟩
  | cons operation rest inductionHypothesis =>
      have step := step_within ready operation
      obtain ⟨still, sameState, sameAnswers⟩ :=
        inductionHypothesis (ready.directly operation)
      refine ⟨still, ?_, ?_⟩
      · rw [List.map_cons, run, step]
        exact sameState
      · simpa [step] using sameAnswers

/-! ## Ends -/

private theorem rollback_state (mock : Mock) :
    (Exchange.rollback mock).2 = (Request.rollback.exchange mock).2 :=
  (Exchange.bind_state _ (fun _ _ => rfl) mock).symm

/-- However a transaction ends, its connection makes one call, and its handle is gone. A
finished transaction is let go without another call. -/
theorem step_conclusion (ready : session.Ready connection name id) (conclusion : Conclusion) :
    (session.holding name id).step (conclusion.within name) =
      ((session.step (conclusion.directly connection)).1,
        conclusion.reply (session.step (conclusion.directly connection)).2) := by
  have found := session.holding_get? name id
  have requested := request_of_connected ready.connected
  have gone : (session.holding name id).transactions.remove name = session.transactions := by
    simp [holding, ready.free]
  have ended (request : Request) :
      (session.holding name id).endTransaction name request = session.ask id request := by
    simp [endTransaction, ask_eq, holding, ready.free, letGo, Transaction.begun,
      Transaction.finish]
  cases conclusion with
  | commit =>
      rw [Conclusion.directly, requested]
      exact ended .commit
  | rollback =>
      rw [Conclusion.directly, requested]
      exact ended .rollback
  | drop =>
      rw [Conclusion.directly, requested]
      show (session.holding name id).drop .transaction name = _
      rw [drop, require_of_some found, gone]
      show (({ session with
        world := session.world.restore id (Exchange.rollback (session.world.mockAt id)).2 } :
          Session), Answer.nothing) = _
      rw [rollback_state]
      rfl

private theorem Ready.concluded (ready : session.Ready connection name id)
    (conclusion : Conclusion) :
    (session.step (conclusion.directly connection)).1.Ready connection name id := by
  have requested := request_of_connected ready.connected
  cases conclusion with
  | commit => exact requested .commit ▸ ready.ask .commit
  | rollback => exact requested .rollback ▸ ready.ask .rollback
  | drop => exact requested .rollback ▸ ready.ask .rollback

/-! ## Begins -/

/-- A transaction begins as its connection does. If that fails there is none, otherwise its
handle is the only difference, once a transaction that had the name was let go. -/
theorem beginTransaction_eq (session : Session) (id : MockId) (name : String)
    (level : IsolationLevel) :
    let begun := session.ask id .begin
    (begun.2 ≠ .attempt (.ok .unit) ∧ session.beginTransaction id name level = begun) ∨
      (begun.2 = .attempt (.ok .unit) ∧
        session.beginTransaction id name level =
          (begun.1.keepTransaction name id, .attempt (.ok .unit))) := by
  intro begun
  have asked : begun =
      ({ session with world := (session.world.exchange id Request.begin.exchange).2 },
        .attempt (session.world.exchange id Request.begin.exchange).1) := rfl
  rw [asked, beginTransaction, exchange, World.exchange, World.exchange, Request.exchange,
    Exchange.bind_apply, Exchange.beginAt]
  rcases Exchange.begin (session.world.mockAt id) with ⟨error | _, after⟩
  · exact .inl ⟨nofun, rfl⟩
  · exact .inr ⟨rfl, rfl⟩

private theorem keepTransaction_eq (session : Session) (name : String) (id : MockId) :
    session.keepTransaction name id =
      (session.step (.drop .transaction name)).1.holding name id := by
  show _ = (session.drop .transaction name).1.holding name id
  rw [keepTransaction, drop, require, holding]
  cases session.transactions.get? name with
  | none => rfl
  | some former =>
      show _ = ({ session with
        world := (session.letGo (.begun former)).world,
        transactions := (session.transactions.remove name).put name id } : Session)
      rw [Table.put_remove]
      rfl

private theorem ready_of_dropped (session : Session)
    (connected : session.connections.get? connection = some id) (name : String) :
    (session.step (.drop .transaction name)).1.Ready connection name id := by
  show (session.drop .transaction name).1.Ready connection name id
  rw [drop, require]
  cases found : session.transactions.get? name with
  | none => exact ⟨connected, Table.remove_of_none found⟩
  | some former => exact ⟨connected, Table.remove_remove session.transactions name⟩

/-- Without a transaction there is nothing that could make a call. -/
theorem step_unheld (session : Session) (absent : session.transactions.get? name = none)
    (operations : List Operation) (conclusion : Conclusion) :
    ∀ step ∈ operations.map (·.within name) ++ [conclusion.within name],
      session.step step = (session, .noHandle name) := by
  have required (use : MockId → Session × Answer) :
      session.require session.transactions name use = (session, .noHandle name) :=
    require_of_none absent session use
  intro step isThere
  rcases List.mem_append.mp isThere with isWithin | isLast
  · obtain ⟨operation, -, rfl⟩ := List.mem_map.mp isWithin
    cases operation <;> exact required _
  · rw [List.mem_singleton.mp isLast]
    cases conclusion <;> exact required _

/-- At every point of every run of a program, whatever a transaction is asked and however it
ends: if the begin fails, it has done what a begin on the connection does, and there is no
transaction that could make a further call. Otherwise every answer and the state at the end
are those of the begin, the same calls and one commit or rollback on the connection, and no
handle is left that could roll back once more. A transaction that had the name before is let
go by the begin. -/
theorem transaction_is_calls_on_connection (steps : List Step) (connection name : String)
    (level : IsolationLevel) (operations : List Operation) (conclusion : Conclusion) :
    let session := empty.run steps
    let begun := session.step (.request connection .begin)
    let opened := session.step (.beginTransaction connection name level)
    let inside := operations.map (·.within name)
    let outside := operations.map (·.directly connection)
    (begun.2 ≠ .attempt (.ok .unit) →
      opened = begun ∧
        (session.transactions.get? name = none → ∀ step ∈ inside ++ [conclusion.within name],
          opened.1.step step = (opened.1, .noHandle name))) ∧
    (begun.2 = .attempt (.ok .unit) →
      let start := (begun.1.step (.drop .transaction name)).1
      let last := (start.run outside).step (conclusion.directly connection)
      opened.2 = begun.2 ∧
        opened.1.answers inside =
          List.zipWith Operation.reply operations (start.answers outside) ∧
        (opened.1.run inside).step (conclusion.within name) =
          (last.1, conclusion.reply last.2) ∧
        last.1.transactions.get? name = none) := by
  intro session begun opened inside outside
  cases connected : session.connections.get? connection with
  | none =>
      have noConnection (use : MockId → Session × Answer) :
          session.withConnection connection use = (session, .noHandle connection) :=
        require_of_none connected session _
      have notBegun : begun = (session, .noHandle connection) := noConnection _
      have notOpened : opened = (session, .noHandle connection) := noConnection _
      rw [notOpened, notBegun]
      exact ⟨fun _ => ⟨rfl, fun absent => session.step_unheld absent operations conclusion⟩, nofun⟩
  | some id =>
      have begunThere : begun = session.ask id .begin := request_of_connected connected .begin
      have openedThere : opened = session.beginTransaction id name level :=
        require_of_some connected session _
      rcases session.beginTransaction_eq id name level with ⟨failed, same⟩ | ⟨succeeded, kept⟩
      · rw [openedThere, same, begunThere]
        refine ⟨fun _ => ⟨rfl, fun absent => ?_⟩, fun success => absurd success failed⟩
        exact (session.ask id .begin).1.step_unheld absent operations conclusion
      · rw [openedThere, kept, keepTransaction_eq, begunThere]
        refine ⟨fun failure => absurd succeeded failure, fun _ => ?_⟩
        have ready : ((session.ask id .begin).1.step (.drop .transaction name)).1.Ready
            connection name id :=
          (session.ask id .begin).1.ready_of_dropped connected name
        obtain ⟨still, sameState, sameAnswers⟩ := run_within ready operations
        have ends := step_conclusion still conclusion
        refine ⟨succeeded.symm, sameAnswers, ?_, (still.concluded conclusion).unheld⟩
        rw [sameState]
        exact ends

end Session

end ScriptedSql
