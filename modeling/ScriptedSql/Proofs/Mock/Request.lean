import ScriptedSql.Proofs.Mock.Event
import ScriptedSql.Request

/-!
Contract: requests as events.

Owns:
- the events that a request brings to its mock: the calls that it makes, one by one,
  and the shutting down of a mock that it closes;
- the agreement: the exchange of a request leaves the mock as its events do.

Does not own: what requests answer.
-/

namespace ScriptedSql

namespace Call

def plain (kind : CallKind) : Call :=
  ⟨kind, none, []⟩

def command (sql : String) : Call :=
  ⟨.exec, some sql, []⟩

end Call

namespace Request

/-- A close that is not answered as on a closed mock shuts the mock down. -/
def closeEvents (mock : Mock) : List Event :=
  .call (.plain .close) ::
    if Exchange.saysClosed (Exchange.dispatch .close none [] mock).1 then [] else [.shutDown]

/-- A batch makes one call for each statement, up to the first that fails. -/
def batchEvents (mock : Mock) : List (String × List Value) → List Event
  | [] => []
  | (sql, parameters) :: rest =>
    .call ⟨.exec, some sql, Argument.ofValues parameters⟩ ::
      match Exchange.execute sql parameters mock with
      | (.ok _, mock) => batchEvents mock rest
      | (.error _, _) => []

def events (mock : Mock) : Request → List Event
  | .replay sql arguments => [.call ⟨.query, some sql, arguments⟩]
  | .exec sql arguments => [.call ⟨.exec, some sql, arguments⟩]
  | .begin => [.call (.plain .begin)]
  | .commit => [.call (.plain .commit)]
  | .rollback => [.call (.plain .rollback)]
  | .ping => if mock.config.monitorPings then [.call (.plain .ping)] else []
  | .close => closeEvents mock
  | .fetch sql parameters => [.call ⟨.query, some sql, Argument.ofValues parameters⟩]
  | .fetchFirst sql parameters => [.call ⟨.query, some sql, Argument.ofValues parameters⟩]
  | .execute sql parameters => [.call ⟨.exec, some sql, Argument.ofValues parameters⟩]
  | .insert sql parameters => [.call ⟨.exec, some sql, Argument.ofValues parameters⟩]
  | .batch statements => batchEvents mock statements
  | .savepoint name => [.call (.command ("SAVEPOINT " ++ name))]
  | .rollbackTo name => [.call (.command ("ROLLBACK TO SAVEPOINT " ++ name))]
  | .release name => [.call (.command ("RELEASE SAVEPOINT " ++ name))]

end Request

namespace Exchange

variable {α β : Type}

/-- What is done with an answer leaves the mock as it is, unless it asks the mock. -/
theorem bind_state (exchange : Exchange α) {next : α → Exchange β}
    (still : ∀ value mock, (next value mock).2 = mock) (mock : Mock) :
    ((exchange >>= next) mock).2 = (exchange mock).2 := by
  rw [bind_apply]
  rcases exchange mock with ⟨error | value, after⟩
  · rfl
  · exact still value after

theorem query_state (sql : String) (arguments : List Argument) (mock : Mock) :
    (query sql arguments mock).2 = mock.after (.call ⟨.query, some sql, arguments⟩) :=
  bind_state _ (fun _ _ => rfl) mock

theorem ping_state (mock : Mock) : (ping mock).2 = mock.run (Request.ping.events mock) := by
  cases monitored : mock.config.monitorPings with
  | true => simp [ping, Request.events, monitored, Mock.run, Mock.after, Call.plain]
  | false => cases closed : mock.closed <;> simp [ping, Request.events, monitored, closed, Mock.run]

/-- A close is a call, after which the mock is shut down unless the answer says that it was closed
before. -/
theorem close_apply (mock : Mock) :
    close mock =
      if saysClosed (dispatch .close none [] mock).1 then dispatch .close none [] mock
      else
        ((dispatch .close none [] mock).1,
          { (dispatch .close none [] mock).2 with closed := true }) :=
  rfl

private theorem close_state (mock : Mock) :
    (close mock).2 = mock.run (Request.close.events mock) := by
  rw [close_apply, Request.events, Request.closeEvents]
  cases saysClosed (dispatch .close none [] mock).1 <;> rfl

theorem execute_state (sql : String) (parameters : List Value) (mock : Mock) :
    (execute sql parameters mock).2 =
      mock.after (.call ⟨.exec, some sql, Argument.ofValues parameters⟩) :=
  bind_state _ (fun _ _ => rfl) mock

private theorem fetch_state (sql : String) (parameters : List Value) (mock : Mock) :
    (fetch sql parameters mock).2 =
      mock.after (.call ⟨.query, some sql, Argument.ofValues parameters⟩) :=
  (bind_state _ (fun _ _ => rfl) mock).trans (query_state sql _ mock)

private theorem fetchFirst_state (sql : String) (parameters : List Value) (mock : Mock) :
    (fetchFirst sql parameters mock).2 =
      mock.after (.call ⟨.query, some sql, Argument.ofValues parameters⟩) :=
  (bind_state _ (fun _ _ => rfl) mock).trans (query_state sql _ mock)

private theorem insert_state (sql : String) (parameters : List Value) (mock : Mock) :
    (insert sql parameters mock).2 =
      mock.after (.call ⟨.exec, some sql, Argument.ofValues parameters⟩) :=
  bind_state _ (fun _ _ => rfl) mock

private theorem command_state (sql : String) (mock : Mock) :
    (command sql mock).2 = mock.after (.call (.command sql)) :=
  bind_state _ (fun _ _ => rfl) mock

private theorem batch_state (statements : List (String × List Value)) (mock : Mock) :
    (batch statements mock).2 = mock.run (Request.batchEvents mock statements) := by
  induction statements generalizing mock with
  | nil => rfl
  | cons statement rest inductionHypothesis =>
      obtain ⟨sql, parameters⟩ := statement
      have first := execute_state sql parameters mock
      unfold batch Request.batchEvents
      rw [List.mapM_cons, bind_apply, Mock.run, ← first]
      simp only
      -- A failure ends the batch, and the mock stays as the failed call has left it.
      rcases execute sql parameters mock with ⟨error | count, after⟩
      · rfl
      · exact (bind_state _ (fun _ _ => rfl) after).trans (inductionHypothesis after)

end Exchange

namespace Request

/-- The exchange of a request leaves the mock as the events of the request do. -/
theorem exchange_state (request : Request) (mock : Mock) :
    (request.exchange mock).2 = mock.run (request.events mock) := by
  -- Every request wraps the value of one exchange, which is not seen in the mock.
  have wrapped {α : Type} (exchange : Exchange α) (wrap : α → Outcome) :
      ((exchange >>= fun value => pure (wrap value)) mock).2 = (exchange mock).2 :=
    Exchange.bind_state exchange (fun _ _ => rfl) mock
  cases request with
  | replay sql arguments => exact (wrapped _ _).trans (Exchange.query_state sql arguments mock)
  | exec sql arguments => exact wrapped _ _
  | begin => exact wrapped _ _
  | commit => exact wrapped _ _
  | rollback => exact wrapped _ _
  | ping => exact (wrapped _ _).trans (Exchange.ping_state mock)
  | close => exact (wrapped _ _).trans (Exchange.close_state mock)
  | fetch sql parameters => exact (wrapped _ _).trans (Exchange.fetch_state sql parameters mock)
  | fetchFirst sql parameters =>
      exact (wrapped _ _).trans (Exchange.fetchFirst_state sql parameters mock)
  | execute sql parameters => exact (wrapped _ _).trans (Exchange.execute_state sql parameters mock)
  | insert sql parameters => exact (wrapped _ _).trans (Exchange.insert_state sql parameters mock)
  | batch statements => exact (wrapped _ _).trans (Exchange.batch_state statements mock)
  | savepoint name => exact (wrapped _ _).trans (Exchange.command_state _ mock)
  | rollbackTo name => exact (wrapped _ _).trans (Exchange.command_state _ mock)
  | release name => exact (wrapped _ _).trans (Exchange.command_state _ mock)

end Request

end ScriptedSql
