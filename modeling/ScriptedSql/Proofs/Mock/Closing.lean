import ScriptedSql.Proofs.Mock.Request

/-!
Contract: closed mocks, and the closing of open ones.

Owns:
- the refusals of a closed mock: whatever is asked of it fails with an error of the kind
  that stands for closed mocks;
- when the closing of an open mock shuts it down: always, unless the expectation that
  takes the call was given an error of that very kind.

Does not own: who can still reach a closed mock (`Session.Closing`).
-/

namespace ScriptedSql

@[simp]
private theorem Error.ofMock_fault (kind : MockFault) (message : String) :
    (Error.ofMock kind message).mockFault? = some kind :=
  rfl

namespace Rejection

/-- No rejection is mistaken for the refusal of a closed mock. -/
theorem toError_fault (rejection : Rejection) (call : Call) :
    (rejection.toError call).mockFault? ≠ some .closed := by
  cases rejection with
  | exhausted => simp [toError]
  | unmatched => simp [toError]
  | blocked expectation refusal =>
      cases refusal with
      | kind => simp [toError, Refusal.toError]
      | sql => simp [toError, Refusal.toError]
      | arguments fault => cases fault <;> simp [toError, Refusal.toError, ArgumentFault.kind]

end Rejection

namespace Request

/-- A batch of no statements asks nothing of a mock. -/
def isEmpty : Request → Bool
  | .batch [] => true
  | _ => false

end Request

namespace Exchange

variable {α β : Type}

/-- An outcome that says that the mock is closed. -/
def IsRefusal (outcome : Except Error α) : Prop :=
  ∃ error, outcome = .error error ∧ error.mockFault? = some .closed

/-! ## Refusals -/

private theorem bind_refused {exchange : Exchange α} {mock : Mock}
    (refused : IsRefusal (exchange mock).1)
    (next : α → Exchange β) : IsRefusal ((exchange >>= next) mock).1 := by
  rw [bind_apply]
  generalize exchange mock = result at refused ⊢
  obtain ⟨error, failed, kind⟩ := refused
  obtain ⟨outcome, after⟩ := result
  subst failed
  exact ⟨error, rfl, kind⟩

variable {mock : Mock} (closed : mock.closed = true)
include closed

/-- A closed mock refuses every call, and all other exchanges rest on calls. -/
theorem dispatch_refused (kind : CallKind) (sql : Option String) (arguments : List Argument) :
    IsRefusal (dispatch kind sql arguments mock).1 := by
  rw [dispatch_of_closed closed]
  exact ⟨_, rfl, rfl⟩

theorem query_refused (sql : String) (arguments : List Argument) :
    IsRefusal (query sql arguments mock).1 :=
  bind_refused (dispatch_refused closed .query (some sql) arguments) _

theorem prepare_refused (sql : String) : IsRefusal (prepare sql mock).1 :=
  dispatch_refused closed .prepare (some sql) []

theorem beginAt_refused (level : IsolationLevel) : IsRefusal (beginAt level mock).1 :=
  dispatch_refused closed .begin none []

theorem ping_refused : IsRefusal (ping mock).1 := by
  cases monitored : mock.config.monitorPings with
  | true => simpa [ping, monitored] using dispatch_refused closed .ping none []
  | false => exact ⟨mock.closedConnection, by simp [ping, monitored, closed], rfl⟩

private theorem close_refused : IsRefusal (close mock).1 := by
  have refused := dispatch_refused closed .close none []
  rw [close_apply]
  split
  · exact refused
  · exact refused

private theorem execute_refused (sql : String) (parameters : List Value) :
    IsRefusal (execute sql parameters mock).1 :=
  bind_refused (dispatch_refused closed .exec (some sql) (Argument.ofValues parameters)) _

private theorem fetch_refused (sql : String) (parameters : List Value) :
    IsRefusal (fetch sql parameters mock).1 :=
  bind_refused (query_refused closed sql (Argument.ofValues parameters)) _

private theorem fetchFirst_refused (sql : String) (parameters : List Value) :
    IsRefusal (fetchFirst sql parameters mock).1 :=
  bind_refused (query_refused closed sql (Argument.ofValues parameters)) _

private theorem insert_refused (sql : String) (parameters : List Value) :
    IsRefusal (insert sql parameters mock).1 :=
  bind_refused (dispatch_refused closed .exec (some sql) (Argument.ofValues parameters)) _

/-- The first statement of a batch is refused already. -/
theorem batch_refused (sql : String) (parameters : List Value)
    (rest : List (String × List Value)) :
    IsRefusal (batch ((sql, parameters) :: rest) mock).1 := by
  unfold batch
  rw [List.mapM_cons]
  exact bind_refused (execute_refused closed sql parameters) _

private theorem command_refused (sql : String) : IsRefusal (command sql mock).1 :=
  bind_refused (dispatch_refused closed .exec (some sql) []) _

/-- A closed mock refuses every request. -/
theorem request_refused {request : Request} (nonempty : request.isEmpty = false) :
    IsRefusal (request.exchange mock).1 := by
  cases request with
  | replay sql arguments => exact bind_refused (query_refused closed sql arguments) _
  | exec sql arguments => exact bind_refused (dispatch_refused closed .exec (some sql) arguments) _
  | begin => exact bind_refused (dispatch_refused closed .begin none []) _
  | commit => exact bind_refused (dispatch_refused closed .commit none []) _
  | rollback => exact bind_refused (dispatch_refused closed .rollback none []) _
  | ping => exact bind_refused (ping_refused closed) _
  | close => exact bind_refused (close_refused closed) _
  | fetch sql parameters => exact bind_refused (fetch_refused closed sql parameters) _
  | fetchFirst sql parameters => exact bind_refused (fetchFirst_refused closed sql parameters) _
  | execute sql parameters => exact bind_refused (execute_refused closed sql parameters) _
  | insert sql parameters => exact bind_refused (insert_refused closed sql parameters) _
  | batch statements =>
      cases statements with
      | nil => contradiction
      | cons statement rest =>
          exact bind_refused (batch_refused closed statement.1 statement.2 rest) _
  | savepoint name => exact bind_refused (command_refused closed ("SAVEPOINT " ++ name)) _
  | rollbackTo name =>
      exact bind_refused (command_refused closed ("ROLLBACK TO SAVEPOINT " ++ name)) _
  | release name => exact bind_refused (command_refused closed ("RELEASE SAVEPOINT " ++ name)) _

end Exchange

/-! ## The closing of an open mock -/

namespace Mock

/-- The expectation that takes the next close was given an error that looks like the
refusal of a closed mock. -/
def FeignsClosed (mock : Mock) : Prop :=
  ∃ slot error, mock.taker? (.plain .close) = some slot ∧
    (mock.queue.get slot).error = some error ∧ error.mockFault? = some .closed

end Mock

namespace Exchange

private theorem saysClosed_iff {outcome : Except Error Unit} :
    saysClosed outcome = true ↔ IsRefusal outcome := by
  unfold IsRefusal
  cases outcome with
  | ok _ => simp [saysClosed]
  | error error => simp [saysClosed]

/-- On an open mock, only a configured error can say that the mock was closed before. -/
theorem dispatch_close_refusal_iff {mock : Mock} (isOpen : mock.closed = false) :
    IsRefusal (dispatch .close none [] mock).1 ↔ mock.FeignsClosed := by
  constructor
  · rintro ⟨error, failed, kind⟩
    cases taker : mock.taker? (.plain .close) with
    | none =>
        cases resolved : mock.queue.resolve mock.config.converter (.plain .close) with
        | ok slot =>
            rw [Mock.taker?_eq_some_iff.mpr ⟨isOpen, resolved⟩] at taker
            contradiction
        | error rejection =>
            rw [dispatch_of_rejected isOpen resolved] at failed
            cases failed
            exact absurd kind (rejection.toError_fault _)
    | some slot =>
        cases configured : (mock.queue.get slot).error with
        | some other =>
            rw [dispatch_of_failing taker configured] at failed
            cases failed
            exact ⟨slot, error, taker, configured, kind⟩
        | none =>
            rw [dispatch_of_answering taker configured] at failed
            contradiction
  · rintro ⟨slot, error, taker, configured, kind⟩
    rw [dispatch_of_failing taker configured]
    exact ⟨error, rfl, kind⟩

/-- The closing of an open mock shuts it down exactly if the answer does not feign that
this has happened before. -/
theorem close_closed_iff {mock : Mock} (isOpen : mock.closed = false) :
    (close mock).2.closed = true ↔ ¬ mock.FeignsClosed := by
  rw [close_apply, ← dispatch_close_refusal_iff isOpen, ← saysClosed_iff]
  by_cases saidClosed : saysClosed (dispatch .close none [] mock).1 = true
  · rw [if_pos saidClosed]
    -- The call itself, taken or not, leaves the mock open.
    refine iff_of_false ?_ (not_not_intro saidClosed)
    cases taker : mock.taker? (.plain .close) with
    | none =>
        rw [dispatch_state_of_none taker, isOpen]
        exact Bool.false_ne_true
    | some slot =>
        obtain ⟨next, state⟩ := dispatch_state_of_some taker
        rw [state]
        exact Bool.eq_false_iff.mp isOpen
  · rw [if_neg saidClosed]
    exact iff_of_true rfl saidClosed

end Exchange

end ScriptedSql
