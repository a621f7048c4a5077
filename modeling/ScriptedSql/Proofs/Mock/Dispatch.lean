import ScriptedSql.Connection
import ScriptedSql.Proofs.Queue.Resolution

/-!
Contract: what a dispatched call does to a mock.

Owns:
- the equations of an exchange applied to a mock: sequencing, reading and writing
  the mock, and failing;
- the four ways in which a call is dispatched: refused by a closed mock, rejected by
  the queue, answered with the configured error, answered with the outcome;
- the mock after a call, which depends only on the expectation that takes it;
- the slot that a prepared statement is handed out with.

Does not own: runs of calls (`Mock.Event`).
-/

namespace ScriptedSql

namespace Exchange

variable {ε σ α β : Type}

@[simp]
theorem bind_apply (exchange : ExceptT ε (StateM σ) α) (next : α → ExceptT ε (StateM σ) β)
    (state : σ) :
    (exchange >>= next) state =
      match exchange state with
      | (.ok value, state) => next value state
      | (.error error, state) => (.error error, state) := by
  show (match exchange state with
    | (answer, after) => ExceptT.bindCont next answer after) = _
  rcases exchange state with ⟨_ | _, _⟩ <;> rfl

@[simp]
theorem map_apply (change : α → β) (exchange : ExceptT ε (StateM σ) α) (state : σ) :
    (change <$> exchange) state = ((exchange state).1.map change, (exchange state).2) := by
  rw [← bind_pure_comp, bind_apply]
  rcases exchange state with ⟨_ | _, _⟩ <;> rfl

@[simp]
theorem pure_apply (value : α) (state : σ) :
    (pure value : ExceptT ε (StateM σ) α) state = (.ok value, state) :=
  rfl

@[simp]
theorem mk_apply (answer : Except ε α) (state : σ) :
    (ExceptT.mk (pure answer) : ExceptT ε (StateM σ) α) state = (answer, state) :=
  rfl

@[simp]
theorem throw_apply (error : ε) (state : σ) :
    (throw error : ExceptT ε (StateM σ) α) state = (.error error, state) :=
  rfl

@[simp]
theorem get_apply (state : σ) : (get : ExceptT ε (StateM σ) σ) state = (.ok state, state) :=
  rfl

@[simp]
theorem set_apply (next state : σ) :
    (set next : ExceptT ε (StateM σ) PUnit) state = (.ok ⟨⟩, next) :=
  rfl

end Exchange

namespace Mock

/-- The expectation that takes a call; none if the mock is closed, or no candidate
accepts the call. -/
def taker? (mock : Mock) (call : Call) : Option (Fin mock.queue.length) :=
  if mock.closed then none
  else
    match mock.queue.resolve mock.config.converter call with
    | .ok slot => some slot
    | .error _ => none

/-- An expectation takes a call exactly if the mock is open and the queue resolves the call to it.
-/
theorem taker?_eq_some_iff {mock : Mock} {call : Call} {slot : Fin mock.queue.length} :
    mock.taker? call = some slot ↔
      mock.closed = false ∧ mock.queue.resolve mock.config.converter call = .ok slot := by
  unfold taker?
  cases mock.closed with
  | true => simp
  | false => cases mock.queue.resolve mock.config.converter call <;> simp

theorem taker?_eq_none_of_closed {mock : Mock} (closed : mock.closed = true) (call : Call) :
    mock.taker? call = none := by
  rw [taker?, if_pos closed]

end Mock

namespace Exchange

variable {mock : Mock} {kind : CallKind} {sql : Option String} {arguments : List Argument}
  {text : String}

/-- A closed mock answers that it is closed, and nothing changes. -/
theorem dispatch_of_closed (closed : mock.closed = true) :
    dispatch kind sql arguments mock = (.error (mock.closedCall ⟨kind, sql, arguments⟩), mock) := by
  simp [dispatch, closed]

/-- A call that no expectation takes is answered with the reason, and nothing changes. -/
theorem dispatch_of_rejected {rejection : Rejection} (isOpen : mock.closed = false)
    (rejected :
      mock.queue.resolve mock.config.converter ⟨kind, sql, arguments⟩ = .error rejection) :
    dispatch kind sql arguments mock =
      (.error (rejection.toError ⟨kind, sql, arguments⟩), mock) := by
  simp [dispatch, isOpen, Queue.settle, rejected]

/-- An expectation that was given an error is fulfilled, and answers with the error. -/
theorem dispatch_of_failing {slot : Fin mock.queue.length} {error : Error}
    (taken : mock.taker? ⟨kind, sql, arguments⟩ = some slot)
    (failing : (mock.queue.get slot).error = some error) :
    dispatch kind sql arguments mock =
      (.error error, { mock with queue := mock.queue.fulfil slot }) := by
  obtain ⟨isOpen, resolved⟩ := Mock.taker?_eq_some_iff.mp taken
  have configured : mock.queue[slot.val].error = some error := failing
  simp [dispatch, isOpen, Queue.settle, resolved, configured]

/-- An expectation without an error is fulfilled, and answers with what it has. -/
theorem dispatch_of_answering {slot : Fin mock.queue.length}
    (taken : mock.taker? ⟨kind, sql, arguments⟩ = some slot)
    (answering : (mock.queue.get slot).error = none) :
    dispatch kind sql arguments mock =
      (mock.queue.get slot).answer slot ⟨kind, sql, arguments⟩ kind
        { mock with queue := mock.queue.fulfil slot } := by
  obtain ⟨isOpen, resolved⟩ := Mock.taker?_eq_some_iff.mp taken
  have configured : mock.queue[slot.val].error = none := answering
  simp [dispatch, isOpen, Queue.settle, resolved, configured]

/-- Of the mock, an answer can only change the next statement id. -/
theorem answer_state (expectation : Expectation) (slot : Nat) (call : Call) (kind : CallKind)
    (mock : Mock) :
    ∃ next, (expectation.answer slot call kind mock).2 = { mock with nextStatement := next } := by
  cases kind with
  | query =>
      refine ⟨mock.nextStatement, ?_⟩
      unfold Expectation.answer
      cases expectation.rows <;> rfl
  | exec =>
      refine ⟨mock.nextStatement, ?_⟩
      unfold Expectation.answer
      cases expectation.result <;> rfl
  | prepare => exact ⟨mock.nextStatement + 1, rfl⟩
  | begin => exact ⟨mock.nextStatement, rfl⟩
  | commit => exact ⟨mock.nextStatement, rfl⟩
  | rollback => exact ⟨mock.nextStatement, rfl⟩
  | ping => exact ⟨mock.nextStatement, rfl⟩
  | close => exact ⟨mock.nextStatement, rfl⟩

/-- A call that no expectation takes fails and leaves no trace. -/
theorem dispatch_of_untaken (untaken : mock.taker? ⟨kind, sql, arguments⟩ = none) :
    ∃ error, dispatch kind sql arguments mock = (.error error, mock) := by
  by_cases closed : mock.closed = true
  · exact ⟨_, dispatch_of_closed closed⟩
  · cases resolved : mock.queue.resolve mock.config.converter ⟨kind, sql, arguments⟩ with
    | error rejection =>
        exact ⟨_, dispatch_of_rejected (Bool.eq_false_iff.mpr closed) resolved⟩
    | ok slot =>
        have taken : mock.taker? ⟨kind, sql, arguments⟩ = some slot :=
          Mock.taker?_eq_some_iff.mpr ⟨Bool.eq_false_iff.mpr closed, resolved⟩
        rw [untaken] at taken
        contradiction

/-- A call that is not taken leaves no trace. -/
theorem dispatch_state_of_none (untaken : mock.taker? ⟨kind, sql, arguments⟩ = none) :
    (dispatch kind sql arguments mock).2 = mock := by
  obtain ⟨error, failed⟩ := dispatch_of_untaken untaken
  rw [failed]

/-- The expectation that takes a call is fulfilled, whatever the answer is. -/
theorem dispatch_state_of_some {slot : Fin mock.queue.length}
    (taken : mock.taker? ⟨kind, sql, arguments⟩ = some slot) :
    ∃ next, (dispatch kind sql arguments mock).2 =
      { mock with queue := mock.queue.fulfil slot, nextStatement := next } := by
  cases configured : (mock.queue.get slot).error with
  | some error =>
      rw [dispatch_of_failing taken configured]
      exact ⟨mock.nextStatement, rfl⟩
  | none =>
      rw [dispatch_of_answering taken configured]
      exact answer_state _ _ _ _ _

/-- A statement that is handed out names the slot of the expectation that took the
prepare. -/
theorem taker_of_prepare {prepared : Prepared} {after : Mock}
    (handedOut : prepare text mock = (.ok prepared, after)) :
    (mock.taker? ⟨.prepare, some text, []⟩).map (·.val) = some prepared.slot := by
  unfold prepare at handedOut
  cases taker : mock.taker? ⟨.prepare, some text, []⟩ with
  | none =>
      obtain ⟨error, failed⟩ := dispatch_of_untaken taker
      rw [failed] at handedOut
      cases handedOut
  | some slot =>
      cases configured : (mock.queue.get slot).error with
      | some error =>
          rw [dispatch_of_failing taker configured] at handedOut
          cases handedOut
      | none =>
          rw [dispatch_of_answering taker configured] at handedOut
          cases handedOut
          rfl

end Exchange

end ScriptedSql
