import ScriptedSql.Proofs.Mock.Request
import ScriptedSql.Proofs.Queue.Pings

/-!
Contract: mocks that do not monitor pings, with and without expectations of pings.

Owns:
- the mock that is left when expectations of pings are left out;
- the agreement of single exchanges and requests on both mocks, as long as expectations of
  pings do not show in a call;
- all that can be done with a mock, and the agreement of whole runs.

Does not own: the ways in which expectations of pings show (`Queue.Pings`).
-/

namespace ScriptedSql

namespace Mock

/-- What is left of a mock without the expectations of pings. -/
def withoutPings (mock : Mock) : Mock :=
  { mock with queue := mock.queue.withoutPings }

/-- Expectations of pings show in the answer to another call. -/
def PingsShow (mock : Mock) (call : Call) : Prop :=
  mock.closed = false ∧ mock.queue.PingsShow mock.config.converter call

/-- Expectations of pings do not show in any call among events. -/
def PingsHidden (mock : Mock) : List Event → Prop
  | [] => True
  | event :: rest =>
    (∀ call, event = .call call → ¬ mock.PingsShow call) ∧ (mock.after event).PingsHidden rest

/-- A call that is no ping is refused by both mocks, or resolved alike. -/
theorem resolve_of_hidden {mock : Mock} {call : Call} (noPing : call.kind ≠ .ping)
    (hidden : ¬ mock.PingsShow call) (isOpen : mock.closed = false) :
    (∃ rejection, mock.queue.resolve mock.config.converter call = .error rejection ∧
      mock.withoutPings.queue.resolve mock.config.converter call = .error rejection) ∨
    ∃ (slot : Fin mock.queue.length) (left : Fin mock.withoutPings.queue.length),
      mock.taker? call = some slot ∧ mock.withoutPings.taker? call = some left ∧
        left.val = mock.queue.rank slot ∧
        mock.withoutPings.queue.get left = mock.queue.get slot ∧
        (mock.queue.fulfil slot).withoutPings = mock.withoutPings.queue.fulfil left := by
  have hiddenThere : ¬ mock.queue.PingsShow mock.config.converter call :=
    fun shows => hidden ⟨isOpen, shows⟩
  have same := Queue.verdict_withoutPings_of_hidden noPing hiddenThere
  cases resolved : mock.queue.resolve mock.config.converter call with
  | error rejection =>
      left
      refine ⟨rejection, rfl, ?_⟩
      unfold Queue.verdict at same
      rw [resolved] at same
      show mock.queue.withoutPings.resolve mock.config.converter call = _
      cases resolvedLeft : mock.queue.withoutPings.resolve mock.config.converter call with
      | error other =>
          rw [resolvedLeft] at same
          cases same
          rfl
      | ok left =>
          rw [resolvedLeft] at same
          cases same
  | ok slot =>
      right
      obtain ⟨left, resolvedLeft, atRank, sameTaker⟩ :=
        Queue.resolve_withoutPings noPing same resolved
      have isOther : (mock.queue.get slot).isPing = false :=
        Expectation.not_isPing_of_accepts noPing (Queue.candidate_of_resolve resolved).accepts
      refine ⟨slot, left, taker?_eq_some_iff.mpr ⟨isOpen, resolved⟩,
        taker?_eq_some_iff.mpr ⟨isOpen, resolvedLeft⟩, atRank, sameTaker, ?_⟩
      unfold Queue.fulfil
      rw [atRank]
      refine Queue.withoutPings_modify ?_ ?_
      · exact fun _ => rfl
      · intro expectation found
        rw [List.getElem?_eq_getElem slot.isLt] at found
        cases found
        exact isOther

end Mock

namespace Exchange

variable {α β : Type} {mock : Mock}

/-- An exchange has the same answer on the mock that is left, and leaves what is left of the
mock. -/
def Agrees (exchange : Exchange α) (mock : Mock) : Prop :=
  exchange mock.withoutPings = ((exchange mock).1, (exchange mock).2.withoutPings)

private theorem agrees_bind {exchange : Exchange α} {next : α → Exchange β}
    (first : exchange.Agrees mock)
    (second : ∀ value, (exchange mock).1 = .ok value → (next value).Agrees (exchange mock).2) :
    (exchange >>= next).Agrees mock := by
  unfold Agrees at first ⊢
  rw [bind_apply, bind_apply, first]
  rcases outcome : exchange mock with ⟨error | value, after⟩
  · rfl
  · rw [outcome] at second
    exact second value rfl

private theorem agrees_const (answer : Except Error α) (mock : Mock) :
    Agrees (ExceptT.mk (pure answer) : Exchange α) mock :=
  rfl

private theorem answer_of_other {kind : CallKind} (noPrepare : kind ≠ .prepare)
    (expectation : Expectation) (slot other : Nat) (call : Call) (mock after : Mock) :
    expectation.answer slot call kind mock =
      ((expectation.answer other call kind after).1, mock) := by
  cases kind with
  | query =>
      unfold Expectation.answer
      cases expectation.rows <;> rfl
  | exec =>
      unfold Expectation.answer
      cases expectation.result <;> rfl
  | prepare => contradiction
  | _ => rfl

/-- Both mocks answer a call with the same error, or leave the answer to the same
expectation. -/
theorem dispatch_of_hidden {kind : CallKind} (noPing : kind ≠ .ping) {sql : Option String}
    {arguments : List Argument} (hidden : ¬ mock.PingsShow ⟨kind, sql, arguments⟩) :
    (∃ error after, dispatch kind sql arguments mock = (.error error, after) ∧
      dispatch kind sql arguments mock.withoutPings = (.error error, after.withoutPings)) ∨
    ∃ (expectation : Expectation) (slot : Nat) (after : Mock),
      dispatch kind sql arguments mock =
        expectation.answer slot ⟨kind, sql, arguments⟩ kind after ∧
      dispatch kind sql arguments mock.withoutPings =
        expectation.answer (mock.queue.rank slot) ⟨kind, sql, arguments⟩ kind
          after.withoutPings := by
  by_cases closed : mock.closed = true
  · left
    have closedLeft : mock.withoutPings.closed = true := closed
    exact ⟨_, mock, dispatch_of_closed closed, dispatch_of_closed closedLeft⟩
  · have isOpen := Bool.eq_false_iff.mpr closed
    have openLeft : mock.withoutPings.closed = false := isOpen
    rcases Mock.resolve_of_hidden noPing hidden isOpen with
      ⟨rejection, rejected, rejectedLeft⟩ |
      ⟨slot, left, taken, takenLeft, atRank, sameTaker, fulfilled⟩
    · left
      exact ⟨_, mock, dispatch_of_rejected isOpen rejected,
        dispatch_of_rejected openLeft rejectedLeft⟩
    · have after : Mock.withoutPings { mock with queue := mock.queue.fulfil slot } =
          { mock.withoutPings with queue := mock.withoutPings.queue.fulfil left } := by
        rw [← fulfilled]
        rfl
      cases configured : (mock.queue.get slot).error with
      | some error =>
          left
          refine ⟨error, _, dispatch_of_failing taken configured, ?_⟩
          rw [dispatch_of_failing takenLeft (sameTaker ▸ configured), after]
      | none =>
          right
          refine ⟨mock.queue.get slot, slot, _, dispatch_of_answering taken configured, ?_⟩
          rw [dispatch_of_answering takenLeft (sameTaker ▸ configured), after, sameTaker, atRank]

/-- As long as expectations of pings do not show in a call, its answer does not depend on them.
Prepares are left out, since their answer names a slot. -/
theorem dispatch_agrees {kind : CallKind} (noPing : kind ≠ .ping) (noPrepare : kind ≠ .prepare)
    {sql : Option String} {arguments : List Argument}
    (hidden : ¬ mock.PingsShow ⟨kind, sql, arguments⟩) :
    (dispatch kind sql arguments).Agrees mock := by
  unfold Agrees
  rcases dispatch_of_hidden noPing hidden with
    ⟨error, after, failed, failedLeft⟩ | ⟨expectation, slot, after, answered, answeredLeft⟩
  · rw [failed, failedLeft]
  · rw [answered, answeredLeft, answer_of_other noPrepare expectation slot slot _ after after,
      answer_of_other noPrepare expectation _ slot _ after.withoutPings after]

/-- A statement is handed out under the same id, and belongs to the same expectation. -/
theorem prepare_agrees {sql : String} (hidden : ¬ mock.PingsShow ⟨.prepare, some sql, []⟩) :
    prepare sql mock.withoutPings =
      ((prepare sql mock).1.map fun prepared =>
          { prepared with slot := mock.queue.rank prepared.slot },
        (prepare sql mock).2.withoutPings) := by
  have noPing : CallKind.prepare ≠ .ping := nofun
  unfold prepare
  rcases dispatch_of_hidden noPing hidden with
    ⟨error, after, failed, failedLeft⟩ | ⟨expectation, slot, after, answered, answeredLeft⟩
  · rw [failed, failedLeft]
    rfl
  · rw [answered, answeredLeft]
    rfl

private theorem ping_agrees (off : mock.config.monitorPings = false) : ping.Agrees mock := by
  have offLeft : mock.withoutPings.config.monitorPings = false := off
  have sameClosed : mock.withoutPings.closed = mock.closed := rfl
  cases closed : mock.closed with
  | true =>
      simp [Agrees, ping, off, offLeft, sameClosed, closed]
      rfl
  | false => simp [Agrees, ping, off, offLeft, sameClosed, closed]

private theorem close_agrees (hidden : ¬ mock.PingsShow (.plain .close)) : close.Agrees mock := by
  have closing : (dispatch .close none []).Agrees mock :=
    dispatch_agrees (by decide) (by decide) hidden
  unfold Agrees at closing ⊢
  rw [close_apply, close_apply, closing]
  cases saysClosed (dispatch .close none [] mock).1 <;> rfl

private theorem execute_agrees {sql : String} {parameters : List Value}
    (hidden : ¬ mock.PingsShow ⟨.exec, some sql, Argument.ofValues parameters⟩) :
    (execute sql parameters).Agrees mock :=
  agrees_bind (dispatch_agrees (by decide) (by decide) hidden) fun _ _ => agrees_const _ _

private theorem command_agrees {sql : String} (hidden : ¬ mock.PingsShow (.command sql)) :
    (command sql).Agrees mock :=
  agrees_bind (dispatch_agrees (by decide) (by decide) hidden) fun _ _ => agrees_const _ _

theorem query_agrees {sql : String} {arguments : List Argument}
    (hidden : ¬ mock.PingsShow ⟨.query, some sql, arguments⟩) :
    (query sql arguments).Agrees mock :=
  agrees_bind (dispatch_agrees (by decide) (by decide) hidden) fun _ _ => agrees_const _ _

private theorem batch_agrees {statements : List (String × List Value)}
    (hidden : mock.PingsHidden (Request.batchEvents mock statements)) :
    (batch statements).Agrees mock := by
  induction statements generalizing mock with
  | nil => rfl
  | cons statement rest inductionHypothesis =>
      obtain ⟨sql, parameters⟩ := statement
      unfold Request.batchEvents at hidden
      obtain ⟨hiddenFirst, hiddenRest⟩ := hidden
      have first := execute_state sql parameters mock
      unfold batch
      rw [List.mapM_cons]
      show Agrees (execute sql parameters >>= _) mock
      refine agrees_bind (execute_agrees (hiddenFirst _ rfl)) fun count answered => ?_
      refine agrees_bind (inductionHypothesis ?_) fun _ _ => agrees_const _ _
      rw [← first] at hiddenRest
      rcases outcome : execute sql parameters mock with ⟨answer, after⟩
      rw [outcome] at answered hiddenRest
      cases answered
      exact hiddenRest

end Exchange

namespace Request

/-- A request is answered alike by the mock that is left. -/
theorem exchange_agrees (request : Request) {mock : Mock}
    (off : mock.config.monitorPings = false) (hidden : mock.PingsHidden (request.events mock)) :
    request.exchange.Agrees mock := by
  have wrapped {α : Type} {exchange : Exchange α} (agrees : exchange.Agrees mock)
      (wrap : α → Outcome) : (exchange >>= fun value => pure (wrap value)).Agrees mock :=
    Exchange.agrees_bind agrees fun _ _ => Exchange.agrees_const _ _
  cases request with
  | replay sql arguments => exact wrapped (Exchange.query_agrees (hidden.1 _ rfl)) _
  | exec sql arguments =>
      exact wrapped (Exchange.dispatch_agrees (by decide) (by decide) (hidden.1 _ rfl)) _
  | begin => exact wrapped (Exchange.dispatch_agrees (by decide) (by decide) (hidden.1 _ rfl)) _
  | commit => exact wrapped (Exchange.dispatch_agrees (by decide) (by decide) (hidden.1 _ rfl)) _
  | rollback => exact wrapped (Exchange.dispatch_agrees (by decide) (by decide) (hidden.1 _ rfl)) _
  | ping => exact wrapped (Exchange.ping_agrees off) _
  | close => exact wrapped (Exchange.close_agrees (hidden.1 _ rfl)) _
  | fetch sql parameters =>
      refine wrapped (Exchange.agrees_bind (Exchange.query_agrees (hidden.1 _ rfl)) ?_) _
      exact fun _ _ => Exchange.agrees_const _ _
  | fetchFirst sql parameters =>
      refine wrapped (Exchange.agrees_bind (Exchange.query_agrees (hidden.1 _ rfl)) ?_) _
      exact fun _ _ => Exchange.agrees_const _ _
  | execute sql parameters => exact wrapped (Exchange.execute_agrees (hidden.1 _ rfl)) _
  | insert sql parameters =>
      refine wrapped (Exchange.agrees_bind
        (Exchange.dispatch_agrees (by decide) (by decide) (hidden.1 _ rfl)) ?_) _
      exact fun _ _ => Exchange.agrees_const _ _
  | batch statements => exact wrapped (Exchange.batch_agrees hidden) _
  | savepoint name => exact wrapped (Exchange.command_agrees (hidden.1 _ rfl)) _
  | rollbackTo name => exact wrapped (Exchange.command_agrees (hidden.1 _ rfl)) _
  | release name => exact wrapped (Exchange.command_agrees (hidden.1 _ rfl)) _

end Request

end ScriptedSql
