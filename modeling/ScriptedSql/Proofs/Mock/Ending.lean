import Mathlib.Logic.ExistsUnique
import ScriptedSql.Proofs.Mock.Dispatch

/-!
Contract: how a call ends.

Owns:
- the three ways in which a call can end, each with its condition, its answer and the
  mock that it leaves;
- guarded exchanges: a dispatch that looks the expectation up again by its index before it
  answers, with a response of which the kind is left open, and callers that look at the
  kind;
- the agreement: every call ends in exactly one of the ways, and no guard ever finds the
  breach that it looks for.

Does not own: which expectation the queue chooses (`Queue.Resolution`).
-/

namespace ScriptedSql

namespace Expectation

/-- What an expectation has for a call of a kind, errors aside. `next` is the id that a
prepare is given. -/
def outcome? (expectation : Expectation) (slot next : Nat) :
    (kind : CallKind) → Option kind.Outcome
  | .query => expectation.rows
  | .exec => expectation.result
  | .prepare => some ⟨next, slot⟩
  | .begin => some ()
  | .commit => some ()
  | .rollback => some ()
  | .ping => some ()
  | .close => some ()

/-- A query without rows and an exec without a result; nothing else can be missing. -/
def lacksOutcome (expectation : Expectation) (kind : CallKind) : Prop :=
  kind = .query ∧ expectation.rows = none ∨ kind = .exec ∧ expectation.result = none

/-- How an expectation answers a call that it takes: with its error as it stands, else
with what it has for the kind of the call. -/
structure Answers (expectation : Expectation) (slot next : Nat) (call : Call)
    (kind : CallKind) (answer : Except Error kind.Outcome) : Prop where
  failing : ∀ error, expectation.error = some error → answer = .error error
  answering : expectation.error = none →
    ∀ outcome, expectation.outcome? slot next kind = some outcome → answer = .ok outcome
  missing : expectation.error = none →
    (expectation.lacksOutcome kind ↔
      ∃ what hint, answer = .error (call.missingOutcome what hint))

end Expectation

/-- A way in which a call can end. -/
inductive Ending (mock : Mock) where
  | refused
  | rejected (rejection : Rejection)
  | taken (slot : Fin mock.queue.length)

namespace Ending

variable {mock : Mock}

/-- A call ends in a way: the condition of the way is met, and so are what it says about
the answer and about the mock afterwards. -/
def Describes (kind : CallKind) (sql : Option String) (arguments : List Argument)
    (answer : Except Error kind.Outcome) (after : Mock) : Ending mock → Prop
  | .refused =>
    mock.closed = true ∧
      answer = .error (mock.closedCall ⟨kind, sql, arguments⟩) ∧
      (mock.closedCall ⟨kind, sql, arguments⟩).mockFault? = some .closed ∧
      after = mock
  | .rejected rejection =>
    mock.closed = false ∧
      (mock.queue.settle mock.config.converter ⟨kind, sql, arguments⟩).1 = .error rejection ∧
      answer = .error (rejection.toError ⟨kind, sql, arguments⟩) ∧
      after = mock
  | .taken slot =>
    mock.closed = false ∧
      (mock.queue.settle mock.config.converter ⟨kind, sql, arguments⟩).1 = .ok slot ∧
      (mock.queue.get slot).Answers slot mock.nextStatement ⟨kind, sql, arguments⟩ kind answer ∧
      after =
        { mock with
          queue := mock.queue.set slot { mock.queue.get slot with fulfilled := true }
          nextStatement :=
            mock.nextStatement + if kind = .prepare ∧ answer.isOk = true then 1 else 0 }

end Ending

namespace Queue

private theorem settle_outcome (converter : Converter) (call : Call) (queue : Queue) :
    (queue.settle converter call).1 = queue.resolve converter call := by
  unfold settle
  split <;> rename_i resolved <;> exact resolved.symm

/-- The index of an expectation is still one of the queue when it was fulfilled. -/
theorem getElem?_fulfil (queue : Queue) (slot : Fin queue.length) :
    (queue.fulfil slot)[slot.val]? = some { queue.get slot with fulfilled := true } := by
  rw [fulfil_eq_set, List.getElem?_set_self slot.isLt]

end Queue

/-! ## Guarded exchanges -/

/-- What a call hands back that was taken, its kind left open. -/
inductive Response where
  | rows (set : ResultSet)
  | report (result : ExecResult)
  | prepared (statement : Prepared)
  | done

namespace Response

def ofOutcome : (kind : CallKind) → kind.Outcome → Response
  | .query, set => .rows set
  | .exec, result => .report result
  | .prepare, statement => .prepared statement
  | .begin, _ => .done
  | .commit, _ => .done
  | .rollback, _ => .done
  | .ping, _ => .done
  | .close, _ => .done

end Response

/-- What a guard looks for: an index under which the queue has no expectation, or a
response that is none to its operation. -/
inductive Breach where
  | vanished (slot : Nat) (call : Call)
  | unexpected (operation : String) (response : Response)

/-- An exchange that stops when it finds a breach. -/
abbrev Guarded := ExceptT (Error ⊕ Breach) (StateM Mock)

namespace Expectation

def respond (expectation : Expectation) (slot : Nat) (call : Call) : Guarded Response :=
  match call.kind with
  | .query =>
    match expectation.rows with
    | some rows => pure (.rows rows)
    | none => throw (.inl (call.missingOutcome "rows" "will_return_rows"))
  | .exec =>
    match expectation.result with
    | some result => pure (.report result)
    | none => throw (.inl (call.missingOutcome "result" "will_return_result"))
  | .prepare => do
    let mock ← get
    set { mock with nextStatement := mock.nextStatement + 1 }
    return .prepared ⟨mock.nextStatement, slot⟩
  | .begin => pure .done
  | .commit => pure .done
  | .rollback => pure .done
  | .ping => pure .done
  | .close => pure .done

end Expectation

namespace Guarded

variable {α β : Type}

/-- Resolve a call, look up by its index the expectation that was found, and answer. -/
def dispatch (call : Call) : Guarded Response := do
  let mock ← get
  if mock.closed then
    throw (.inl (mock.closedCall call))
  else
    match mock.queue.settle mock.config.converter call with
    | (.error rejection, _) => throw (.inl (rejection.toError call))
    | (.ok slot, queue) =>
      set { mock with queue := queue }
      match queue[slot.val]? with
      | none => throw (.inr (.vanished slot call))
      | some expectation =>
        match expectation.error with
        | some error => throw (.inl error)
        | none => expectation.respond slot call

def query (operation sql : String) (arguments : List Argument) : Guarded Cursor := do
  match ← dispatch ⟨.query, some sql, arguments⟩ with
  | .rows set => return .ofSet set
  | other => throw (.inr (.unexpected operation other))

def exec (operation sql : String) (arguments : List Argument) : Guarded ExecResult := do
  match ← dispatch ⟨.exec, some sql, arguments⟩ with
  | .report result => return result
  | other => throw (.inr (.unexpected operation other))

def prepare (operation sql : String) : Guarded Prepared := do
  match ← dispatch ⟨.prepare, some sql, []⟩ with
  | .prepared statement => return statement
  | other => throw (.inr (.unexpected operation other))

/-- An exchange as guards see it that have found nothing. -/
def ofExchange (exchange : Exchange α) : Guarded α := fun mock =>
  ((exchange mock).1.mapError .inl, (exchange mock).2)

/-- The guards of an exchange find no breach, and without them it comes to the same. -/
structure Unfounded (guarded : Guarded α) (exchange : Exchange α) (mock : Mock) : Prop where
  agrees : guarded mock = ofExchange exchange mock
  noBreach : ∀ breach, (guarded mock).1 ≠ .error (.inr breach)

private theorem ofExchange_noBreach (exchange : Exchange α) (mock : Mock) (breach : Breach) :
    (ofExchange exchange mock).1 ≠ .error (.inr breach) := by
  unfold ofExchange
  cases (exchange mock).1 with
  | ok value => exact nofun
  | error error => exact nofun

private theorem unfounded_of_agrees {guarded : Guarded α} {exchange : Exchange α} {mock : Mock}
    (agrees : guarded mock = ofExchange exchange mock) : guarded.Unfounded exchange mock where
  agrees := agrees
  noBreach breach := by
    rw [agrees]
    exact ofExchange_noBreach exchange mock breach

end Guarded

namespace Exchange

private theorem answer_answers {expectation : Expectation} (honest : expectation.error = none)
    (slot : Nat) (call : Call) (kind : CallKind) (mock : Mock) :
    expectation.Answers slot mock.nextStatement call kind
      (expectation.answer slot call kind mock).1 where
  failing error configured := by
    rw [honest] at configured
    contradiction
  answering _ outcome found := by
    cases kind with
    | query =>
        have rows : expectation.rows = some outcome := found
        rw [Expectation.answer, rows]
        rfl
    | exec =>
        have result : expectation.result = some outcome := found
        rw [Expectation.answer, result]
        rfl
    | _ =>
        cases found
        rfl
  missing _ := by
    cases kind with
    | query =>
        cases rows : expectation.rows with
        | none =>
            refine iff_of_true (.inl ⟨rfl, rows⟩) ⟨"rows", "will_return_rows", ?_⟩
            rw [Expectation.answer, rows]
            rfl
        | some set =>
            refine iff_of_false (by simp [Expectation.lacksOutcome, rows]) ?_
            rw [Expectation.answer, rows]
            rintro ⟨what, hint, failed⟩
            contradiction
    | exec =>
        cases result : expectation.result with
        | none =>
            refine iff_of_true (.inr ⟨rfl, result⟩) ⟨"result", "will_return_result", ?_⟩
            rw [Expectation.answer, result]
            rfl
        | some report =>
            refine iff_of_false (by simp [Expectation.lacksOutcome, result]) ?_
            rw [Expectation.answer, result]
            rintro ⟨what, hint, failed⟩
            contradiction
    | _ =>
        refine iff_of_false (by simp [Expectation.lacksOutcome]) ?_
        rintro ⟨what, hint, failed⟩
        contradiction

/-- Only a prepare uses up a statement id, and nothing else changes. -/
theorem answer_counts (expectation : Expectation) (slot : Nat) (call : Call) (kind : CallKind)
    (mock : Mock) :
    (expectation.answer slot call kind mock).2 =
      { mock with
        nextStatement := mock.nextStatement +
          if kind = .prepare ∧ (expectation.answer slot call kind mock).1.isOk = true
          then 1 else 0 } := by
  cases kind with
  | query => unfold Expectation.answer; cases expectation.rows <;> rfl
  | exec => unfold Expectation.answer; cases expectation.result <;> rfl
  | _ => rfl

/-- Every call ends in a way that describes it. -/
theorem dispatch_described (mock : Mock) (kind : CallKind) (sql : Option String)
    (arguments : List Argument) :
    ∃ ending : Ending mock,
      ending.Describes kind sql arguments (dispatch kind sql arguments mock).1
        (dispatch kind sql arguments mock).2 := by
  by_cases closed : mock.closed = true
  · refine ⟨.refused, closed, ?_, rfl, ?_⟩
    · rw [dispatch_of_closed closed]
    · rw [dispatch_of_closed closed]
  · have isOpen := Bool.eq_false_iff.mpr closed
    cases resolved : mock.queue.resolve mock.config.converter ⟨kind, sql, arguments⟩ with
    | error rejection =>
        refine ⟨.rejected rejection, isOpen, ?_, ?_, ?_⟩
        · rw [Queue.settle_outcome, resolved]
        · rw [dispatch_of_rejected isOpen resolved]
        · rw [dispatch_of_rejected isOpen resolved]
    | ok slot =>
        have taken : mock.taker? ⟨kind, sql, arguments⟩ = some slot :=
          Mock.taker?_eq_some_iff.mpr ⟨isOpen, resolved⟩
        refine ⟨.taken slot, isOpen, ?_, ?_⟩
        · rw [Queue.settle_outcome, resolved]
        · rw [← Queue.fulfil_eq_set]
          cases configured : (mock.queue.get slot).error with
          | some error =>
              rw [dispatch_of_failing taken configured]
              refine ⟨⟨?_, ?_, ?_⟩, ?_⟩
              · intro other sameError
                rw [configured] at sameError
                cases sameError
                rfl
              · intro honest
                rw [configured] at honest
                contradiction
              · intro honest
                rw [configured] at honest
                contradiction
              · have failed : (Except.error error : Except Error kind.Outcome).isOk = false := rfl
                simp [failed]
          | none =>
              rw [dispatch_of_answering taken configured]
              refine ⟨?_, ?_⟩
              · exact answer_answers configured slot _ kind
                  { mock with queue := mock.queue.fulfil slot }
              · exact answer_counts (mock.queue.get slot) slot _ kind
                  { mock with queue := mock.queue.fulfil slot }

end Exchange

namespace Ending

/-- The conditions of the ways exclude each other. -/
theorem eq_of_describes {mock : Mock} {kind : CallKind} {sql : Option String}
    {arguments : List Argument} {answer : Except Error kind.Outcome} {after : Mock}
    {first second : Ending mock} (isFirst : first.Describes kind sql arguments answer after)
    (isSecond : second.Describes kind sql arguments answer after) : first = second := by
  cases first with
  | refused =>
      cases second with
      | refused => rfl
      | _ => exact absurd (isFirst.1.symm.trans isSecond.1) (by decide)
  | rejected rejection =>
      cases second with
      | refused => exact absurd (isFirst.1.symm.trans isSecond.1) (by decide)
      | rejected other =>
          have same := isFirst.2.1.symm.trans isSecond.2.1
          cases same
          rfl
      | taken slot => exact absurd (isFirst.2.1.symm.trans isSecond.2.1) (by simp)
  | taken slot =>
      cases second with
      | refused => exact absurd (isFirst.1.symm.trans isSecond.1) (by decide)
      | rejected rejection => exact absurd (isFirst.2.1.symm.trans isSecond.2.1) (by simp)
      | taken other =>
          have same := isFirst.2.1.symm.trans isSecond.2.1
          cases same
          rfl

end Ending

/-! ## The guards find nothing -/

namespace Guarded

open Exchange (bind_apply get_apply set_apply dispatch_of_closed dispatch_of_rejected
  dispatch_of_failing dispatch_of_answering)

variable {α β : Type}

private theorem ofExchange_map (exchange : Exchange α) (wrap : α → β) (mock : Mock) :
    ofExchange (do return wrap (← exchange)) mock =
      ((exchange mock).1.map wrap |>.mapError .inl, (exchange mock).2) := by
  unfold ofExchange
  rw [bind_apply]
  rcases exchange mock with ⟨_ | _, _⟩ <;> rfl

private theorem respond_agrees (expectation : Expectation) (slot : Nat) (kind : CallKind)
    (sql : Option String) (arguments : List Argument) (mock : Mock) :
    expectation.respond slot ⟨kind, sql, arguments⟩ mock =
      ofExchange
        (do return Response.ofOutcome kind (← expectation.answer slot ⟨kind, sql, arguments⟩ kind))
        mock := by
  rw [ofExchange_map]
  cases kind with
  | query => unfold Expectation.respond Expectation.answer; cases expectation.rows <;> rfl
  | exec => unfold Expectation.respond Expectation.answer; cases expectation.result <;> rfl
  | _ => rfl

/-- The guards of a dispatch are never in need: the index is one of the queue, and what the
expectation answers suits the kind of the call. -/
theorem dispatch_agrees (kind : CallKind) (sql : Option String) (arguments : List Argument)
    (mock : Mock) :
    dispatch ⟨kind, sql, arguments⟩ mock =
      ofExchange (do return Response.ofOutcome kind (← Exchange.dispatch kind sql arguments))
        mock := by
  rw [ofExchange_map]
  unfold dispatch
  simp only [bind_apply, get_apply]
  by_cases closed : mock.closed = true
  · rw [if_pos closed, dispatch_of_closed closed]
    rfl
  · rw [if_neg closed]
    have isOpen := Bool.eq_false_iff.mpr closed
    cases resolved : mock.queue.resolve mock.config.converter ⟨kind, sql, arguments⟩ with
    | error rejection =>
        rw [dispatch_of_rejected isOpen resolved, Queue.settle, resolved]
        rfl
    | ok slot =>
        have taken : mock.taker? ⟨kind, sql, arguments⟩ = some slot :=
          Mock.taker?_eq_some_iff.mpr ⟨isOpen, resolved⟩
        simp only [Queue.settle, resolved, bind_apply, set_apply, Queue.getElem?_fulfil]
        cases configured : (mock.queue.get slot).error with
        | some error =>
            rw [dispatch_of_failing taken configured]
            rfl
        | none =>
            rw [dispatch_of_answering taken configured]
            have responded := respond_agrees (mock.queue.get slot) slot kind sql arguments
              { mock with queue := mock.queue.fulfil slot }
            rw [ofExchange_map] at responded
            exact responded

theorem query_agrees (operation sql : String) (arguments : List Argument) (mock : Mock) :
    query operation sql arguments mock = ofExchange (Exchange.query sql arguments) mock := by
  unfold query Exchange.query
  rw [bind_apply, dispatch_agrees, ofExchange_map, ofExchange_map]
  rcases Exchange.dispatch .query (some sql) arguments mock with ⟨_ | _, _⟩ <;> rfl

private theorem exec_agrees (operation sql : String) (arguments : List Argument) (mock : Mock) :
    exec operation sql arguments mock = ofExchange (Exchange.exec sql arguments) mock := by
  unfold exec Exchange.exec ofExchange
  rw [bind_apply, dispatch_agrees, ofExchange_map]
  rcases Exchange.dispatch .exec (some sql) arguments mock with ⟨_ | _, _⟩ <;> rfl

theorem prepare_agrees (operation sql : String) (mock : Mock) :
    prepare operation sql mock = ofExchange (Exchange.prepare sql) mock := by
  unfold prepare Exchange.prepare ofExchange
  rw [bind_apply, dispatch_agrees, ofExchange_map]
  rcases Exchange.dispatch .prepare (some sql) [] mock with ⟨_ | _, _⟩ <;> rfl

end Guarded

namespace Exchange

/-- For every mock and every call: the call ends in exactly one of the three ways, and the
guards of dispatches, queries, execs and prepares find no breach. -/
theorem dispatch_ends_one_way (mock : Mock) (kind : CallKind) (sql : Option String)
    (arguments : List Argument) :
    (∃! ending : Ending mock,
      ending.Describes kind sql arguments (dispatch kind sql arguments mock).1
        (dispatch kind sql arguments mock).2) ∧
    (Guarded.dispatch ⟨kind, sql, arguments⟩).Unfounded
      (do return Response.ofOutcome kind (← dispatch kind sql arguments)) mock ∧
    ∀ operation text,
      (Guarded.query operation text arguments).Unfounded (query text arguments) mock ∧
      (Guarded.exec operation text arguments).Unfounded (exec text arguments) mock ∧
      (Guarded.prepare operation text).Unfounded (prepare text) mock := by
  refine ⟨?_, ?_, ?_⟩
  · obtain ⟨ending, described⟩ := dispatch_described mock kind sql arguments
    exact ⟨ending, described, fun other isOther => Ending.eq_of_describes isOther described⟩
  · exact Guarded.unfounded_of_agrees (Guarded.dispatch_agrees kind sql arguments mock)
  · intro operation text
    refine ⟨?_, ?_, ?_⟩
    · exact Guarded.unfounded_of_agrees (Guarded.query_agrees operation text arguments mock)
    · exact Guarded.unfounded_of_agrees (Guarded.exec_agrees operation text arguments mock)
    · exact Guarded.unfounded_of_agrees (Guarded.prepare_agrees operation text mock)

end Exchange
end ScriptedSql
