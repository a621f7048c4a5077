import ScriptedSql.Proofs.Mock.Dispatch

/-!
Contract: runs of a mock.

Owns:
- all that can happen to a mock, as events, and runs of events;
- the expectations that a run fulfils, in the order in which calls are accepted;
- the cases of what one event does to the queue, from which the laws about runs are
  derived, and the principle by which a law about one event becomes one about runs;
- what builder calls leave alone, and what of a mock no event changes.

Does not own: the events that a step of a program stands for (`Session.Visit`).
-/

namespace ScriptedSql

inductive Event where
  | setOrdered (ordered : Bool)
  | declare (kind : CallKind) (sql : Option SqlMatcher)
  | follow (slot : Nat) (kind : CallKind)
  | adjust (slot : Nat) (adjustments : List Adjustment)
  | call (call : Call)
  | closeStatement (slot : Nat)
  | shutDown

namespace Event

/-- Declarations and builder calls write the script, all other events play it. -/
def isScripting : Event → Bool
  | .declare _ _ => true
  | .follow _ _ => true
  | .adjust _ _ => true
  | _ => false

end Event

namespace Mock

def after (mock : Mock) : Event → Mock
  | .setOrdered ordered => mock.setOrdered ordered
  | .declare kind sql => mock.declare kind sql
  | .follow slot kind => mock.follow slot kind
  | .adjust slot adjustments => (mock.adjust slot adjustments).1
  | .call call => (Exchange.dispatch call.kind call.sql call.arguments mock).2
  | .closeStatement slot => (mock.closeStatement slot).1
  | .shutDown => { mock with closed := true }

def run (mock : Mock) : List Event → Mock
  | [] => mock
  | event :: rest => (mock.after event).run rest

/-- The slot of the expectation that an event fulfils. Only a call fulfils one, and only
if the mock accepts it. -/
def taken? (mock : Mock) : Event → Option Nat
  | .call call => (mock.taker? call).map (·.val)
  | _ => none

/-- The slots that events fulfil, one for each accepted call. -/
def taken (mock : Mock) : List Event → List Nat
  | [] => []
  | event :: rest => (mock.taken? event).toList ++ (mock.after event).taken rest

@[simp]
theorem run_append (mock : Mock) (first second : List Event) :
    mock.run (first ++ second) = (mock.run first).run second := by
  induction first generalizing mock with
  | nil => rfl
  | cons event rest inductionHypothesis => exact inductionHypothesis (mock.after event)

/-- A law of a mock together with the slots taken so far, which single events keep, is
kept by runs of such events. -/
theorem run_keeps (Law : Mock → List Nat → Prop) (allowed : Event → Prop)
    (kept : ∀ (mock : Mock) (taken : List Nat) (event : Event), allowed event →
      Law mock taken → Law (mock.after event) (taken ++ (mock.taken? event).toList))
    {events : List Event} (allAllowed : ∀ event ∈ events, allowed event) {mock : Mock}
    {taken : List Nat} (holds : Law mock taken) :
    Law (mock.run events) (taken ++ mock.taken events) := by
  induction events generalizing mock taken with
  | nil =>
      rw [Mock.taken, List.append_nil]
      exact holds
  | cons event rest inductionHypothesis =>
      obtain ⟨eventAllowed, restAllowed⟩ := List.forall_mem_cons.mp allAllowed
      rw [Mock.taken, ← List.append_assoc]
      exact inductionHypothesis restAllowed (kept mock taken event eventAllowed holds)

end Mock

/-! ## Builder calls -/

namespace Adjustment

/-- The parts of an expectation that builder calls leave alone. -/
structure Untouched (earlier later : Expectation) : Prop where
  kind : later.kind = earlier.kind
  sql : later.sql = earlier.sql
  ordered : later.ordered = earlier.ordered
  fulfilled : later.fulfilled = earlier.fulfilled
  wasClosed : later.wasClosed = earlier.wasClosed

theorem Untouched.trans {first second third : Expectation} (before : Untouched first second)
    (behind : Untouched second third) : Untouched first third where
  kind := behind.kind.trans before.kind
  sql := behind.sql.trans before.sql
  ordered := behind.ordered.trans before.ordered
  fulfilled := behind.fulfilled.trans before.fulfilled
  wasClosed := behind.wasClosed.trans before.wasClosed

theorem eq_of_rows {expectation changed : Expectation} {plan : ResultSetPlan}
    (applied : (rows plan).apply expectation = .ok changed) :
    ∃ set, changed = { expectation with rows := some set } := by
  unfold apply at applied
  cases built : plan.build with
  | error error =>
      simp only [built] at applied
      contradiction
  | ok set =>
      simp only [built] at applied
      cases applied
      exact ⟨set, rfl⟩

private theorem apply_untouched {expectation changed : Expectation} {adjustment : Adjustment}
    (applied : adjustment.apply expectation = .ok changed) : Untouched expectation changed := by
  cases adjustment with
  | rows plan =>
      obtain ⟨set, rfl⟩ := eq_of_rows applied
      exact ⟨rfl, rfl, rfl, rfl, rfl⟩
  | _ =>
      cases applied
      exact ⟨rfl, rfl, rfl, rfl, rfl⟩

/-- A law that every builder call keeps is kept by builder calls in order, also when one of
them fails. -/
theorem applyAll_keeps (Law : Expectation → Prop)
    (kept : ∀ {expectation changed : Expectation} {adjustment : Adjustment},
      adjustment.apply expectation = .ok changed → Law expectation → Law changed)
    {expectation : Expectation} (holds : Law expectation) (adjustments : List Adjustment) :
    Law (applyAll expectation adjustments).1 := by
  induction adjustments generalizing expectation with
  | nil => exact holds
  | cons adjustment rest inductionHypothesis =>
      unfold applyAll
      cases applied : adjustment.apply expectation with
      | error error => exact holds
      | ok changed => exact inductionHypothesis (kept applied holds)

/-- However far a chain of builder calls gets, it leaves those parts alone. -/
theorem applyAll_untouched (expectation : Expectation) (adjustments : List Adjustment) :
    Untouched expectation (applyAll expectation adjustments).1 := by
  have nothingYet : Untouched expectation expectation := ⟨rfl, rfl, rfl, rfl, rfl⟩
  refine applyAll_keeps (Untouched expectation) ?_ nothingYet adjustments
  intro before changed adjustment applied soFar
  exact soFar.trans (apply_untouched applied)

end Adjustment

namespace Mock

/-- Builder calls change the expectation at one slot, and nothing else. -/
@[simp]
theorem adjust_state (mock : Mock) (slot : Nat) (adjustments : List Adjustment) :
    (mock.adjust slot adjustments).1 =
      { mock with
        queue := mock.queue.modify slot fun expectation =>
          (Adjustment.applyAll expectation adjustments).1 } := by
  unfold adjust
  cases found : mock.queue[slot]? with
  | none =>
      have beyond := List.getElem?_eq_none_iff.mp found
      rw [List.modify_eq_self beyond]
  | some expectation =>
      have edited : mock.queue.set slot (Adjustment.applyAll expectation adjustments).1 =
          mock.queue.modify slot fun expectation =>
            (Adjustment.applyAll expectation adjustments).1 := by
        apply List.ext_getElem?
        intro index
        rw [List.getElem?_modify, List.getElem?_set]
        by_cases same : slot = index
        · subst same
          obtain ⟨within, isThere⟩ := List.getElem?_eq_some_iff.mp found
          simp [within, isThere]
        · simp [same]
      rw [← edited]

/-- The closing of a statement is noted at the slot of its expectation, whatever the answer. -/
@[simp]
theorem closeStatement_state (mock : Mock) (slot : Nat) :
    (mock.closeStatement slot).1 =
      { mock with
        queue := mock.queue.modify slot fun expectation =>
          { expectation with wasClosed := true } } := by
  unfold closeStatement
  cases found : mock.queue[slot]? with
  | none =>
      have beyond := List.getElem?_eq_none_iff.mp found
      rw [List.modify_eq_self beyond]
  | some expectation => rfl

end Mock

/-! ## The cases of an event -/

/-- What an event does to the queue of a mock. -/
inductive QueueChange (mock : Mock) (event : Event) : Queue → Prop where
  | kept (untaken : mock.taken? event = none) : QueueChange mock event mock.queue
  | declared (kind : CallKind) (sql : Option SqlMatcher)
      (scripting : event.isScripting = true) (untaken : mock.taken? event = none) :
      QueueChange mock event (mock.queue ++ [.fresh kind sql mock.ordered])
  | adjusted (slot : Nat) (adjustments : List Adjustment)
      (scripting : event.isScripting = true) (untaken : mock.taken? event = none) :
      QueueChange mock event
        (mock.queue.modify slot fun expectation =>
          (Adjustment.applyAll expectation adjustments).1)
  | fulfilled (slot : Fin mock.queue.length) (call : Call)
      (candidate : mock.queue.Candidate mock.config.converter call slot)
      (taken : mock.taken? event = some slot.val) :
      QueueChange mock event (mock.queue.fulfil slot)
  | statementClosed (slot : Nat) (untaken : mock.taken? event = none) :
      QueueChange mock event
        (mock.queue.modify slot fun expectation => { expectation with wasClosed := true })

namespace Mock

/-- All that the laws about the queue know of an event. -/
theorem after_queueChange (mock : Mock) (event : Event) :
    QueueChange mock event (mock.after event).queue := by
  cases event with
  | setOrdered ordered => exact .kept rfl
  | declare kind sql => exact .declared kind sql rfl rfl
  | follow slot kind => exact .declared kind _ rfl rfl
  | adjust slot adjustments =>
      rw [after, adjust_state]
      exact .adjusted slot adjustments rfl rfl
  | call call =>
      rw [after]
      cases taker : mock.taker? call with
      | none =>
          rw [Exchange.dispatch_state_of_none taker]
          exact .kept (by rw [taken?, taker]; rfl)
      | some slot =>
          obtain ⟨next, state⟩ := Exchange.dispatch_state_of_some taker
          rw [state]
          have resolved := (taker?_eq_some_iff.mp taker).2
          have taken : mock.taken? (.call call) = some slot.val := by
            rw [taken?, taker]
            rfl
          exact .fulfilled slot call (Queue.candidate_of_resolve resolved) taken
  | closeStatement slot =>
      rw [after, closeStatement_state]
      exact .statementClosed slot rfl
  | shutDown => exact .kept rfl

/-- An event changes neither the DSN nor the options, and never opens a closed mock. -/
theorem after_frame (mock : Mock) (event : Event) :
    (mock.after event).dsn = mock.dsn ∧ (mock.after event).config = mock.config ∧
      (mock.closed = true → (mock.after event).closed = true) := by
  cases event with
  | adjust slot adjustments =>
      rw [after, adjust_state]
      exact ⟨rfl, rfl, id⟩
  | call call =>
      rw [after]
      cases taker : mock.taker? call with
      | none =>
          rw [Exchange.dispatch_state_of_none taker]
          exact ⟨rfl, rfl, id⟩
      | some slot =>
          obtain ⟨next, state⟩ := Exchange.dispatch_state_of_some taker
          rw [state]
          exact ⟨rfl, rfl, id⟩
  | closeStatement slot =>
      rw [after, closeStatement_state]
      exact ⟨rfl, rfl, id⟩
  | shutDown => exact ⟨rfl, rfl, fun _ => rfl⟩
  | _ => exact ⟨rfl, rfl, id⟩

/-- No event changes the name or the options of a mock. -/
theorem run_frame (mock : Mock) (events : List Event) :
    (mock.run events).dsn = mock.dsn ∧ (mock.run events).config = mock.config := by
  induction events generalizing mock with
  | nil => exact ⟨rfl, rfl⟩
  | cons event rest inductionHypothesis =>
      obtain ⟨sameDsn, sameConfig, -⟩ := mock.after_frame event
      obtain ⟨restDsn, restConfig⟩ := inductionHypothesis (mock.after event)
      exact ⟨restDsn.trans sameDsn, restConfig.trans sameConfig⟩

/-- No event opens a closed mock. -/
theorem run_closed {mock : Mock} (closed : mock.closed = true) (events : List Event) :
    (mock.run events).closed = true := by
  induction events generalizing mock with
  | nil => exact closed
  | cons event rest inductionHypothesis =>
      exact inductionHypothesis ((mock.after_frame event).2.2 closed)

/-- A closed mock accepts no call. -/
theorem taken_of_closed {mock : Mock} (closed : mock.closed = true) (events : List Event) :
    mock.taken events = [] := by
  induction events generalizing mock with
  | nil => rfl
  | cons event rest inductionHypothesis =>
      have untaken : mock.taken? event = none := by
        cases event with
        | call call => rw [taken?, taker?_eq_none_of_closed closed]; rfl
        | _ => rfl
      rw [taken, untaken, inductionHypothesis ((mock.after_frame event).2.2 closed)]
      rfl

end Mock

end ScriptedSql
