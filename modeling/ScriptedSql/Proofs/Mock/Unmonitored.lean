import ScriptedSql.Proofs.Mock.Pings

/-!
Contract: runs of a mock that does not monitor pings.

Owns:
- deeds: all that is done with a mock, by declarations, builder calls, driver calls and the
  closing of statements;
- the run in which the expectations of pings are left out, and its agreement with the whole
  run for as long as they do not show in a call.

Does not own: what is done with many mocks (`Session.Run`).
-/

namespace ScriptedSql

/-- Something that is done with a mock. A declaration that follows another one brings the
pattern of that along. -/
inductive Deed where
  | setOrdered (ordered : Bool)
  | declare (kind : CallKind) (sql : Option SqlMatcher)
  | adjust (slot : Nat) (adjustments : List Adjustment)
  | request (request : Request)
  | openCursor (sql : String) (arguments : List Argument)
  | prepare (sql : String)
  | closeStatement (slot : Nat)

inductive Reply where
  | outcome (outcome : Outcome)
  | cursor (cursor : Cursor)

namespace Mock

def carryOut (mock : Mock) : Deed → Except Error Reply × Mock
  | .setOrdered ordered => (.ok (.outcome .unit), mock.setOrdered ordered)
  | .declare kind sql => (.ok (.outcome .unit), mock.declare kind sql)
  | .adjust slot adjustments =>
    ((mock.adjust slot adjustments).2.map fun _ => .outcome .unit, (mock.adjust slot adjustments).1)
  | .request request => ((request.exchange mock).1.map .outcome, (request.exchange mock).2)
  | .openCursor sql arguments =>
    ((Exchange.query sql arguments mock).1.map .cursor, (Exchange.query sql arguments mock).2)
  | .prepare sql =>
    ((Exchange.prepare sql mock).1.map fun prepared => .outcome (.prepared ⟨prepared.id, sql⟩),
      (Exchange.prepare sql mock).2)
  | .closeStatement slot =>
    ((mock.closeStatement slot).2.map fun _ => .outcome .unit, (mock.closeStatement slot).1)

def eventsOf (mock : Mock) : Deed → List Event
  | .setOrdered ordered => [.setOrdered ordered]
  | .declare kind sql => [.declare kind sql]
  | .adjust slot adjustments => [.adjust slot adjustments]
  | .request request => request.events mock
  | .openCursor sql arguments => [.call ⟨.query, some sql, arguments⟩]
  | .prepare sql => [.call ⟨.prepare, some sql, []⟩]
  | .closeStatement slot => [.closeStatement slot]

/-- The deed that is left when expectations of pings are left out: none for the declaration of
such an expectation and for what is done to it, and at another slot for what is done to
others. -/
def leaveOut (mock : Mock) : Deed → Option Deed
  | .declare kind sql => if kind = .ping then none else some (.declare kind sql)
  | .adjust slot adjustments =>
    if mock.queue[slot]?.any (·.isPing) then none
    else some (.adjust (mock.queue.rank slot) adjustments)
  | .closeStatement slot =>
    if mock.queue[slot]?.any (·.isPing) then none else some (.closeStatement (mock.queue.rank slot))
  | deed => some deed

def perform (mock : Mock) : List Deed → Mock
  | [] => mock
  | deed :: rest => (mock.carryOut deed).2.perform rest

def answers (mock : Mock) : List Deed → List (Except Error Reply)
  | [] => []
  | deed :: rest => (mock.carryOut deed).1 :: (mock.carryOut deed).2.answers rest

/-- The deeds of a run that are left when expectations of pings are left out. -/
def leftDeeds (mock : Mock) : List Deed → List Deed
  | [] => []
  | deed :: rest => (mock.leaveOut deed).toList ++ (mock.carryOut deed).2.leftDeeds rest

/-- The answers in the whole run to the deeds that would be left. -/
def leftAnswers (mock : Mock) : List Deed → List (Except Error Reply)
  | [] => []
  | deed :: rest =>
    (if (mock.leaveOut deed).isSome then [(mock.carryOut deed).1] else []) ++
      (mock.carryOut deed).2.leftAnswers rest

/-- In no call of a run do expectations of pings show. -/
def PingsStayHidden (mock : Mock) : List Deed → Prop
  | [] => True
  | deed :: rest =>
    mock.PingsHidden (mock.eventsOf deed) ∧ (mock.carryOut deed).2.PingsStayHidden rest

/-! ## Single deeds -/

private theorem adjust_isPing (adjustments : List Adjustment) (expectation : Expectation) :
    (Adjustment.applyAll expectation adjustments).1.isPing = expectation.isPing := by
  rw [Expectation.isPing, (Adjustment.applyAll_untouched expectation adjustments).kind,
    Expectation.isPing]

private theorem adjust_answer (mock : Mock) (slot : Nat) (adjustments : List Adjustment) :
    (mock.adjust slot adjustments).2 =
      mock.queue[slot]?.elim (.ok ()) fun expectation =>
        (Adjustment.applyAll expectation adjustments).2 := by
  unfold adjust
  cases mock.queue[slot]? <;> rfl

private theorem closeStatement_answer (mock : Mock) (slot : Nat) :
    (mock.closeStatement slot).2 =
      mock.queue[slot]?.elim (.ok ()) fun expectation =>
        expectation.closeError.elim (.ok ()) .error := by
  unfold closeStatement
  cases mock.queue[slot]? with
  | none => rfl
  | some expectation => cases configured : expectation.closeError <;> simp [configured]

private theorem carryOut_state (mock : Mock) (deed : Deed) :
    (mock.carryOut deed).2 = mock.run (mock.eventsOf deed) := by
  cases deed with
  | request request => exact request.exchange_state mock
  | openCursor sql arguments => exact Exchange.query_state sql arguments mock
  | _ => rfl

private theorem withoutPings_change_of_ping {mock : Mock} {slot : Nat}
    (isPing : mock.queue[slot]?.any (·.isPing) = true) {change : Expectation → Expectation}
    (same : ∀ expectation, (change expectation).isPing = expectation.isPing) :
    withoutPings { mock with queue := mock.queue.modify slot change } = mock.withoutPings := by
  unfold withoutPings
  rw [Queue.withoutPings_modify_of_ping same ((Option.any_eq_true _ _).mp isPing)]

private theorem withoutPings_change {mock : Mock} {slot : Nat}
    (isOther : ¬ mock.queue[slot]?.any (·.isPing) = true) {change : Expectation → Expectation}
    (same : ∀ expectation, (change expectation).isPing = expectation.isPing) :
    mock.withoutPings.queue[mock.queue.rank slot]? = mock.queue[slot]? ∧
      withoutPings { mock with queue := mock.queue.modify slot change } =
        { mock.withoutPings with
          queue := mock.withoutPings.queue.modify (mock.queue.rank slot) change } := by
  have others : ∀ expectation, mock.queue[slot]? = some expectation →
      expectation.isPing = false := by
    intro expectation found
    rw [found, Option.any_some] at isOther
    exact Bool.eq_false_iff.mpr isOther
  refine ⟨Queue.getElem?_rank others, ?_⟩
  unfold withoutPings
  rw [Queue.withoutPings_modify same others]

private theorem carryOut_of_left_out {mock : Mock} {deed : Deed}
    (leftOut : mock.leaveOut deed = none) :
    (mock.carryOut deed).2.withoutPings = mock.withoutPings := by
  cases deed with
  | declare kind sql =>
      rw [leaveOut] at leftOut
      by_cases isPing : kind = .ping
      · subst isPing
        simp [carryOut, declare, withoutPings, Queue.withoutPings, Expectation.isPing,
          Expectation.fresh]
      · rw [if_neg isPing] at leftOut
        contradiction
  | adjust slot adjustments =>
      rw [leaveOut] at leftOut
      by_cases isPing : mock.queue[slot]?.any (·.isPing) = true
      · rw [carryOut, adjust_state]
        exact withoutPings_change_of_ping isPing (adjust_isPing adjustments)
      · rw [if_neg isPing] at leftOut
        contradiction
  | closeStatement slot =>
      rw [leaveOut] at leftOut
      by_cases isPing : mock.queue[slot]?.any (·.isPing) = true
      · rw [carryOut, closeStatement_state]
        refine withoutPings_change_of_ping isPing ?_
        exact fun _ => rfl
      · rw [if_neg isPing] at leftOut
        contradiction
  | _ => contradiction

private theorem carryOut_of_left {mock : Mock} {deed left : Deed}
    (off : mock.config.monitorPings = false) (hidden : mock.PingsHidden (mock.eventsOf deed))
    (isLeft : mock.leaveOut deed = some left) :
    mock.withoutPings.carryOut left =
      ((mock.carryOut deed).1, (mock.carryOut deed).2.withoutPings) := by
  cases deed with
  | setOrdered ordered =>
      cases isLeft
      rfl
  | declare kind sql =>
      rw [leaveOut] at isLeft
      by_cases isPing : kind = .ping
      · rw [if_pos isPing] at isLeft
        contradiction
      · rw [if_neg isPing] at isLeft
        cases isLeft
        simp [carryOut, declare, withoutPings, Queue.withoutPings, Expectation.isPing,
          Expectation.fresh, isPing]
  | adjust slot adjustments =>
      rw [leaveOut] at isLeft
      by_cases isPing : mock.queue[slot]?.any (·.isPing) = true
      · rw [if_pos isPing] at isLeft
        contradiction
      · rw [if_neg isPing] at isLeft
        cases isLeft
        obtain ⟨sameThere, changed⟩ := withoutPings_change isPing (adjust_isPing adjustments)
        simp [carryOut, adjust_answer, sameThere, changed]
  | request request =>
      cases isLeft
      have agrees : request.exchange mock.withoutPings = _ := request.exchange_agrees off hidden
      simp only [carryOut, agrees]
  | openCursor sql arguments =>
      cases isLeft
      have agrees : Exchange.query sql arguments mock.withoutPings = _ :=
        Exchange.query_agrees (hidden.1 _ rfl)
      simp only [carryOut, agrees]
  | prepare sql =>
      cases isLeft
      have agrees := Exchange.prepare_agrees (hidden.1 _ rfl)
      simp only [carryOut, agrees]
      cases (Exchange.prepare sql mock).1 <;> rfl
  | closeStatement slot =>
      rw [leaveOut] at isLeft
      by_cases isPing : mock.queue[slot]?.any (·.isPing) = true
      · rw [if_pos isPing] at isLeft
        contradiction
      · rw [if_neg isPing] at isLeft
        cases isLeft
        have same (expectation : Expectation) :
            Expectation.isPing { expectation with wasClosed := true } = expectation.isPing := rfl
        obtain ⟨sameThere, changed⟩ := withoutPings_change isPing same
        simp [carryOut, closeStatement_answer, sameThere, changed]

/-! ## Runs -/

private theorem run_of_hidden {mock : Mock} (off : mock.config.monitorPings = false)
    {deeds : List Deed} (hidden : mock.PingsStayHidden deeds) :
    mock.withoutPings.answers (mock.leftDeeds deeds) = mock.leftAnswers deeds ∧
      mock.withoutPings.perform (mock.leftDeeds deeds) = (mock.perform deeds).withoutPings := by
  induction deeds generalizing mock with
  | nil => exact ⟨rfl, rfl⟩
  | cons deed rest inductionHypothesis =>
      obtain ⟨hiddenFirst, hiddenRest⟩ := hidden
      have stillOff : (mock.carryOut deed).2.config.monitorPings = false := by
        rw [carryOut_state, (mock.run_frame _).2, off]
      obtain ⟨restAnswers, restState⟩ := inductionHypothesis stillOff hiddenRest
      unfold leftDeeds leftAnswers
      cases isLeft : mock.leaveOut deed with
      | none =>
          rw [carryOut_of_left_out isLeft] at restAnswers restState
          exact ⟨restAnswers, restState⟩
      | some left =>
          have agrees := carryOut_of_left off hiddenFirst isLeft
          constructor
          · show (mock.withoutPings.carryOut left).1 ::
                (mock.withoutPings.carryOut left).2.answers _ = _
            rw [agrees]
            exact congrArg (List.cons _) restAnswers
          · show (mock.withoutPings.carryOut left).2.perform _ = _
            rw [agrees]
            exact restState

/-- For every mock that does not monitor pings and everything that is done with it: as long as
expectations of pings do not show in a call, all is answered as if they had never been
declared. They show in a call exactly if it goes to another expectation than without them, or
is rejected for another reason. -/
theorem unmonitored_pings_show_only_as_told (dsn : String) (config : Config)
    (deeds : List Deed) :
    let mock := Mock.start dsn { config with monitorPings := false }
    let now := mock.perform deeds
    (mock.PingsStayHidden deeds →
      mock.answers (mock.leftDeeds deeds) = mock.leftAnswers deeds ∧
        mock.perform (mock.leftDeeds deeds) = now.withoutPings) ∧
    ∀ call : Call, call.kind ≠ .ping →
      (now.withoutPings.queue.verdict now.config.converter call =
          now.queue.verdict now.config.converter call ↔
        ¬ now.queue.PingsShow now.config.converter call) := by
  intro mock now
  constructor
  · intro hidden
    exact run_of_hidden rfl hidden
  · intro call noPing
    exact Queue.verdict_withoutPings_iff noPing now.queue

/-- An unordered expectation of a ping does not show in a call that another one accepts. -/
theorem unordered_ping_stays_hidden :
    let mock := Mock.start "sqlmock_db_0" { Config.standard with monitorPings := false }
    let deeds : List Deed := [.setOrdered false, .declare .ping none, .request .ping,
      .declare .begin none, .request .begin]
    mock.answers (mock.leftDeeds deeds) = mock.leftAnswers deeds := by
  intro mock deeds
  have hidden : mock.PingsStayHidden deeds := by
    refine ⟨⟨nofun, trivial⟩, ⟨nofun, trivial⟩, trivial, ⟨nofun, trivial⟩, ⟨?_, trivial⟩, trivial⟩
    rintro call ⟨⟩ ⟨-, shows⟩
    have noPing : (Call.plain .begin).kind ≠ .ping := nofun
    exact (Queue.verdict_withoutPings_iff noPing _).mp rfl shows
  exact ((unmonitored_pings_show_only_as_told "sqlmock_db_0" Config.standard deeds).1 hidden).1

/-- An ordered expectation of a ping keeps a begin from the expectation that was declared
next, though pings are not monitored. -/
theorem ordered_ping_holds_back_begin :
    let mock := Mock.start "sqlmock_db_0" Config.standard
    let deeds : List Deed := [.declare .ping none, .declare .begin none, .request .begin]
    mock.config.monitorPings = false ∧
      (mock.answers (mock.leftDeeds deeds)).map (·.isOk) = [true, true] ∧
      (mock.leftAnswers deeds).map (·.isOk) = [true, false] ∧
      mock.answers (mock.leftDeeds deeds) ≠ mock.leftAnswers deeds := by
  refine ⟨rfl, rfl, rfl, fun same => ?_⟩
  have sameSuccess := congrArg (List.map (·.isOk)) same
  contradiction

end Mock

end ScriptedSql
