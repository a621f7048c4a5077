import ScriptedSql.Proofs.Mock.Ending
import ScriptedSql.Proofs.Session.Statements

/-!
Contract: what the prepares of a run hand out.

Owns:
- the record of a run: the statements that the prepares on a mock hand out, whichever
  connection and whichever kind of statement they are made for;
- ids: one after the other, and none for a prepare that fails;
- slots: each at most once, of a fulfilled expectation of the kind.

Does not own: what becomes of the statements (`Session.LeftOpen`).
-/

namespace ScriptedSql

namespace Exchange

variable {sql : String} {mock : Mock} {prepared : Prepared}

private theorem prepare_numbers (sql : String) (mock : Mock) :
    (∀ prepared, (prepare sql mock).1 = .ok prepared → prepared.id = mock.nextStatement) ∧
      (prepare sql mock).2.nextStatement =
        mock.nextStatement + (prepare sql mock).1.toOption.toList.length := by
  unfold prepare
  obtain ⟨ending, described⟩ := dispatch_described mock .prepare (some sql) []
  generalize dispatch .prepare (some sql) [] mock = outcome at described ⊢
  obtain ⟨answer, after⟩ := outcome
  cases ending with
  | refused =>
      obtain ⟨-, failed, -, same⟩ := described
      simp only at failed same ⊢
      subst failed same
      exact ⟨nofun, rfl⟩
  | rejected rejection =>
      obtain ⟨-, -, failed, same⟩ := described
      simp only at failed same ⊢
      subst failed same
      exact ⟨nofun, rfl⟩
  | taken slot =>
      obtain ⟨-, -, answers, state⟩ := described
      simp only at answers state ⊢
      subst state
      cases configured : (mock.queue.get slot).error with
      | some error =>
          have failed := answers.failing error configured
          subst failed
          exact ⟨nofun, rfl⟩
      | none =>
          have answered := answers.answering configured _ rfl
          subst answered
          refine ⟨?_, rfl⟩
          rintro prepared ⟨⟩
          rfl

/-- A statement that is handed out names the slot of an expectation that accepts the prepare. -/
theorem acceptor_of_prepare (answered : (prepare sql mock).1 = .ok prepared) :
    ∃ slot : Fin mock.queue.length, slot.val = prepared.slot ∧
      (mock.queue.get slot).accepts mock.config.converter ⟨.prepare, some sql, []⟩ = true := by
  have taker := taker_of_prepare (Prod.ext answered rfl : prepare sql mock = (.ok prepared, _))
  obtain ⟨slot, taken, sameSlot⟩ := Option.map_eq_some_iff.mp taker
  have candidate := Queue.candidate_of_resolve (Mock.taker?_eq_some_iff.mp taken).2
  exact ⟨slot, sameSlot, candidate.accepts⟩

private theorem kindAt_of_prepare (answered : (prepare sql mock).1 = .ok prepared) :
    mock.queue.holdsAt (·.kind == .prepare) prepared.slot = true := by
  obtain ⟨slot, sameSlot, accepts⟩ := acceptor_of_prepare answered
  rw [← sameSlot, Queue.holdsAt_get, beq_iff_eq]
  exact Expectation.kind_of_accepts accepts

end Exchange

namespace Mock

private theorem after_nextStatement (mock : Mock) {event : Event}
    (other : ∀ call, event = .call call → call.kind ≠ .prepare) :
    (mock.after event).nextStatement = mock.nextStatement := by
  cases event with
  | adjust slot adjustments => rw [after, adjust_state]
  | closeStatement slot => rw [after, closeStatement_state]
  | call call =>
      obtain ⟨ending, described⟩ :=
        Exchange.dispatch_described mock call.kind call.sql call.arguments
      have noPrepare := other call rfl
      rw [after]
      cases ending with
      | refused => rw [described.2.2.2]
      | rejected rejection => rw [described.2.2.2]
      | taken slot => simp [described.2.2.2, noPrepare]
  | _ => rfl

theorem run_nextStatement {mock : Mock} {events : List Event}
    (others : ∀ call, .call call ∈ events → call.kind ≠ .prepare) :
    (mock.run events).nextStatement = mock.nextStatement := by
  induction events generalizing mock with
  | nil => rfl
  | cons event rest inductionHypothesis =>
      have restOthers := fun call isThere => others call (List.mem_cons_of_mem event isThere)
      have here := mock.after_nextStatement fun call isCall =>
        others call (isCall ▸ List.mem_cons_self)
      exact (inductionHypothesis restOthers).trans here

end Mock

namespace Session

/-! ## The record of a run -/

/-- What a step gets from the prepare that it makes on a mock, if it makes one. -/
def handedOut? (session : Session) (id : MockId) (step : Step) : Option Prepared :=
  step.prepares?.bind fun (connection, sql) =>
    if session.connections.get? connection = some id then
      (Exchange.prepare sql (session.world.mockAt id)).1.toOption
    else none

/-- All that the prepares of a run on a mock hand out, in the order of the prepares. -/
def handedOut (session : Session) (id : MockId) : List Step → List Prepared
  | [] => []
  | step :: rest => (session.handedOut? id step).toList ++ (session.step step).1.handedOut id rest

@[simp]
private theorem handedOut_append (session : Session) (id : MockId) (before later : List Step) :
    session.handedOut id (before ++ later) =
      session.handedOut id before ++ (session.run before).handedOut id later := by
  induction before generalizing session with
  | nil => rfl
  | cons step rest inductionHypothesis =>
      rw [List.cons_append, handedOut, inductionHypothesis, handedOut, run, List.append_assoc]

theorem handedOut?_of_prepares (session : Session) (id : MockId) {step : Step}
    {connection sql : String} (prepares : step.prepares? = some (connection, sql)) :
    session.handedOut? id step =
      if session.connections.get? connection = some id then
        (Exchange.prepare sql (session.world.mockAt id)).1.toOption
      else none := by
  rw [handedOut?, prepares]
  rfl

theorem handedOut?_eq_some {session : Session} {id : MockId} {step : Step}
    {prepared : Prepared} (found : session.handedOut? id step = some prepared) :
    ∃ connection sql, step.prepares? = some (connection, sql) ∧
      session.connections.get? connection = some id ∧
      (Exchange.prepare sql (session.world.mockAt id)).1 = .ok prepared := by
  obtain ⟨⟨connection, sql⟩, prepares, -⟩ := Option.bind_eq_some_iff.mp found
  refine ⟨connection, sql, prepares, ?_⟩
  rw [session.handedOut?_of_prepares id prepares] at found
  by_cases connected : session.connections.get? connection = some id
  · rw [if_pos connected] at found
    refine ⟨connected, ?_⟩
    cases answer : (Exchange.prepare sql (session.world.mockAt id)).1 with
    | error error =>
        rw [answer] at found
        contradiction
    | ok other =>
        rw [answer] at found
        cases found
        rfl
  · rw [if_neg connected] at found
    contradiction

theorem handedOut?_of_answered {session : Session} {id : MockId} {step : Step}
    {connection sql : String} {prepared : Prepared}
    (prepares : step.prepares? = some (connection, sql))
    (connected : session.connections.get? connection = some id)
    (answered : (Exchange.prepare sql (session.world.mockAt id)).1 = .ok prepared) :
    session.handedOut? id step = some prepared := by
  rw [session.handedOut?_of_prepares id prepares, if_pos connected, answered]
  rfl

theorem step_prepares_answer {session : Session} {id : MockId} {step : Step}
    {connection sql : String} (prepares : step.prepares? = some (connection, sql))
    (connected : session.connections.get? connection = some id) :
    (session.step step).2 =
      .attempt ((Exchange.prepare sql (session.world.mockAt id)).1.map fun prepared =>
        .prepared ⟨prepared.id, sql⟩) := by
  cases step with
  | prepare connection sql asStatement =>
      cases prepares
      simp only [step, withConnection, require_of_some connected, Session.prepare, exchange,
        World.exchange]
      rcases Exchange.prepare sql (session.world.mockAt id) with ⟨_ | _, _⟩ <;> rfl
  | prepareText connection sql asPrepared =>
      cases prepares
      simp only [step, withConnection, require_of_some connected, prepareText, exchange,
        World.exchange]
      rcases Exchange.prepare sql (session.world.mockAt id) with ⟨_ | _, _⟩ <;> rfl
  | _ => contradiction

/-! ## Ids -/

/-- A step uses up one id for the statement that it is handed, and none if it is handed none. -/
theorem step_nextStatement (session : Session) (id : MockId) (step : Step) :
    ((session.step step).1.world.mockAt id).nextStatement =
      (session.world.mockAt id).nextStatement + (session.handedOut? id step).toList.length := by
  by_cases created : id < session.world.mocks.length
  · rw [step_mockAt created]
    cases prepares : step.prepares? with
    | none =>
        rw [handedOut?, prepares]
        apply Mock.run_nextStatement
        intro call isThere toPrepare
        have preparing := prepares_of_mem_eventsAt isThere toPrepare
        rw [prepares] at preparing
        contradiction
    | some prepare =>
        obtain ⟨connection, sql⟩ := prepare
        rw [eventsAt_of_prepares prepares, session.handedOut?_of_prepares id prepares]
        by_cases connected : session.connections.get? connection = some id
        · rw [if_pos connected, if_pos connected]
          exact (Exchange.prepare_numbers sql _).2
        · rw [if_neg connected, if_neg connected]
          rfl
  · -- A mock that is not there refuses the prepare, and a new one counts from the start.
    have uncreated := Nat.not_lt.mp created
    have absent := World.mockAt_of_uncreated uncreated
    have nothing : session.handedOut? id step = none := by
      by_contra something
      obtain ⟨prepared, found⟩ := Option.ne_none_iff_exists'.mp something
      obtain ⟨connection, sql, -, -, answered⟩ := handedOut?_eq_some found
      rw [absent] at answered
      contradiction
    rw [nothing, absent]
    rcases step_mockAt_of_uncreated uncreated step with still | ⟨dsn, config, started⟩
    · rw [still]
      rfl
    · rw [started]
      rfl

theorem run_nextStatement (session : Session) (id : MockId) (steps : List Step) :
    ((session.run steps).world.mockAt id).nextStatement =
      (session.world.mockAt id).nextStatement + (session.handedOut id steps).length := by
  induction steps generalizing session with
  | nil => rfl
  | cons step rest inductionHypothesis =>
      rw [run, inductionHypothesis, step_nextStatement, handedOut, List.length_append]
      omega

/-- The ids that a run hands out follow each other without a gap. -/
theorem handedOut_ids (session : Session) (id : MockId) (steps : List Step) :
    (session.handedOut id steps).map (·.id) =
      List.range' (session.world.mockAt id).nextStatement (session.handedOut id steps).length := by
  induction steps generalizing session with
  | nil => rfl
  | cons step rest inductionHypothesis =>
      have counted := session.step_nextStatement id step
      rw [handedOut, List.map_append, List.length_append, inductionHypothesis, counted]
      cases found : session.handedOut? id step with
      | none => simp
      | some prepared =>
          obtain ⟨connection, sql, -, -, answered⟩ := handedOut?_eq_some found
          have isNext := (Exchange.prepare_numbers sql _).1 prepared answered
          simp [isNext, Nat.add_comm 1, List.range'_succ]

/-! ## Slots -/

private theorem taken_of_handedOut? {session : Session} {id : MockId} {step : Step}
    {prepared : Prepared} (found : session.handedOut? id step = some prepared) :
    session.taken id [step] = [prepared.slot] := by
  obtain ⟨connection, sql, prepares, connected, answered⟩ := handedOut?_eq_some found
  have taker := Exchange.taker_of_prepare
    (Prod.ext answered rfl : Exchange.prepare sql (session.world.mockAt id) = (.ok prepared, _))
  rw [taken, taken, List.append_nil, eventsAt_of_prepares prepares, if_pos connected, Mock.taken,
    Mock.taken, List.append_nil, Mock.taken?, taker]
  rfl

/-- Each statement has a slot of its own: that of the expectation which its prepare fulfilled. -/
theorem handedOut_slots_sublist (session : Session) (id : MockId) (steps : List Step) :
    ((session.handedOut id steps).map (·.slot)).Sublist (session.taken id steps) := by
  induction steps generalizing session with
  | nil => exact List.Sublist.refl []
  | cons step rest inductionHypothesis =>
      have split : session.taken id (step :: rest) =
          session.taken id [step] ++ (session.step step).1.taken id rest :=
        session.taken_append id [step] rest
      rw [split, handedOut, List.map_append]
      refine List.Sublist.append ?_ (inductionHypothesis _)
      cases found : session.handedOut? id step with
      | none => exact List.nil_sublist _
      | some prepared =>
          rw [taken_of_handedOut? found]
          exact List.Sublist.refl _

/-- Every statement comes from an expectation of a prepare. -/
theorem kindAt_of_handedOut {session : Session} {id : MockId} {steps : List Step}
    {prepared : Prepared} (isThere : prepared ∈ session.handedOut id steps) :
    ((session.run steps).world.mockAt id).queue.holdsAt (·.kind == .prepare) prepared.slot
      = true := by
  induction steps generalizing session with
  | nil => contradiction
  | cons step rest inductionHypothesis =>
      rcases List.mem_append.mp isThere with isFirst | isLater
      · obtain ⟨connection, sql, -, -, answered⟩ :=
          handedOut?_eq_some (Option.mem_toList.mp isFirst)
        exact Queue.Advances.kindAt (session.run_advances (step :: rest) id)
          (Exchange.kindAt_of_prepare answered)
      · exact inductionHypothesis isLater

/-- Every statement that is held was handed out by a prepare of the run. -/
theorem statement_handedOut {steps : List Step} {name : String} {statement : Statement}
    (found : (empty.run steps).statements.get? name = some statement) :
    statement.prepared ∈ empty.handedOut statement.mock steps := by
  obtain ⟨before, step, later, rfl, ⟨connection, asStatement, rfl, connected, -⟩, answered⟩ :=
    statement_origin found
  rw [handedOut_append, handedOut, handedOut?_of_answered rfl connected answered]
  simp

end Session

end ScriptedSql
