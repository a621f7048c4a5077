import Mathlib.Data.List.Induction
import ScriptedSql.Proofs.Session.Fulfilment
import ScriptedSql.Proofs.Session.Operations

/-!
Contract: the prepared statements of a run of a program.

Owns:
- what has occurred in a run;
- where statements come from: each one held was made by a prepare, which the expectation
  at its slot took;
- the closing of statements: an expectation is marked exactly if the statement that was
  made from it has been closed.

Does not own: what an expectation owes that is not marked (`Session.Verification`).
-/

namespace ScriptedSql

namespace Mock

private theorem after_wasClosed_of_other (mock : Mock) {event : Event}
    (other : ∀ index, event ≠ .closeStatement index) (slot : Nat) :
    (mock.after event).queue.holdsAt (·.wasClosed) slot =
      mock.queue.holdsAt (·.wasClosed) slot := by
  cases event with
  | setOrdered ordered => rfl
  | declare kind sql => exact Queue.holdsAt_append_of_fails rfl _ _
  | follow index kind => exact Queue.holdsAt_append_of_fails rfl _ _
  | adjust index adjustments =>
      rw [after, adjust_state]
      exact Queue.holdsAt_modify_of_same
        (fun expectation => (Adjustment.applyAll_untouched expectation adjustments).wasClosed) _ _ _
  | call call =>
      rw [after]
      cases taker : mock.taker? call with
      | none => rw [Exchange.dispatch_state_of_none taker]
      | some taken =>
          obtain ⟨next, state⟩ := Exchange.dispatch_state_of_some taker
          rw [state]
          exact Queue.holdsAt_fulfil_of_same (fun _ => rfl) _ _ _
  | closeStatement index => exact absurd rfl (other index)
  | shutDown => rfl

/-- Only the closing of a statement sets a mark, and only at its slot. -/
theorem after_wasClosed_iff (mock : Mock) (event : Event) {slot : Nat} :
    (mock.after event).queue.holdsAt (·.wasClosed) slot = true ↔
      mock.queue.holdsAt (·.wasClosed) slot = true ∨
        event = .closeStatement slot ∧ slot < mock.queue.length := by
  by_cases closing : ∃ index, event = .closeStatement index
  · obtain ⟨index, rfl⟩ := closing
    rw [after, closeStatement_state]
    show Queue.holdsAt _ _ _ = true ↔ _
    rw [Queue.holdsAt_modify]
    unfold Queue.holdsAt
    by_cases here : index = slot
    · subst here
      cases found : mock.queue[index]? with
      | none => simp [List.getElem?_eq_none_iff.mp found]
      | some expectation => simp [(List.getElem?_eq_some_iff.mp found).1]
    · simp [here]
  · have other := not_exists.mp closing
    rw [mock.after_wasClosed_of_other other slot]
    exact ⟨.inl, fun marked => marked.resolve_right fun isClosing => other slot isClosing.1⟩

private theorem wasClosed_of_run {mock : Mock} {events : List Event} {slot : Nat}
    (marked : (mock.run events).queue.holdsAt (·.wasClosed) slot = true) :
    mock.queue.holdsAt (·.wasClosed) slot = true ∨ .closeStatement slot ∈ events := by
  induction events generalizing mock with
  | nil => exact .inl marked
  | cons event rest inductionHypothesis =>
      rcases inductionHypothesis marked with before | inRest
      · rcases (mock.after_wasClosed_iff event).mp before with already | ⟨closing, -⟩
        · exact .inl already
        · exact .inr (closing ▸ List.mem_cons_self)
      · exact .inr (List.mem_cons_of_mem event inRest)

end Mock

namespace Session

/-! ## Occurrences -/

/-- Something happened at a step of a run from the beginning, given the steps before. -/
def Occurred (happens : List Step → Step → Prop) (steps : List Step) : Prop :=
  ∃ before step later, steps = before ++ step :: later ∧ happens before step

theorem occurred_concat_iff {happens : List Step → Step → Prop} {steps : List Step}
    {step : Step} :
    Occurred happens (steps ++ [step]) ↔ Occurred happens steps ∨ happens steps step := by
  constructor
  · rintro ⟨before, other, later, split, happened⟩
    rcases List.eq_nil_or_concat later with rfl | ⟨between, last, rfl⟩
    · obtain ⟨rfl, rfl⟩ := List.append_singleton_inj.mp split
      exact .inr happened
    · rw [List.concat_eq_append, ← List.cons_append, ← List.append_assoc] at split
      obtain ⟨rfl, -⟩ := List.append_singleton_inj.mp split
      exact .inl ⟨before, other, between, rfl, happened⟩
  · rintro (⟨before, other, later, rfl, happened⟩ | happened)
    · exact ⟨before, other, later ++ [step], by simp, happened⟩
    · exact ⟨steps, step, [], rfl, happened⟩

theorem run_concat (session : Session) (steps : List Step) (step : Step) :
    session.run (steps ++ [step]) = ((session.run steps).step step).1 :=
  session.run_append steps [step]

/-! ## The origin of statements -/

/-- What a step does to the statements that are held. -/
inductive StatementChange (session : Session) (step : Step) : Table Statement → Prop where
  | kept : StatementChange session step session.statements
  | removed (name : String) : StatementChange session step (session.statements.remove name)
  | made (connection name : String) (statement : Statement)
      (prepares : step = .prepare connection statement.sql name)
      (connected : session.connections.get? connection = some statement.mock)
      (answered : (Exchange.prepare statement.sql (session.world.mockAt statement.mock)).1 =
        .ok statement.prepared)
      (taken : session.taken statement.mock [step] = [statement.prepared.slot]) :
      StatementChange session step (session.statements.put name statement)

private theorem require_statementChange {α : Type} {session : Session} {step : Step}
    {table : Table α}
    {name : String} {use : α → Session × Answer}
    (changes : ∀ handle, table.get? name = some handle →
      StatementChange session step (use handle).1.statements) :
    StatementChange session step (session.require table name use).1.statements :=
  require_holds (StatementChange session step ·.statements) .kept changes

/-- A prepare brings one call to the mock of its connection, and none to others. -/
theorem eventsAt_of_prepares {session : Session} {step : Step} {connection sql : String}
    (prepares : step.prepares? = some (connection, sql)) (id : MockId) :
    session.eventsAt step id =
      if session.connections.get? connection = some id then [.call ⟨.prepare, some sql, []⟩]
      else [] := by
  have visits : session.visits step = session.connections.through connection fun id =>
      [⟨id, [.call ⟨.prepare, some sql, []⟩]⟩] := by
    cases step with
    | prepare connection sql asStatement =>
        cases prepares
        rfl
    | prepareText connection sql asPrepared =>
        cases prepares
        rfl
    | _ => contradiction
  rw [eventsAt, visits, Table.through]
  cases session.connections.get? connection with
  | none => rfl
  | some other => simp

private theorem prepare_statementChange {session : Session} {connection : String} {id : MockId}
    (connected : session.connections.get? connection = some id) (sql asStatement : String) :
    StatementChange session (.prepare connection sql asStatement)
      (session.prepare id sql asStatement).1.statements := by
  have events : session.eventsAt (.prepare connection sql asStatement) id =
      [.call ⟨.prepare, some sql, []⟩] := by
    rw [eventsAt_of_prepares rfl, if_pos connected]
  unfold Session.prepare
  cases handedOut : Exchange.prepare sql (session.world.mockAt id) with
  | mk answer after =>
      have exchanged : session.exchange id (Exchange.prepare sql) =
          (answer, { session with world := session.world.restore id after }) := by
        simp [exchange, World.exchange, handedOut]
      rw [exchanged]
      cases answer with
      | error error => exact .kept
      | ok prepared =>
          refine .made connection asStatement ⟨id, sql, prepared⟩ rfl connected ?_ ?_
          · show (Exchange.prepare sql (session.world.mockAt id)).1 = _
            rw [handedOut]
          · simp [Session.taken, events, Mock.taken, Mock.taken?,
              Exchange.taker_of_prepare handedOut]

/-- All that the history of statements knows of a step. -/
theorem step_statementChange (session : Session) (step : Step) :
    StatementChange session step (session.step step).1.statements := by
  have ofLeft {step : Step} (isLeft : step.altersStatements = false) :
      StatementChange session step (session.step step).1.statements := by
    rw [(session.step_leaves step).statements isLeft]
    exact .kept
  cases step with
  | drop kind name =>
      cases kind with
      | statement => exact require_statementChange fun _ _ => .removed name
      | _ => exact ofLeft rfl
  | prepare connection sql asStatement =>
      exact require_statementChange fun id connected => prepare_statementChange connected sql _
  | closeStatement name => exact require_statementChange fun _ _ => .removed name
  | _ => exact ofLeft rfl

/-- A step makes a statement: it prepares the text of the statement through a connection to
its mock, and the expectation at its slot takes the call. -/
def Makes (statement : Statement) (before : List Step) (step : Step) : Prop :=
  ∃ connection name, step = .prepare connection statement.sql name ∧
    (empty.run before).connections.get? connection = some statement.mock ∧
    (empty.run before).taken statement.mock [step] = [statement.prepared.slot]

/-- Every statement that is held comes from a step of the run that prepared it. -/
theorem statement_origin {steps : List Step} {name : String} {statement : Statement}
    (found : (empty.run steps).statements.get? name = some statement) :
    Occurred (fun before step =>
      Makes statement before step ∧
        (Exchange.prepare statement.sql ((empty.run before).world.mockAt statement.mock)).1 =
          .ok statement.prepared) steps := by
  induction steps using List.reverseRecOn generalizing name with
  | nil => contradiction
  | append_singleton steps step inductionHypothesis =>
      rw [occurred_concat_iff]
      rw [run_concat] at found
      have change := (empty.run steps).step_statementChange step
      generalize ((empty.run steps).step step).1.statements = statements at change found
      cases change with
      | kept => exact .inl (inductionHypothesis found)
      | removed other => exact .inl (inductionHypothesis (Table.of_get?_remove found))
      | made connection other made prepares connected answered taken =>
          obtain ⟨-, rfl⟩ | before := Table.of_get?_put found
          · exact .inr ⟨⟨connection, other, prepares, connected, taken⟩, answered⟩
          · exact .inl (inductionHypothesis before)

/-- Every statement that is held was made in the run. -/
theorem statement_made {steps : List Step} {name : String} {statement : Statement}
    (found : (empty.run steps).statements.get? name = some statement) :
    Occurred (Makes statement) steps := by
  obtain ⟨before, step, later, split, makes, -⟩ := statement_origin found
  exact ⟨before, step, later, split, makes⟩

/-- The expectation that a statement was made from is fulfilled from then on. -/
theorem fulfilled_of_made {steps : List Step} {statement : Statement}
    (made : Occurred (Makes statement) steps) :
    ((empty.run steps).world.mockAt statement.mock).queue.holdsAt (·.fulfilled)
      statement.prepared.slot = true := by
  obtain ⟨before, step, later, rfl, connection, name, -, -, taken⟩ := made
  have ledger := (run_orderly (before ++ step :: later) statement.mock).ledger
  rw [← ledger.fulfilled, List.append_cons, taken_append, taken_append, taken]
  simp

/-! ## The closing of statements -/

/-- A step closes the statement that was made from the expectation at a slot of a mock. -/
def Closes (id : MockId) (slot : Nat) (before : List Step) (step : Step) : Prop :=
  ∃ name statement, step = .closeStatement name ∧
    (empty.run before).statements.get? name = some statement ∧
    statement.mock = id ∧ statement.prepared.slot = slot ∧ Occurred (Makes statement) before

/-- Nothing but the closing of a statement brings the event to a mock. -/
theorem closing_of_mem_eventsAt {session : Session} {step : Step} {id : MockId} {slot : Nat}
    (isThere : .closeStatement slot ∈ session.eventsAt step id) :
    ∃ name statement, step = .closeStatement name ∧
      session.statements.get? name = some statement ∧
      statement.mock = id ∧ statement.prepared.slot = slot := by
  obtain ⟨visit, isVisit, here, isEvent⟩ := mem_eventsAt_iff.mp isThere
  have elsewhere {α : Type} {table : Table α} {name : String} {use : α → List Visit}
      (without : ∀ handle, ∀ visit ∈ use handle, .closeStatement slot ∉ visit.events)
      (isVisit : visit ∈ table.through name use) : False :=
    Table.forall_mem_through without visit isVisit isEvent
  by_cases calling : step.isCalling = true
  · have eventCalling := session.visits_calling calling visit isVisit _ isEvent
    contradiction
  · cases step with
    | closeStatement name =>
        obtain ⟨statement, found, isVisit⟩ := Table.mem_through_iff.mp isVisit
        cases List.mem_singleton.mp isVisit
        cases List.mem_singleton.mp isEvent
        exact ⟨name, statement, rfl, found, here, rfl⟩
    | setOrdered mock ordered => exact (elsewhere (by simp) isVisit).elim
    | expect mock kind sql adjustments asExpectation =>
        refine (elsewhere (fun handle => ?_) isVisit).elim
        cases sql.mapM (session.world.mockAt handle).compile with
        | error error => simp
        | ok matcher => simp [declareVisit]
    | follow expectation kind adjustments asExpectation =>
        exact (elsewhere (by simp [declareVisit]) isVisit).elim
    | adjust expectation adjustments => exact (elsewhere (by simp) isVisit).elim
    | _ => exact absurd rfl calling

private theorem eventsAt_closeStatement {session : Session} {name : String} {statement : Statement}
    (found : session.statements.get? name = some statement) :
    session.eventsAt (.closeStatement name) statement.mock =
      [.closeStatement statement.prepared.slot] := by
  have visits : session.visits (.closeStatement name) =
      [⟨statement.mock, [.closeStatement statement.prepared.slot]⟩] := by
    rw [Session.visits, Table.through, found]
  rw [eventsAt, visits, List.flatMap_singleton, if_pos rfl]

theorem created_of_holdsAt {session : Session} {id : MockId} {test : Expectation → Bool}
    {slot : Nat} (holds : (session.world.mockAt id).queue.holdsAt test slot = true) :
    id < session.world.mocks.length := by
  apply Nat.lt_of_not_le
  intro uncreated
  rw [World.mockAt_of_uncreated uncreated] at holds
  contradiction

/-- An expectation is marked exactly if the statement that was made from it has been
closed. -/
theorem wasClosed_iff_occurred (steps : List Step) (id : MockId) (slot : Nat) :
    ((empty.run steps).world.mockAt id).queue.holdsAt (·.wasClosed) slot = true ↔
      Occurred (Closes id slot) steps := by
  constructor
  · intro marked
    induction steps using List.reverseRecOn with
    | nil => contradiction
    | append_singleton steps step inductionHypothesis =>
        rw [occurred_concat_iff]
        rw [run_concat] at marked
        -- The last step has set the mark, or it was there before.
        by_cases created : id < (empty.run steps).world.mocks.length
        · rw [step_mockAt created] at marked
          rcases Mock.wasClosed_of_run marked with already | closing
          · exact .inl (inductionHypothesis already)
          · obtain ⟨name, statement, isStep, found, sameMock, sameSlot⟩ :=
              closing_of_mem_eventsAt closing
            exact .inr ⟨name, statement, isStep, found, sameMock, sameSlot,
              statement_made found⟩
        · rw [step_queue_of_uncreated (Nat.not_lt.mp created)] at marked
          contradiction
  · rintro ⟨before, step, later, rfl, name, statement, rfl, found, rfl, rfl, made⟩
    -- The slot of the statement is one of the queue, since a call has fulfilled it.
    have fulfilled := fulfilled_of_made made
    have closed : (((empty.run before).step (.closeStatement name)).1.world.mockAt
        statement.mock).queue.holdsAt (·.wasClosed) statement.prepared.slot = true := by
      rw [step_mockAt (created_of_holdsAt fulfilled), eventsAt_closeStatement found]
      exact (Mock.after_wasClosed_iff _ _).mpr (.inr ⟨rfl, Queue.lt_length_of_holdsAt fulfilled⟩)
    rw [List.append_cons, run_append, run_concat]
    exact Queue.Advances.wasClosedAt (run_advances _ later statement.mock) closed

end Session

end ScriptedSql
