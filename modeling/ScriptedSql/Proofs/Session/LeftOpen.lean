import ScriptedSql.Proofs.Session.Numbering
import ScriptedSql.Proofs.Session.Verification

/-!
Contract: prepared statements that nobody can close any more.

Owns:
- the statements that are held: each of a fulfilled expectation, no two of the same;
- the ways in which an expectation is fulfilled, or its statement let go, without the
  statement being closed;
- the finality of these: what must be closed is then owed for good.

Does not own: the ids and slots that prepares hand out (`Session.Numbering`).
-/

namespace ScriptedSql

/-! ## Marks -/

private theorem Adjustment.applyAll_mustBeClosed {expectation : Expectation}
    (marked : expectation.mustBeClosed = true) (adjustments : List Adjustment) :
    (applyAll expectation adjustments).1.mustBeClosed = true := by
  refine applyAll_keeps (·.mustBeClosed = true) ?_ marked adjustments
  intro before changed adjustment applied stillMarked
  cases adjustment with
  | rows plan =>
      obtain ⟨set, rfl⟩ := eq_of_rows applied
      exact stillMarked
  | willBeClosed =>
      cases applied
      rfl
  | _ =>
      cases applied
      exact stillMarked

private theorem Mock.after_mustBeClosed {mock : Mock} {slot : Nat}
    (marked : mock.queue.holdsAt (·.mustBeClosed) slot = true) (event : Event) :
    (mock.after event).queue.holdsAt (·.mustBeClosed) slot = true := by
  have change := mock.after_queueChange event
  generalize (mock.after event).queue = queue at change ⊢
  cases change with
  | kept untaken => exact marked
  | declared kind sql scripting untaken =>
      rw [Queue.holdsAt_append_of_lt (Queue.lt_length_of_holdsAt marked)]
      exact marked
  | adjusted index adjustments scripting untaken =>
      refine Queue.holdsAt_modify_of_holds ?_ marked
      exact fun _ stillMarked => Adjustment.applyAll_mustBeClosed stillMarked adjustments
  | fulfilled index call candidate taken =>
      rw [Queue.holdsAt_fulfil_of_same fun _ => rfl]
      exact marked
  | statementClosed index untaken =>
      refine (Queue.holdsAt_modify_of_same ?_ mock.queue index slot).trans marked
      exact fun _ => rfl

namespace Session

private theorem run_mustBeClosed {session : Session} {id : MockId} {slot : Nat}
    (marked : (session.world.mockAt id).queue.holdsAt (·.mustBeClosed) slot = true)
    (steps : List Step) :
    ((session.run steps).world.mockAt id).queue.holdsAt (·.mustBeClosed) slot = true := by
  refine run_keeps (fun mock _ => mock.queue.holdsAt (·.mustBeClosed) slot = true)
    (fun _ => True) ?_ (fun _ _ _ _ _ => trivial) marked
    (fun uncreated => ⟨rfl, ?_⟩)
  · intro mock _ event _ stillMarked
    exact Mock.after_mustBeClosed stillMarked event
  · exact absurd (created_of_holdsAt marked) (Nat.not_lt.mpr uncreated)

/-! ## Statements that are held -/

/-- A name stands for the statement of the expectation at a slot of a mock. -/
def Holds (session : Session) (id : MockId) (slot : Nat) (name : String) : Prop :=
  ∃ statement, session.statements.get? name = some statement ∧
    statement.mock = id ∧ statement.prepared.slot = slot

private theorem fulfilled_of_holds {steps : List Step} {id : MockId} {slot : Nat} {name : String}
    (holds : (empty.run steps).Holds id slot name) :
    ((empty.run steps).world.mockAt id).queue.holdsAt (·.fulfilled) slot = true := by
  obtain ⟨statement, found, rfl, rfl⟩ := holds
  exact fulfilled_of_made (statement_made found)

private theorem pending_of_taken {steps : List Step} {step : Step} {id : MockId} {slot : Nat}
    (taken : slot ∈ (empty.run steps).taken id [step]) :
    ¬ ((empty.run steps).world.mockAt id).queue.holdsAt (·.fulfilled) slot = true := by
  have once := (run_orderly (steps ++ [step]) id).ledger.once
  rw [taken_append] at once
  have apart := (List.nodup_append.mp once).2.2
  rw [← (run_orderly steps id).ledger.fulfilled]
  intro takenBefore
  exact apart slot takenBefore slot taken rfl

/-- A name that stands for a statement after a step did so before, or the step is the prepare
that has made the statement. -/
theorem holds_of_step {session : Session} {step : Step} {id : MockId} {slot : Nat} {name : String}
    (holds : (session.step step).1.Holds id slot name) :
    session.Holds id slot name ∨
      slot ∈ session.taken id [step] ∧ ∃ connection sql prepared,
        step = .prepare connection sql name ∧
          (session.step step).2 = .attempt (.ok (.prepared prepared)) := by
  obtain ⟨statement, found, rfl, rfl⟩ := holds
  have change := session.step_statementChange step
  generalize (session.step step).1.statements = statements at change found
  cases change with
  | kept => exact .inl ⟨statement, found, rfl, rfl⟩
  | removed other => exact .inl ⟨statement, Table.of_get?_remove found, rfl, rfl⟩
  | made connection other made prepares connected answered taken =>
      obtain ⟨rfl, rfl⟩ | before := Table.of_get?_put found
      · subst prepares
        have prepares : (Step.prepare connection made.sql name).prepares? =
            some (connection, made.sql) := rfl
        have answer := step_prepares_answer prepares connected
        rw [answered] at answer
        rw [taken]
        exact .inr ⟨List.mem_cons_self, connection, made.sql, _, rfl, answer⟩
      · exact .inl ⟨statement, before, rfl, rfl⟩

private theorem holds_unique {steps : List Step} {id : MockId} {slot : Nat} {first second : String}
    (isFirst : (empty.run steps).Holds id slot first)
    (isSecond : (empty.run steps).Holds id slot second) : first = second := by
  induction steps using List.reverseRecOn with
  | nil =>
      obtain ⟨statement, found, -, -⟩ := isFirst
      contradiction
  | append_singleton steps step inductionHypothesis =>
      rw [run_concat] at isFirst isSecond
      rcases holds_of_step isFirst with firstBefore | ⟨firstTaken, firstMade⟩
      · rcases holds_of_step isSecond with secondBefore | ⟨secondTaken, -⟩
        · exact inductionHypothesis firstBefore secondBefore
        · exact absurd (fulfilled_of_holds firstBefore) (pending_of_taken secondTaken)
      · rcases holds_of_step isSecond with secondBefore | ⟨-, secondMade⟩
        · exact absurd (fulfilled_of_holds secondBefore) (pending_of_taken firstTaken)
        · obtain ⟨_, _, _, rfl, -⟩ := firstMade
          obtain ⟨_, _, _, same, -⟩ := secondMade
          cases same
          rfl

/-! ## Statements that are gone -/

/-- The expectation at a slot was fulfilled, and nobody holds a statement of it. -/
structure Gone (session : Session) (id : MockId) (slot : Nat) : Prop where
  fulfilled : (session.world.mockAt id).queue.holdsAt (·.fulfilled) slot = true
  unheld : ∀ name, ¬ session.Holds id slot name

private theorem gone_step {steps : List Step} {id : MockId} {slot : Nat}
    (gone : (empty.run steps).Gone id slot) (step : Step) :
    (empty.run (steps ++ [step])).Gone id slot := by
  rw [run_concat]
  constructor
  · exact Queue.Advances.fulfilledAt ((empty.run steps).run_advances [step] id) gone.fulfilled
  · intro name holds
    rcases holds_of_step holds with before | ⟨taken, -⟩
    · exact gone.unheld name before
    · exact pending_of_taken taken gone.fulfilled

private theorem gone_run {steps : List Step} {id : MockId} {slot : Nat}
    (gone : (empty.run steps).Gone id slot) (later : List Step) :
    (empty.run (steps ++ later)).Gone id slot := by
  induction later using List.reverseRecOn with
  | nil =>
      rw [List.append_nil]
      exact gone
  | append_singleton later step inductionHypothesis =>
      rw [← List.append_assoc]
      exact gone_step inductionHypothesis step

private theorem gone_of_letGo {steps : List Step} {step : Step} {id : MockId} {slot : Nat}
    {name : String}
    (holds : (empty.run steps).Holds id slot name)
    (letGo : ¬ ((empty.run steps).step step).1.Holds id slot name) :
    (empty.run (steps ++ [step])).Gone id slot := by
  have fulfilled := fulfilled_of_holds holds
  rw [run_concat]
  constructor
  · exact Queue.Advances.fulfilledAt ((empty.run steps).run_advances [step] id) fulfilled
  · intro other stillHolds
    rcases holds_of_step stillHolds with before | ⟨taken, -⟩
    · -- No other name stands for the statement, so this is the name that was let go.
      have same := holds_unique holds before
      subst same
      exact letGo stillHolds
    · exact pending_of_taken taken fulfilled

private theorem gone_of_closed {steps : List Step} {id : MockId} {slot : Nat}
    (closed : Occurred (Closes id slot) steps) : (empty.run steps).Gone id slot := by
  obtain ⟨before, step, later, rfl, name, statement, rfl, found, rfl, rfl, -⟩ := closed
  rw [List.append_cons]
  refine gone_run (gone_of_letGo ⟨statement, found, rfl, rfl⟩ ?_) later
  rintro ⟨other, stillFound, -, -⟩
  have removed : ((empty.run before).step (.closeStatement name)).1.statements =
      (empty.run before).statements.remove name := by
    simp [step, closeStatement, change, found]
  simp [removed] at stillFound

/-! ## Statements that are left open -/

/-- A step leaves the expectation at a slot of a mock without a statement that could be
closed. -/
inductive LeavesOpen (id : MockId) (slot : Nat) (before : List Step) (step : Step) : Prop where
  /-- A prepared text takes the expectation, and stays without a statement. -/
  | preparedText (connection sql asPrepared : String)
      (isStep : step = .prepareText connection sql asPrepared)
      (connected : (empty.run before).connections.get? connection = some id)
      (taken : slot ∈ (empty.run before).taken id [step])
  /-- A prepare takes the expectation, and is answered with an error. -/
  | failedPrepare (connection sql : String) (error : Error)
      (prepares : step.prepares? = some (connection, sql))
      (connected : (empty.run before).connections.get? connection = some id)
      (taken : slot ∈ (empty.run before).taken id [step])
      (failed : ((empty.run before).step step).2 = .attempt (.error error))
  /-- The name of the statement is dropped, or given to another one. -/
  | letGo (name : String) (holds : (empty.run before).Holds id slot name)
      (without : ¬ ((empty.run before).step step).1.Holds id slot name)
      (unclosed : ∀ statement, step ≠ .closeStatement statement)

variable {id : MockId} {slot : Nat}

private theorem LeavesOpen.not_closeStatement {before : List Step} {step : Step}
    (leaves : LeavesOpen id slot before step) (name : String) : step ≠ .closeStatement name := by
  cases leaves with
  | preparedText connection sql asPrepared isStep connected taken =>
      rw [isStep]
      exact nofun
  | failedPrepare connection sql error prepares connected taken failed =>
      rintro rfl
      contradiction
  | letGo other holds without unclosed => exact unclosed name

private theorem gone_of_taken {before : List Step} {step : Step}
    (taken : slot ∈ (empty.run before).taken id [step])
    (unmade : ∀ connection sql name prepared, step = .prepare connection sql name →
      ((empty.run before).step step).2 ≠ .attempt (.ok (.prepared prepared))) :
    (empty.run (before ++ [step])).Gone id slot := by
  constructor
  · rw [← (run_orderly (before ++ [step]) id).ledger.fulfilled, taken_append]
    exact List.mem_append_right _ taken
  · intro name holds
    rw [run_concat] at holds
    rcases holds_of_step holds with heldBefore | ⟨-, connection, sql, prepared, isStep, answer⟩
    · exact pending_of_taken taken (fulfilled_of_holds heldBefore)
    · exact unmade connection sql name prepared isStep answer

private theorem gone_of_leavesOpen {before : List Step} {step : Step}
    (leaves : LeavesOpen id slot before step) : (empty.run (before ++ [step])).Gone id slot := by
  cases leaves with
  | preparedText connection sql asPrepared isStep connected taken =>
      refine gone_of_taken taken ?_
      rw [isStep]
      exact nofun
  | failedPrepare connection sql error prepares connected taken failed =>
      refine gone_of_taken taken ?_
      rw [failed]
      exact nofun
  | letGo name holds without unclosed => exact gone_of_letGo holds without

/-- Before a step that leaves an expectation open its statement was not closed: there was
none, or it was still held. -/
theorem LeavesOpen.unclosed_before {before : List Step} {step : Step}
    (leaves : LeavesOpen id slot before step) : ¬ Occurred (Closes id slot) before := by
  intro closed
  have gone := gone_of_closed closed
  cases leaves with
  | preparedText connection sql asPrepared isStep connected taken =>
      exact pending_of_taken taken gone.fulfilled
  | failedPrepare connection sql error prepares connected taken failed =>
      exact pending_of_taken taken gone.fulfilled
  | letGo name holds without unclosed => exact gone.unheld name holds

private theorem unclosed_of_leftOpen {steps : List Step}
    (leftOpen : Occurred (LeavesOpen id slot) steps) : ¬ Occurred (Closes id slot) steps := by
  obtain ⟨before, step, later, rfl, leaves⟩ := leftOpen
  rw [List.append_cons]
  induction later using List.reverseRecOn with
  | nil =>
      rw [List.append_nil, occurred_concat_iff]
      rintro (closed | ⟨name, -, isStep, -⟩)
      · exact leaves.unclosed_before closed
      · exact leaves.not_closeStatement name isStep
  | append_singleton later last inductionHypothesis =>
      -- To close it at the last step one would have to hold its statement.
      rw [← List.append_assoc, occurred_concat_iff]
      rintro (closed | ⟨name, statement, -, found, sameMock, sameSlot, -⟩)
      · exact inductionHypothesis closed
      · have gone := gone_run (gone_of_leavesOpen leaves) later
        exact gone.unheld name ⟨statement, found, sameMock, sameSlot⟩

private theorem fulfilled_of_leftOpen {steps : List Step}
    (leftOpen : Occurred (LeavesOpen id slot) steps) :
    ((empty.run steps).world.mockAt id).queue.holdsAt (·.fulfilled) slot = true := by
  obtain ⟨before, step, later, rfl, leaves⟩ := leftOpen
  rw [List.append_cons]
  exact (gone_run (gone_of_leavesOpen leaves) later).fulfilled

private theorem leftOpen_append {steps : List Step} (leftOpen : Occurred (LeavesOpen id slot) steps)
    (later : List Step) : Occurred (LeavesOpen id slot) (steps ++ later) := by
  obtain ⟨before, step, between, rfl, leaves⟩ := leftOpen
  exact ⟨before, step, between ++ later, by simp, leaves⟩

/-- An expectation that must be closed and was left open is in the report of every later
verification, with the note that its statement was not closed. -/
theorem reported_of_leftOpen {steps : List Step}
    (marked : ((empty.run steps).world.mockAt id).queue.holdsAt (·.mustBeClosed) slot = true)
    (leftOpen : Occurred (LeavesOpen id slot) steps) (later : List Step) :
    let mock := (empty.run (steps ++ later)).world.mockAt id
    ∃ (remaining : List Nat) (noted : Nat → Bool),
      mock.verify = .error (mock.queue.report noted remaining) ∧
        slot ∈ remaining ∧ noted slot = true := by
  intro mock
  have stillLeftOpen := leftOpen_append leftOpen later
  have fulfilled : mock.queue.holdsAt (·.fulfilled) slot = true :=
    fulfilled_of_leftOpen stillLeftOpen
  have stillMarked : mock.queue.holdsAt (·.mustBeClosed) slot = true := by
    have lasting := run_mustBeClosed marked later
    rw [← run_append] at lasting
    exact lasting
  have isRemaining : slot ∈ mock.queue.owedSlots := by
    rw [Queue.mem_owedSlots_iff, isOwed_iff]
    exact ⟨Queue.lt_length_of_holdsAt stillMarked,
      .inr ⟨stillMarked, unclosed_of_leftOpen stillLeftOpen⟩⟩
  have someOwed : mock.queue.owedSlots ≠ [] := List.ne_nil_of_mem isRemaining
  exact ⟨mock.queue.owedSlots, fun slot => mock.queue.holdsAt (·.fulfilled) slot,
    (Queue.verify_eq_report fun _ => rfl).trans (if_neg someOwed), isRemaining, fulfilled⟩

/-! ## The account -/

/-- The account of the prepared statements of a mock after a run. -/
structure StatementAccount (steps : List Step) (id : MockId) : Prop where
  ids : (empty.handedOut id steps).map (·.id) = List.range' 1 (empty.handedOut id steps).length
  counter : ((empty.run steps).world.mockAt id).nextStatement =
    1 + (empty.handedOut id steps).length
  /-- Every prepare on the mock is answered with what it hands out, or with an error, and
  then it uses up no id. -/
  answers : ∀ before step later, steps = before ++ step :: later →
    ∀ connection sql, step.prepares? = some (connection, sql) →
      (empty.run before).connections.get? connection = some id →
      (∃ prepared, (empty.run before).handedOut? id step = some prepared ∧
        ((empty.run before).step step).2 = .attempt (.ok (.prepared ⟨prepared.id, sql⟩))) ∨
      (∃ error, (empty.run before).handedOut? id step = none ∧
        ((empty.run before).step step).2 = .attempt (.error error) ∧
        (((empty.run before).step step).1.world.mockAt id).nextStatement =
          ((empty.run before).world.mockAt id).nextStatement)
  once : ((empty.handedOut id steps).map (·.slot)).Nodup
  fulfilled : ∀ prepared ∈ empty.handedOut id steps,
    ((empty.run steps).world.mockAt id).queue.holdsAt
      (fun expectation => expectation.fulfilled && expectation.kind == .prepare)
      prepared.slot = true
  held : ∀ name statement, (empty.run steps).statements.get? name = some statement →
    statement.mock = id → statement.prepared ∈ empty.handedOut id steps
  unique : ∀ slot first second, (empty.run steps).Holds id slot first →
    (empty.run steps).Holds id slot second → first = second
  closed : ∀ slot,
    ((empty.run steps).world.mockAt id).queue.holdsAt (·.wasClosed) slot = true ↔
      Occurred (Closes id slot) steps
  /-- What must be closed and was left open is reported ever after. -/
  leftOpen : ∀ slot,
    ((empty.run steps).world.mockAt id).queue.holdsAt (·.mustBeClosed) slot = true →
      Occurred (LeavesOpen id slot) steps → ∀ later,
        ∃ (remaining : List Nat) (noted : Nat → Bool),
          ((empty.run (steps ++ later)).world.mockAt id).verify =
            .error (((empty.run (steps ++ later)).world.mockAt id).queue.report noted remaining) ∧
          slot ∈ remaining ∧ noted slot = true

private theorem prepares_answered {session : Session} {step : Step} {connection sql : String}
    (prepares : step.prepares? = some (connection, sql))
    (connected : session.connections.get? connection = some id) :
    (∃ prepared, session.handedOut? id step = some prepared ∧
      (session.step step).2 = .attempt (.ok (.prepared ⟨prepared.id, sql⟩))) ∨
    (∃ error, session.handedOut? id step = none ∧
      (session.step step).2 = .attempt (.error error) ∧
      ((session.step step).1.world.mockAt id).nextStatement =
        (session.world.mockAt id).nextStatement) := by
  have counted := session.step_nextStatement id step
  have record := session.handedOut?_of_prepares id prepares
  have answer := step_prepares_answer prepares connected
  rw [if_pos connected] at record
  cases outcome : (Exchange.prepare sql (session.world.mockAt id)).1 with
  | ok prepared =>
      rw [outcome] at record answer
      exact .inl ⟨prepared, record, answer⟩
  | error error =>
      rw [outcome] at record answer
      rw [record] at counted
      exact .inr ⟨error, record, answer, counted⟩

/-- At every point of every run of a program, for every mock: prepares hand out the ids 1, 2,
3 and so on, and use up none when they fail; every expectation yields at most one statement
and has been fulfilled by the prepare of it; an expectation is marked as closed exactly if
the statement made from it was closed; and one that must be closed but was left open is
reported by every later verification. -/
theorem prepared_statements_accounted (steps : List Step) (id : MockId) :
    StatementAccount steps id where
  ids := empty.handedOut_ids id steps
  counter := empty.run_nextStatement id steps
  answers := by
    rintro before step later - connection sql prepares connected
    exact prepares_answered prepares connected
  once := (empty.handedOut_slots_sublist id steps).nodup (run_orderly steps id).ledger.once
  fulfilled := by
    intro prepared isThere
    have taken : prepared.slot ∈ empty.taken id steps :=
      (empty.handedOut_slots_sublist id steps).subset (List.mem_map_of_mem isThere)
    have fulfilled := ((run_orderly steps id).ledger.fulfilled prepared.slot).mp taken
    have ofKind := kindAt_of_handedOut isThere
    rw [Queue.holdsAt, Option.any_eq_true] at fulfilled ofKind ⊢
    obtain ⟨expectation, found, isFulfilled⟩ := fulfilled
    obtain ⟨same, foundSame, isPrepare⟩ := ofKind
    rw [found] at foundSame
    cases foundSame
    exact ⟨expectation, found, Bool.and_eq_true_iff.mpr ⟨isFulfilled, isPrepare⟩⟩
  held := by
    rintro name statement found rfl
    exact statement_handedOut found
  unique := by
    intro slot first second isFirst isSecond
    exact holds_unique isFirst isSecond
  closed := wasClosed_iff_occurred steps id
  leftOpen := by
    intro slot marked leftOpen later
    exact reported_of_leftOpen marked leftOpen later

end Session

end ScriptedSql
