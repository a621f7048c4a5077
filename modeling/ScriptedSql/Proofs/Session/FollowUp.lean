import ScriptedSql.Proofs.Queue.Rejection
import ScriptedSql.Proofs.Session.Obtained
import ScriptedSql.Proofs.Session.Registration

/-!
Contract: expectations that are declared from the handle of a prepare.

Owns:
- the steps that declare follow-ups, and what becomes of a follow-up;
- the agreement: a follow-up accepts the text of every statement that its prepare hands out,
  whichever of the two came first.

Does not own: where statements come from (`Session.Obtained`).
-/

namespace ScriptedSql

/-! ## Texts -/

namespace Expectation

variable {expectation : Expectation} {call : Call} {converter : Converter}

private theorem sqlAccepts_of_same {earlier later : Expectation} (same : later.sql = earlier.sql)
    (text : Option String) : later.sqlAccepts text = earlier.sqlAccepts text := by
  unfold sqlAccepts
  rw [same]

private theorem sqlAccepts_of_accepts (accepts : expectation.accepts converter call = true) :
    expectation.sqlAccepts call.sql = true := by
  by_contra refusesText
  have refuses := Bool.eq_false_iff.mpr refusesText
  have sameKind := kind_of_accepts accepts
  rw [Expectation.accepts, refusal?, if_neg (not_not_intro sameKind), if_pos refuses] at accepts
  contradiction

/-- A call whose text is accepted can only be refused for its kind or for its arguments. -/
theorem refusal?_of_sqlAccepts (acceptsText : expectation.sqlAccepts call.sql = true) :
    expectation.refusal? converter call =
      if expectation.kind ≠ call.kind then some .kind
      else (expectation.arguments.fault? converter call.arguments).map .arguments := by
  rw [refusal?, acceptsText, if_neg Bool.true_eq_false.mp]

end Expectation

namespace Exchange

private theorem textAt_of_prepare {sql : String} {mock : Mock} {prepared : Prepared}
    (answered : (prepare sql mock).1 = .ok prepared) :
    mock.queue.holdsAt (·.sqlAccepts (some sql)) prepared.slot = true := by
  obtain ⟨slot, sameSlot, accepts⟩ := acceptor_of_prepare answered
  rw [← sameSlot, Queue.holdsAt_get]
  exact Expectation.sqlAccepts_of_accepts accepts

end Exchange

namespace Mock

/-- A follow-up stands behind all other expectations, and is of the text that stands at the slot
that it follows. Builder calls change neither its kind nor its text. -/
theorem run_follow (mock : Mock) (slot : Nat) (kind : CallKind) (adjustments : List Adjustment) :
    ∃ expectation,
      (mock.run [.follow slot kind, .adjust mock.queue.length adjustments]).queue[
        mock.queue.length]? = some expectation ∧
      expectation.kind = kind ∧ expectation.sql = mock.queue[slot]?.bind (·.sql) := by
  have untouched := Adjustment.applyAll_untouched
    (.fresh kind (mock.queue[slot]?.bind (·.sql)) mock.ordered) adjustments
  refine ⟨_, ?_, untouched.kind, untouched.sql⟩
  rw [run, run, run, after, after, adjust_state]
  show (List.modify _ _ _)[mock.queue.length]? = _
  rw [List.getElem?_modify_eq, follow, declare, List.getElem?_concat_length]
  rfl

end Mock

namespace Session

/-! ## Occurrences -/

/-- A step declares a follow-up of a kind, by a handle of the expectation at a slot of a mock.
It becomes the expectation at the slot `follower` there. -/
def FollowsUp (id : MockId) (slot follower : Nat) (kind : CallKind) (before : List Step)
    (step : Step) : Prop :=
  ∃ handle adjustments asExpectation, step = .follow handle kind adjustments asExpectation ∧
    (empty.run before).expectations.get? handle = some ⟨id, slot⟩ ∧
    ((empty.run before).world.mockAt id).queue.length = follower

variable {steps : List Step} {id : MockId} {prepared : Prepared} {sql : String}

/-- The expectation that handed out a statement accepts its text from then on. -/
theorem textAt_of_obtained (obtained : Occurred (Obtains id prepared sql) steps) :
    ((empty.run steps).world.mockAt id).queue.holdsAt (·.sqlAccepts (some sql)) prepared.slot
      = true := by
  obtain ⟨before, step, later, rfl, connection, prepares, handedOut⟩ := obtained
  obtain ⟨other, text, preparesText, -, answered⟩ := handedOut?_eq_some handedOut
  rw [prepares] at preparesText
  cases preparesText
  rw [run_append]
  refine Queue.Advances.holdsAt ((empty.run before).run_advances (step :: later) id) ?_
    (Exchange.textAt_of_prepare answered)
  intro earlier now advances acceptsText
  rw [Expectation.sqlAccepts_of_same advances.sql]
  exact acceptsText

private theorem declared_of_followsUp {before : List Step} {step : Step} {slot follower : Nat}
    {kind : CallKind} (followsUp : FollowsUp id slot follower kind before step) :
    ∃ declared,
      (((empty.run before).step step).1.world.mockAt id).queue[follower]? = some declared ∧
      declared.kind = kind ∧
      declared.sql = ((empty.run before).world.mockAt id).queue[slot]?.bind (·.sql) := by
  obtain ⟨handle, adjustments, asExpectation, rfl, found, rfl⟩ := followsUp
  -- The handle keeps its mock alive, so the mock has been created.
  have isAlive := (allHeld_iff.mpr fun _ isAlive => isAlive).expectations _
    (Table.mem_values_of_get? found)
  have created := (run_consistent before).created id isAlive
  have events : (empty.run before).eventsAt (.follow handle kind adjustments asExpectation) id =
      [.follow slot kind,
        .adjust ((empty.run before).world.mockAt id).queue.length adjustments] := by
    rw [eventsAt, visits, Table.through, found]
    simp only [List.flatMap_singleton, declareVisit, if_true]
  rw [step_mockAt created, events]
  exact ((empty.run before).world.mockAt id).run_follow slot kind adjustments

/-- A follow-up stays where it was declared. If it has a text, then that is the text of the
expectation that it follows. -/
theorem follower_of_followed {slot follower : Nat} {kind : CallKind}
    (followed : Occurred (FollowsUp id slot follower kind) steps) :
    ∃ expectation,
      ((empty.run steps).world.mockAt id).queue[follower]? = some expectation ∧
      expectation.kind = kind ∧
      (expectation.sql = none ∨ ∃ source,
        ((empty.run steps).world.mockAt id).queue[slot]? = some source ∧
          expectation.sql = source.sql) := by
  obtain ⟨before, step, later, rfl, followsUp⟩ := followed
  obtain ⟨declared, isDeclared, sameKind, sameText⟩ := declared_of_followsUp followsUp
  obtain ⟨expectation, isThere, advances⟩ :=
    ((empty.run before).step step).1.run_advances later id follower declared isDeclared
  rw [run_append, run]
  refine ⟨expectation, isThere, advances.kind.trans sameKind, ?_⟩
  rw [advances.sql, sameText]
  cases wasThere : ((empty.run before).world.mockAt id).queue[slot]? with
  | none => exact .inl rfl
  | some source =>
      obtain ⟨now, isNow, sourceAdvances⟩ :=
        (empty.run before).run_advances (step :: later) id slot source wasThere
      exact .inr ⟨now, isNow, sourceAdvances.sql.symm⟩

/-- A follow-up accepts the text of each statement that its prepare hands out. -/
theorem follower_accepts {follower : Nat} {kind : CallKind}
    (obtained : Occurred (Obtains id prepared sql) steps)
    (followed : Occurred (FollowsUp id prepared.slot follower kind) steps) :
    ∃ expectation,
      ((empty.run steps).world.mockAt id).queue[follower]? = some expectation ∧
      expectation.kind = kind ∧ expectation.sqlAccepts (some sql) = true := by
  obtain ⟨expectation, isThere, sameKind, text⟩ := follower_of_followed followed
  refine ⟨expectation, isThere, sameKind, ?_⟩
  rcases text with noText | ⟨source, isSource, sameText⟩
  · unfold Expectation.sqlAccepts
    rw [noText]
  · have acceptsText := textAt_of_obtained obtained
    rw [Queue.holdsAt, isSource] at acceptsText
    rw [Expectation.sqlAccepts_of_same sameText]
    exact acceptsText

/-- At every point of every run of a program: all statements and prepared texts that are held
were obtained by a prepare of the run, and queries and execs through them have their text. A
follow-up that is declared by a handle of the prepare, whether before or after a statement was
obtained from it, has the kind that it was declared with and accepts the text of the statement.
So it refuses calls of this text only for their kind or for their arguments. -/
theorem follow_up_accepts_prepared_text (steps : List Step) :
    let session := empty.run steps
    (∀ name statement, session.statements.get? name = some statement →
      Occurred (Obtains statement.mock statement.prepared statement.sql) steps ∧
        ∀ arguments,
          session.eventsAt (.query (.statement name) arguments) statement.mock =
              [.call ⟨.query, some statement.sql, arguments⟩] ∧
            session.eventsAt (.exec (.statement name) arguments) statement.mock =
              [.call ⟨.exec, some statement.sql, arguments⟩]) ∧
    (∀ name text, session.prepared.get? name = some text →
      (∃ id prepared, prepared.id = text.id ∧ Occurred (Obtains id prepared text.sql) steps) ∧
        ∀ connection id, session.connections.get? connection = some id → ∀ parameters,
          session.eventsAt (.fetchPrepared connection name parameters) id =
              [.call ⟨.query, some text.sql, Argument.ofValues parameters⟩] ∧
            session.eventsAt (.executePrepared connection name parameters) id =
              [.call ⟨.exec, some text.sql, Argument.ofValues parameters⟩]) ∧
    ∀ id prepared sql follower kind, Occurred (Obtains id prepared sql) steps →
      Occurred (FollowsUp id prepared.slot follower kind) steps →
        let queue := (session.world.mockAt id).queue
        ∃ expectation, queue[follower]? = some expectation ∧ expectation.kind = kind ∧
          expectation.sqlAccepts (some sql) = true ∧
          ∀ converter asked arguments,
            (expectation.refusal? converter ⟨asked, some sql, arguments⟩ =
              if kind ≠ asked then some .kind
              else (expectation.arguments.fault? converter arguments).map .arguments) ∧
            ∀ refusal,
              queue.resolve converter ⟨asked, some sql, arguments⟩ =
                .error (.blocked expectation refusal) → refusal ≠ .sql := by
  intro session
  refine ⟨fun name statement found => ?_, fun name text found => ?_, ?_⟩
  · exact ⟨obtained_of_statement found, eventsAt_of_statement found⟩
  · exact ⟨obtained_of_text found, fun _ _ connected => eventsAt_of_text found connected⟩
  intro id prepared sql follower kind obtained followed queue
  obtain ⟨expectation, isThere, rfl, acceptsText⟩ := follower_accepts obtained followed
  refine ⟨expectation, isThere, rfl, acceptsText, ?_⟩
  intro converter asked arguments
  have reason : expectation.refusal? converter ⟨asked, some sql, arguments⟩ = _ :=
    Expectation.refusal?_of_sqlAccepts acceptsText
  refine ⟨reason, ?_⟩
  rintro refusal rejected rfl
  rw [Queue.refusal_of_blocked rejected] at reason
  by_cases otherKind : expectation.kind ≠ asked
  · rw [if_pos otherKind] at reason
    cases reason
  · rw [if_neg otherKind] at reason
    obtain ⟨fault, -, isArguments⟩ := Option.map_eq_some_iff.mp reason.symm
    contradiction

/-- One follow-up is declared before the prepare and one after it, both from its handle. The
text of the prepare differs from the pattern by a blank. -/
theorem follow_ups_around_prepare :
    let config := { Config.standard with matching := .equal }
    let before := [
      Step.create "mock" "connection" config,
      .expect "mock" .prepare (some "SELECT 1") [] (some "prepare"),
      .follow "prepare" .query [] none]
    let steps := before ++ [
      Step.prepare "connection" "SELECT 1 " "statement",
      .follow "prepare" .exec [] none]
    ∀ follower kind, (follower, kind) ∈ [(1, CallKind.query), (2, .exec)] →
      ∃ expectation, ((empty.run steps).world.mockAt 0).queue[follower]? = some expectation ∧
        expectation.kind = kind ∧ expectation.sqlAccepts (some "SELECT 1 ") = true := by
  intro config before steps follower kind isFollower
  have obtained : Occurred (Obtains 0 ⟨1, 0⟩ "SELECT 1 ") steps :=
    ⟨before, _, _, rfl, "connection", rfl, by decide +kernel⟩
  have followed : Occurred (FollowsUp 0 0 follower kind) steps := by
    rcases List.mem_pair.mp isFollower with isFirst | isSecond
    · cases isFirst
      exact ⟨before.take 2, _, _, rfl, "prepare", [], none, rfl, by decide +kernel,
        by decide +kernel⟩
    · cases isSecond
      exact ⟨steps.take 4, _, _, rfl, "prepare", [], none, rfl, by decide +kernel,
        by decide +kernel⟩
  obtain ⟨expectation, isThere, sameKind, acceptsText, -⟩ :=
    (follow_up_accepts_prepared_text steps).2.2 0 ⟨1, 0⟩ _ follower kind obtained followed
  exact ⟨expectation, isThere, sameKind, acceptsText⟩

end Session

end ScriptedSql
