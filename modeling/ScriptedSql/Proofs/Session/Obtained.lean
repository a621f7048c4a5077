import ScriptedSql.Proofs.Session.Numbering

/-!
Contract: the statements of either kind that a run obtains by prepares.

Owns:
- the steps that obtain a statement or a prepared text, with what the prepare handed out;
- the calls that go through a statement and through a prepared text;
- the origin of all prepared texts that are noted: such a step of the run.

Does not own: the closing of statements (`Session.Statements`), and the numbers that prepares
hand out (`Session.Numbering`).
-/

namespace ScriptedSql

namespace Session

/-- A step obtains a statement of a text from a mock, of either kind. -/
def Obtains (id : MockId) (prepared : Prepared) (sql : String) (before : List Step)
    (step : Step) : Prop :=
  ∃ connection, step.prepares? = some (connection, sql) ∧
    (empty.run before).handedOut? id step = some prepared

/-- Every statement that is held was obtained at some step of the run. -/
theorem obtained_of_statement {steps : List Step} {name : String} {statement : Statement}
    (found : (empty.run steps).statements.get? name = some statement) :
    Occurred (Obtains statement.mock statement.prepared statement.sql) steps := by
  obtain ⟨before, step, later, split, ⟨connection, asStatement, rfl, connected, -⟩, answered⟩ :=
    statement_origin found
  exact ⟨before, _, later, split, connection, rfl, handedOut?_of_answered rfl connected answered⟩

/-! ## Calls -/

/-- A statement calls its mock with the text that it was prepared from. -/
theorem eventsAt_of_statement {session : Session} {name : String} {statement : Statement}
    (found : session.statements.get? name = some statement) (arguments : List Argument) :
    session.eventsAt (.query (.statement name) arguments) statement.mock =
        [.call ⟨.query, some statement.sql, arguments⟩] ∧
      session.eventsAt (.exec (.statement name) arguments) statement.mock =
        [.call ⟨.exec, some statement.sql, arguments⟩] := by
  simp [eventsAt, visits, channelVisits, Table.through, found, requestVisit, Request.events]

/-- A prepared text is the text of the calls, whichever connection they go through. -/
theorem eventsAt_of_text {session : Session} {name connection : String} {text : PreparedText}
    {id : MockId} (found : session.prepared.get? name = some text)
    (connected : session.connections.get? connection = some id) (parameters : List Value) :
    session.eventsAt (.fetchPrepared connection name parameters) id =
        [.call ⟨.query, some text.sql, Argument.ofValues parameters⟩] ∧
      session.eventsAt (.executePrepared connection name parameters) id =
        [.call ⟨.exec, some text.sql, Argument.ofValues parameters⟩] := by
  simp [eventsAt, visits, Table.through, found, connected, requestVisit, Request.events]

/-! ## Prepared texts -/

/-- What a step does to the texts that are noted. None is ever forgotten. -/
inductive TextChange (session : Session) (step : Step) : Table PreparedText → Prop where
  | kept : TextChange session step session.prepared
  | noted (connection sql name : String) (id : MockId) (prepared : Prepared)
      (prepares : step.prepares? = some (connection, sql))
      (handedOut : session.handedOut? id step = some prepared) :
      TextChange session step (session.prepared.put name ⟨prepared.id, sql⟩)

section Changes

variable {session : Session} {step : Step} {id : MockId}

private theorem require_textChange {α : Type} {table : Table α} {name : String}
    {use : α → Session × Answer}
    (changes : ∀ handle, table.get? name = some handle →
      TextChange session step (use handle).1.prepared) :
    TextChange session step (session.require table name use).1.prepared :=
  require_holds (TextChange session step ·.prepared) .kept changes

private theorem prepareText_textChange {connection : String}
    (connected : session.connections.get? connection = some id) (sql asPrepared : String) :
    TextChange session (.prepareText connection sql asPrepared)
      (session.prepareText id sql asPrepared).1.prepared := by
  unfold prepareText
  rcases exchanged : session.exchange id (Exchange.prepare sql) with ⟨_ | prepared, after⟩
  all_goals obtain ⟨world, rfl⟩ := state_of_exchange exchanged
  · exact .kept
  · have answered : (Exchange.prepare sql (session.world.mockAt id)).1 = .ok prepared :=
      congrArg Prod.fst exchanged
    exact .noted connection sql asPrepared id prepared rfl
      (handedOut?_of_answered rfl connected answered)

/-- All that the history of prepared texts knows of a step. -/
theorem step_textChange (session : Session) (step : Step) :
    TextChange session step (session.step step).1.prepared := by
  have ofLeft {step : Step} (isLeft : step.altersTexts = false) :
      TextChange session step (session.step step).1.prepared := by
    rw [(session.step_leaves step).texts isLeft]
    exact .kept
  cases step with
  | prepareText connection sql asPrepared =>
      exact require_textChange fun id connected => prepareText_textChange connected sql asPrepared
  | _ => exact ofLeft rfl

end Changes

/-- Every prepared text that is noted was obtained in the run. -/
theorem obtained_of_text {steps : List Step} {name : String} {text : PreparedText}
    (found : (empty.run steps).prepared.get? name = some text) :
    ∃ id prepared, prepared.id = text.id ∧ Occurred (Obtains id prepared text.sql) steps := by
  induction steps using List.reverseRecOn generalizing name with
  | nil => contradiction
  | append_singleton steps step inductionHypothesis =>
      have before (noted : (empty.run steps).prepared.get? name = some text) :
          ∃ id prepared, prepared.id = text.id ∧
            Occurred (Obtains id prepared text.sql) (steps ++ [step]) := by
        obtain ⟨id, prepared, sameId, obtained⟩ := inductionHypothesis noted
        exact ⟨id, prepared, sameId, occurred_concat_iff.mpr (.inl obtained)⟩
      rw [run_concat] at found
      have change := (empty.run steps).step_textChange step
      generalize ((empty.run steps).step step).1.prepared = texts at change found
      cases change with
      | kept => exact before found
      | noted connection sql other id prepared prepares handedOut =>
          obtain ⟨-, rfl⟩ | wasThere := Table.of_get?_put found
          · exact ⟨id, prepared, rfl,
              occurred_concat_iff.mpr (.inr ⟨connection, prepares, handedOut⟩)⟩
          · exact before wasThere

end Session

end ScriptedSql
