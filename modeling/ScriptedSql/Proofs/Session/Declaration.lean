import Mathlib.Logic.Relation
import ScriptedSql.Proofs.Expectation.Building
import ScriptedSql.Proofs.Session.Operations
import ScriptedSql.Proofs.Session.Registration
import ScriptedSql.Proofs.Session.Statements
import ScriptedSql.Proofs.World.Revision

/-!
Contract: the declarations of a program and the handles that they return.

Owns:
- the steps that declare, each with the place and the expectation that come of it;
- their effect: one expectation more at the end of one queue, and the handle of it;
- the origin of the handles that are held: declarations of the run, and clones of their handles.

Does not own: builder calls through handles (`Session.Building`).
-/

namespace ScriptedSql

open Adjustment (performed)

namespace Mock

/-- The builder calls that come with a declaration reach the expectation that it appends. -/
theorem declare_adjust (mock : Mock) (kind : CallKind) (sql : Option SqlMatcher)
    (adjustments : List Adjustment) :
    ((mock.declare kind sql).adjust mock.queue.length adjustments).1 =
      { mock with
        queue := mock.queue ++
          [(Expectation.fresh kind sql mock.ordered).builtBy (performed adjustments)] } := by
  rw [adjust_state, ← Expectation.applyAll_eq_builtBy]
  exact congrArg (fun queue : Queue => { mock with queue := queue })
    (List.modifyTailIdx_add _ 0 mock.queue [.fresh kind sql mock.ordered])

end Mock

namespace Session

/-- A step declares an expectation, by a mock with a pattern that compiles or by the handle of
another expectation. It comes to stand behind all others, as it was made by the builder calls
that come with the declaration. -/
inductive Declares (session : Session) :
    Step → Option String → Declaration → Expectation → Prop where
  | expect {mock : String} {id : MockId} {sql : Option String} {matcher : Option SqlMatcher}
      (isMock : session.mocks.get? mock = some id)
      (compiled : sql.mapM (session.world.mockAt id).compile = .ok matcher)
      (kind : CallKind) (adjustments : List Adjustment) (asExpectation : Option String) :
      Declares session (.expect mock kind sql adjustments asExpectation) asExpectation
        ⟨id, (session.world.mockAt id).queue.length⟩
        ((Expectation.fresh kind matcher (session.world.mockAt id).ordered).builtBy
          (performed adjustments))
  | follow {handle : String} {source : Declaration}
      (isHandle : session.expectations.get? handle = some source)
      (kind : CallKind) (adjustments : List Adjustment) (asExpectation : Option String) :
      Declares session (.follow handle kind adjustments asExpectation) asExpectation
        ⟨source.mock, (session.world.mockAt source.mock).queue.length⟩
        ((Expectation.fresh kind
            ((session.world.mockAt source.mock).queue[source.slot]?.bind (·.sql))
            (session.world.mockAt source.mock).ordered).builtBy
          (performed adjustments))

/-- What a declaration makes of a session: one expectation more at the end of the queue of a
mock, pending and stamped with the mode that is in force there, and a handle of it if a name is
given for that. Nothing else is different. -/
structure Appended (session : Session) (asExpectation : Option String) (declared : Declaration)
    (expectation : Expectation) (after : Session) : Prop where
  place : declared.slot = (session.world.mockAt declared.mock).queue.length
  queue : (after.world.mockAt declared.mock).queue =
    (session.world.mockAt declared.mock).queue ++ [expectation]
  pending : expectation.fulfilled = false
  stamped : expectation.ordered = (session.world.mockAt declared.mock).ordered
  handle : ∀ name, asExpectation = some name → after.expectations.get? name = some declared
  state : after = { session with
    world := session.world.revise declared.mock fun mock =>
      { mock with queue := mock.queue ++ [expectation] }
    expectations := asExpectation.elim session.expectations (session.expectations.put · declared) }

variable {session : Session} {step : Step} {asExpectation : Option String}
  {declared : Declaration} {expectation : Expectation}

/-! ## Effects -/

private theorem declare_expectations (session : Session) (id : MockId) (declaration : Mock → Mock)
    (adjustments : List Adjustment) (asExpectation : Option String) :
    (session.declare id declaration adjustments asExpectation).1.expectations =
      asExpectation.elim session.expectations
        (session.expectations.put · ⟨id, (session.world.mockAt id).queue.length⟩) := by
  cases asExpectation <;> rfl

private theorem Consistent.declare_eq (consistent : session.Consistent) {id : MockId}
    {declaration : Mock → Mock} {kind : CallKind} {sql : Option SqlMatcher}
    (isDeclaration : declaration (session.world.mockAt id) =
      (session.world.mockAt id).declare kind sql)
    (adjustments : List Adjustment) (asExpectation : Option String) :
    (session.declare id declaration adjustments asExpectation).1 = { session with
      world := session.world.revise id fun mock =>
        { mock with
          queue := mock.queue ++
            [(Expectation.fresh kind sql (session.world.mockAt id).ordered).builtBy
              (performed adjustments)] }
      expectations := asExpectation.elim session.expectations
        (session.expectations.put · ⟨id, (session.world.mockAt id).queue.length⟩) } := by
  have world : session.world.restore id
      ((declaration (session.world.mockAt id)).adjust (session.world.mockAt id).queue.length
        adjustments).1 = session.world.revise id fun mock =>
          { mock with
            queue := mock.queue ++
              [(Expectation.fresh kind sql (session.world.mockAt id).ordered).builtBy
                (performed adjustments)] } := by
    rw [isDeclaration, Mock.declare_adjust]
    refine World.Consistent.restore_eq_revise consistent ?_ ?_ <;> rfl
  rw [← world]
  cases asExpectation <;> rfl

/-- A declaration reaches a mock that is there, since a handle refers to it. -/
theorem Declares.created (consistent : session.Consistent)
    (declares : session.Declares step asExpectation declared expectation) :
    declared.mock < session.world.mocks.length := by
  have held := allHeld_iff.mpr fun _ (isAlive : session.isAlive _ = true) => isAlive
  cases declares with
  | expect isMock => exact consistent.created _ (held.mocks _ (Table.mem_values_of_get? isMock))
  | @follow handle source isHandle =>
      exact consistent.created _ (held.expectations source (Table.mem_values_of_get? isHandle))

/-- A declaration changes the queue of one mock and the table of expectations, and nothing else.
-/
theorem Declares.state (consistent : session.Consistent)
    (declares : session.Declares step asExpectation declared expectation) :
    (session.step step).1 = { session with
      world := session.world.revise declared.mock fun mock =>
        { mock with queue := mock.queue ++ [expectation] }
      expectations := asExpectation.elim session.expectations
        (session.expectations.put · declared) } := by
  cases declares with
  | @expect mock id sql matcher isMock compiled kind adjustments asExpectation =>
      have stepped : session.step (.expect mock kind sql adjustments asExpectation) =
          session.declare id (·.declare kind matcher) adjustments asExpectation := by
        refine (require_of_some isMock session _).trans ?_
        rw [Session.expect, compiled]
      rw [stepped]
      exact consistent.declare_eq rfl adjustments asExpectation
  | @follow handle source isHandle kind adjustments asExpectation =>
      have stepped : session.step (.follow handle kind adjustments asExpectation) =
          session.declare source.mock (·.follow source.slot kind) adjustments asExpectation :=
        require_of_some isHandle session _
      rw [stepped]
      exact consistent.declare_eq rfl adjustments asExpectation

/-- A new expectation has achieved nothing yet. -/
theorem Declares.asWritten (declares : session.Declares step asExpectation declared expectation) :
    expectation.asWritten = expectation := by
  cases declares <;> exact Expectation.builtBy_asWritten _ _

theorem Declares.appended (consistent : session.Consistent)
    (declares : session.Declares step asExpectation declared expectation) :
    session.Appended asExpectation declared expectation (session.step step).1 := by
  have created := declares.created consistent
  have state := declares.state consistent
  constructor
  · cases declares <;> rfl
  · rw [state]
    exact congrArg Mock.queue (World.revise_mockAt created _)
  · cases declares <;> exact (Expectation.builtBy_untouched _ _).fulfilled
  · cases declares <;> exact (Expectation.builtBy_untouched _ _).ordered
  · rintro name rfl
    rw [state]
    exact (Table.get?_put _ _ _ _).trans (if_pos rfl)
  · exact state

/-- A pattern that does not compile is refused, and nothing changes. -/
theorem expect_of_refused {mock : String} {id : MockId} {sql : Option String} {error : Error}
    (isMock : session.mocks.get? mock = some id)
    (refused : sql.mapM (session.world.mockAt id).compile = .error error) (kind : CallKind)
    (adjustments : List Adjustment) (asExpectation : Option String) :
    session.step (.expect mock kind sql adjustments asExpectation) =
      (session, .attempt (.error error)) := by
  refine (require_of_some isMock session _).trans ?_
  rw [Session.expect, refused]

/-! ## Handles -/

/-- What a step does to the handles of expectations. -/
inductive HandleChange (session : Session) (step : Step) : Table Declaration → Prop where
  | kept : HandleChange session step session.expectations
  | removed (name : String) : HandleChange session step (session.expectations.remove name)
  | cloned {original name : String} {declared : Declaration}
      (isClone : step = .cloneExpectation original name)
      (isHandle : session.expectations.get? original = some declared) :
      HandleChange session step (session.expectations.put name declared)
  | returned {name : String} {declared : Declaration} {expectation : Expectation}
      (declares : session.Declares step (some name) declared expectation) :
      HandleChange session step (session.expectations.put name declared)

private theorem require_handleChange {α : Type} {table : Table α} {name : String}
    {use : α → Session × Answer}
    (changes : ∀ handle, table.get? name = some handle →
      HandleChange session step (use handle).1.expectations) :
    HandleChange session step (session.require table name use).1.expectations :=
  require_holds (HandleChange session step ·.expectations) .kept changes

private theorem expect_handleChange {mock : String} {id : MockId}
    (isMock : session.mocks.get? mock = some id) (kind : CallKind) (sql : Option String)
    (adjustments : List Adjustment) (asExpectation : Option String) :
    HandleChange session (.expect mock kind sql adjustments asExpectation)
      (session.expect id kind sql adjustments asExpectation).1.expectations := by
  unfold Session.expect
  cases compiled : sql.mapM (session.world.mockAt id).compile with
  | error error => exact .kept
  | ok matcher =>
      dsimp only
      rw [declare_expectations]
      cases asExpectation with
      | none => exact .kept
      | some name => exact .returned (.expect isMock compiled kind adjustments (some name))

private theorem follow_handleChange {handle : String} {source : Declaration}
    (isHandle : session.expectations.get? handle = some source) (kind : CallKind)
    (adjustments : List Adjustment) (asExpectation : Option String) :
    HandleChange session (.follow handle kind adjustments asExpectation)
      (session.declare source.mock (·.follow source.slot kind) adjustments
        asExpectation).1.expectations := by
  rw [declare_expectations]
  cases asExpectation with
  | none => exact .kept
  | some name => exact .returned (.follow isHandle kind adjustments (some name))

/-- All that the history of handles knows of a step. -/
theorem step_handleChange (session : Session) (step : Step) :
    HandleChange session step (session.step step).1.expectations := by
  have ofLeft {step : Step} (isLeft : step.altersExpectations = false) :
      HandleChange session step (session.step step).1.expectations := by
    rw [(session.step_leaves step).expectations isLeft]
    exact .kept
  cases step with
  | cloneExpectation original name =>
      exact require_handleChange fun declared isHandle => .cloned rfl isHandle
  | drop kind name =>
      cases kind with
      | expectation => exact require_handleChange fun _ _ => .removed name
      | _ => exact ofLeft rfl
  | expect mock kind sql adjustments asExpectation =>
      exact require_handleChange fun id isMock =>
        expect_handleChange isMock kind sql adjustments asExpectation
  | follow handle kind adjustments asExpectation =>
      exact require_handleChange fun source isHandle =>
        follow_handleChange isHandle kind adjustments asExpectation
  | _ => exact ofLeft rfl

/-- The handle of `name` has come down from that of `original` by clones among the steps. -/
def Descends (steps : List Step) (original name : String) : Prop :=
  Relation.ReflTransGen (fun source copy => Step.cloneExpectation source copy ∈ steps) original name

private theorem Descends.concat {steps : List Step} {original name : String}
    (descends : Descends steps original name) (step : Step) :
    Descends (steps ++ [step]) original name :=
  Relation.ReflTransGen.mono (fun _ _ isClone => List.mem_append_left [step] isClone) _ _ descends

/-- Every handle of an expectation that is held comes down from one that a declaration of the run
has returned. -/
theorem declared_of_handle {steps : List Step} {name : String}
    (found : (empty.run steps).expectations.get? name = some declared) :
    ∃ before step later original expectation, steps = before ++ step :: later ∧
      (empty.run before).Declares step (some original) declared expectation ∧
      Descends later original name := by
  induction steps using List.reverseRecOn generalizing name with
  | nil => contradiction
  | append_singleton steps step inductionHypothesis =>
      have extend {original : String} (descent : ∀ {later : List Step} {earlier : String},
            Descends later earlier original → Descends (later ++ [step]) earlier name)
          (found : (empty.run steps).expectations.get? original = some declared) :
          ∃ before last later earlier expectation, steps ++ [step] = before ++ last :: later ∧
            (empty.run before).Declares last (some earlier) declared expectation ∧
            Descends later earlier name := by
        obtain ⟨before, last, later, earlier, expectation, rfl, declares, descends⟩ :=
          inductionHypothesis found
        refine ⟨before, last, later ++ [step], earlier, expectation, ?_, declares, descent descends⟩
        rw [List.append_assoc, List.cons_append]
      rw [run_concat] at found
      have change := (empty.run steps).step_handleChange step
      generalize ((empty.run steps).step step).1.expectations = handles at change found
      cases change with
      | kept => exact extend (·.concat step) found
      | removed other => exact extend (·.concat step) (Table.of_get?_remove found)
      | cloned isClone isHandle =>
          obtain ⟨rfl, rfl⟩ | before := Table.of_get?_put found
          · subst isClone
            refine extend (fun descends => ?_) isHandle
            exact (descends.concat _).tail (List.mem_append_right _ (List.mem_singleton_self _))
          · exact extend (·.concat step) before
      | @returned _ _ expectation declares =>
          obtain ⟨rfl, rfl⟩ | before := Table.of_get?_put found
          · exact ⟨steps, step, [], name, expectation, rfl, declares, .refl⟩
          · exact extend (·.concat step) before

end Session

end ScriptedSql
