import ScriptedSql.Proofs.Session.Elsewhere

/-!
Contract: the separation of the mocks in a run of a program.

Owns:
- the run that is left when all steps on other mocks are left out;
- the agreement: what a mock answers, and what it is, is the same in both runs, and steps on
  other mocks leave it as it is.
-/

namespace ScriptedSql

namespace Session

/-- What is left of steps when those on other mocks are left out. -/
def left (session : Session) (id : MockId) (own : List String) : List Step → List Step
  | [] => []
  | step :: rest =>
    (if session.isOn id own step then [session.spelled step] else session.lettingGo id step) ++
      (session.step step).1.left id (session.cursorsAfter id own step) rest

/-- The names of the cursors that were read from a mock, after steps. -/
def cursorsOf (session : Session) (id : MockId) (own : List String) : List Step → List String
  | [] => own
  | step :: rest => (session.step step).1.cursorsOf id (session.cursorsAfter id own step) rest

variable {id : MockId} {own : List String} {session alone : Session}

private theorem run_alike (alike : Alike id own session alone) (here : session.InOrder)
    (there : alone.InOrder) (steps : List Step) :
    Alike id (session.cursorsOf id own steps) (session.run steps)
      (alone.run (session.left id own steps)) := by
  induction steps generalizing session alone own with
  | nil => exact alike
  | cons step rest inductionHypothesis =>
      have hereNext := here.run [step]
      rw [left, run_append]
      by_cases on : session.isOn id own step = true
      · rw [if_pos on]
        have next := (step_parallel alike here there on).after
        exact inductionHypothesis next hereNext (there.run [session.spelled step])
      · rw [if_neg on]
        have next := step_elsewhere alike (Bool.eq_false_iff.mpr on)
        exact inductionHypothesis next hereNext (there.run (session.lettingGo id step))

private theorem created_of_granted {asMock asConnection dsn : String} {config : Config}
    (granted : (session.step (.create asMock asConnection config)).2 = .attempt (.ok (.dsn dsn))) :
    session.world.mocks.length <
      (session.step (.create asMock asConnection config)).1.world.mocks.length := by
  have stepped : session.step (.create asMock asConnection config) =
      session.create asMock asConnection config := rfl
  unfold Session.create at stepped
  rcases outcome : session.world.create session.isAlive config with ⟨error | new, world⟩
  · rw [outcome] at stepped
    rw [stepped] at granted
    cases granted
  · rw [outcome] at stepped
    rw [stepped]
    exact Nat.lt_of_lt_of_eq (Nat.lt_succ_self _) (World.create_of_ok outcome).2.symm

/-- At every point of every run after the creation of a mock: each step on the mock is
answered as in the run that is left when all steps on other mocks are left out since its
creation, and the mock is the same in both. A step on other mocks changes neither the mock nor
the DSNs that lead to it. If it makes a handle by the name of one of the mock, which gives way,
then it changes no more than letting go of that handle does, and that is what is left of it. -/
theorem mocks_are_separate (before : List Step) (asMock asConnection dsn : String)
    (config : Config) (later : List Step)
    (granted : ((empty.run before).step (.create asMock asConnection config)).2 =
      .attempt (.ok (.dsn dsn))) :
    let id := (empty.run before).world.mocks.length
    let start := ((empty.run before).step (.create asMock asConnection config)).1
    let own := start.cursorsOf id [] later
    let session := start.run later
    let alone := start.run (start.left id [] later)
    session.world.mockAt id = alone.world.mockAt id ∧
    (∀ step, session.isOn id own step = true →
      (session.step step).2 = (alone.step (session.spelled step)).2) ∧
    ∀ step, session.isOn id own step = false →
      let after := (session.step step).1
      let parted := session.run (session.lettingGo id step)
      ((∀ handle ∈ step.made, session.leadsTo id [] handle = false) → parted = session) ∧
      after.world.mockAt id = parted.world.mockAt id ∧
      ∀ name, after.world.lookup? after.isAlive name = some id ↔
        parted.world.lookup? parted.isAlive name = some id := by
  intro id start own session alone
  have created : id < start.world.mocks.length := created_of_granted granted
  have startInOrder : start.InOrder := by
    have fromEmpty : empty.InOrder := ⟨empty_consistent, empty_wellNamed⟩
    exact (fromEmpty.run before).run [.create asMock asConnection config]
  have inOrder := startInOrder.run later
  have aloneInOrder := startInOrder.run (start.left id [] later)
  have alike := run_alike (Alike.refl created []) startInOrder startInOrder later
  refine ⟨alike.mock, fun step on => (step_parallel alike inOrder aloneInOrder on).answer, ?_⟩
  intro step off after parted
  have self : Alike id own session session := .refl alike.created own
  have apart : Alike id _ after parted := step_elsewhere self off
  refine ⟨fun free => ?_, apart.mock, fun name => ?_⟩
  · show session.run (session.lettingGo id step) = session
    rw [lettingGo_of_free free, run]
  · exact apart.lookup?_iff (inOrder.run [step]) (inOrder.run _) name

/-- A closed mock is verified the same whether or not a second mock has taken its DSN and the
name of its last connection. -/
theorem closed_mock_is_separate :
    let config := { Config.standard with dsn := some "dsn" }
    let start := ((empty.run []).step (.create "mock" "connection" config)).1
    let later : List Step :=
      [.expect "mock" .begin none [] none, .clone "connection" "clone", .closeConnection "clone",
        .create "second" "connection" config, .request "connection" .begin]
    let session := start.run later
    let alone := start.run (start.left 0 [] later)
    session.world.lookup? session.isAlive "dsn" = some 1 ∧
      alone.world.lookup? alone.isAlive "dsn" = none ∧ alone.connections.names = [] ∧
      (session.step (.verify "mock")).2 = (alone.step (.verify "mock")).2 := by
  intro config start later session alone
  have on : session.isOn 0 (start.cursorsOf 0 [] later) (.verify "mock") = true := by decide
  have separate := mocks_are_separate [] "mock" "connection" "dsn" config later rfl
  have answered := separate.2.1 (.verify "mock") on
  exact ⟨by decide, by decide, by decide, answered⟩

end Session

end ScriptedSql
