import ScriptedSql.Proofs.Session.Declaration
import ScriptedSql.Proofs.Session.Scripting

/-!
Contract: what handles of expectations denote, and what builder calls through them do.

Owns:
- the builder calls of a run on the expectation at one place;
- the agreement: at every later point that expectation is the declared one with those calls made
  on it, apart from what calls have achieved;
- runs of builder calls: nothing but the expectations of their handles is rewritten, calls on
  different parts or places commute, and the last one on each part counts.

Does not own: what a builder call makes of an expectation (`Expectation.Building`).
-/

namespace ScriptedSql

open Adjustment (performed lastOn? lastOn?_append lastOn?_singleton)
open Expectation (Part)

/-! ## Single mocks -/

/-- The builder calls that an event makes on the expectation at a slot. -/
def Event.buildsAt (slot : Nat) : Event → List Adjustment
  | .adjust index adjustments => if index = slot then performed adjustments else []
  | _ => []

private theorem Event.buildsAt_of_playing {event : Event} (playing : event.isScripting = false)
    (slot : Nat) : event.buildsAt slot = [] := by
  cases event with
  | adjust index adjustments => contradiction
  | _ => rfl

namespace Mock

variable {mock : Mock} {slot : Nat} {expectation : Expectation}

private theorem getElem?_modify_of_some {change : Expectation → Expectation}
    (found : mock.queue[slot]? = some expectation) (index : Nat) :
    (mock.queue.modify index change)[slot]? =
      some (if index = slot then change expectation else expectation) := by
  rw [List.getElem?_modify, found]
  rfl

/-- Builder calls on the expectation itself write it anew. Other events append expectations, or
note of this one at most that it was fulfilled or that its statement was closed. -/
theorem after_written (found : mock.queue[slot]? = some expectation) (event : Event) :
    ∃ now, (mock.after event).queue[slot]? = some now ∧
      now.asWritten = expectation.asWritten.builtBy (event.buildsAt slot) := by
  have inside : slot < mock.queue.length := (List.getElem?_eq_some_iff.mp found).1
  cases scripting : event.isScripting with
  | true =>
      cases event with
      | declare kind sql | follow index kind =>
          exact ⟨expectation, (List.getElem?_append_left inside).trans found, rfl⟩
      | adjust index adjustments =>
          rw [after, adjust_state]
          refine ⟨_, getElem?_modify_of_some found index, ?_⟩
          rw [Event.buildsAt]
          by_cases here : index = slot
          · rw [if_pos here, if_pos here, Expectation.applyAll_eq_builtBy]
            exact Expectation.builtBy_asWritten _ _
          · rw [if_neg here, if_neg here]
            rfl
      | _ => contradiction
  | false =>
      rw [Event.buildsAt_of_playing scripting]
      have change := mock.after_queueChange event
      generalize (mock.after event).queue = queue at change ⊢
      cases change with
      | kept => exact ⟨expectation, found, rfl⟩
      | declared kind sql writes | adjusted index adjustments writes =>
          rw [scripting] at writes
          contradiction
      | fulfilled taken | statementClosed index =>
          refine ⟨_, getElem?_modify_of_some found _, ?_⟩
          split <;> rfl

private theorem run_written (found : mock.queue[slot]? = some expectation) (events : List Event) :
    ∃ now, (mock.run events).queue[slot]? = some now ∧
      now.asWritten = expectation.asWritten.builtBy (events.flatMap (·.buildsAt slot)) := by
  induction events generalizing mock expectation with
  | nil => exact ⟨expectation, found, rfl⟩
  | cons event rest inductionHypothesis =>
      obtain ⟨next, isNext, written⟩ := after_written found event
      obtain ⟨now, isNow, restWritten⟩ := inductionHypothesis isNext
      rw [written, ← Expectation.builtBy_append, ← List.flatMap_cons] at restWritten
      exact ⟨now, isNow, restWritten⟩

end Mock

def Step.isBuilding : Step → Bool
  | .adjust _ _ => true
  | _ => false

namespace Session

/-! ## Places in a run -/

/-- The builder calls that a step makes on the expectation at a place. -/
def buildsAt (session : Session) (place : Declaration) : Step → List Adjustment
  | .adjust name adjustments =>
    if session.expectations.get? name = some place then performed adjustments else []
  | _ => []

/-- The builder calls that steps make on the expectation at a place. -/
def buildsOn (session : Session) (place : Declaration) : List Step → List Adjustment
  | [] => []
  | step :: rest => session.buildsAt place step ++ (session.step step).1.buildsOn place rest

variable {session : Session} {id : MockId} {slot : Nat} {expectation : Expectation}

/-- Builder calls that come with a declaration do not reach the expectations before it. -/
theorem eventsAt_of_declareVisit {declaration : Event} {other : MockId}
    (declares : declaration.buildsAt slot = [])
    (inside : slot < (session.world.mockAt id).queue.length) (adjustments : List Adjustment) :
    (if other = id then (session.declareVisit other declaration adjustments).events
      else []).flatMap (·.buildsAt slot) = [] := by
  split
  next same =>
    subst same
    rw [declareVisit, List.flatMap_cons, declares, List.flatMap_singleton, Event.buildsAt,
      if_neg (Nat.ne_of_gt inside), List.append_nil]
  · rfl

private theorem eventsAt_buildsAt (inside : slot < (session.world.mockAt id).queue.length)
    (step : Step) :
    (session.eventsAt step id).flatMap (·.buildsAt slot) = session.buildsAt ⟨id, slot⟩ step := by
  by_cases scripting : step.isScripting = true
  · cases step with
    | expect mock kind sql adjustments asExpectation =>
        rw [eventsAt, visits, Table.through]
        cases session.mocks.get? mock with
        | none => rfl
        | some other =>
            dsimp only
            cases sql.mapM (session.world.mockAt other).compile with
            | error error => rfl
            | ok matcher =>
                rw [List.flatMap_singleton]
                exact eventsAt_of_declareVisit rfl inside adjustments
    | follow handle kind adjustments asExpectation =>
        rw [eventsAt, visits, Table.through]
        cases session.expectations.get? handle with
        | none => rfl
        | some source =>
            dsimp only
            rw [List.flatMap_singleton]
            exact eventsAt_of_declareVisit rfl inside adjustments
    | adjust name adjustments =>
        rw [eventsAt, visits, Table.through, buildsAt]
        cases session.expectations.get? name with
        | none => rfl
        | some declared =>
            obtain ⟨other, index⟩ := declared
            by_cases here : other = id <;>
              simp [here, Event.buildsAt]
    | _ => contradiction
  · have playing := session.eventsAt_playing (Bool.eq_false_iff.mpr scripting) id
    have noneBuilds : session.buildsAt ⟨id, slot⟩ step = [] := by
      cases step with
      | adjust name adjustments => exact absurd rfl scripting
      | _ => rfl
    rw [noneBuilds, List.flatMap_eq_nil_iff]
    exact fun event isEvent => Event.buildsAt_of_playing (playing event isEvent) slot

private theorem created_of_found
    (found : (session.world.mockAt id).queue[slot]? = some expectation) :
    id < session.world.mocks.length := by
  by_contra uncreated
  rw [World.mockAt_of_uncreated (Nat.not_lt.mp uncreated)] at found
  contradiction

/-- An expectation stays at its place, and no more is written of it than by builder calls through
handles of that place. -/
theorem run_written (found : (session.world.mockAt id).queue[slot]? = some expectation)
    (steps : List Step) :
    ∃ now, ((session.run steps).world.mockAt id).queue[slot]? = some now ∧
      now.asWritten = expectation.asWritten.builtBy (session.buildsOn ⟨id, slot⟩ steps) := by
  induction steps generalizing session expectation with
  | nil => exact ⟨expectation, found, rfl⟩
  | cons step rest inductionHypothesis =>
      have inside := (List.getElem?_eq_some_iff.mp found).1
      obtain ⟨next, isNext, written⟩ := Mock.run_written found (session.eventsAt step id)
      rw [← step_mockAt (created_of_found found)] at isNext
      obtain ⟨now, isNow, restWritten⟩ := inductionHypothesis isNext
      rw [written, eventsAt_buildsAt inside, ← Expectation.builtBy_append] at restWritten
      exact ⟨now, isNow, restWritten⟩

private theorem Declares.run_written {step : Step} {asExpectation : Option String}
    {declared : Declaration} (consistent : session.Consistent)
    (declares : session.Declares step asExpectation declared expectation) (later : List Step) :
    ∃ now,
      (((session.step step).1.run later).world.mockAt declared.mock).queue[declared.slot]? =
        some now ∧
      now.asWritten = expectation.builtBy ((session.step step).1.buildsOn declared later) := by
  have appended := declares.appended consistent
  have isLast : ((session.step step).1.world.mockAt declared.mock).queue[declared.slot]? =
      some expectation := by
    rw [appended.queue, appended.place, List.getElem?_concat_length]
  obtain ⟨now, isNow, written⟩ := Session.run_written isLast later
  rw [declares.asWritten] at written
  exact ⟨now, isNow, written⟩

/-! ## Runs of builder calls -/

/-- The session with its expectations rewritten, each according to its place. -/
def rewritten (session : Session) (write : Declaration → Expectation → Expectation) : Session :=
  { session with world := session.world.rewrite write }

@[simp]
private theorem rewritten_rewritten (session : Session)
    (first second : Declaration → Expectation → Expectation) :
    (session.rewritten first).rewritten second =
      session.rewritten fun place expectation => second place (first place expectation) := by
  rw [rewritten, rewritten, rewritten, World.rewrite_rewrite]

@[simp]
private theorem rewritten_self (session : Session) :
    (session.rewritten fun _ expectation => expectation) = session := by
  rw [rewritten, World.rewrite_self]

private theorem builtBy_buildsAt {declared : Declaration} {name : String}
    (isHandle : session.expectations.get? name = some declared) (adjustments : List Adjustment)
    (place : Declaration) (expectation : Expectation) :
    expectation.builtBy (session.buildsAt place (.adjust name adjustments)) =
      if place = declared then expectation.builtBy (performed adjustments) else expectation := by
  rw [buildsAt, isHandle]
  by_cases here : place = declared
  · rw [if_pos (congrArg some here.symm), if_pos here]
  · rw [if_neg (fun same => here (Option.some.inj same).symm), if_neg here]
    rfl

private theorem Consistent.adjust_eq (consistent : session.Consistent) {declared : Declaration}
    {name : String} (isHandle : session.expectations.get? name = some declared)
    (adjustments : List Adjustment) :
    (session.step (.adjust name adjustments)).1 = session.rewritten fun place expectation =>
      if place = declared then expectation.builtBy (performed adjustments) else expectation := by
  have stepped : (session.step (.adjust name adjustments)).1 = { session with
      world := session.world.restore declared.mock
        ((session.world.mockAt declared.mock).adjust declared.slot adjustments).1 } :=
    congrArg Prod.fst (require_of_some isHandle session _)
  rw [stepped, rewritten, ← World.revise_modify]
  refine congrArg (fun world => { session with world := world }) ?_
  rw [Mock.adjust_state]
  simp only [Expectation.applyAll_eq_builtBy]
  refine World.Consistent.restore_eq_revise consistent ?_ ?_ <;> rfl

private theorem step_of_building (consistent : session.Consistent) {step : Step}
    (building : step.isBuilding = true) :
    (session.step step).1 = session.rewritten fun place expectation =>
      expectation.builtBy (session.buildsAt place step) := by
  cases step with
  | adjust name adjustments =>
      cases found : session.expectations.get? name with
      | none =>
          have nothing (place : Declaration) :
              session.buildsAt place (.adjust name adjustments) = [] := by
            simp [buildsAt, found]
          simp [step, found, nothing, Expectation.builtBy]
      | some declared =>
          rw [consistent.adjust_eq found]
          simp only [builtBy_buildsAt found]
  | _ => contradiction

/-- Builder calls make and lose no handles. -/
theorem buildsOn_of_building (consistent : session.Consistent) {steps : List Step}
    (building : ∀ step ∈ steps, step.isBuilding = true) (place : Declaration) :
    session.buildsOn place steps = steps.flatMap (session.buildsAt place) := by
  induction steps generalizing session with
  | nil => rfl
  | cons step rest inductionHypothesis =>
      obtain ⟨first, restBuilding⟩ := List.forall_mem_cons.mp building
      have sameHandles : (session.step step).1.buildsAt place = session.buildsAt place := by
        rw [step_of_building consistent first]
        rfl
      rw [buildsOn, inductionHypothesis (step_consistent consistent step) restBuilding,
        sameHandles, List.flatMap_cons]

/-- A run of builder calls rewrites every expectation by the calls on it, and does nothing else. -/
theorem run_of_building (consistent : session.Consistent) {steps : List Step}
    (building : ∀ step ∈ steps, step.isBuilding = true) :
    session.run steps = session.rewritten fun place expectation =>
      expectation.builtBy (session.buildsOn place steps) := by
  induction steps generalizing session with
  | nil => exact session.rewritten_self.symm
  | cons step rest inductionHypothesis =>
      obtain ⟨first, restBuilding⟩ := List.forall_mem_cons.mp building
      rw [run, inductionHypothesis (step_consistent consistent step) restBuilding]
      simp only [buildsOn, Expectation.builtBy_append]
      exact (congrArg (rewritten · _) (step_of_building consistent first)).trans
        (session.rewritten_rewritten _ _)

/-- Builder calls lead to the same if the last one on each part of each expectation is the
same. -/
theorem run_congr_of_building (consistent : session.Consistent) {first second : List Step}
    (firstBuilds : ∀ step ∈ first, step.isBuilding = true)
    (secondBuilds : ∀ step ∈ second, step.isBuilding = true)
    (sameLast : ∀ place part,
      lastOn? part (session.buildsOn place first) = lastOn? part (session.buildsOn place second)) :
    session.run first = session.run second := by
  have same (place : Declaration) (expectation : Expectation) :
      expectation.builtBy (session.buildsOn place first) =
        expectation.builtBy (session.buildsOn place second) :=
    Expectation.builtBy_congr (sameLast place) expectation
  rw [run_of_building consistent firstBuilds, run_of_building consistent secondBuilds]
  simp only [same]

/-! ## Two builder calls -/

/-- What a builder call sets: a part of the expectation that its handle denotes. There is none if
the call is refused or the handle is not there. -/
def target? (session : Session) (name : String) (call : Adjustment) : Option (Declaration × Part) :=
  (session.expectations.get? name).bind fun declared =>
    call.part?.map fun part => (declared, part)

private theorem lastOn?_buildsAt (session : Session) (place : Declaration) (part : Part)
    (name : String)
    (call : Adjustment) :
    lastOn? part (session.buildsAt place (.adjust name [call])) =
      if session.target? name call = some (place, part) then some call else none := by
  rw [buildsAt, target?, performed]
  cases session.expectations.get? name with
  | none => rfl
  | some declared =>
      cases sets : call.part? with
      | none => simp [sets, lastOn?]
      | some its =>
          by_cases here : declared = place
          · simp [here, sets, lastOn?_singleton]
          · simp [here, lastOn?]

private theorem buildsOn_pair (consistent : session.Consistent) (place : Declaration)
    (first second : String) (firstCall secondCall : Adjustment) :
    session.buildsOn place [.adjust first [firstCall], .adjust second [secondCall]] =
      session.buildsAt place (.adjust first [firstCall]) ++
        session.buildsAt place (.adjust second [secondCall]) := by
  rw [buildsOn_of_building consistent (by simp [Step.isBuilding])]
  simp

/-- Calls that set different parts, or parts of different expectations, commute. -/
theorem builds_commute (consistent : session.Consistent) {first second : String}
    {firstCall secondCall : Adjustment}
    (apart : ∀ target, session.target? first firstCall = some target →
      session.target? second secondCall ≠ some target) :
    session.run [.adjust first [firstCall], .adjust second [secondCall]] =
      session.run [.adjust second [secondCall], .adjust first [firstCall]] := by
  refine run_congr_of_building consistent (by simp [Step.isBuilding])
    (by simp [Step.isBuilding]) fun place part => ?_
  rw [buildsOn_pair consistent, buildsOn_pair consistent, lastOn?_append, lastOn?_append,
    lastOn?_buildsAt, lastOn?_buildsAt]
  by_cases firstSets : session.target? first firstCall = some (place, part)
  · rw [if_pos firstSets, if_neg (apart _ firstSets)]
    rfl
  · rw [if_neg firstSets, Option.or_none, Option.none_or]

/-- Of two calls that set the same part, the later one counts. -/
theorem later_build_wins (consistent : session.Consistent) {first second : String}
    {firstCall secondCall : Adjustment}
    (same : session.target? first firstCall = session.target? second secondCall) :
    session.run [.adjust first [firstCall], .adjust second [secondCall]] =
      session.run [.adjust second [secondCall]] := by
  refine run_congr_of_building consistent (by simp [Step.isBuilding])
    (by simp [Step.isBuilding]) fun place part => ?_
  rw [buildsOn_pair consistent, buildsOn, buildsOn, List.append_nil, lastOn?_append,
    lastOn?_buildsAt, lastOn?_buildsAt, same]
  split <;> rfl

/-! ## Chains that come with declarations -/

section

variable {first second : List Adjustment}

private theorem expect_congr (consistent : session.Consistent)
    (sameLast : ∀ part, lastOn? part (performed first) = lastOn? part (performed second))
    (mock : String) (kind : CallKind) (sql : Option String) (asExpectation : Option String) :
    (session.step (.expect mock kind sql first asExpectation)).1 =
      (session.step (.expect mock kind sql second asExpectation)).1 := by
  cases isMock : session.mocks.get? mock with
  | none =>
      have idle (adjustments : List Adjustment) :
          (session.step (.expect mock kind sql adjustments asExpectation)).1 = session := by
        simp [step, isMock]
      rw [idle, idle]
  | some id =>
      cases compiled : sql.mapM (session.world.mockAt id).compile with
      | error error => rw [expect_of_refused isMock compiled, expect_of_refused isMock compiled]
      | ok matcher =>
          rw [(Declares.expect isMock compiled kind first asExpectation).state consistent,
            (Declares.expect isMock compiled kind second asExpectation).state consistent,
            Expectation.builtBy_congr sameLast]

private theorem follow_congr (consistent : session.Consistent)
    (sameLast : ∀ part, lastOn? part (performed first) = lastOn? part (performed second))
    (handle : String) (kind : CallKind) (asExpectation : Option String) :
    (session.step (.follow handle kind first asExpectation)).1 =
      (session.step (.follow handle kind second asExpectation)).1 := by
  cases isHandle : session.expectations.get? handle with
  | none =>
      have idle (adjustments : List Adjustment) :
          (session.step (.follow handle kind adjustments asExpectation)).1 = session := by
        simp [step, isHandle]
      rw [idle, idle]
  | some source =>
      rw [(Declares.follow isHandle kind first asExpectation).state consistent,
        (Declares.follow isHandle kind second asExpectation).state consistent,
        Expectation.builtBy_congr sameLast]

end

/-! ## All of it -/

/-- A handle of a run denotes an expectation: the one that the declaration which returned the
handle, or the handle that it was cloned from, has appended, with the builder calls made on it
since. -/
def Denotes (steps : List Step) (name : String) (declared : Declaration) (now : Expectation) :
    Prop :=
  ∃ before step later original expectation, steps = before ++ step :: later ∧
    (empty.run before).Declares step (some original) declared expectation ∧
    Descends later original name ∧
    now.asWritten = expectation.builtBy (((empty.run before).step step).1.buildsOn declared later)

private theorem denotes_of_handle {steps : List Step} {name : String} {declared : Declaration}
    (isHandle : (empty.run steps).expectations.get? name = some declared) :
    ∃ now, ((empty.run steps).world.mockAt declared.mock).queue[declared.slot]? = some now ∧
      Denotes steps name declared now := by
  obtain ⟨before, step, later, original, expectation, rfl, declares, descends⟩ :=
    declared_of_handle isHandle
  obtain ⟨now, isNow, written⟩ := declares.run_written (run_consistent before) later
  rw [run_append]
  exact ⟨now, isNow, before, step, later, original, expectation, rfl, declares, descends, written⟩

/-- At every point of every run of a program: a declaration appends one pending expectation, in
the mode that is in force, or changes nothing since its pattern is refused. Whatever comes later,
what it has appended stays at its place, and is written by builder calls through handles of that
place only; every handle that is held is of such a place. A builder call changes one expectation,
and there no more than the parts that it sets. Two calls commute unless they set the same part of
the same expectation, and then the later one counts. So calls in any order, in chains or one by
one, lead to the same if the last one on each part is the same. -/
theorem script_is_written_in_place (steps : List Step) :
    let session := empty.run steps
    (∀ mock id, session.mocks.get? mock = some id → ∀ kind sql adjustments asExpectation,
      let step := Step.expect mock kind sql adjustments asExpectation
      (∃ declared expectation, session.Declares step asExpectation declared expectation) ∨
      ∃ error, sql.mapM (session.world.mockAt id).compile = .error error ∧
        session.step step = (session, .attempt (.error error))) ∧
    (∀ step asExpectation declared expectation,
      session.Declares step asExpectation declared expectation →
        let after := (session.step step).1
        session.Appended asExpectation declared expectation after ∧
        ∀ later, ∃ now,
          ((after.run later).world.mockAt declared.mock).queue[declared.slot]? = some now ∧
          now.asWritten = expectation.builtBy (after.buildsOn declared later)) ∧
    (∀ name declared, session.expectations.get? name = some declared →
      (∃ now, (session.world.mockAt declared.mock).queue[declared.slot]? = some now ∧
        Denotes steps name declared now) ∧
      ∀ adjustments, (session.step (.adjust name adjustments)).1 =
        session.rewritten fun place expectation =>
          if place = declared then expectation.builtBy (performed adjustments)
          else expectation) ∧
    (∀ (expectation : Expectation) (calls : List Adjustment),
      Adjustment.Untouched expectation (expectation.builtBy calls) ∧
      ∀ part, (∀ call ∈ calls, call.part? ≠ some part) →
        (expectation.builtBy calls).content part = expectation.content part) ∧
    (∀ first second firstCall secondCall,
      ((∀ target, session.target? first firstCall = some target →
          session.target? second secondCall ≠ some target) →
        session.run [.adjust first [firstCall], .adjust second [secondCall]] =
          session.run [.adjust second [secondCall], .adjust first [firstCall]]) ∧
      (session.target? first firstCall = session.target? second secondCall →
        session.run [.adjust first [firstCall], .adjust second [secondCall]] =
          session.run [.adjust second [secondCall]])) ∧
    (∀ first second : List Step, (∀ step ∈ first, step.isBuilding = true) →
      (∀ step ∈ second, step.isBuilding = true) →
      (∀ place part, lastOn? part (session.buildsOn place first) =
        lastOn? part (session.buildsOn place second)) →
        session.run first = session.run second) ∧
    ∀ first second : List Adjustment,
      (∀ part, lastOn? part (performed first) = lastOn? part (performed second)) →
        (∀ mock kind sql asExpectation,
          (session.step (.expect mock kind sql first asExpectation)).1 =
            (session.step (.expect mock kind sql second asExpectation)).1) ∧
        ∀ handle kind asExpectation,
          (session.step (.follow handle kind first asExpectation)).1 =
            (session.step (.follow handle kind second asExpectation)).1 := by
  intro session
  have consistent : session.Consistent := run_consistent steps
  refine ⟨?_, ?_, ?_, ?_, ?_, ?_, ?_⟩
  · intro mock id isMock kind sql adjustments asExpectation step
    cases compiled : sql.mapM (session.world.mockAt id).compile with
    | error error =>
        exact .inr ⟨error, rfl, expect_of_refused isMock compiled kind adjustments asExpectation⟩
    | ok matcher => exact .inl ⟨_, _, .expect isMock compiled kind adjustments asExpectation⟩
  · intro step asExpectation declared expectation declares after
    exact ⟨declares.appended consistent, declares.run_written consistent⟩
  · intro name declared isHandle
    exact ⟨denotes_of_handle isHandle, consistent.adjust_eq isHandle⟩
  · intro expectation calls
    exact ⟨expectation.builtBy_untouched calls,
      fun part others => Expectation.content_builtBy_of_other others expectation⟩
  · intro first second firstCall secondCall
    exact ⟨builds_commute consistent, later_build_wins consistent⟩
  · intro first second firstBuilds secondBuilds sameLast
    exact run_congr_of_building consistent firstBuilds secondBuilds sameLast
  · intro first second sameLast
    exact ⟨expect_congr consistent sameLast, follow_congr consistent sameLast⟩

/-- Two chains on a query, with one on an exec between them, leave what one chain does that wants
no arguments in the first place. -/
theorem interleaved_chains_agree :
    let session := empty.run [
      .create "mock" "connection" Config.standard,
      .expect "mock" .query (some "SELECT") [] (some "query"),
      .expect "mock" .exec (some "INSERT") [] (some "exec")]
    let failure : Adjustment := .error (.custom "failure")
    session.run [
        .adjust "query" [.withArguments [⟨none, .any⟩]],
        .adjust "exec" [failure],
        .adjust "query" [failure, .withoutArguments]] =
      session.run [
        .adjust "query" [.withoutArguments, failure],
        .adjust "exec" [failure]] := by
  intro session failure
  have consistent : session.Consistent := run_consistent _
  have isQuery : session.expectations.get? "query" = some ⟨0, 0⟩ := by decide +kernel
  have isExec : session.expectations.get? "exec" = some ⟨0, 1⟩ := by decide +kernel
  obtain ⟨-, -, -, -, -, reorders, -⟩ := script_is_written_in_place _
  refine reorders _ _ (by simp [Step.isBuilding]) (by simp [Step.isBuilding]) fun place part => ?_
  rw [buildsOn_of_building consistent (by simp [Step.isBuilding]),
    buildsOn_of_building consistent (by simp [Step.isBuilding])]
  simp only [List.flatMap_cons, List.flatMap_nil, buildsAt, isQuery, isExec]
  by_cases onQuery : (⟨0, 0⟩ : Declaration) = place
  · subst onQuery
    cases part <;> rfl
  · by_cases onExec : (⟨0, 1⟩ : Declaration) = place
    · subst onExec
      cases part <;> rfl
    · simp [onQuery, onExec]

end Session

end ScriptedSql
