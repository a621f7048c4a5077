import ScriptedSql.Proofs.Mock.Dispatch
import ScriptedSql.Proofs.Queue.Slots

/-!
Contract: statements that are executed in a batch.

Owns:
- the ways in which a single statement fails, with the mock that each of them leaves;
- runs of statements that all succeed, each on the mock that the ones before it have left;
- the agreement: a batch succeeds exactly if its statements run through, and otherwise ends
  with the first that fails;
- batches in sequence.

Does not own: the calls that a batch makes (`Mock.Request`).
-/

namespace ScriptedSql

namespace Exchange

/-! ## Single statements -/

def statementCall (sql : String) (parameters : List Value) : Call :=
  ⟨.exec, some sql, Argument.ofValues parameters⟩

/-- A statement fails on a mock with an error, and leaves a mock behind. Before an expectation
has taken it the mock stays as it is; after that the expectation is fulfilled. -/
inductive Fails (mock : Mock) (call : Call) : Error → Mock → Prop where
  | closed (closed : mock.closed = true) : Fails mock call (mock.closedCall call) mock
  | rejected {rejection : Rejection} (isOpen : mock.closed = false)
      (rejected : mock.queue.resolve mock.config.converter call = .error rejection) :
      Fails mock call (rejection.toError call) mock
  | configured {slot : Fin mock.queue.length} {error : Error}
      (taken : mock.taker? call = some slot)
      (configured : (mock.queue.get slot).error = some error) :
      Fails mock call error { mock with queue := mock.queue.fulfil slot }
  | withoutResult {slot : Fin mock.queue.length} (taken : mock.taker? call = some slot)
      (answering : (mock.queue.get slot).error = none)
      (missing : (mock.queue.get slot).result = none) :
      Fails mock call (call.missingOutcome "result" "will_return_result")
        { mock with queue := mock.queue.fulfil slot }
  | withoutCount {slot : Fin mock.queue.length} {result : ExecResult} {error : Error}
      (taken : mock.taker? call = some slot)
      (answering : (mock.queue.get slot).error = none)
      (returned : (mock.queue.get slot).result = some result)
      (failing : result.rowsAffected = .error error) :
      Fails mock call error { mock with queue := mock.queue.fulfil slot }

variable {mock after : Mock} {sql : String} {parameters : List Value}

private theorem execute_of_error {error : Error} {between : Mock}
    (failed : exec sql (Argument.ofValues parameters) mock = (.error error, between)) :
    execute sql parameters mock = (.error error, between) := by
  simp [execute, failed]

private theorem execute_of_result {result : ExecResult} {between : Mock}
    (succeeded : exec sql (Argument.ofValues parameters) mock = (.ok result, between)) :
    execute sql parameters mock = (result.rowsAffected, between) := by
  simp [execute, succeeded]

private theorem exec_of_result {slot : Fin mock.queue.length} {result : ExecResult}
    (taken : mock.taker? (statementCall sql parameters) = some slot)
    (answering : (mock.queue.get slot).error = none)
    (returned : (mock.queue.get slot).result = some result) :
    exec sql (Argument.ofValues parameters) mock =
      (.ok result, { mock with queue := mock.queue.fulfil slot }) := by
  refine (dispatch_of_answering taken answering).trans ?_
  unfold Expectation.answer
  rw [returned]
  rfl

private theorem exec_of_missing {slot : Fin mock.queue.length}
    (taken : mock.taker? (statementCall sql parameters) = some slot)
    (answering : (mock.queue.get slot).error = none)
    (missing : (mock.queue.get slot).result = none) :
    exec sql (Argument.ofValues parameters) mock =
      (.error ((statementCall sql parameters).missingOutcome "result" "will_return_result"),
        { mock with queue := mock.queue.fulfil slot }) := by
  refine (dispatch_of_answering taken answering).trans ?_
  unfold Expectation.answer
  rw [missing]
  rfl

private theorem execute_of_fails {error : Error}
    (fails : Fails mock (statementCall sql parameters) error after) :
    execute sql parameters mock = (.error error, after) := by
  cases fails with
  | closed closed => exact execute_of_error (dispatch_of_closed closed)
  | rejected isOpen rejected => exact execute_of_error (dispatch_of_rejected isOpen rejected)
  | configured taken configured => exact execute_of_error (dispatch_of_failing taken configured)
  | withoutResult taken answering missing =>
      exact execute_of_error (exec_of_missing taken answering missing)
  | withoutCount taken answering returned failing =>
      rw [execute_of_result (exec_of_result taken answering returned), failing]

/-- A statement succeeds, or fails in one of the ways. -/
theorem execute_cases (sql : String) (parameters : List Value) (mock : Mock) :
    (∃ count after, execute sql parameters mock = (.ok count, after)) ∨
      ∃ error after, Fails mock (statementCall sql parameters) error after := by
  by_cases closed : mock.closed = true
  · exact .inr ⟨_, _, .closed closed⟩
  have isOpen := Bool.eq_false_iff.mpr closed
  cases resolved : mock.queue.resolve mock.config.converter (statementCall sql parameters) with
  | error rejection => exact .inr ⟨_, _, .rejected isOpen resolved⟩
  | ok slot =>
      have taken := Mock.taker?_eq_some_iff.mpr ⟨isOpen, resolved⟩
      cases configured : (mock.queue.get slot).error with
      | some error => exact .inr ⟨_, _, .configured taken configured⟩
      | none =>
          cases returned : (mock.queue.get slot).result with
          | none => exact .inr ⟨_, _, .withoutResult taken configured returned⟩
          | some result =>
              cases counted : result.rowsAffected with
              | error error => exact .inr ⟨_, _, .withoutCount taken configured returned counted⟩
              | ok count =>
                  have succeeds := execute_of_result (exec_of_result taken configured returned)
                  rw [counted] at succeeds
                  exact .inl ⟨count, _, succeeds⟩

private theorem execute_fails_iff {error : Error} :
    execute sql parameters mock = (.error error, after) ↔
      Fails mock (statementCall sql parameters) error after := by
  constructor
  · intro failed
    rcases execute_cases sql parameters mock with ⟨count, between, succeeded⟩ | ⟨_, _, fails⟩
    · rw [failed] at succeeded
      cases succeeded
    · have same := execute_of_fails fails
      rw [failed] at same
      cases same
      exact fails
  · exact execute_of_fails

/-- A statement that fails leaves the mock as it is, but for the expectation that has taken
it. -/
theorem Fails.state {call : Call} {error : Error} (fails : Fails mock call error after) :
    after =
      match mock.taker? call with
      | none => mock
      | some slot => { mock with queue := mock.queue.fulfil slot } := by
  cases fails with
  | closed closed => rw [Mock.taker?_eq_none_of_closed closed]
  | rejected isOpen rejected =>
      have untaken : mock.taker? call = none := by
        rw [Mock.taker?, if_neg (Bool.eq_false_iff.mp isOpen), rejected]
      rw [untaken]
  | configured taken configured => rw [taken]
  | withoutResult taken answering missing => rw [taken]
  | withoutCount taken answering returned failing => rw [taken]

/-! ## Runs of statements -/

/-- Statements succeed one after the other, with the number of rows that each affected. -/
inductive RunsThrough : Mock → List (String × List Value) → List UInt64 → Mock → Prop where
  | nil (mock : Mock) : RunsThrough mock [] [] mock
  | cons {mock between after : Mock} {sql : String} {parameters : List Value}
      {rest : List (String × List Value)} {count : UInt64} {counts : List UInt64}
      (succeeds : execute sql parameters mock = (.ok count, between))
      (restRuns : RunsThrough between rest counts after) :
      RunsThrough mock ((sql, parameters) :: rest) (count :: counts) after

theorem RunsThrough.length {statements : List (String × List Value)} {counts : List UInt64}
    (runs : RunsThrough mock statements counts after) : counts.length = statements.length := by
  induction runs with
  | nil => rfl
  | cons succeeds restRuns inductionHypothesis => exact congrArg Nat.succ inductionHypothesis

/-! ## Batches -/

@[simp]
private theorem batch_cons (sql : String) (parameters : List Value)
    (rest : List (String × List Value)) :
    batch ((sql, parameters) :: rest) = (do
      let count ← execute sql parameters
      return count :: (← batch rest)) :=
  List.mapM_cons

@[simp]
private theorem batch_append (first second : List (String × List Value)) :
    batch (first ++ second) = (do
      let counts ← batch first
      return counts ++ (← batch second)) :=
  List.mapM_append

private theorem batch_cons_of_error {error : Error}
    (failed : execute sql parameters mock = (.error error, after))
    (rest : List (String × List Value)) :
    batch ((sql, parameters) :: rest) mock = (.error error, after) := by
  simp [failed]

private theorem batch_cons_of_ok {count : UInt64} {between : Mock}
    (succeeded : execute sql parameters mock = (.ok count, between))
    (rest : List (String × List Value)) :
    batch ((sql, parameters) :: rest) mock =
      ((batch rest between).1.map (count :: ·), (batch rest between).2) := by
  simp [succeeded]

private theorem batch_of_runsThrough {statements : List (String × List Value)}
    {counts : List UInt64}
    (runs : RunsThrough mock statements counts after) :
    batch statements mock = (.ok counts, after) := by
  induction runs with
  | nil => rfl
  | cons succeeds restRuns inductionHypothesis =>
      simp [batch_cons_of_ok succeeds, inductionHypothesis, Except.map]

/-- A batch that ends with a failing statement does not depend on the statements behind it. -/
theorem batch_of_failure {done : List (String × List Value)} {counts : List UInt64}
    {between : Mock} {error : Error} (runs : RunsThrough mock done counts between)
    (failed : execute sql parameters between = (.error error, after))
    (untried : List (String × List Value)) :
    batch (done ++ (sql, parameters) :: untried) mock = (.error error, after) := by
  simp [batch_of_runsThrough runs, batch_cons_of_error failed, Except.map, -batch_cons]

/-- Statements run through, or some of them do and the next fails. -/
theorem batch_cases (statements : List (String × List Value)) (mock : Mock) :
    (∃ counts after, RunsThrough mock statements counts after) ∨
      ∃ done sql parameters untried counts between error after,
        statements = done ++ (sql, parameters) :: untried ∧
          RunsThrough mock done counts between ∧
          execute sql parameters between = (.error error, after) := by
  induction statements generalizing mock with
  | nil => exact .inl ⟨[], mock, .nil mock⟩
  | cons statement rest inductionHypothesis =>
      obtain ⟨sql, parameters⟩ := statement
      rcases outcome : execute sql parameters mock with ⟨error | count, between⟩
      · exact .inr ⟨[], sql, parameters, rest, [], mock, error, between, rfl, .nil mock, outcome⟩
      · rcases inductionHypothesis between with ⟨counts, after, runs⟩ |
          ⟨done, failing, values, untried, counts, last, error, after, rfl, runs, failed⟩
        · exact .inl ⟨count :: counts, after, .cons outcome runs⟩
        · exact .inr ⟨(sql, parameters) :: done, failing, values, untried, count :: counts, last,
            error, after, rfl, .cons outcome runs, failed⟩

private theorem batch_succeeds_iff {statements : List (String × List Value)}
    {counts : List UInt64} :
    batch statements mock = (.ok counts, after) ↔ RunsThrough mock statements counts after := by
  refine ⟨fun succeeded => ?_, batch_of_runsThrough⟩
  rcases batch_cases statements mock with ⟨_, _, runs⟩ |
    ⟨done, sql, parameters, untried, _, between, error, _, rfl, runs, failed⟩
  · have same := batch_of_runsThrough runs
    rw [succeeded] at same
    cases same
    exact runs
  · rw [batch_of_failure runs failed] at succeeded
    cases succeeded

private theorem batch_fails_iff {statements : List (String × List Value)} {error : Error} :
    batch statements mock = (.error error, after) ↔
      ∃ done sql parameters untried counts between,
        statements = done ++ (sql, parameters) :: untried ∧
          RunsThrough mock done counts between ∧
          execute sql parameters between = (.error error, after) := by
  constructor
  · intro failed
    rcases batch_cases statements mock with ⟨counts, between, runs⟩ |
      ⟨done, sql, parameters, untried, counts, between, _, _, rfl, runs, outcome⟩
    · rw [batch_of_runsThrough runs] at failed
      cases failed
    · have same := batch_of_failure runs outcome untried
      rw [failed] at same
      cases same
      exact ⟨done, sql, parameters, untried, counts, between, rfl, runs, outcome⟩
  · rintro ⟨done, sql, parameters, untried, counts, between, rfl, runs, outcome⟩
    exact batch_of_failure runs outcome untried

/-- A batch of two lists in sequence is the batch of the first and then, only if that
succeeds, the batch of the second, with the counts in sequence. A batch succeeds exactly if its
statements run through, each on the mock that the ones before it have left, and it returns one
count for each. It fails exactly if some statements run through and the next one fails; its
error and its mock are those of that statement, whatever comes behind. A statement fails in one
of five ways. If an expectation had taken it, then that one is fulfilled and nothing else is
different; if none had, then nothing is. -/
theorem batch_stops_at_first_failure (mock : Mock) :
    (∀ first second, batch (first ++ second) mock =
      match batch first mock with
      | (.error error, after) => (.error error, after)
      | (.ok counts, between) =>
        ((batch second between).1.map (counts ++ ·), (batch second between).2)) ∧
    (∀ statements counts after,
      batch statements mock = (.ok counts, after) ↔ RunsThrough mock statements counts after) ∧
    (∀ statements counts after,
      RunsThrough mock statements counts after → counts.length = statements.length) ∧
    (∀ statements error after, batch statements mock = (.error error, after) ↔
      ∃ done sql parameters untried counts between,
        statements = done ++ (sql, parameters) :: untried ∧
          RunsThrough mock done counts between ∧
          execute sql parameters between = (.error error, after)) ∧
    (∀ sql parameters between error after,
      execute sql parameters between = (.error error, after) ↔
        Fails between (statementCall sql parameters) error after) ∧
    ∀ call between error after, Fails between call error after →
      (between.taker? call = none → after = between) ∧
        ∀ slot, between.taker? call = some slot →
          after = { between with queue := between.queue.fulfil slot } ∧
            after.queue.holdsAt (·.fulfilled) slot = true := by
  refine ⟨?_, fun _ _ _ => batch_succeeds_iff, fun _ _ _ => RunsThrough.length,
    fun _ _ _ => batch_fails_iff, fun _ _ _ _ _ => execute_fails_iff, ?_⟩
  · intro first second
    simp only [batch_append, bind_pure_comp, bind_apply, map_apply]
    rcases batch first mock with ⟨error | counts, between⟩ <;> rfl
  · intro call between error after fails
    have state := fails.state
    refine ⟨fun untaken => ?_, fun slot taken => ?_⟩
    · rw [untaken] at state
      exact state
    · rw [taken] at state
      subst state
      exact ⟨rfl, by simp⟩

/-- The second of three statements finds an expectation that has no result. -/
theorem batch_of_three_ends_with_second :
    let counted := { Expectation.fresh .exec none true with result := some (.ofNumbers 0 2) }
    let mock := { Mock.start "batch" Config.standard with
      queue := [counted, .fresh .exec none true, counted] }
    let outcome := batch [("INSERT", []), ("UPDATE", []), ("DELETE", [])] mock
    outcome.1 = .error ((statementCall "UPDATE" []).missingOutcome "result" "will_return_result") ∧
      outcome.2.queue.map (·.fulfilled) = [true, true, false] := by
  intro counted mock outcome
  obtain ⟨-, -, -, fails, -, -⟩ := batch_stops_at_first_failure mock
  have isOutcome : outcome = _ := (fails _ _ _).mpr
    ⟨[("INSERT", [])], "UPDATE", [], [("DELETE", [])], [2], _, rfl, .cons rfl (.nil _), rfl⟩
  rw [isOutcome]
  exact ⟨rfl, rfl⟩

end Exchange

end ScriptedSql
