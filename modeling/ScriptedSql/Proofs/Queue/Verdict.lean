import ScriptedSql.Proofs.Queue.Resolution

/-!
Contract: the verdict on a call, told without a search.

Owns:
- the verdict: the expectation that takes a call, or the reason why none does;
- the verdict of a queue in which nothing holds back, and of one that is split at the first
  expectation that does.

Does not own: the slot of the expectation (`Queue.Resolution`).
-/

namespace ScriptedSql

namespace Expectation

/-- Pending, not tied to an order, and accepts the call: takes it unless one before does. -/
def takesFreely (converter : Converter) (call : Call) (expectation : Expectation) : Bool :=
  !expectation.fulfilled && !expectation.ordered && expectation.accepts converter call

theorem not_takesFreely_of_isBlocking {converter : Converter} {call : Call}
    {expectation : Expectation} (blocking : expectation.isBlocking = true) :
    expectation.takesFreely converter call = false := by
  simp only [isBlocking, Bool.and_eq_true] at blocking
  simp [takesFreely, blocking.2]

end Expectation

namespace Rejection

/-- The reason after expectations that do not hold back and do not take the call. -/
def past (rejection : Rejection) (queue : Queue) : Rejection :=
  match rejection with
  | .exhausted => if queue.all (·.fulfilled) then .exhausted else .unmatched
  | other => other

private theorem after_of_isBlocked {rejection : Rejection} (blocked : rejection.isBlocked = true)
    {expectation : Expectation} (unordered : expectation.ordered = false) (refusal : Refusal) :
    rejection.after expectation refusal = rejection := by
  unfold after
  rw [unordered]
  cases rejection with
  | blocked other reason => rfl
  | _ => contradiction

private theorem past_cons_of_fulfilled {expectation : Expectation}
    (fulfilled : expectation.fulfilled = true) (rejection : Rejection) (queue : Queue) :
    rejection.past (expectation :: queue) = rejection.past queue := by
  cases rejection <;> simp [past, fulfilled]

private theorem past_cons_of_unordered {expectation : Expectation}
    (pending : expectation.fulfilled = false) (unordered : expectation.ordered = false)
    (refusal : Refusal) (rejection : Rejection) (queue : Queue) :
    rejection.past (expectation :: queue) = (rejection.after expectation refusal).past queue := by
  cases rejection <;> simp [past, after, pending, unordered]

private theorem isBlocked_past (rejection : Rejection) (queue : Queue) :
    (rejection.past queue).isBlocked = rejection.isBlocked := by
  cases rejection with
  | exhausted =>
      unfold past
      cases queue.all (·.fulfilled) <;> rfl
  | _ => rfl

end Rejection

namespace Queue

variable {converter : Converter} {call : Call}

/-- The expectation that takes a call, or why none does. -/
def verdict (converter : Converter) (call : Call) (queue : Queue) :
    Except Rejection Expectation :=
  (queue.resolve converter call).map queue.get

/-- The verdict of a part of a queue, given the reason as far as those in front go. -/
private def verdictFrom (converter : Converter) (call : Call) (rejection : Rejection)
    (queue : Queue) : Except Rejection Expectation :=
  (resolveFrom converter call rejection queue).map queue.get

private theorem verdictFrom_cons (rejection : Rejection) (head : Expectation) (tail : Queue) :
    verdictFrom converter call rejection (head :: tail) =
      if isPassedBy rejection.isBlocked head then verdictFrom converter call rejection tail
      else
        match head.refusal? converter call with
        | none => .ok head
        | some refusal => verdictFrom converter call (rejection.after head refusal) tail := by
  have behind (rejection : Rejection) :
      ((resolveFrom converter call rejection tail).map Fin.succ).map (head :: tail).get =
        verdictFrom converter call rejection tail := by
    unfold verdictFrom
    cases resolveFrom converter call rejection tail <;> rfl
  rw [verdictFrom, resolveFrom, ← isPassedBy]
  by_cases passedBy : isPassedBy rejection.isBlocked head = true
  · rw [if_pos passedBy, if_pos passedBy]
    exact behind rejection
  · rw [if_neg passedBy, if_neg passedBy]
    cases head.refusal? converter call with
    | none => rfl
    | some refusal => exact behind (rejection.after head refusal)

/-- Once an ordered expectation has refused the call, only unordered ones can take it. -/
private theorem verdictFrom_of_blocked {rejection : Rejection}
    (blocked : rejection.isBlocked = true) (queue : Queue) :
    verdictFrom converter call rejection queue =
      (queue.find? (·.takesFreely converter call)).elim (.error rejection) .ok := by
  induction queue with
  | nil => rfl
  | cons head tail inductionHypothesis =>
      rw [verdictFrom_cons, List.find?_cons, blocked, isPassedBy, Bool.and_true,
        Expectation.takesFreely, Expectation.accepts]
      cases fulfilled : head.fulfilled with
      | true => exact inductionHypothesis
      | false =>
          cases ordered : head.ordered with
          | true => exact inductionHypothesis
          | false =>
              cases refusal : head.refusal? converter call with
              | none => rfl
              | some reason =>
                  simp only [Rejection.after_of_isBlocked blocked ordered]
                  exact inductionHypothesis

private theorem verdictFrom_of_free {before : Queue}
    (free : ∀ other ∈ before, other.isBlocking = false) {rejection : Rejection}
    (unblocked : rejection.isBlocked = false) (rest : Queue) :
    verdictFrom converter call rejection (before ++ rest) =
      (before.find? (·.takesFreely converter call)).elim
        (verdictFrom converter call (rejection.past before) rest) .ok := by
  induction before generalizing rejection with
  | nil =>
      cases rejection <;> rfl
  | cons head tail inductionHypothesis =>
      obtain ⟨headFree, tailFree⟩ := List.forall_mem_cons.mp free
      have behind {rejection : Rejection} (unblocked : rejection.isBlocked = false) :=
        inductionHypothesis tailFree unblocked
      rw [List.cons_append, verdictFrom_cons, List.find?_cons, unblocked, isPassedBy,
        Bool.and_false, Bool.or_false, Expectation.takesFreely, Expectation.accepts]
      cases fulfilled : head.fulfilled with
      | true =>
          rw [Rejection.past_cons_of_fulfilled fulfilled]
          exact behind unblocked
      | false =>
          have unordered : head.ordered = false := by
            rw [Expectation.isBlocking, fulfilled] at headFree
            exact headFree
          rw [unordered]
          cases refusal : head.refusal? converter call with
          | none => rfl
          | some reason =>
              have stillUnblocked : (rejection.after head reason).isBlocked = false := by
                unfold Rejection.after
                rw [unordered]
                cases rejection with
                | blocked other refusal => contradiction
                | _ => rfl
              rw [Rejection.past_cons_of_unordered fulfilled unordered reason]
              exact behind stillUnblocked

/-- In a queue that holds nothing back, the first unordered expectation that accepts takes
the call. -/
theorem verdict_of_free {queue : Queue} (free : ∀ other ∈ queue, other.isBlocking = false) :
    queue.verdict converter call =
      (queue.find? (·.takesFreely converter call)).elim
        (.error (if queue.all (·.fulfilled) then .exhausted else .unmatched)) .ok := by
  have found : verdictFrom converter call .exhausted (queue ++ []) = _ :=
    verdictFrom_of_free free rfl []
  rw [List.append_nil] at found
  exact found

/-- Of a queue that is split at the first expectation that holds back: this one takes the call
if it accepts it and no unordered one before it does. Else an unordered one behind it may do
so, and if none does, the reason is its own. -/
theorem verdict_of_split {before behind : Queue} {expectation : Expectation}
    (free : ∀ other ∈ before, other.isBlocking = false)
    (blocking : expectation.isBlocking = true) :
    verdict converter call (before ++ expectation :: behind) =
      (before.find? (·.takesFreely converter call)).elim
        ((expectation.refusal? converter call).elim (.ok expectation) fun refusal =>
          (behind.find? (·.takesFreely converter call)).elim
            (.error (.blocked expectation refusal)) .ok) .ok := by
  have isThere := blocking
  simp only [Expectation.isBlocking, Bool.and_eq_true, Bool.not_eq_true'] at isThere
  obtain ⟨pending, ordered⟩ := isThere
  have found : verdictFrom converter call .exhausted (before ++ expectation :: behind) = _ :=
    verdictFrom_of_free free rfl (expectation :: behind)
  have unblocked : (Rejection.past .exhausted before).isBlocked = false :=
    Rejection.isBlocked_past .exhausted before
  refine found.trans (congrArg (fun last => Option.elim _ last _) ?_)
  rw [verdictFrom_cons, unblocked, isPassedBy, pending, ordered]
  cases refusal : expectation.refusal? converter call with
  | none => rfl
  | some reason =>
      unfold Rejection.after
      rw [ordered]
      exact verdictFrom_of_blocked rfl behind

theorem split_at_first (test : Expectation → Bool) (queue : Queue) :
    (∀ other ∈ queue, test other = false) ∨
      ∃ before expectation behind, queue = before ++ expectation :: behind ∧
        (∀ other ∈ before, test other = false) ∧ test expectation = true := by
  cases found : queue.find? test with
  | none =>
      left
      intro other isThere
      exact Bool.eq_false_iff.mpr (List.find?_eq_none.mp found other isThere)
  | some expectation =>
      obtain ⟨passes, before, behind, split, fails⟩ := List.find?_eq_some_iff_append.mp found
      right
      refine ⟨before, expectation, behind, split, fun other isThere => ?_, passes⟩
      rw [← Bool.not_eq_true']
      exact fails other isThere

/-- The expectation that is named in a reason is one of the queue, and holds back. -/
theorem blocking_of_verdict {queue : Queue} {expectation : Expectation} {refusal : Refusal}
    (rejected : queue.verdict converter call = .error (.blocked expectation refusal)) :
    expectation ∈ queue ∧ expectation.isBlocking = true := by
  rcases queue.split_at_first (·.isBlocking) with
    free | ⟨before, first, behind, rfl, free, blocking⟩
  · rw [verdict_of_free free] at rejected
    generalize queue.find? (·.takesFreely converter call) = taker at rejected
    generalize queue.all (·.fulfilled) = allFulfilled at rejected
    cases taker with
    | some taker => cases rejected
    | none => cases allFulfilled <;> cases rejected
  · rw [verdict_of_split free blocking] at rejected
    generalize before.find? (·.takesFreely converter call) = earlier at rejected
    generalize first.refusal? converter call = refused at rejected
    generalize behind.find? (·.takesFreely converter call) = later at rejected
    cases earlier with
    | some taker => cases rejected
    | none =>
        cases refused with
        | none => cases rejected
        | some reason =>
            cases later with
            | some taker => cases rejected
            | none =>
                cases rejected
                exact ⟨List.mem_append_right before List.mem_cons_self, blocking⟩

end Queue

end ScriptedSql
