import ScriptedSql.Proofs.Queue.Verdict

/-!
Contract: the error of a call that no expectation takes.

Owns:
- the error with which a single expectation refuses a call: for its kind, else for its text,
  else for its arguments;
- whose refusal is reported: that of the first pending ordered expectation, whatever stands
  around it, and no one's if there is none;
- the two texts for calls that nobody in particular refuses.

Does not own: which calls are rejected (`Queue.Resolution`).
-/

namespace ScriptedSql

namespace Expectation

/-- The error tells why an expectation does not accept a call. The kind is looked at first, then
the text, and the arguments last. -/
structure RefusesWith (converter : Converter) (call : Call) (expectation : Expectation)
    (error : Error) : Prop where
  kind : expectation.kind ≠ call.kind →
    error = .ofMock .unexpectedCall
      ("call to " ++ call.shown ++ " was not expected, next expectation is: " ++
        expectation.shown)
  sql : expectation.kind = call.kind → expectation.sqlAccepts call.sql = false →
    error = .ofMock .unexpectedCall
      (expectation.kind.name ++ ": could not match actual sql '" ++ call.sqlOrEmpty ++
        "' with expected pattern " ++ (expectation.sql.map (·.shown)).getD "")
  arguments : expectation.kind = call.kind → expectation.sqlAccepts call.sql = true →
    ∃ fault, expectation.arguments.fault? converter call.arguments = some fault ∧
      error = .ofMock fault.kind
        (expectation.kind.name ++ " '" ++ call.sqlOrEmpty ++ "', arguments do not match: " ++
          fault.message)

private theorem refusesWith_of_refusal {converter : Converter} {call : Call}
    {expectation : Expectation}
    {refusal : Refusal} (refused : expectation.refusal? converter call = some refusal) :
    expectation.RefusesWith converter call (refusal.toError call expectation) := by
  unfold refusal? at refused
  split at refused
  next otherKind =>
    cases refused
    exact ⟨fun _ => rfl, fun same => absurd same otherKind, fun same => absurd same otherKind⟩
  next sameKind =>
    have same := Decidable.not_not.mp sameKind
    split at refused
    next refusesText =>
      cases refused
      refine ⟨fun other => absurd same other, fun _ _ => rfl, ?_⟩
      intro _ acceptsText
      rw [refusesText] at acceptsText
      contradiction
    next acceptsText =>
      obtain ⟨fault, isFault, rfl⟩ := Option.map_eq_some_iff.mp refused
      exact ⟨fun other => absurd same other, fun _ refusesText => absurd refusesText acceptsText,
        fun _ _ => ⟨fault, isFault, rfl⟩⟩

end Expectation

namespace Rejection

def exhaustedError (call : Call) : Error :=
  .ofMock .unexpectedCall
    ("all expectations were already fulfilled, call to " ++ call.shown ++ " was not expected")

/-- The error of a call that none of the expectations that are left accepts. -/
def unmatchedError (call : Call) : Error :=
  .ofMock .unexpectedCall
    ("call to " ++ call.shown ++ " was not expected, no pending expectation matches it")

private theorem exhaustedError_ne_unmatchedError (call : Call) :
    exhaustedError call ≠ unmatchedError call := by
  intro same
  simp only [exhaustedError, unmatchedError, Error.ofMock, Error.mock.injEq, MockError.mk.injEq,
    true_and] at same
  -- The two texts differ in length, whatever the call is.
  have sameLength := congrArg String.length same
  simp only [String.length_append] at sameLength
  change 49 + call.shown.length + 17 = 8 + call.shown.length + 52 at sameLength
  omega

end Rejection

namespace Queue

variable {converter : Converter} {call : Call} {queue : Queue} {rejection : Rejection}

private theorem verdict_of_rejected (rejected : queue.resolve converter call = .error rejection) :
    queue.verdict converter call = .error rejection := by
  rw [verdict, rejected]
  rfl

/-- The first expectation that holds back is the one whose refusal is reported. -/
theorem rejection_of_blocked {head : Expectation}
    (rejected : queue.resolve converter call = .error rejection)
    (isHead : queue.find? (·.isBlocking) = some head) :
    ∃ refusal, head.refusal? converter call = some refusal ∧ rejection = .blocked head refusal := by
  obtain ⟨blocking, before, behind, rfl, free⟩ := List.find?_eq_some_iff_append.mp isHead
  have verdict := verdict_of_rejected rejected
  rw [verdict_of_split (fun other isThere => by simpa using free other isThere) blocking] at verdict
  cases earlier : before.find? (·.takesFreely converter call) with
  | some taker => simp [earlier] at verdict
  | none =>
      cases refused : head.refusal? converter call with
      | none => simp [earlier, refused] at verdict
      | some refusal =>
          cases later : behind.find? (·.takesFreely converter call) with
          | some taker => simp [earlier, refused, later] at verdict
          | none =>
              simp only [earlier, refused, later, Option.elim_none, Option.elim_some,
                Except.error.injEq] at verdict
              exact ⟨refusal, rfl, verdict.symm⟩

/-- Where nothing holds back, all that counts is whether an expectation is left. -/
theorem rejection_of_free (rejected : queue.resolve converter call = .error rejection)
    (free : queue.find? (·.isBlocking) = none) :
    rejection = if queue.all (·.fulfilled) then .exhausted else .unmatched := by
  have noneBlocks : ∀ other ∈ queue, other.isBlocking = false := by simpa using free
  have verdict := verdict_of_rejected rejected
  rw [verdict_of_free noneBlocks] at verdict
  cases taker : queue.find? (·.takesFreely converter call) with
  | some expectation => simp [taker] at verdict
  | none =>
      simp only [taker, Option.elim_none, Except.error.injEq] at verdict
      exact verdict.symm

/-- The refusal that is reported is the one of the expectation that is named with it. -/
theorem refusal_of_blocked {expectation : Expectation} {refusal : Refusal}
    (rejected : queue.resolve converter call = .error (.blocked expectation refusal)) :
    expectation.refusal? converter call = some refusal := by
  cases found : queue.find? (·.isBlocking) with
  | some head =>
      obtain ⟨reported, refused, same⟩ := rejection_of_blocked rejected found
      cases same
      exact refused
  | none =>
      have reason := rejection_of_free rejected found
      generalize queue.all (·.fulfilled) = allFulfilled at reason
      cases allFulfilled <;> cases reason

/-- The error of a rejected call is that of the first pending ordered expectation, if there is
one: whatever stands before and behind it, its refusal is reported. Otherwise the call is
unexpected, and the text tells whether any expectation is left. -/
theorem rejection_reports_the_next (queue : Queue) (converter : Converter) (call : Call)
    (rejection : Rejection) (rejected : queue.resolve converter call = .error rejection) :
    (∀ head, queue.find? (·.isBlocking) = some head →
      head.RefusesWith converter call (rejection.toError call)) ∧
    (queue.find? (·.isBlocking) = none →
      (rejection.toError call = Rejection.exhaustedError call ↔
        ∀ expectation ∈ queue, expectation.fulfilled = true) ∧
      (rejection.toError call = Rejection.unmatchedError call ↔
        ∃ expectation ∈ queue, expectation.fulfilled = false)) := by
  constructor
  · intro head isHead
    obtain ⟨refusal, refused, rfl⟩ := rejection_of_blocked rejected isHead
    exact Expectation.refusesWith_of_refusal refused
  · intro free
    have reason := rejection_of_free rejected free
    have differ := Rejection.exhaustedError_ne_unmatchedError call
    have someLeft : (∃ expectation ∈ queue, expectation.fulfilled = false) ↔
        ¬ ∀ expectation ∈ queue, expectation.fulfilled = true := by
      simp
    rw [someLeft, ← List.all_eq_true]
    cases noneLeft : queue.all (·.fulfilled) with
    | true =>
        rw [noneLeft, if_pos rfl] at reason
        subst reason
        exact ⟨iff_of_true rfl rfl, iff_of_false differ (not_not_intro rfl)⟩
    | false =>
        rw [noneLeft, if_neg Bool.false_ne_true] at reason
        subst reason
        exact ⟨iff_of_false differ.symm Bool.false_ne_true, iff_of_true rfl Bool.false_ne_true⟩

/-- Unordered expectations before and behind do not hide what is wrong with the arguments that
the next ordered one is called with. -/
theorem rejection_reports_missing_argument :
    let next : Expectation :=
      { Expectation.fresh .exec none true with arguments := .exactly [⟨none, .any⟩] }
    let queue : Queue := [.fresh .commit none false, next, .fresh .rollback none false]
    let rejection : Rejection := .blocked next (.arguments (.count 1 0))
    queue.resolve Converter.normalize ⟨.exec, some "INSERT", []⟩ = .error rejection ∧
      rejection.toError ⟨.exec, some "INSERT", []⟩ = .ofMock .argumentCount
        "Exec 'INSERT', arguments do not match: expected 1 arguments, got 0" := by
  intro next queue rejection
  have rejected :
      queue.resolve Converter.normalize ⟨.exec, some "INSERT", []⟩ = .error rejection := rfl
  have reported :=
    (rejection_reports_the_next queue Converter.normalize _ rejection rejected).1 next rfl
  obtain ⟨fault, isFault, isError⟩ := reported.arguments rfl rfl
  cases isFault
  refine ⟨rejected, isError.trans ?_⟩
  decide +kernel

end Queue

end ScriptedSql
