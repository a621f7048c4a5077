import ScriptedSql.Queue

/-!
Contract: which expectation takes a call.

Owns:
- the rule of candidates, told slot by slot and without a search: an expectation may
  take a call if it is pending, accepts it and is not held back;
- the agreement of the search with the rule: it finds the first candidate, and fails
  exactly when there is none;
- what the resolution of a call does to the queue.

Does not own: the reason that is given for a rejection.
-/

namespace ScriptedSql

namespace Expectation

/-- Holds back the ordered expectations that were declared later. -/
def isBlocking (expectation : Expectation) : Bool :=
  !expectation.fulfilled && expectation.ordered

theorem kind_of_accepts {converter : Converter} {call : Call} {expectation : Expectation}
    (accepts : expectation.accepts converter call = true) : expectation.kind = call.kind := by
  by_cases same : expectation.kind = call.kind
  · exact same
  · rw [Expectation.accepts, refusal?, if_pos same] at accepts
    contradiction

end Expectation

namespace Queue

/-- The rule of candidates. An ordered expectation has to wait until all ordered ones
before it are fulfilled; an unordered one need not wait. -/
structure Candidate (converter : Converter) (call : Call) (queue : Queue)
    (slot : Fin queue.length) : Prop where
  pending : (queue.get slot).fulfilled = false
  accepts : (queue.get slot).accepts converter call = true
  inTurn : (queue.get slot).ordered = false ∨
    ∀ earlier < slot, (queue.get earlier).isBlocking = false

/-- The rule of candidates in a part of a queue. `blocked` tells whether some
expectation in front of this part holds back the ordered ones in it. -/
structure CandidateBehind (blocked : Bool) (converter : Converter) (call : Call)
    (queue : Queue) (slot : Fin queue.length) : Prop where
  pending : (queue.get slot).fulfilled = false
  accepts : (queue.get slot).accepts converter call = true
  inTurn : (queue.get slot).ordered = false ∨
    (blocked = false ∧ ∀ earlier < slot, (queue.get earlier).isBlocking = false)

private theorem candidateBehind_false_iff {converter : Converter} {call : Call} {queue : Queue}
    {slot : Fin queue.length} :
    queue.CandidateBehind false converter call slot ↔ queue.Candidate converter call slot := by
  constructor
  · intro candidate
    exact ⟨candidate.pending, candidate.accepts, candidate.inTurn.imp_right And.right⟩
  · intro candidate
    refine ⟨candidate.pending, candidate.accepts, candidate.inTurn.imp_right ?_⟩
    exact fun free => ⟨rfl, free⟩

/-- The search passes by an expectation that is fulfilled or held back, without asking
whether it accepts the call. -/
def isPassedBy (blocked : Bool) (expectation : Expectation) : Bool :=
  expectation.fulfilled || (expectation.ordered && blocked)

private theorem candidateBehind_head_iff {blocked : Bool} {converter : Converter} {call : Call}
    {head : Expectation} {tail : Queue} :
    CandidateBehind blocked converter call (head :: tail) ⟨0, Nat.zero_lt_succ _⟩ ↔
      isPassedBy blocked head = false ∧ head.accepts converter call = true := by
  constructor
  · intro candidate
    have pending : head.fulfilled = false := candidate.pending
    refine ⟨?_, candidate.accepts⟩
    rw [isPassedBy, pending, Bool.false_or, Bool.and_eq_false_iff]
    exact candidate.inTurn.imp_right And.left
  · rintro ⟨examined, accepts⟩
    obtain ⟨pending, notHeldBack⟩ := Bool.or_eq_false_iff.mp examined
    refine ⟨pending, accepts, ?_⟩
    apply (Bool.and_eq_false_iff.mp notHeldBack).imp_right
    intro unblocked
    refine ⟨unblocked, ?_⟩
    intro earlier before
    exact absurd before (Nat.not_lt_zero _)

/-- Who is passed by does not change what holds back the later ones. -/
private theorem blocked_behind_passedBy {blocked : Bool} {head : Expectation}
    (passedBy : isPassedBy blocked head = true) : (blocked || head.isBlocking) = blocked := by
  unfold isPassedBy at passedBy
  unfold Expectation.isBlocking
  revert passedBy
  cases head.fulfilled <;> cases head.ordered <;> cases blocked <;> simp

/-- Seen from the tail, the head is part of what stands in front. -/
private theorem candidateBehind_succ_iff {blocked : Bool} {converter : Converter} {call : Call}
    {head : Expectation} {tail : Queue} {slot : Fin tail.length} :
    CandidateBehind blocked converter call (head :: tail) slot.succ ↔
      tail.CandidateBehind (blocked || head.isBlocking) converter call slot := by
  have front : (∀ earlier < slot.succ, ((head :: tail).get earlier).isBlocking = false) ↔
      head.isBlocking = false ∧ ∀ earlier < slot, (tail.get earlier).isBlocking = false := by
    constructor
    · intro free
      refine ⟨free ⟨0, Nat.zero_lt_succ _⟩ (Nat.zero_lt_succ _), ?_⟩
      intro earlier before
      exact free earlier.succ (Nat.succ_lt_succ before)
    · rintro ⟨headFree, tailFree⟩ earlier before
      refine Fin.cases (fun _ => headFree) (fun earlier before => ?_) earlier before
      exact tailFree earlier (Nat.lt_of_succ_lt_succ before)
  constructor
  · intro candidate
    refine ⟨candidate.pending, candidate.accepts, candidate.inTurn.imp_right ?_⟩
    rintro ⟨unblocked, free⟩
    obtain ⟨headFree, tailFree⟩ := front.mp free
    exact ⟨by rw [unblocked, headFree]; rfl, tailFree⟩
  · intro candidate
    refine ⟨candidate.pending, candidate.accepts, candidate.inTurn.imp_right ?_⟩
    rintro ⟨unblocked, free⟩
    obtain ⟨outside, headFree⟩ := Bool.or_eq_false_iff.mp unblocked
    exact ⟨outside, front.mpr ⟨headFree, free⟩⟩

/-- A search for candidates ended well: a slot that it found is the first of them, and
it gave up only because there is none. -/
def FoundFirst {length : Nat} (isCandidate : Fin length → Prop) :
    Except Rejection (Fin length) → Prop
  | .ok slot => isCandidate slot ∧ ∀ earlier < slot, ¬ isCandidate earlier
  | .error _ => ∀ slot, ¬ isCandidate slot

/-- A search may leave out the head once that is known to be no candidate. -/
private theorem foundFirst_map_succ {length : Nat} {isCandidate : Fin (length + 1) → Prop}
    {outcome : Except Rejection (Fin length)}
    (notHead : ¬ isCandidate ⟨0, Nat.zero_lt_succ _⟩)
    (found : FoundFirst (fun slot => isCandidate slot.succ) outcome) :
    FoundFirst isCandidate (outcome.map Fin.succ) := by
  cases outcome with
  | error rejection =>
      intro slot
      exact Fin.cases notHead found slot
  | ok slot =>
      refine ⟨found.1, ?_⟩
      intro earlier before
      refine Fin.cases (fun _ => notHead) (fun earlier before => ?_) earlier before
      exact found.2 earlier (Nat.lt_of_succ_lt_succ before)

private theorem isBlocked_after {rejection : Rejection} {expectation : Expectation}
    {refusal : Refusal} (pending : expectation.fulfilled = false) :
    (rejection.after expectation refusal).isBlocked =
      (rejection.isBlocked || expectation.isBlocking) := by
  unfold Rejection.after Expectation.isBlocking
  rw [pending]
  cases expectation.ordered <;> cases rejection <;> rfl

/-- The search keeps, in the reason given so far, whether an ordered expectation was
passed by; that is all it needs to know of those in front. -/
theorem resolveFrom_foundFirst (converter : Converter) (call : Call) (queue : Queue)
    (rejection : Rejection) :
    FoundFirst (queue.CandidateBehind rejection.isBlocked converter call)
      (resolveFrom converter call rejection queue) := by
  induction queue generalizing rejection with
  | nil =>
      intro slot
      exact slot.elim0
  | cons head tail inductionHypothesis =>
      rw [resolveFrom, ← isPassedBy]
      by_cases passedBy : isPassedBy rejection.isBlocked head = true
      · have notHead : ¬ CandidateBehind rejection.isBlocked converter call (head :: tail)
            ⟨0, Nat.zero_lt_succ _⟩ := by
          rw [candidateBehind_head_iff, passedBy]
          exact fun examined => Bool.noConfusion examined.1
        rw [if_pos passedBy]
        apply foundFirst_map_succ notHead
        simp only [candidateBehind_succ_iff, blocked_behind_passedBy passedBy]
        exact inductionHypothesis rejection
      · have examined := Bool.eq_false_iff.mpr passedBy
        have pending := (Bool.or_eq_false_iff.mp examined).1
        rw [if_neg passedBy]
        cases refusal : head.refusal? converter call with
        | none =>
            have accepts : head.accepts converter call = true := by
              rw [Expectation.accepts, refusal, Option.isNone_none]
            refine ⟨candidateBehind_head_iff.mpr ⟨examined, accepts⟩, ?_⟩
            intro earlier before
            exact absurd before (Nat.not_lt_zero _)
        | some reason =>
            have refuses : ¬ head.accepts converter call = true := by
              rw [Expectation.accepts, refusal, Option.isNone_some]
              exact Bool.false_ne_true
            apply foundFirst_map_succ
            · rw [candidateBehind_head_iff]
              exact fun candidate => refuses candidate.2
            · -- From here on the reason tells of the head, too.
              simp only [candidateBehind_succ_iff]
              rw [← isBlocked_after pending]
              exact inductionHypothesis (rejection.after head reason)

/-- Resolution follows the rule of candidates. -/
theorem resolve_foundFirst (converter : Converter) (call : Call) (queue : Queue) :
    FoundFirst (queue.Candidate converter call) (queue.resolve converter call) := by
  have found := queue.resolveFrom_foundFirst converter call .exhausted
  have sameRule : queue.CandidateBehind false converter call = queue.Candidate converter call :=
    funext fun _ => propext candidateBehind_false_iff
  rw [← sameRule]
  exact found

/-- The slot that a call resolves to is a candidate. -/
theorem candidate_of_resolve {converter : Converter} {call : Call} {queue : Queue}
    {slot : Fin queue.length} (resolved : queue.resolve converter call = .ok slot) :
    queue.Candidate converter call slot := by
  have found := queue.resolve_foundFirst converter call
  rw [resolved] at found
  exact found.1

/-- A call is resolved to a slot exactly if that is the first candidate. -/
theorem resolve_eq_ok_iff {converter : Converter} {call : Call} {queue : Queue}
    {slot : Fin queue.length} :
    queue.resolve converter call = .ok slot ↔
      queue.Candidate converter call slot ∧
        ∀ earlier < slot, ¬ queue.Candidate converter call earlier := by
  have found := queue.resolve_foundFirst converter call
  constructor
  · intro resolved
    rw [resolved] at found
    exact found
  · rintro ⟨candidate, first⟩
    cases outcome : queue.resolve converter call with
    | error rejection =>
        rw [outcome] at found
        exact absurd candidate (found slot)
    | ok other =>
        rw [outcome] at found
        obtain ⟨otherCandidate, otherFirst⟩ := found
        have notAfter : ¬ slot < other := fun before => otherFirst slot before candidate
        have notBefore : ¬ other < slot := fun before => first other before otherCandidate
        rw [Fin.ext (Nat.le_antisymm (Nat.not_lt.mp notAfter) (Nat.not_lt.mp notBefore))]

/-- An unordered expectation takes its call past an ordered one that is pending. -/
example :
    resolve Converter.normalize ⟨.commit, none, []⟩
      [.fresh .begin none true, .fresh .commit none false] = .ok 1 :=
  rfl

/-- A call is rejected exactly if there is no candidate. -/
theorem resolve_eq_error_iff {converter : Converter} {call : Call} {queue : Queue} :
    (∃ rejection, queue.resolve converter call = .error rejection) ↔
      ∀ slot, ¬ queue.Candidate converter call slot := by
  have found := queue.resolve_foundFirst converter call
  constructor
  · rintro ⟨rejection, rejected⟩
    rw [rejected] at found
    exact found
  · intro none
    cases outcome : queue.resolve converter call with
    | error rejection => exact ⟨rejection, rfl⟩
    | ok slot => exact absurd (candidate_of_resolve outcome) (none slot)

/-- Fulfilling an expectation replaces that one and leaves all others as they are. -/
theorem fulfil_eq_set (queue : Queue) (slot : Fin queue.length) :
    queue.fulfil slot = queue.set slot { queue.get slot with fulfilled := true } := by
  apply List.ext_getElem?
  intro index
  rw [fulfil, List.getElem?_modify, List.getElem?_set]
  by_cases same : slot.val = index
  · subst same
    simp
  · simp [same]

/-- A call goes to the first candidate, and is rejected exactly when there is none. The
candidate was pending and becomes fulfilled, which is all that changes; a rejected call
changes nothing. -/
theorem settle_first_candidate (converter : Converter) (call : Call) (queue : Queue) :
    (∀ slot, (queue.settle converter call).1 = .ok slot ↔
      queue.Candidate converter call slot ∧
        ∀ earlier < slot, ¬ queue.Candidate converter call earlier) ∧
    ((∃ rejection, (queue.settle converter call).1 = .error rejection) ↔
      ∀ slot, ¬ queue.Candidate converter call slot) ∧
    (∀ slot, (queue.settle converter call).1 = .ok slot →
      (queue.get slot).fulfilled = false ∧
        (queue.settle converter call).2 =
          queue.set slot { queue.get slot with fulfilled := true }) ∧
    (∀ rejection, (queue.settle converter call).1 = .error rejection →
      (queue.settle converter call).2 = queue) := by
  have outcome : (queue.settle converter call).1 = queue.resolve converter call := by
    unfold settle
    split <;> rename_i resolved <;> exact resolved.symm
  rw [outcome]
  refine ⟨fun slot => resolve_eq_ok_iff, resolve_eq_error_iff, ?_, ?_⟩
  · intro slot resolved
    refine ⟨(candidate_of_resolve resolved).pending, ?_⟩
    rw [settle, resolved, ← fulfil_eq_set]
  · intro rejection rejected
    rw [settle, rejected]

end Queue

end ScriptedSql
