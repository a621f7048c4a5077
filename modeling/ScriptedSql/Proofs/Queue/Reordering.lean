import Mathlib.Data.Finset.Option
import ScriptedSql.Proofs.Queue.Sequence

/-!
Contract: unordered expectations and the order of the calls that are put to them.

Owns:
- the pending expectations that accept a call, and what a settled call leaves of them;
- the exchange of two calls that follow each other, when the expectations that accept
  them are the same or have none in common;
- the independence of the order, for all sequences of such calls, accepted or not.
-/

namespace ScriptedSql

namespace Queue

variable {converter : Converter}

/-! ## Acceptors -/

/-- The slots of the pending expectations that accept a call. -/
def acceptors (converter : Converter) (queue : Queue) (call : Call) : Finset Nat :=
  (Finset.range queue.length).filter fun slot =>
    queue.holdsAt (fun expectation => !expectation.fulfilled && expectation.accepts converter call)
      slot = true

private theorem mem_acceptors_iff {queue : Queue} {call : Call} {slot : Nat} :
    slot ∈ queue.acceptors converter call ↔
      ∃ within : slot < queue.length, (queue.get ⟨slot, within⟩).fulfilled = false ∧
        (queue.get ⟨slot, within⟩).accepts converter call = true := by
  rw [acceptors, Finset.mem_filter, Finset.mem_range]
  constructor
  · rintro ⟨within, holds⟩
    have tested := queue.holdsAt_get
      (fun expectation => !expectation.fulfilled && expectation.accepts converter call)
      ⟨slot, within⟩
    rw [tested, Bool.and_eq_true, Bool.not_eq_true'] at holds
    exact ⟨within, holds⟩
  · rintro ⟨within, pending, accepts⟩
    refine ⟨within, ?_⟩
    have tested := queue.holdsAt_get
      (fun expectation => !expectation.fulfilled && expectation.accepts converter call)
      ⟨slot, within⟩
    rw [tested, pending, accepts]
    rfl

def Unordered (queue : Queue) : Prop :=
  ∀ expectation ∈ queue, expectation.ordered = false

instance (queue : Queue) : Decidable queue.Unordered := by
  unfold Unordered
  infer_instance

/-- Without an order, the candidates are the pending expectations that accept the call. -/
theorem Unordered.candidate_iff {queue : Queue} (unordered : queue.Unordered) {call : Call}
    {slot : Fin queue.length} :
    queue.Candidate converter call slot ↔ slot.val ∈ queue.acceptors converter call := by
  rw [mem_acceptors_iff]
  constructor
  · intro candidate
    exact ⟨slot.isLt, candidate.pending, candidate.accepts⟩
  · rintro ⟨_, pending, accepts⟩
    exact ⟨pending, accepts, .inl (unordered _ (List.get_mem queue slot))⟩

/-- The first of the acceptors takes the call. -/
theorem Unordered.taker?_eq_some_iff {queue : Queue} (unordered : queue.Unordered) {call : Call}
    {slot : Nat} :
    queue.taker? converter call = some slot ↔
      slot ∈ queue.acceptors converter call ∧
        ∀ earlier ∈ queue.acceptors converter call, slot ≤ earlier := by
  rw [Queue.taker?_eq_some_iff]
  simp only [unordered.candidate_iff]
  constructor
  · rintro ⟨within, isAcceptor, first⟩
    refine ⟨isAcceptor, ?_⟩
    intro earlier isEarlier
    obtain ⟨earlierWithin, -⟩ := mem_acceptors_iff.mp isEarlier
    apply Nat.not_lt.mp
    intro before
    exact first ⟨earlier, earlierWithin⟩ before isEarlier
  · rintro ⟨isAcceptor, first⟩
    obtain ⟨within, -⟩ := mem_acceptors_iff.mp isAcceptor
    refine ⟨within, isAcceptor, ?_⟩
    intro earlier before isEarlier
    exact Nat.not_lt.mpr (first earlier isEarlier) before

private theorem Unordered.taker?_congr {first second : Queue} (firstUnordered : first.Unordered)
    (secondUnordered : second.Unordered) {call other : Call}
    (same : first.acceptors converter call = second.acceptors converter other) :
    first.taker? converter call = second.taker? converter other := by
  apply Option.ext
  intro slot
  rw [firstUnordered.taker?_eq_some_iff, secondUnordered.taker?_eq_some_iff, same]

/-! ## After a call -/

theorem Unordered.fulfil {queue : Queue} (unordered : queue.Unordered) (slot : Nat) :
    (queue.fulfil slot).Unordered := by
  intro expectation isThere
  obtain ⟨index, found⟩ := List.mem_iff_getElem?.mp isThere
  rw [Queue.fulfil, List.getElem?_modify] at found
  obtain ⟨before, wasThere, rfl⟩ := Option.map_eq_some_iff.mp found
  have unstamped := unordered before (List.mem_of_getElem? wasThere)
  by_cases here : slot = index
  · rw [if_pos here]
    exact unstamped
  · rw [if_neg here]
    exact unstamped

/-- An expectation that is fulfilled no longer accepts anything. -/
theorem acceptors_fulfil (queue : Queue) (call : Call) (taken : Nat) :
    (queue.fulfil taken).acceptors converter call =
      (queue.acceptors converter call).erase taken := by
  apply Finset.ext
  intro slot
  rw [Finset.mem_erase, acceptors, acceptors, Finset.mem_filter, Finset.mem_filter, length_fulfil,
    fulfil, holdsAt_modify]
  by_cases here : taken = slot
  · subst here
    simp [holdsAt]
  · simp [here, Ne.symm here]

private theorem settle_congr {queue : Queue} {call other : Call}
    (same : queue.taker? converter call = queue.taker? converter other) :
    (queue.settle converter call).2 = (queue.settle converter other).2 := by
  cases taker : queue.taker? converter call with
  | none => simp [taker, same.symm.trans taker]
  | some slot => simp [taker, same.symm.trans taker]

theorem Unordered.settle {queue : Queue} (unordered : queue.Unordered) (call : Call) :
    (queue.settle converter call).2.Unordered := by
  cases taker : queue.taker? converter call with
  | none => simpa [taker] using unordered
  | some slot => simpa [taker] using unordered.fulfil slot

private theorem acceptors_settle (queue : Queue) (call other : Call) :
    (queue.settle converter call).2.acceptors converter other =
      queue.acceptors converter other \ (queue.taker? converter call).toFinset := by
  cases taker : queue.taker? converter call with
  | none => simp [taker]
  | some slot => simp [taker, acceptors_fulfil, Finset.sdiff_singleton_eq_erase]

/-- Two calls are accepted by the same pending expectations, or by none in common. -/
def SameOrApart (converter : Converter) (queue : Queue) (first second : Call) : Prop :=
  queue.acceptors converter first = queue.acceptors converter second ∨
    Disjoint (queue.acceptors converter first) (queue.acceptors converter second)

instance (converter : Converter) (queue : Queue) (first second : Call) :
    Decidable (queue.SameOrApart converter first second) := by
  unfold SameOrApart
  infer_instance

/-- A call takes away from both, or from neither. -/
theorem SameOrApart.settle {queue : Queue} {first second : Call}
    (related : queue.SameOrApart converter first second) (call : Call) :
    (queue.settle converter call).2.SameOrApart converter first second := by
  unfold SameOrApart
  rw [acceptors_settle, acceptors_settle]
  rcases related with same | apart
  · exact .inl (by rw [same])
  · exact .inr (apart.mono Finset.sdiff_subset Finset.sdiff_subset)

/-! ## Two calls -/

private theorem fulfil_comm (queue : Queue) (first second : Nat) :
    (queue.fulfil first).fulfil second = (queue.fulfil second).fulfil first := by
  by_cases same : first = second
  · rw [same]
  · exact List.modify_modify_ne _ _ _ same

private theorem Unordered.taker?_of_disjoint {queue : Queue} (unordered : queue.Unordered)
    {first second : Call}
    (apart : Disjoint (queue.acceptors converter first) (queue.acceptors converter second)) :
    (queue.settle converter first).2.taker? converter second = queue.taker? converter second := by
  apply (unordered.settle first).taker?_congr unordered
  rw [acceptors_settle]
  apply Finset.sdiff_eq_self_of_disjoint
  cases taker : queue.taker? converter first with
  | none => exact Finset.disjoint_empty_right _
  | some slot =>
      have isAcceptor := (unordered.taker?_eq_some_iff.mp taker).1
      rw [Option.toFinset_some, Finset.disjoint_singleton_right]
      exact Finset.disjoint_left.mp apart isAcceptor

/-- Two calls that follow each other may change places. -/
theorem Unordered.exchange {queue : Queue} (unordered : queue.Unordered) {first second : Call}
    (related : queue.SameOrApart converter first second) :
    ((queue.settle converter first).2.settle converter second).2 =
        ((queue.settle converter second).2.settle converter first).2 ∧
      [queue.taker? converter first,
          (queue.settle converter first).2.taker? converter second].Perm
        [queue.taker? converter second,
          (queue.settle converter second).2.taker? converter first] := by
  rcases related with same | apart
  · -- The first of the common acceptors takes whichever call comes first.
    have sameTaker := unordered.taker?_congr unordered same
    have sameQueue := settle_congr sameTaker
    have sameNext : (queue.settle converter second).2.taker? converter second =
        (queue.settle converter second).2.taker? converter first := by
      apply (unordered.settle second).taker?_congr (unordered.settle second)
      rw [acceptors_settle, acceptors_settle, same]
    rw [sameQueue, sameTaker, sameNext]
    exact ⟨settle_congr sameNext, .refl _⟩
  · -- Neither call is in the way of the other.
    have secondTaker := unordered.taker?_of_disjoint apart
    have firstTaker := unordered.taker?_of_disjoint apart.symm
    rw [secondTaker, firstTaker]
    refine ⟨?_, .swap _ _ _⟩
    cases taker : queue.taker? converter first with
    | none => rw [settle_of_untaken taker, settle_of_untaken (firstTaker.trans taker)]
    | some slot =>
        rw [settle_of_taker (firstTaker.trans taker)]
        cases other : queue.taker? converter second with
        | none =>
            rw [settle_of_untaken (secondTaker.trans other), settle_of_untaken other,
              settle_of_taker taker]
        | some otherSlot =>
            rw [settle_of_taker (secondTaker.trans other), settle_of_taker other,
              settle_of_taker taker, fulfil_comm]

/-! ## All orders -/

/-- Whatever order the calls come in, the same expectations take them. -/
theorem Unordered.takers_perm {queue : Queue} (unordered : queue.Unordered)
    {calls reordered : List Call} (permutation : calls.Perm reordered)
    (related : ∀ first ∈ calls, ∀ second ∈ calls, queue.SameOrApart converter first second) :
    queue.settleAll converter calls = queue.settleAll converter reordered ∧
      (queue.takers converter calls).Perm (queue.takers converter reordered) := by
  induction permutation generalizing queue with
  | nil => exact ⟨rfl, .refl _⟩
  | cons call _ inductionHypothesis =>
      -- After the common first call the rest is still related, pair by pair.
      have restRelated := fun first isFirst second isSecond =>
        (related first (List.mem_cons_of_mem call isFirst) second
          (List.mem_cons_of_mem call isSecond)).settle call
      obtain ⟨sameQueue, sameTakers⟩ := inductionHypothesis (unordered.settle call) restRelated
      exact ⟨sameQueue, sameTakers.cons _⟩
  | swap first second rest =>
      obtain ⟨sameQueue, sameTakers⟩ :=
        unordered.exchange (related second (by simp) first (by simp))
      simp only [settleAll, takers]
      rw [sameQueue]
      exact ⟨rfl, sameTakers.append_right _⟩
  | trans front _ frontHypothesis backHypothesis =>
      obtain ⟨frontQueue, frontTakers⟩ := frontHypothesis unordered related
      have backRelated := fun first isFirst second isSecond =>
        related first (front.mem_iff.mpr isFirst) second (front.mem_iff.mpr isSecond)
      obtain ⟨backQueue, backTakers⟩ := backHypothesis unordered backRelated
      exact ⟨frontQueue.trans backQueue, frontTakers.trans backTakers⟩

/-- Unordered expectations do not notice the order of the calls, if any two of these are
accepted by the same pending expectations or by none in common: every permutation of the
calls leaves the same queue, with the same expectations fulfilled, and as many calls are
accepted. -/
theorem order_of_calls_is_irrelevant {queue : Queue} (unordered : queue.Unordered)
    (converter : Converter) {calls : List Call}
    (related : ∀ first ∈ calls, ∀ second ∈ calls, queue.SameOrApart converter first second)
    {reordered : List Call} (permutation : calls.Perm reordered) :
    queue.settleAll converter reordered = queue.settleAll converter calls ∧
      (queue.takers converter reordered).countP Option.isSome =
        (queue.takers converter calls).countP Option.isSome := by
  obtain ⟨sameQueue, sameTakers⟩ := unordered.takers_perm permutation related
  exact ⟨sameQueue.symm, (sameTakers.countP_eq _).symm⟩

/-- Three calls for two expectations, and one for another: one of the three is rejected,
whichever comes last. -/
theorem order_of_exhausting_calls_is_irrelevant :
    let declared := Expectation.fresh .exec (some ⟨"a", .equal ['a']⟩) false
    let queue : Queue := [declared, { declared with arguments := .exactly [] },
      .fresh .exec (some ⟨"b", .equal ['b']⟩) false]
    let call : Call := ⟨.exec, some "a", []⟩
    let calls : List Call := [call, call, call, ⟨.exec, some "b", []⟩]
    queue.Unordered ∧
      (∀ first ∈ calls, ∀ second ∈ calls, queue.SameOrApart Converter.normalize first second) ∧
      calls.Perm calls.reverse ∧
      queue.takers Converter.normalize calls = [some 0, some 1, none, some 2] ∧
      queue.settleAll Converter.normalize calls.reverse =
        queue.settleAll Converter.normalize calls ∧
      (queue.takers Converter.normalize calls.reverse).countP Option.isSome = 3 := by
  intro declared queue call calls
  have unordered : queue.Unordered := by decide
  have related : ∀ first ∈ calls, ∀ second ∈ calls,
      queue.SameOrApart Converter.normalize first second := by decide +kernel
  have permutation : calls.Perm calls.reverse := (List.reverse_perm calls).symm
  have takers : queue.takers Converter.normalize calls = [some 0, some 1, none, some 2] := by
    decide +kernel
  obtain ⟨sameQueue, sameCount⟩ :=
    order_of_calls_is_irrelevant unordered Converter.normalize related permutation
  rw [takers] at sameCount
  exact ⟨unordered, related, permutation, takers, sameQueue, sameCount⟩

/-- Where the acceptors of two calls overlap, the order does matter: the call that only the
first expectation accepts comes too late if the other one has taken it. -/
example :
    let queue : Queue :=
      [.fresh .exec none false,
        { Expectation.fresh .exec none false with arguments := .exactly [] }]
    let either : Call := ⟨.exec, some "a", []⟩
    let choosy : Call := ⟨.exec, some "a", [⟨1, none, .null⟩]⟩
    queue.takers Converter.normalize [choosy, either] = [some 0, some 1] ∧
      queue.takers Converter.normalize [either, choosy] = [some 0, none] := by
  decide

end Queue

end ScriptedSql
