import ScriptedSql.Proofs.Queue.Slots

/-!
Contract: calls that are put to a queue one after the other.

Owns:
- the slots that a sequence of calls goes to, and the queue that it leaves;
- queues of which the first expectations are fulfilled and no others;
- strict order: exactly which sequences are accepted in full;
- the relaxation of strict order: what it accepts goes to the same slots under every
  other mixture of stamps.

Does not own: sequences that are put to unordered expectations in another order
(`Queue.Reordering`).
-/

namespace ScriptedSql

namespace Queue

variable {converter : Converter}

/-! ## One call -/

/-- The slot of the expectation that takes a call, if one does. -/
def taker? (converter : Converter) (queue : Queue) (call : Call) : Option Nat :=
  match (queue.settle converter call).1 with
  | .ok slot => some slot.val
  | .error _ => none

/-- The expectation that takes a call is the first candidate. -/
theorem taker?_eq_some_iff {queue : Queue} {call : Call} {slot : Nat} :
    queue.taker? converter call = some slot ↔
      ∃ within : slot < queue.length,
        queue.Candidate converter call ⟨slot, within⟩ ∧
          ∀ earlier < (⟨slot, within⟩ : Fin queue.length),
            ¬ queue.Candidate converter call earlier := by
  have resolved {index : Fin queue.length} :
      queue.resolve converter call = .ok index ↔ queue.Candidate converter call index ∧
        ∀ earlier < index, ¬ queue.Candidate converter call earlier := resolve_eq_ok_iff
  unfold taker? settle
  cases outcome : queue.resolve converter call with
  | error rejection =>
      have isNone := resolve_eq_error_iff.mp ⟨rejection, outcome⟩
      simp [isNone]
  | ok index =>
      simp only [Option.some.injEq]
      constructor
      · rintro rfl
        exact ⟨index.isLt, resolved.mp outcome⟩
      · rintro ⟨within, isFirst⟩
        have same := resolved.mpr isFirst
        rw [outcome] at same
        cases same
        rfl

@[simp]
theorem settle_of_taker {queue : Queue} {call : Call} {slot : Nat}
    (taken : queue.taker? converter call = some slot) :
    (queue.settle converter call).2 = queue.fulfil slot := by
  unfold taker? settle at taken
  unfold settle
  cases outcome : queue.resolve converter call with
  | error rejection => simp [outcome] at taken
  | ok index =>
      simp only [outcome, Option.some.injEq] at taken
      exact congrArg queue.fulfil taken

@[simp]
theorem settle_of_untaken {queue : Queue} {call : Call}
    (untaken : queue.taker? converter call = none) :
    (queue.settle converter call).2 = queue := by
  unfold taker? settle at untaken
  unfold settle
  cases outcome : queue.resolve converter call with
  | error rejection => rfl
  | ok index => simp [outcome] at untaken

@[simp]
theorem length_fulfil (queue : Queue) (slot : Nat) :
    (queue.fulfil slot).length = queue.length :=
  List.length_modify _ _ _

/-! ## Sequences -/

def settleAll (converter : Converter) (queue : Queue) : List Call → Queue
  | [] => queue
  | call :: rest => settleAll converter (queue.settle converter call).2 rest

/-- For each of the calls in order, the slot of the expectation that takes it, if one
does. -/
def takers (converter : Converter) (queue : Queue) : List Call → List (Option Nat)
  | [] => []
  | call :: rest =>
    queue.taker? converter call :: takers converter (queue.settle converter call).2 rest

/-! ## The first ones -/

/-- The first expectations, as many as `count`, are fulfilled, and no others. -/
def FirstFulfilled (queue : Queue) (count : Nat) : Prop :=
  ∀ slot, queue.holdsAt (·.fulfilled) slot = decide (slot < count)

private theorem firstFulfilled_zero {queue : Queue}
    (pending : ∀ expectation ∈ queue, expectation.fulfilled = false) :
    queue.FirstFulfilled 0 := by
  intro slot
  rw [decide_eq_false (Nat.not_lt_zero slot), holdsAt]
  cases found : queue[slot]? with
  | none => rfl
  | some expectation => exact pending expectation (List.mem_of_getElem? found)

theorem FirstFulfilled.fulfil {queue : Queue} {count : Nat} (first : queue.FirstFulfilled count)
    (within : count < queue.length) : (queue.fulfil count).FirstFulfilled (count + 1) := by
  intro slot
  have marked : (queue.fulfil count).holdsAt (·.fulfilled) slot =
      (queue.holdsAt (·.fulfilled) slot || slot == count) :=
    queue.fulfilledAt_fulfil ⟨count, within⟩ slot
  rw [marked, first slot, Bool.beq_eq_decide_eq, ← Bool.decide_or, decide_eq_decide]
  omega

/-- The first expectation that is not fulfilled takes the call if it accepts it, whether it is
ordered or not. -/
theorem FirstFulfilled.taker {queue : Queue} {count : Nat} (first : queue.FirstFulfilled count)
    {call : Call} (accepts : queue.holdsAt (·.accepts converter call) count = true) :
    queue.taker? converter call = some count := by
  -- Nothing is pending in front of this one, so its stamp does not matter.
  have within := lt_length_of_holdsAt accepts
  have fulfilled (slot : Fin queue.length) :
      (queue.get slot).fulfilled = decide (slot.val < count) := by
    rw [← first slot, holdsAt_get]
  have front : ∀ earlier < (⟨count, within⟩ : Fin queue.length),
      (queue.get earlier).fulfilled = true := by
    intro earlier before
    rw [fulfilled earlier]
    exact decide_eq_true before
  rw [taker?_eq_some_iff]
  refine ⟨within, ⟨?_, ?_, .inr ?_⟩, ?_⟩
  · rw [fulfilled]
    exact decide_eq_false (Nat.lt_irrefl count)
  · rw [← holdsAt_get queue (·.accepts converter call)]
    exact accepts
  · intro earlier before
    rw [Expectation.isBlocking, front earlier before]
    rfl
  · intro earlier before candidate
    have pending := candidate.pending
    rw [front earlier before] at pending
    contradiction

/-- If all expectations are ordered, the first pending one is the only candidate. -/
theorem FirstFulfilled.accepts_of_ordered {queue : Queue} {count : Nat}
    (first : queue.FirstFulfilled count)
    (ordered : ∀ slot < queue.length, queue.holdsAt (·.ordered) slot = true) {call : Call}
    {slot : Nat} (taken : queue.taker? converter call = some slot) :
    queue.holdsAt (·.accepts converter call) count = true := by
  obtain ⟨within, candidate, -⟩ := taker?_eq_some_iff.mp taken
  have pending := candidate.pending
  rw [← holdsAt_get queue (·.fulfilled), first slot, decide_eq_false_iff_not] at pending
  have sameSlot : slot = count := by
    apply Nat.le_antisymm ?_ (Nat.not_lt.mp pending)
    -- Behind the first pending one, which is ordered, an ordered one is blocked.
    apply Nat.not_lt.mp
    intro before
    have earlierOrdered := ordered count (Nat.lt_trans before within)
    have earlierFulfilled :=
      candidate.ordered_before (ordered slot within) before earlierOrdered
    rw [first count, decide_eq_true_eq] at earlierFulfilled
    exact Nat.lt_irrefl count earlierFulfilled
  rw [← sameSlot]
  exact (holdsAt_get queue (·.accepts converter call) ⟨slot, within⟩).trans candidate.accepts

/-! ## Strict order and mixtures -/

/-- The calls are accepted one by one by the expectations from a slot on. -/
def MatchedFrom (converter : Converter) (queue : Queue) (slot : Nat) (calls : List Call) : Prop :=
  ∀ (index : Nat) (call : Call), calls[index]? = some call →
    queue.holdsAt (·.accepts converter call) (slot + index) = true

private theorem matchedFrom_cons_iff {queue : Queue} {slot : Nat} {call : Call} {rest : List Call} :
    queue.MatchedFrom converter slot (call :: rest) ↔
      queue.holdsAt (·.accepts converter call) slot = true ∧
        queue.MatchedFrom converter (slot + 1) rest := by
  constructor
  · intro matched
    refine ⟨matched 0 call rfl, ?_⟩
    intro index other found
    rw [Nat.add_right_comm]
    exact matched (index + 1) other found
  · rintro ⟨headMatched, restMatched⟩ index other found
    cases index with
    | zero =>
        cases found
        exact headMatched
    | succ index =>
        have matched := restMatched index other found
        rw [Nat.add_right_comm] at matched
        exact matched

private theorem matchedFrom_fulfil_iff {queue : Queue} {marked slot : Nat} {calls : List Call} :
    (queue.fulfil marked).MatchedFrom converter slot calls ↔
      queue.MatchedFrom converter slot calls := by
  unfold MatchedFrom
  simp only [acceptsAt_fulfil]

/-- Calls that match the pending expectations one by one go to them one by one, whatever
the stamps are. -/
theorem FirstFulfilled.takers_of_matched {queue : Queue} {count : Nat} {calls : List Call}
    (first : queue.FirstFulfilled count) (matched : queue.MatchedFrom converter count calls) :
    queue.takers converter calls = (List.range' count calls.length).map some ∧
      (queue.settleAll converter calls).FirstFulfilled (count + calls.length) := by
  induction calls generalizing queue count with
  | nil => exact ⟨rfl, first⟩
  | cons call rest inductionHypothesis =>
      obtain ⟨accepts, restMatched⟩ := matchedFrom_cons_iff.mp matched
      have taken := first.taker accepts
      have restTaken := inductionHypothesis (first.fulfil (lt_length_of_holdsAt accepts))
        (matchedFrom_fulfil_iff.mpr restMatched)
      rw [takers, settleAll, taken, settle_of_taker taken, restTaken.1, List.length_cons,
        List.range'_succ, List.map_cons]
      refine ⟨rfl, ?_⟩
      rw [← Nat.add_assoc, Nat.add_right_comm]
      exact restTaken.2

/-- In strict order nothing but such calls is accepted in full. -/
theorem FirstFulfilled.matched_of_accepted {queue : Queue} {count : Nat} {calls : List Call}
    (first : queue.FirstFulfilled count)
    (ordered : ∀ slot < queue.length, queue.holdsAt (·.ordered) slot = true)
    (accepted : ∀ taker ∈ queue.takers converter calls, taker.isSome = true) :
    queue.MatchedFrom converter count calls := by
  induction calls generalizing queue count with
  | nil => exact fun _ _ found => absurd found (by simp)
  | cons call rest inductionHypothesis =>
      obtain ⟨callAccepted, restAccepted⟩ := List.forall_mem_cons.mp accepted
      obtain ⟨slot, taken⟩ := Option.isSome_iff_exists.mp callAccepted
      have accepts := first.accepts_of_ordered ordered taken
      have sameSlot : slot = count := Option.some.inj (taken.symm.trans (first.taker accepts))
      subst sameSlot
      simp only [settle_of_taker taken] at restAccepted
      have stillOrdered : ∀ other < (queue.fulfil slot).length,
          (queue.fulfil slot).holdsAt (·.ordered) other = true := by
        intro other within
        simpa using ordered other (by simpa using within)
      have restMatched := inductionHypothesis
        (first.fulfil (lt_length_of_holdsAt accepts)) stillOrdered restAccepted
      exact matchedFrom_cons_iff.mpr ⟨accepts, matchedFrom_fulfil_iff.mp restMatched⟩

/-- The same expectations under other stamps: `stamps` tells whether the one at a slot is
ordered. -/
def stamped (stamps : Nat → Bool) (queue : Queue) : Queue :=
  queue.mapIdx fun slot expectation => { expectation with ordered := stamps slot }

private theorem holdsAt_stamped_of_same {test : Expectation → Bool}
    (same : ∀ (expectation : Expectation) (stamp : Bool),
      test { expectation with ordered := stamp } = test expectation)
    (stamps : Nat → Bool) (queue : Queue) (slot : Nat) :
    (queue.stamped stamps).holdsAt test slot = queue.holdsAt test slot := by
  unfold holdsAt stamped
  rw [List.getElem?_mapIdx]
  cases queue[slot]? with
  | none => rfl
  | some expectation => exact same expectation (stamps slot)

private theorem matchedFrom_zero_iff {queue : Queue} {calls : List Call} :
    queue.MatchedFrom converter 0 calls ↔
      calls.length ≤ queue.length ∧
        ∀ (slot : Nat) (call : Call) (expectation : Expectation), calls[slot]? = some call →
          queue[slot]? = some expectation → expectation.accepts converter call = true := by
  unfold MatchedFrom
  simp only [Nat.zero_add, holdsAt]
  constructor
  · intro matched
    constructor
    · apply Nat.le_of_not_lt
      intro longer
      have last := matched queue.length _ (List.getElem?_eq_getElem longer)
      rw [List.getElem?_eq_none (Nat.le_refl _)] at last
      contradiction
    · intro slot call expectation called declared
      have accepted := matched slot call called
      rw [declared] at accepted
      exact accepted
  · rintro ⟨enough, accepted⟩ slot call called
    obtain ⟨within, -⟩ := List.getElem?_eq_some_iff.mp called
    have declared := List.getElem?_eq_getElem (Nat.lt_of_lt_of_le within enough)
    rw [declared]
    exact accepted slot call _ called declared

/-- Fresh expectations in strict order accept a sequence of calls in full exactly if there
are enough of them and each call is accepted by the expectation of its number. Then the
sequence is accepted under all other stamps as well, and each call goes to the same
expectation as before: those that end up fulfilled are the first ones, as many as there
are calls. -/
theorem strict_sequence_survives_relaxation {queue : Queue}
    (fresh : ∀ expectation ∈ queue, expectation.fulfilled = false)
    (strict : ∀ expectation ∈ queue, expectation.ordered = true) (converter : Converter)
    (calls : List Call) :
    ((∀ taker ∈ queue.takers converter calls, taker.isSome = true) ↔
      calls.length ≤ queue.length ∧
        ∀ (slot : Nat) (call : Call) (expectation : Expectation), calls[slot]? = some call →
          queue[slot]? = some expectation → expectation.accepts converter call = true) ∧
    ((∀ taker ∈ queue.takers converter calls, taker.isSome = true) →
      ∀ stamps : Nat → Bool,
        (queue.stamped stamps).takers converter calls = queue.takers converter calls ∧
          (queue.stamped stamps).takers converter calls = (List.range calls.length).map some ∧
          ∀ slot, ((queue.stamped stamps).settleAll converter calls).holdsAt (·.fulfilled) slot =
            decide (slot < calls.length)) := by
  have first : queue.FirstFulfilled 0 := firstFulfilled_zero fresh
  have ordered : ∀ slot < queue.length, queue.holdsAt (·.ordered) slot = true := by
    intro slot within
    rw [holdsAt, List.getElem?_eq_getElem within]
    exact strict _ (List.getElem_mem within)
  have matched_iff : (∀ taker ∈ queue.takers converter calls, taker.isSome = true) ↔
      queue.MatchedFrom converter 0 calls := by
    constructor
    · exact first.matched_of_accepted ordered
    · intro matched
      rw [(first.takers_of_matched matched).1]
      simp
  refine ⟨matched_iff.trans matchedFrom_zero_iff, ?_⟩
  intro accepted stamps
  have matched := matched_iff.mp accepted
  -- Neither invariant looks at a stamp, so both carry over to the other stamps.
  have stampedFirst : (queue.stamped stamps).FirstFulfilled 0 := by
    intro slot
    rw [holdsAt_stamped_of_same fun _ _ => rfl]
    exact first slot
  have stampedMatched : (queue.stamped stamps).MatchedFrom converter 0 calls := by
    intro index call called
    rw [holdsAt_stamped_of_same fun _ _ => rfl]
    exact matched index call called
  obtain ⟨taken, fulfilled⟩ := stampedFirst.takers_of_matched stampedMatched
  refine ⟨taken.trans (first.takers_of_matched matched).1.symm, ?_, ?_⟩
  · rw [taken, List.range_eq_range']
  · rw [Nat.zero_add] at fulfilled
    exact fulfilled

/-- Two calls that both of the first two expectations accept, with a third one left over. -/
theorem overlapping_sequence_survives_relaxation :
    let declared := Expectation.fresh .exec (some ⟨"a", .equal ['a']⟩) true
    let queue : Queue :=
      [declared, { declared with arguments := .exactly [] }, .fresh .commit none true]
    let calls : List Call := [⟨.exec, some "a", []⟩, ⟨.exec, some "a", []⟩]
    (∀ expectation ∈ queue, expectation.fulfilled = false) ∧
      (∀ expectation ∈ queue, expectation.ordered = true) ∧
      queue.takers Converter.normalize calls = [some 0, some 1] ∧
      ∀ stamps, (queue.stamped stamps).takers Converter.normalize calls = [some 0, some 1] := by
  intro declared queue calls
  have fresh : ∀ expectation ∈ queue, expectation.fulfilled = false := by
    simp [queue, declared, Expectation.fresh]
  have strict : ∀ expectation ∈ queue, expectation.ordered = true := by
    simp [queue, declared, Expectation.fresh]
  have takers : queue.takers Converter.normalize calls = [some 0, some 1] := by decide +kernel
  have survives := strict_sequence_survives_relaxation fresh strict Converter.normalize calls
  have accepted : ∀ taker ∈ queue.takers Converter.normalize calls, taker.isSome = true := by
    rw [takers]
    simp
  refine ⟨fresh, strict, takers, ?_⟩
  intro stamps
  rw [(survives.2 accepted stamps).1, takers]

end Queue

end ScriptedSql
