import Mathlib.Data.List.Sort
import ScriptedSql.Proofs.Queue.Slots

/-!
Contract: the account of the calls that a queue has accepted.

Owns:
- the ledger: the slots taken so far are those of the fulfilled expectations, each once;
- the order: an ordered expectation is fulfilled only after all ordered ones before it;
- what declarations, edits and accepted calls make of both.

Does not own: which of these an event is (`Mock.Event`), and runs (`Session.Fulfilment`).
-/

namespace ScriptedSql

namespace Queue

/-! ## The ledger -/

/-- The account of the calls that a queue has accepted. -/
structure Ledger (queue : Queue) (taken : List Nat) : Prop where
  once : taken.Nodup
  fulfilled : ∀ slot, slot ∈ taken ↔ queue.holdsAt (·.fulfilled) slot = true
  count : queue.countP (·.fulfilled) = taken.length

private theorem ledger_nil : Ledger [] [] where
  once := List.nodup_nil
  fulfilled := fun _ => iff_of_false List.not_mem_nil Bool.false_ne_true
  count := rfl

/-- A new expectation has been taken by no call. -/
theorem Ledger.declare {queue : Queue} {taken : List Nat} (ledger : queue.Ledger taken)
    (kind : CallKind) (sql : Option SqlMatcher) (ordered : Bool) :
    Ledger (queue ++ [.fresh kind sql ordered]) taken where
  once := ledger.once
  fulfilled := by
    intro slot
    rw [ledger.fulfilled, holdsAt_append_of_fails rfl]
  count := by
    rw [List.countP_append, ledger.count]
    rfl

/-- The account does not depend on what does not fulfil anything. -/
theorem Ledger.modify {queue : Queue} {taken : List Nat} (ledger : queue.Ledger taken)
    {change : Expectation → Expectation}
    (same : ∀ expectation, (change expectation).fulfilled = expectation.fulfilled) (index : Nat) :
    Ledger (queue.modify index change) taken where
  once := ledger.once
  fulfilled := by
    intro slot
    rw [ledger.fulfilled, holdsAt_modify_of_same same]
  count := by
    rw [countP_modify_of_same same, ledger.count]

/-- A call enters the slot that it fulfils, which was pending and so is not in the account yet. -/
theorem Ledger.fulfil {queue : Queue} {taken : List Nat} (ledger : queue.Ledger taken)
    {slot : Fin queue.length} (pending : (queue.get slot).fulfilled = false) :
    Ledger (queue.fulfil slot) (taken ++ [slot.val]) where
  once := by
    have untaken : slot.val ∉ taken := by
      rw [ledger.fulfilled]
      simpa using pending
    rw [← List.concat_eq_append, List.nodup_concat]
    exact ⟨untaken, ledger.once⟩
  fulfilled := by
    intro other
    simp [ledger.fulfilled other]
  count := by
    simp [countP_fulfil pending, ledger.count]

/-! ## The order -/

/-- No ordered expectation is fulfilled while an ordered one declared before it is
pending. -/
def InOrder (queue : Queue) : Prop :=
  ∀ earlier later : Nat, earlier < later →
    queue.holdsAt (·.ordered) earlier = true → queue.holdsAt (·.ordered) later = true →
      queue.holdsAt (·.fulfilled) later = true → queue.holdsAt (·.fulfilled) earlier = true

private theorem inOrder_nil : InOrder [] :=
  fun _ _ _ isOrdered => absurd isOrdered Bool.false_ne_true

/-- A new expectation stands behind all others and holds back none of them. -/
theorem InOrder.declare {queue : Queue} (inOrder : queue.InOrder) (kind : CallKind)
    (sql : Option SqlMatcher) (ordered : Bool) :
    InOrder (queue ++ [.fresh kind sql ordered]) := by
  intro earlier later before earlierOrdered laterOrdered laterFulfilled
  rw [holdsAt_append_of_fails rfl] at laterFulfilled ⊢
  -- The new expectation is pending, so both slots were there before.
  have laterWithin := lt_length_of_holdsAt laterFulfilled
  rw [holdsAt_append_of_lt laterWithin] at laterOrdered
  rw [holdsAt_append_of_lt (Nat.lt_trans before laterWithin)] at earlierOrdered
  exact inOrder earlier later before earlierOrdered laterOrdered laterFulfilled

theorem InOrder.modify {queue : Queue} (inOrder : queue.InOrder)
    {change : Expectation → Expectation}
    (sameOrdered : ∀ expectation, (change expectation).ordered = expectation.ordered)
    (sameFulfilled : ∀ expectation, (change expectation).fulfilled = expectation.fulfilled)
    (index : Nat) : InOrder (queue.modify index change) := by
  intro earlier later before
  simp only [holdsAt_modify_of_same sameOrdered, holdsAt_modify_of_same sameFulfilled]
  exact inOrder earlier later before

/-- A candidate that is ordered has no pending ordered expectation before it. -/
theorem InOrder.fulfil {converter : Converter} {call : Call} {queue : Queue}
    (inOrder : queue.InOrder) {slot : Fin queue.length}
    (candidate : queue.Candidate converter call slot) : InOrder (queue.fulfil slot) := by
  intro earlier later before earlierOrdered laterOrdered laterFulfilled
  rw [orderedAt_fulfil] at earlierOrdered laterOrdered
  rw [fulfilledAt_fulfil, Bool.or_eq_true] at laterFulfilled ⊢
  apply Or.inl
  rcases laterFulfilled with wasFulfilled | isSlot
  · exact inOrder earlier later before earlierOrdered laterOrdered wasFulfilled
  · rw [beq_iff_eq] at isSlot
    subst isSlot
    exact candidate.ordered_before laterOrdered before earlierOrdered

/-! ## The order of the calls -/

/-- The slots of ordered expectations among those taken, in the order of the calls. -/
def orderedTaken (queue : Queue) (taken : List Nat) : List Nat :=
  taken.filter fun slot => queue.holdsAt (·.ordered) slot

def orderedSlots (queue : Queue) : List Nat :=
  (List.range queue.length).filter fun slot => queue.holdsAt (·.ordered) slot

/-- The account of a queue whose ordered expectations were fulfilled one after the
other. -/
structure Orderly (queue : Queue) (taken : List Nat) : Prop where
  ledger : queue.Ledger taken
  inOrder : queue.InOrder
  rising : (queue.orderedTaken taken).Pairwise (· < ·)

theorem orderly_nil : Orderly [] [] where
  ledger := ledger_nil
  inOrder := inOrder_nil
  rising := List.Pairwise.nil

theorem Orderly.declare {queue : Queue} {taken : List Nat} (orderly : queue.Orderly taken)
    (kind : CallKind) (sql : Option SqlMatcher) (ordered : Bool) :
    Orderly (queue ++ [.fresh kind sql ordered]) taken where
  ledger := orderly.ledger.declare kind sql ordered
  inOrder := orderly.inOrder.declare kind sql ordered
  rising := by
    have same : orderedTaken (queue ++ [.fresh kind sql ordered]) taken =
        queue.orderedTaken taken := by
      apply List.filter_congr
      intro slot isTaken
      have within := lt_length_of_holdsAt ((orderly.ledger.fulfilled slot).mp isTaken)
      rw [holdsAt_append_of_lt within]
    rw [same]
    exact orderly.rising

theorem Orderly.modify {queue : Queue} {taken : List Nat} (orderly : queue.Orderly taken)
    {change : Expectation → Expectation}
    (sameOrdered : ∀ expectation, (change expectation).ordered = expectation.ordered)
    (sameFulfilled : ∀ expectation, (change expectation).fulfilled = expectation.fulfilled)
    (index : Nat) : Orderly (queue.modify index change) taken where
  ledger := orderly.ledger.modify sameFulfilled index
  inOrder := orderly.inOrder.modify sameOrdered sameFulfilled index
  rising := by
    unfold orderedTaken
    simp only [holdsAt_modify_of_same sameOrdered]
    exact orderly.rising

/-- An ordered candidate is the next of the ordered slots, and any other leaves their account as
it is. -/
theorem Orderly.fulfil {converter : Converter} {call : Call} {queue : Queue} {taken : List Nat}
    (orderly : queue.Orderly taken) {slot : Fin queue.length}
    (candidate : queue.Candidate converter call slot) :
    Orderly (queue.fulfil slot) (taken ++ [slot.val]) where
  ledger := orderly.ledger.fulfil candidate.pending
  inOrder := orderly.inOrder.fulfil candidate
  rising := by
    unfold orderedTaken
    simp only [orderedAt_fulfil]
    rw [List.filter_append]
    by_cases isOrdered : queue.holdsAt (·.ordered) slot = true
    · rw [List.filter_cons_of_pos isOrdered, List.filter_nil, List.pairwise_append]
      refine ⟨orderly.rising, List.pairwise_singleton _ _, ?_⟩
      intro other isTaken last isLast
      rw [List.mem_singleton.mp isLast]
      obtain ⟨wasTaken, otherOrdered⟩ := List.mem_filter.mp isTaken
      have otherFulfilled := (orderly.ledger.fulfilled other).mp wasTaken
      have isPending : ¬ queue.holdsAt (·.fulfilled) slot = true := by
        simpa using candidate.pending
      -- A taken slot behind the candidate would have been fulfilled out of order.
      rcases Nat.lt_trichotomy other slot with before | same | behind
      · exact before
      · exact absurd (same ▸ otherFulfilled) isPending
      · exact absurd (orderly.inOrder slot other behind isOrdered otherOrdered otherFulfilled)
          isPending
    · rw [List.filter_cons_of_neg isOrdered, List.filter_nil, List.append_nil]
      exact orderly.rising

/-- What is closed downwards in a list is kept in front by a filter. -/
private theorem filter_prefix_of_downward {keep : Nat → Bool} {slots : List Nat}
    (downward : slots.Pairwise fun earlier later => keep later = true → keep earlier = true) :
    slots.filter keep <+: slots := by
  induction slots with
  | nil => exact List.prefix_rfl
  | cons first rest inductionHypothesis =>
      obtain ⟨firstBefore, restDownward⟩ := List.pairwise_cons.mp downward
      by_cases firstKept : keep first = true
      · rw [List.filter_cons_of_pos firstKept]
        exact (List.prefix_cons_inj first).mpr (inductionHypothesis restDownward)
      · have noneKept : rest.filter keep = [] := by
          apply List.filter_eq_nil_iff.mpr
          intro later isLater laterKept
          exact firstKept (firstBefore later isLater laterKept)
        rw [List.filter_cons_of_neg firstKept, noneKept]
        exact List.nil_prefix

/-- The ordered expectations that were fulfilled are the first ones declared, and were
fulfilled in the order of declaration. -/
theorem Orderly.taken_leads {queue : Queue} {taken : List Nat} (orderly : queue.Orderly taken) :
    queue.orderedTaken taken <+: queue.orderedSlots := by
  have slotsRising : queue.orderedSlots.Pairwise (· < ·) :=
    List.pairwise_lt_range.filter _
  have achieved : queue.orderedTaken taken =
      queue.orderedSlots.filter fun slot => queue.holdsAt (·.fulfilled) slot := by
    apply orderly.rising.eq_of_mem_iff (slotsRising.filter _)
    intro slot
    rw [orderedTaken, orderedSlots, List.mem_filter, List.mem_filter, List.mem_filter,
      List.mem_range, orderly.ledger.fulfilled]
    constructor
    · rintro ⟨isFulfilled, isOrdered⟩
      exact ⟨⟨lt_length_of_holdsAt isFulfilled, isOrdered⟩, isFulfilled⟩
    · rintro ⟨⟨-, isOrdered⟩, isFulfilled⟩
      exact ⟨isFulfilled, isOrdered⟩
  rw [achieved]
  apply filter_prefix_of_downward
  apply slotsRising.imp_of_mem
  intro earlier later isEarlier isLater before laterFulfilled
  obtain ⟨-, earlierOrdered⟩ := List.mem_filter.mp isEarlier
  obtain ⟨-, laterOrdered⟩ := List.mem_filter.mp isLater
  exact orderly.inOrder earlier later before earlierOrdered laterOrdered laterFulfilled

end Queue

end ScriptedSql
