import ScriptedSql.Proofs.Queue.Resolution

/-!
Contract: queues slot by slot.

Owns:
- what holds of the expectation at a slot, and what an edit of the queue leaves of it;
- what lasts: expectations that only go forward, in queues that only grow.

Does not own: which edits calls and declarations make (`Mock.Event`).
-/

namespace ScriptedSql

namespace Expectation

/-- What was declared stays, and what was achieved is not taken back. -/
structure Advances (earlier later : Expectation) : Prop where
  kind : later.kind = earlier.kind
  sql : later.sql = earlier.sql
  ordered : later.ordered = earlier.ordered
  fulfilled : earlier.fulfilled = true → later.fulfilled = true
  wasClosed : earlier.wasClosed = true → later.wasClosed = true

theorem advances_refl (expectation : Expectation) : expectation.Advances expectation :=
  ⟨rfl, rfl, rfl, id, id⟩

theorem Advances.trans {first second third : Expectation} (before : first.Advances second)
    (behind : second.Advances third) : first.Advances third where
  kind := behind.kind.trans before.kind
  sql := behind.sql.trans before.sql
  ordered := behind.ordered.trans before.ordered
  fulfilled := behind.fulfilled ∘ before.fulfilled
  wasClosed := behind.wasClosed ∘ before.wasClosed

end Expectation

namespace Queue

/-! ## Tests at a slot -/

/-- There is an expectation at a slot, and it passes a test. -/
def holdsAt (queue : Queue) (test : Expectation → Bool) (slot : Nat) : Bool :=
  queue[slot]?.any test

@[simp]
theorem holdsAt_get (queue : Queue) (test : Expectation → Bool) (slot : Fin queue.length) :
    queue.holdsAt test slot = test (queue.get slot) := by
  rw [holdsAt, List.getElem?_eq_getElem slot.isLt, Option.any_some, List.get_eq_getElem]

theorem lt_length_of_holdsAt {queue : Queue} {test : Expectation → Bool} {slot : Nat}
    (holds : queue.holdsAt test slot = true) : slot < queue.length := by
  apply Nat.lt_of_not_le
  intro beyond
  rw [holdsAt, List.getElem?_eq_none_iff.mpr beyond] at holds
  contradiction

@[simp]
theorem holdsAt_modify (queue : Queue) (test : Expectation → Bool) (index : Nat)
    (change : Expectation → Expectation) (slot : Nat) :
    holdsAt (queue.modify index change) test slot =
      queue.holdsAt
        (fun expectation => test (if index = slot then change expectation else expectation))
        slot := by
  unfold holdsAt
  rw [List.getElem?_modify]
  cases queue[slot]? <;> rfl

/-- A change that a test does not notice is not noticed at any slot. -/
theorem holdsAt_modify_of_same {test : Expectation → Bool} {change : Expectation → Expectation}
    (same : ∀ expectation, test (change expectation) = test expectation) (queue : Queue)
    (index slot : Nat) :
    holdsAt (queue.modify index change) test slot = queue.holdsAt test slot := by
  rw [holdsAt_modify]
  congr 1
  funext expectation
  by_cases here : index = slot
  · rw [if_pos here, same]
  · rw [if_neg here]

/-- A change that cannot make a test pass does not do so at any slot. -/
theorem holdsAt_of_modify {test : Expectation → Bool} {change : Expectation → Expectation}
    (lowers : ∀ expectation, test (change expectation) = true → test expectation = true)
    {queue : Queue} {index slot : Nat}
    (holds : holdsAt (queue.modify index change) test slot = true) :
    queue.holdsAt test slot = true := by
  rw [holdsAt_modify] at holds
  unfold holdsAt at holds ⊢
  cases found : queue[slot]? with
  | none =>
      rw [found] at holds
      contradiction
  | some expectation =>
      rw [found] at holds
      by_cases here : index = slot
      · simp only [Option.any_some, if_pos here] at holds
        exact lowers expectation holds
      · simp only [Option.any_some, if_neg here] at holds
        exact holds

/-- A test that a change does not spoil is still passed after it. -/
theorem holdsAt_modify_of_holds {test : Expectation → Bool} {change : Expectation → Expectation}
    (keeps : ∀ expectation, test expectation = true → test (change expectation) = true)
    {queue : Queue} {index slot : Nat} (holds : queue.holdsAt test slot = true) :
    holdsAt (queue.modify index change) test slot = true := by
  rw [holdsAt_modify]
  unfold holdsAt at holds ⊢
  rw [Option.any_eq_true] at holds ⊢
  obtain ⟨expectation, found, passes⟩ := holds
  refine ⟨expectation, found, ?_⟩
  by_cases here : index = slot
  · rw [if_pos here]
    exact keeps expectation passes
  · rw [if_neg here]
    exact passes

/-- An expectation that fails a test is not noticed when it is appended. -/
theorem holdsAt_append_of_fails {test : Expectation → Bool} {expectation : Expectation}
    (fails : test expectation = false) (queue : Queue) (slot : Nat) :
    holdsAt (queue ++ [expectation]) test slot = queue.holdsAt test slot := by
  unfold holdsAt
  by_cases within : slot < queue.length
  · rw [List.getElem?_append_left within]
  · have beyond := Nat.not_lt.mp within
    rw [List.getElem?_append_right beyond, List.getElem?_eq_none_iff.mpr beyond]
    cases slot - queue.length with
    | zero => exact fails
    | succ behind => rfl

/-- New expectations do not concern those in front of them. -/
theorem holdsAt_append_of_lt {queue : Queue} {slot : Nat} (within : slot < queue.length)
    (test : Expectation → Bool) (more : Queue) :
    holdsAt (queue ++ more) test slot = queue.holdsAt test slot := by
  rw [holdsAt, List.getElem?_append_left within, holdsAt]

@[simp]
theorem fulfilledAt_fulfil (queue : Queue) (index : Fin queue.length) (slot : Nat) :
    (queue.fulfil index).holdsAt (·.fulfilled) slot =
      (queue.holdsAt (·.fulfilled) slot || slot == index.val) := by
  rw [fulfil, holdsAt_modify]
  by_cases here : index.val = slot
  · subst here
    simp
  · simp only [if_neg here, beq_eq_false_iff_ne.mpr (Ne.symm here), Bool.or_false]

/-- To fulfil an expectation is not noticed by a test that does not ask for that. -/
theorem holdsAt_fulfil_of_same {test : Expectation → Bool}
    (same : ∀ expectation, test { expectation with fulfilled := true } = test expectation)
    (queue : Queue) (index slot : Nat) :
    (queue.fulfil index).holdsAt test slot = queue.holdsAt test slot :=
  holdsAt_modify_of_same same queue index slot

@[simp]
theorem orderedAt_fulfil (queue : Queue) (index slot : Nat) :
    (queue.fulfil index).holdsAt (·.ordered) slot = queue.holdsAt (·.ordered) slot :=
  holdsAt_fulfil_of_same (fun _ => rfl) queue index slot

theorem acceptsAt_fulfil (converter : Converter) (call : Call) (queue : Queue)
    (index slot : Nat) :
    (queue.fulfil index).holdsAt (·.accepts converter call) slot =
      queue.holdsAt (·.accepts converter call) slot :=
  holdsAt_fulfil_of_same (fun _ => rfl) queue index slot

/-- An ordered candidate has only fulfilled ordered expectations before it. -/
theorem Candidate.ordered_before {converter : Converter} {call : Call} {queue : Queue}
    {slot : Fin queue.length} (candidate : queue.Candidate converter call slot)
    (isOrdered : queue.holdsAt (·.ordered) slot = true) {earlier : Nat} (before : earlier < slot)
    (earlierOrdered : queue.holdsAt (·.ordered) earlier = true) :
    queue.holdsAt (·.fulfilled) earlier = true := by
  have within := lt_length_of_holdsAt earlierOrdered
  rw [holdsAt_get] at isOrdered
  rw [← Fin.val_mk within, holdsAt_get] at earlierOrdered ⊢
  rcases candidate.inTurn with unordered | free
  · rw [isOrdered] at unordered
    contradiction
  · have unblocking := free ⟨earlier, within⟩ before
    rw [Expectation.isBlocking, earlierOrdered, Bool.and_true] at unblocking
    exact (Bool.not_eq_eq_eq_not.mp unblocking)

/-! ## Counts -/

theorem countP_modify_of_same {test : Expectation → Bool} {change : Expectation → Expectation}
    (same : ∀ expectation, test (change expectation) = test expectation) (queue : Queue)
    (index : Nat) : (queue.modify index change).countP test = queue.countP test := by
  induction queue generalizing index with
  | nil => rw [List.modify_nil]
  | cons head tail inductionHypothesis =>
      cases index with
      | zero => rw [List.modify_zero_cons, List.countP_cons, List.countP_cons, same]
      | succ index =>
          rw [List.modify_succ_cons, List.countP_cons, List.countP_cons, inductionHypothesis]

/-- To fulfil a pending expectation is to have one more fulfilled. -/
theorem countP_fulfil {queue : Queue} {slot : Fin queue.length}
    (pending : (queue.get slot).fulfilled = false) :
    (queue.fulfil slot).countP (·.fulfilled) = queue.countP (·.fulfilled) + 1 := by
  rw [List.get_eq_getElem] at pending
  rw [fulfil_eq_set, List.countP_set slot.isLt, pending, if_neg Bool.false_ne_true, if_pos rfl,
    Nat.sub_zero]

/-! ## What lasts -/

/-- Every expectation keeps its slot, and goes forward there. -/
def Advances (earlier later : Queue) : Prop :=
  ∀ (slot : Nat) (expectation : Expectation), earlier[slot]? = some expectation →
    ∃ advanced, later[slot]? = some advanced ∧ expectation.Advances advanced

theorem advances_refl (queue : Queue) : queue.Advances queue :=
  fun _ expectation found => ⟨expectation, found, expectation.advances_refl⟩

theorem Advances.trans {first second third : Queue} (before : first.Advances second)
    (behind : second.Advances third) : first.Advances third := by
  intro slot expectation found
  obtain ⟨middle, foundMiddle, toMiddle⟩ := before slot expectation found
  obtain ⟨last, foundLast, toLast⟩ := behind slot middle foundMiddle
  exact ⟨last, foundLast, toMiddle.trans toLast⟩

/-- Declarations take no slot away. -/
theorem advances_append (queue more : Queue) : queue.Advances (queue ++ more) := by
  intro slot expectation found
  obtain ⟨within, -⟩ := List.getElem?_eq_some_iff.mp found
  refine ⟨expectation, ?_, expectation.advances_refl⟩
  rw [List.getElem?_append_left within, found]

/-- A change that takes nothing back from an expectation takes nothing back from the queue. -/
theorem advances_modify {change : Expectation → Expectation}
    (advances : ∀ expectation : Expectation, expectation.Advances (change expectation))
    (queue : Queue) (index : Nat) : queue.Advances (queue.modify index change) := by
  intro slot expectation found
  by_cases here : index = slot
  · subst here
    refine ⟨change expectation, ?_, advances expectation⟩
    rw [List.getElem?_modify_eq, found]
    rfl
  · refine ⟨expectation, ?_, expectation.advances_refl⟩
    rw [List.getElem?_modify_ne _ _ here, found]

/-- A test that no expectation fails again once it has passed it lasts at every slot. -/
theorem Advances.holdsAt {earlier later : Queue} (advances : earlier.Advances later)
    {test : Expectation → Bool}
    (lasts : ∀ before behind : Expectation, before.Advances behind → test before = true →
      test behind = true)
    {slot : Nat} (holds : earlier.holdsAt test slot = true) : later.holdsAt test slot = true := by
  rw [Queue.holdsAt, Option.any_eq_true] at holds ⊢
  obtain ⟨expectation, found, passes⟩ := holds
  obtain ⟨advanced, isThere, advances⟩ := advances slot expectation found
  exact ⟨advanced, isThere, lasts expectation advanced advances passes⟩

/-- A statement that was closed stays closed. -/
theorem Advances.wasClosedAt {earlier later : Queue} (advances : earlier.Advances later)
    {slot : Nat} (closed : earlier.holdsAt (·.wasClosed) slot = true) :
    later.holdsAt (·.wasClosed) slot = true :=
  advances.holdsAt (fun _ _ advances => advances.wasClosed) closed

/-- An expectation that was fulfilled stays fulfilled. -/
theorem Advances.fulfilledAt {earlier later : Queue} (advances : earlier.Advances later)
    {slot : Nat} (fulfilled : earlier.holdsAt (·.fulfilled) slot = true) :
    later.holdsAt (·.fulfilled) slot = true :=
  advances.holdsAt (fun _ _ advances => advances.fulfilled) fulfilled

theorem Advances.kindAt {earlier later : Queue} (advances : earlier.Advances later)
    {kind : CallKind} {slot : Nat} (ofKind : earlier.holdsAt (·.kind == kind) slot = true) :
    later.holdsAt (·.kind == kind) slot = true := by
  refine advances.holdsAt (fun before behind advances same => ?_) ofKind
  rw [advances.kind]
  exact same

end Queue

end ScriptedSql
