import ScriptedSql.Proofs.Queue.Slots

/-!
Contract: the report of a verification.

Owns:
- the slots of the expectations that owe something;
- the text of the report: a line for each of these, numbered from one on, with what was
  declared and, behind that, whether a prepared statement was left open.

Does not own: how it comes that an expectation owes something (`Session.Verification`).
-/

namespace ScriptedSql

namespace MockError

def unmetHeader : String :=
  "there are remaining expectations which were not met"

def unmetLine (number : Nat) (item : String) : String :=
  "\n  " ++ Text.decimal number ++ ". " ++ item

private theorem numberedLines_eq_join (number : Nat) (items : List String) :
    numberedLines number items =
      String.join (List.zipWith unmetLine (List.range' number items.length) items) := by
  induction items generalizing number with
  | nil => rfl
  | cons item rest inductionHypothesis =>
      rw [numberedLines, inductionHypothesis, List.length_cons, List.range'_succ,
        List.zipWith_cons_cons, String.join_cons, unmetLine]

end MockError

namespace Expectation

/-- What was declared, as messages show it: kind, pattern and arguments. -/
def declaration (expectation : Expectation) : String :=
  let sql := match expectation.sql with
    | some matcher => " matching " ++ matcher.shown
    | none => ""
  expectation.kind.name ++ sql ++ expectation.arguments.shown

/-- What an item of the report says: what was declared, and a note if a prepared statement
was left open. -/
def reported (expectation : Expectation) (noted : Bool) : String :=
  expectation.declaration ++ if noted then " (prepared statement was not closed)" else ""

/-- Among the expectations that owe something, the note tells those that were fulfilled. -/
theorem shown_eq_reported {expectation : Expectation} (owed : expectation.isOwed = true) :
    expectation.shown = expectation.reported expectation.fulfilled := by
  unfold isOwed at owed
  unfold shown reported declaration
  cases fulfilled : expectation.fulfilled with
  | false => rfl
  | true =>
      rw [fulfilled, Bool.not_true, Bool.false_or] at owed
      rw [owed]
      rfl

end Expectation

namespace Queue

/-- The slots of the expectations that owe something, in the order of declaration. -/
def owedSlots (queue : Queue) : List Nat :=
  (List.range queue.length).filter fun slot => queue.holdsAt (·.isOwed) slot

theorem mem_owedSlots_iff {queue : Queue} {slot : Nat} :
    slot ∈ queue.owedSlots ↔ queue.holdsAt (·.isOwed) slot = true := by
  rw [owedSlots, List.mem_filter, List.mem_range, and_iff_right_iff_imp]
  exact lt_length_of_holdsAt

/-- An expectation owes a call until it is fulfilled, and the closing of its statement if
that was asked for. -/
theorem holdsAt_isOwed_iff {queue : Queue} {slot : Nat} :
    queue.holdsAt (·.isOwed) slot = true ↔
      slot < queue.length ∧ (¬ queue.holdsAt (·.fulfilled) slot = true ∨
        queue.holdsAt (·.mustBeClosed) slot = true ∧
          ¬ queue.holdsAt (·.wasClosed) slot = true) := by
  unfold holdsAt
  cases found : queue[slot]? with
  | none => simp [List.getElem?_eq_none_iff.mp found]
  | some expectation =>
      simp [(List.getElem?_eq_some_iff.mp found).1, Expectation.isOwed, Expectation.isLeftOpen]

theorem owedSlots_rising (queue : Queue) : queue.owedSlots.Pairwise (· < ·) :=
  List.pairwise_lt_range.filter _

/-- The item of the expectation at a slot, with a note or without. -/
def itemAt (queue : Queue) (noted : Nat → Bool) (slot : Nat) : String :=
  match queue[slot]? with
  | some expectation => expectation.reported (noted slot)
  | none => ""

/-- The report on some slots: an error with a line for each, numbered from one on. -/
def report (queue : Queue) (noted : Nat → Bool) (slots : List Nat) : Error :=
  .ofMock .unmetExpectations
    (MockError.unmetHeader ++ String.join
      (List.zipWith MockError.unmetLine (List.range' 1 slots.length)
        (slots.map (queue.itemAt noted))))

private theorem itemAt_of_owed {queue : Queue} {noted : Nat → Bool} {slot : Nat}
    {expectation : Expectation} (found : queue[slot]? = some expectation)
    (owed : expectation.isOwed = true) (agree : noted slot = expectation.fulfilled) :
    queue.itemAt noted slot = expectation.shown := by
  rw [itemAt, found, agree]
  exact (Expectation.shown_eq_reported owed).symm

private theorem owed_shown_eq_items {queue : Queue} {noted : Nat → Bool}
    (agree : ∀ slot, noted slot = queue.holdsAt (·.fulfilled) slot) :
    queue.owed.map (·.shown) = queue.owedSlots.map (queue.itemAt noted) := by
  have entry : ∀ pair ∈ queue.zipIdx, queue[pair.2]? = some pair.1 :=
    fun _ => List.mem_zipIdx_iff_getElem?.mp
  have slots : List.range queue.length = queue.zipIdx.map Prod.snd := by
    rw [List.zipIdx_map_snd, List.range_eq_range']
  -- Expectations and slots are the two sides of the same pairs.
  calc queue.owed.map (·.shown)
      = ((queue.zipIdx.map Prod.fst).filter (·.isOwed)).map (·.shown) := by
        rw [List.zipIdx_map_fst, owed]
    _ = (queue.zipIdx.filter fun pair => pair.1.isOwed).map fun pair => pair.1.shown := by
        rw [List.filter_map, List.map_map]
        rfl
    _ = (queue.zipIdx.filter fun pair => pair.1.isOwed).map fun pair =>
          queue.itemAt noted pair.2 := by
        apply List.map_congr_left
        intro pair isOwed
        obtain ⟨isThere, owed⟩ := List.mem_filter.mp isOwed
        refine (itemAt_of_owed (entry pair isThere) owed ?_).symm
        rw [agree, holdsAt, entry pair isThere, Option.any_some]
    _ = (queue.zipIdx.filter fun pair => queue.holdsAt (·.isOwed) pair.2).map fun pair =>
          queue.itemAt noted pair.2 := by
        congr 1
        apply List.filter_congr
        intro pair isThere
        rw [holdsAt, entry pair isThere, Option.any_some]
    _ = queue.owedSlots.map (queue.itemAt noted) := by
        rw [owedSlots, slots, List.filter_map, List.map_map]
        rfl

/-- A verification succeeds if nothing is owed, and reports what is owed otherwise. -/
theorem verify_eq_report {queue : Queue} {noted : Nat → Bool}
    (agree : ∀ slot, noted slot = queue.holdsAt (·.fulfilled) slot) :
    queue.verify =
      if queue.owedSlots = [] then .ok () else .error (queue.report noted queue.owedSlots) := by
  have items := owed_shown_eq_items agree
  unfold verify
  cases listed : queue.owed with
  | nil =>
      rw [listed, List.map_nil, eq_comm, List.map_eq_nil_iff] at items
      rw [if_pos items]
  | cons first rest =>
      have someOwed : queue.owedSlots ≠ [] := by
        intro none
        rw [none, listed] at items
        contradiction
      rw [if_neg someOwed]
      show Except.error (Error.mock (.unmet ((first :: rest).map (·.shown)))) = _
      rw [← listed, items, MockError.unmet, MockError.numberedLines_eq_join, List.length_map]
      rfl

/-- Verification succeeds exactly if no expectation owes anything. -/
theorem verify_eq_ok_iff {queue : Queue} : queue.verify = .ok () ↔ queue.owedSlots = [] := by
  rw [verify_eq_report fun _ => rfl]
  by_cases nothing : queue.owedSlots = []
  · simp [nothing]
  · simp [nothing]

end Queue

end ScriptedSql
