import ScriptedSql.Proofs.Queue.Ledger
import ScriptedSql.Proofs.Session.Scripting

/-!
Contract: what runs of a program do to the expectations of a mock.

Owns:
- the account of every reachable mock: which expectations were fulfilled, by how many
  calls, and in which order;
- what lasts in a run, and which steps can add to what a mock is owed.

Does not own: the account of single edits of a queue (`Queue.Ledger`).
-/

namespace ScriptedSql

namespace Mock

/-! ## One event -/

private theorem after_orderly {mock : Mock} {taken : List Nat} (orderly : mock.queue.Orderly taken)
    (event : Event) : (mock.after event).queue.Orderly (taken ++ (mock.taken? event).toList) := by
  have change := mock.after_queueChange event
  generalize (mock.after event).queue = queue at change ⊢
  cases change with
  | kept untaken =>
      rw [untaken, Option.toList_none, List.append_nil]
      exact orderly
  | declared kind sql scripting untaken =>
      rw [untaken, Option.toList_none, List.append_nil]
      exact orderly.declare kind sql mock.ordered
  | adjusted slot adjustments scripting untaken =>
      rw [untaken, Option.toList_none, List.append_nil]
      have untouched (expectation : Expectation) :=
        Adjustment.applyAll_untouched expectation adjustments
      exact orderly.modify (fun expectation => (untouched expectation).ordered)
        (fun expectation => (untouched expectation).fulfilled) slot
  | fulfilled slot call candidate taken =>
      rw [taken, Option.toList_some]
      exact orderly.fulfil candidate
  | statementClosed slot untaken =>
      rw [untaken, Option.toList_none, List.append_nil]
      apply orderly.modify
      · exact fun _ => rfl
      · exact fun _ => rfl

private theorem after_advances (mock : Mock) (event : Event) :
    mock.queue.Advances (mock.after event).queue := by
  have change := mock.after_queueChange event
  generalize (mock.after event).queue = queue at change ⊢
  cases change with
  | kept untaken => exact mock.queue.advances_refl
  | declared kind sql scripting untaken => exact mock.queue.advances_append _
  | adjusted slot adjustments scripting untaken =>
      apply Queue.advances_modify
      intro expectation
      have untouched := Adjustment.applyAll_untouched expectation adjustments
      exact ⟨untouched.kind, untouched.sql, untouched.ordered, untouched.fulfilled.trans,
        untouched.wasClosed.trans⟩
  | fulfilled slot call candidate taken =>
      apply Queue.advances_modify
      exact fun _ => ⟨rfl, rfl, rfl, fun _ => rfl, id⟩
  | statementClosed slot untaken =>
      apply Queue.advances_modify
      exact fun _ => ⟨rfl, rfl, rfl, id, fun _ => rfl⟩

/-- A call can only settle what is owed, and so can the closing of a statement. -/
theorem owed_of_after {mock : Mock} {event : Event} (playing : event.isScripting = false)
    {slot : Nat} (owed : (mock.after event).queue.holdsAt (·.isOwed) slot = true) :
    mock.queue.holdsAt (·.isOwed) slot = true := by
  have change := mock.after_queueChange event
  generalize (mock.after event).queue = queue at change owed
  cases change with
  | kept untaken => exact owed
  | declared kind sql scripting untaken =>
      rw [playing] at scripting
      contradiction
  | adjusted index adjustments scripting untaken =>
      rw [playing] at scripting
      contradiction
  | fulfilled index call candidate taken =>
      refine Queue.holdsAt_of_modify (fun expectation stillOwed => ?_) owed
      rw [Expectation.isOwed, Bool.not_true, Bool.false_or] at stillOwed
      rw [Expectation.isOwed, Bool.or_eq_true]
      exact .inr stillOwed
  | statementClosed index untaken =>
      refine Queue.holdsAt_of_modify (fun expectation stillOwed => ?_) owed
      rw [Expectation.isOwed, Expectation.isLeftOpen, Bool.not_true, Bool.and_false,
        Bool.or_false] at stillOwed
      rw [Expectation.isOwed, Bool.or_eq_true]
      exact .inl stillOwed

end Mock

namespace Session

/-! ## Runs -/

/-- At every point of a run the ordered expectations of a mock have been fulfilled one after the
other. -/
theorem run_orderly (steps : List Step) (id : MockId) :
    ((empty.run steps).world.mockAt id).queue.Orderly (empty.taken id steps) := by
  refine run_invariant (fun mock taken => mock.queue.Orderly taken) ?_ ?_ steps id
  · intro mock noExpectations
    rw [noExpectations]
    exact Queue.orderly_nil
  · intro mock taken event orderly
    exact Mock.after_orderly orderly event

/-- No run takes back what was declared or achieved. -/
theorem run_advances (session : Session) (steps : List Step) (id : MockId) :
    (session.world.mockAt id).queue.Advances ((session.run steps).world.mockAt id).queue := by
  refine run_keeps (fun mock _ => (session.world.mockAt id).queue.Advances mock.queue)
    (fun _ => True) ?_ (fun _ _ _ _ _ => trivial) (Queue.advances_refl _)
    (fun uncreated => ⟨rfl, ?_⟩)
  · intro mock _ event _ advances
    exact advances.trans (mock.after_advances event)
  · -- A mock that is not there yet has no expectations that could get lost.
    intro mock noExpectations
    rw [World.mockAt_of_uncreated uncreated, noExpectations]
    exact Queue.advances_refl []

private theorem owed_of_run (session : Session) {steps : List Step}
    (playing : ∀ step ∈ steps, step.isScripting = false) {id : MockId} {slot : Nat} :
    ((session.run steps).world.mockAt id).queue.holdsAt (·.isOwed) slot = true →
      (session.world.mockAt id).queue.holdsAt (·.isOwed) slot = true := by
  refine run_keeps
    (fun mock _ => mock.queue.holdsAt (·.isOwed) slot = true →
      (session.world.mockAt id).queue.holdsAt (·.isOwed) slot = true)
    (fun event => event.isScripting = false) ?_ ?_ (fun owed => owed) (fun _ => ⟨rfl, ?_⟩)
  · intro mock _ event eventPlaying earlierOwed owed
    exact earlierOwed (Mock.owed_of_after eventPlaying owed)
  · intro step isLater session event isThere
    exact session.eventsAt_playing (playing step isLater) id event isThere
  · -- A new mock owes nothing.
    intro mock noExpectations owed
    rw [noExpectations] at owed
    contradiction

/-- Between any two points of any run of a program, for every mock: no expectation is
fulfilled by two calls, and there are as many fulfilled ones as calls were accepted;
every expectation keeps its slot, its kind, its text and its stamp, and what it achieved
is not taken back; and only declarations and builder calls add to what is owed. -/
theorem fulfilment_is_final (before later : List Step) (id : MockId) :
    let earlier := ((empty.run before).world.mockAt id).queue
    let now := ((empty.run (before ++ later)).world.mockAt id).queue
    let taken := empty.taken id (before ++ later)
    taken.Nodup ∧
      now.countP (·.fulfilled) = taken.length ∧
      (∀ slot, slot ∈ taken ↔ now.holdsAt (·.fulfilled) slot = true) ∧
      earlier.Advances now ∧
      ((∀ step ∈ later, step.isScripting = false) →
        ∀ slot, now.holdsAt (·.isOwed) slot = true → earlier.holdsAt (·.isOwed) slot = true) := by
  intro earlier now taken
  have ledger : now.Ledger taken := (run_orderly (before ++ later) id).ledger
  have continued : now = (((empty.run before).run later).world.mockAt id).queue := by
    rw [← run_append]
  refine ⟨ledger.once, ledger.count, ledger.fulfilled, ?_, ?_⟩
  · rw [continued]
    exact (empty.run before).run_advances later id
  · intro playing slot
    rw [continued]
    exact (empty.run before).owed_of_run playing

/-- At every point of every run of a program, for every mock: an ordered expectation is
fulfilled only if all ordered ones declared before it are; and the ordered ones that calls
have fulfilled so far, in the order of the calls, are the first ones in the order of
declaration. -/
theorem ordered_in_declaration_order (steps : List Step) (id : MockId) :
    let queue := ((empty.run steps).world.mockAt id).queue
    let orderedTaken := queue.orderedTaken (empty.taken id steps)
    queue.InOrder ∧
      orderedTaken <+: queue.orderedSlots ∧
      ∀ slot, slot ∈ orderedTaken ↔
        queue.holdsAt (·.ordered) slot = true ∧ queue.holdsAt (·.fulfilled) slot = true := by
  intro queue orderedTaken
  have orderly : queue.Orderly (empty.taken id steps) := run_orderly steps id
  refine ⟨orderly.inOrder, orderly.taken_leads, ?_⟩
  intro slot
  rw [← orderly.ledger.fulfilled, and_comm]
  exact List.mem_filter

end Session

end ScriptedSql
