import ScriptedSql.Proofs.Queue.Report
import ScriptedSql.Proofs.Session.Statements

/-!
Contract: what a verification says about the run so far.

Owns:
- when a mock is owed nothing, told by the calls that it accepted and the statements that
  were closed;
- what the report lists otherwise.

Does not own: the text of the report (`Queue.Report`).
-/

namespace ScriptedSql

namespace Session

/-- What an expectation owes, by the history of the run. -/
theorem isOwed_iff (steps : List Step) (id : MockId) (slot : Nat) :
    ((empty.run steps).world.mockAt id).queue.holdsAt (·.isOwed) slot = true ↔
      slot < ((empty.run steps).world.mockAt id).queue.length ∧
        (slot ∉ empty.taken id steps ∨
          ((empty.run steps).world.mockAt id).queue.holdsAt (·.mustBeClosed) slot = true ∧
            ¬ Occurred (Closes id slot) steps) := by
  rw [Queue.holdsAt_isOwed_iff, (run_orderly steps id).ledger.fulfilled, wasClosed_iff_occurred]

/-- At every point of every run of a program, for every mock: the verification succeeds if
and only if every declared expectation was fulfilled by an accepted call, and of every one
that is marked so the statement made from it was closed. Otherwise it reports the remaining
expectations, each once and in the order of declaration, with a note on exactly those that
were fulfilled but are not closed. A verification changes nothing. -/
theorem verification_reports_the_remaining (steps : List Step) (id : MockId) :
    let session := empty.run steps
    let queue := (session.world.mockAt id).queue
    let verdict := (session.world.mockAt id).verify
    let isFulfilled := fun slot => slot ∈ empty.taken id steps
    let isMarked := fun slot => queue.holdsAt (·.mustBeClosed) slot = true
    let isClosed := fun slot => Occurred (Closes id slot) steps
    (verdict = .ok () ↔
      (∀ slot < queue.length, isFulfilled slot) ∧ ∀ slot, isMarked slot → isClosed slot) ∧
    (verdict ≠ .ok () → ∃ (remaining : List Nat) (noted : Nat → Bool),
      remaining.Pairwise (· < ·) ∧
      (∀ slot, slot ∈ remaining ↔
        slot < queue.length ∧ (¬ isFulfilled slot ∨ isMarked slot ∧ ¬ isClosed slot)) ∧
      (∀ slot ∈ remaining,
        noted slot = true ↔ isFulfilled slot ∧ isMarked slot ∧ ¬ isClosed slot) ∧
      verdict = .error (queue.report noted remaining)) ∧
    ∀ name, session.mocks.get? name = some id →
      session.step (.verify name) = (session, .ofUnit verdict) := by
  intro session queue verdict isFulfilled isMarked isClosed
  have ledger : queue.Ledger (empty.taken id steps) := (run_orderly steps id).ledger
  have mem_remaining (slot : Nat) : slot ∈ queue.owedSlots ↔
      slot < queue.length ∧ (¬ isFulfilled slot ∨ isMarked slot ∧ ¬ isClosed slot) :=
    Queue.mem_owedSlots_iff.trans (isOwed_iff steps id slot)
  have succeeds_iff : verdict = .ok () ↔ queue.owedSlots = [] := Queue.verify_eq_ok_iff
  refine ⟨?_, ?_, ?_⟩
  · rw [succeeds_iff, List.eq_nil_iff_forall_not_mem]
    simp only [mem_remaining]
    constructor
    · intro nothing
      refine ⟨fun slot within => ?_, fun slot marked => ?_⟩
      · by_contra pending
        exact nothing slot ⟨within, .inl pending⟩
      · by_contra leftOpen
        exact nothing slot ⟨Queue.lt_length_of_holdsAt marked, .inr ⟨marked, leftOpen⟩⟩
    · rintro ⟨fulfilled, closed⟩ slot ⟨within, pending | ⟨marked, leftOpen⟩⟩
      · exact pending (fulfilled slot within)
      · exact leftOpen (closed slot marked)
  · intro fails
    refine ⟨queue.owedSlots, fun slot => queue.holdsAt (·.fulfilled) slot,
      queue.owedSlots_rising, mem_remaining, ?_, ?_⟩
    · intro slot isRemaining
      rw [← ledger.fulfilled]
      obtain ⟨-, owes⟩ := (mem_remaining slot).mp isRemaining
      constructor
      · intro fulfilled
        exact ⟨fulfilled, owes.resolve_left (not_not_intro fulfilled)⟩
      · exact And.left
    · have someOwed : queue.owedSlots ≠ [] := mt succeeds_iff.mpr fails
      exact (Queue.verify_eq_report fun _ => rfl).trans (if_neg someOwed)
  · intro name found
    exact require_of_some found session _

end Session

end ScriptedSql
