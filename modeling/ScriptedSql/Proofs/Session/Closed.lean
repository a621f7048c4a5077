import ScriptedSql.Proofs.Session.Closing
import ScriptedSql.Proofs.Session.Fulfilment

/-!
Contract: closed mocks in the rest of a run.

Owns:
- all refusals that a closed mock owes: of steps that call it, of checks whether it is
  there, and of the rollbacks of transactions that were let go;
- the end of its history: it accepts no call any more, and no expectation of it is
  fulfilled any more.

Does not own: how a mock comes to be closed (`Session.Closing`). The closing of a statement
is no call, and a closed mock still takes note of it (`Session.Statements`).
-/

namespace ScriptedSql

namespace Session

/-- A mock refuses whatever comes through a handle of it: calls, checks, and the rollbacks
that stand for transactions that were let go, whose answers nobody looks at. -/
structure Refuses (session : Session) (id : MockId) : Prop where
  calls : ∀ step, session.callee? step = some id →
    (session.step step).2.fault? = some .closed
  checks : ∀ connection, session.connections.get? connection = some id →
    (session.step (.isValid connection)).2 = .flag false
  abandoned : Exchange.IsRefusal (session.exchange id Exchange.rollback).1

private theorem refuses_of_closed {session : Session} {id : MockId}
    (closed : (session.world.mockAt id).closed = true) : session.Refuses id where
  calls _ calls := step_refused closed calls
  checks connection connected := by
    obtain ⟨error, after, failed, -⟩ :=
      session.exchange_of_refused (Exchange.ping_refused closed)
    simp [step, withConnection, connected, failed, Except.isOk, Except.toBool]
  abandoned := Exchange.dispatch_refused closed .rollback none []

/-- Nothing opens a closed mock, and it accepts no call. -/
theorem run_of_closed {session : Session} {id : MockId}
    (created : id < session.world.mocks.length)
    (closed : (session.world.mockAt id).closed = true) (later : List Step) :
    ((session.run later).world.mockAt id).closed = true ∧ session.taken id later = [] := by
  induction later generalizing session with
  | nil => exact ⟨closed, rfl⟩
  | cons step rest inductionHypothesis =>
      obtain ⟨stillClosed, untaken⟩ :=
        inductionHypothesis (step_created created step) (step_closed created closed step)
      refine ⟨stillClosed, ?_⟩
      rw [taken, Mock.taken_of_closed closed, untaken, List.append_nil]

/-- From any point of any run of a program at which a mock is closed, and whatever comes
after: the mock stays closed and refuses whatever comes through a handle of it, it accepts
no call, and the same expectations of it are fulfilled as before. -/
theorem closed_for_good (before later : List Step) (id : MockId)
    (created : id < (empty.run before).world.mocks.length)
    (closed : ((empty.run before).world.mockAt id).closed = true) :
    let earlier := (empty.run before).world.mockAt id
    let session := empty.run (before ++ later)
    let now := session.world.mockAt id
    now.closed = true ∧
      session.Refuses id ∧
      (empty.run before).taken id later = [] ∧
      ∀ slot, now.queue.holdsAt (·.fulfilled) slot = earlier.queue.holdsAt (·.fulfilled) slot := by
  intro earlier session now
  obtain ⟨stillClosed, untaken⟩ := run_of_closed created closed later
  rw [← run_append] at stillClosed
  refine ⟨stillClosed, refuses_of_closed stillClosed, untaken, fun slot => ?_⟩
  -- What is fulfilled is what calls have taken, and no call has been taken since.
  have sameTaken : empty.taken id (before ++ later) = empty.taken id before := by
    rw [taken_append, untaken, List.append_nil]
  have fulfilledNow := (run_orderly (before ++ later) id).ledger.fulfilled slot
  have fulfilledEarlier := (run_orderly before id).ledger.fulfilled slot
  rw [sameTaken] at fulfilledNow
  exact Bool.eq_iff_iff.mpr (fulfilledNow.symm.trans fulfilledEarlier)

/-- A mock is closed while a transaction is open. A rollback declared before is left
unfulfilled when the transaction is let go, and so is a ping declared after. -/
theorem closed_for_good_within_transaction :
    let before : List Step :=
      [.create "mock" "connection" Config.standard,
        .expect "mock" .begin none [] none,
        .expect "mock" .rollback none [] none,
        .beginTransaction "connection" "transaction" .readCommitted,
        .request "connection" .close]
    let later : List Step :=
      [.drop .transaction "transaction",
        .expect "mock" .ping none [] none,
        .create "other" "otherConnection" Config.standard,
        .request "connection" .ping]
    let now := (empty.run (before ++ later)).world.mockAt 0
    (empty.run (before ++ later)).Refuses 0 ∧
      (empty.run before).taken 0 later = [] ∧
      now.queue.holdsAt (·.fulfilled) 0 = true ∧
      now.queue.holdsAt (·.fulfilled) 1 = false ∧
      now.queue.holdsAt (·.fulfilled) 2 = false := by
  intro before later now
  have created : 0 < (empty.run before).world.mocks.length := by decide
  have closed : ((empty.run before).world.mockAt 0).closed = true := by decide
  obtain ⟨-, refuses, untaken, same⟩ := closed_for_good before later 0 created closed
  refine ⟨refuses, untaken, ?_, ?_, ?_⟩
  · exact (same 0).trans (by decide)
  · exact (same 1).trans (by decide)
  · exact (same 2).trans (by decide)

end Session

end ScriptedSql
