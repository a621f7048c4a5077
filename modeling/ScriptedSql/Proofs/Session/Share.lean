import ScriptedSql.Proofs.Session.Registration

/-!
Contract: what belongs to one mock in a session.

Owns:
- tables that agree on the values that meet a law;
- sessions that are alike for a mock: the mock itself, the handles of it, and the cursors that
  were read from it;
- changes at the mock, made to both sessions, and changes elsewhere, made to one of them.

Does not own: the steps that make these changes, on the mock (`Session.Lockstep`) and elsewhere
(`Session.Elsewhere`).
-/

namespace ScriptedSql

namespace Table

variable {α : Type} {good : α → Prop} {table other : Table α}

/-- Two tables lead to the same good values by the same names. -/
def Shares (good : α → Prop) (table other : Table α) : Prop :=
  ∀ name value, good value → (table.get? name = some value ↔ other.get? name = some value)

theorem Shares.refl (good : α → Prop) (table : Table α) : table.Shares good table :=
  fun _ _ _ => Iff.rfl

theorem Shares.put (shared : table.Shares good other) (name : String) (value : α) :
    (table.put name value).Shares good (other.put name value) := by
  intro asked found isGood
  by_cases here : asked = name
  · simp [here]
  · simpa [here] using shared asked found isGood

theorem Shares.remove (shared : table.Shares good other) (name : String) :
    (table.remove name).Shares good (other.remove name) := by
  intro asked found isGood
  by_cases here : asked = name
  · simp [here]
  · simpa [here] using shared asked found isGood

/-- A value that does not count takes the place of one that may count. -/
theorem Shares.put_remove (shared : table.Shares good other) (name : String) {value : α}
    (bad : ¬ good value) : (table.put name value).Shares good (other.remove name) := by
  intro asked found isGood
  by_cases here : asked = name
  · have differs : value ≠ found := fun same => bad (same ▸ isGood)
    simp [here, differs]
  · simpa [here] using shared asked found isGood

/-- One table may get an entry that is not good, as long as no good one gives way to it. -/
theorem Shares.put_left (shared : table.Shares good other) {name : String} {value : α}
    (bad : ¬ good value) (free : ∀ former, table.get? name = some former → ¬ good former) :
    (table.put name value).Shares good other := by
  intro asked found isGood
  rw [← shared asked found isGood]
  by_cases here : asked = name
  · have differs : value ≠ found := fun same => bad (same ▸ isGood)
    have absent : table.get? name ≠ some found := fun isThere => free found isThere isGood
    simp [here, differs, absent]
  · simp [here]

/-- One table may lose an entry that is not good. -/
theorem Shares.remove_left (shared : table.Shares good other) {name : String}
    (free : ∀ former, table.get? name = some former → ¬ good former) :
    (table.remove name).Shares good other := by
  intro asked found isGood
  rw [← shared asked found isGood]
  by_cases here : asked = name
  · have absent : table.get? name ≠ some found := fun isThere => free found isThere isGood
    simp [here, absent]
  · simp [here]

end Table

namespace Session

/-- Two sessions with a mock are alike for it and for the cursors `own` that were read from
it. A text that was prepared in the second session was prepared in the first, too. -/
structure Alike (id : MockId) (own : List String) (session alone : Session) : Prop where
  created : id < session.world.mocks.length
  createdAlone : id < alone.world.mocks.length
  mock : session.world.mockAt id = alone.world.mockAt id
  mocks : session.mocks.Shares (· = id) alone.mocks
  connections : session.connections.Shares (· = id) alone.connections
  statements : session.statements.Shares (·.mock = id) alone.statements
  transactions : session.transactions.Shares (· = id) alone.transactions
  expectations : session.expectations.Shares (·.mock = id) alone.expectations
  cursors : ∀ name ∈ own, session.cursors.get? name = alone.cursors.get? name
  prepared : ∀ name, session.prepared.get? name = none → alone.prepared.get? name = none

/-- The same answer, and sessions that are alike after it. -/
structure Parallel (id : MockId) (own : List String) (outcome aloneOutcome : Session × Answer) :
    Prop where
  answer : outcome.2 = aloneOutcome.2
  after : Alike id own outcome.1 aloneOutcome.1

/-- The registry and the names of the handles are in order. -/
structure InOrder (session : Session) : Prop where
  consistent : session.Consistent
  wellNamed : session.WellNamed

variable {id : MockId} {own : List String} {session alone : Session}

theorem Alike.refl (created : id < session.world.mocks.length) (own : List String) :
    Alike id own session session where
  created := created
  createdAlone := created
  mock := rfl
  mocks := .refl _ _
  connections := .refl _ _
  statements := .refl _ _
  transactions := .refl _ _
  expectations := .refl _ _
  cursors := fun _ _ => rfl
  prepared := fun _ absent => absent

theorem InOrder.run (inOrder : session.InOrder) (steps : List Step) :
    (session.run steps).InOrder := by
  induction steps generalizing session with
  | nil => exact inOrder
  | cons step rest inductionHypothesis =>
      have next : (session.step step).1.InOrder :=
        ⟨step_consistent inOrder.consistent step, step_wellNamed inOrder.wellNamed step⟩
      exact inductionHypothesis next

/-! ## Being alive and being found -/

/-- The mock is alive in both of two sessions that are alike, or in neither. -/
theorem Alike.isAlive_iff (alike : Alike id own session alone) (here : session.WellNamed)
    (there : alone.WellNamed) : session.isAlive id = true ↔ alone.isAlive id = true := by
  rw [here.isAlive_iff, there.isAlive_iff]
  have mocks (name : String) := alike.mocks name id rfl
  have connections (name : String) := alike.connections name id rfl
  have transactions (name : String) := alike.transactions name id rfl
  have statements : (∃ name statement,
      session.statements.get? name = some statement ∧ statement.mock = id) ↔
        ∃ name statement,
          alone.statements.get? name = some statement ∧ statement.mock = id :=
    exists_congr fun name => exists_congr fun statement =>
      and_congr_left (alike.statements name statement)
  have expectations : (∃ name declared,
      session.expectations.get? name = some declared ∧ declared.mock = id) ↔
        ∃ name declared,
          alone.expectations.get? name = some declared ∧ declared.mock = id :=
    exists_congr fun name => exists_congr fun declared =>
      and_congr_left (alike.expectations name declared)
  simp only [mocks, connections, transactions, statements, expectations]

/-- The same DSNs lead to the mock. -/
theorem Alike.lookup?_iff (alike : Alike id own session alone) (here : session.InOrder)
    (there : alone.InOrder) (dsn : String) :
    session.world.lookup? session.isAlive dsn = some id ↔
      alone.world.lookup? alone.isAlive dsn = some id := by
  have sameLife := alike.isAlive_iff here.wellNamed there.wellNamed
  rw [World.Consistent.lookup?_eq_some_iff here.consistent,
    World.Consistent.lookup?_eq_some_iff there.consistent, sameLife, alike.mock]

/-! ## Changes at the mock -/

theorem Alike.restore (alike : Alike id own session alone) (mock : Mock) :
    Alike id own { session with world := session.world.restore id mock }
      { alone with world := alone.world.restore id mock } := by
  refine { alike with created := ?_, createdAlone := ?_, mock := ?_ }
  · simpa using alike.created
  · simpa using alike.createdAlone
  · simp [alike.created, alike.createdAlone]

/-- An exchange with the mock goes alike in both sessions. -/
theorem Alike.exchange {α : Type} (alike : Alike id own session alone) (exchange : Exchange α) :
    ∃ answer after aloneAfter, session.exchange id exchange = (answer, after) ∧
      alone.exchange id exchange = (answer, aloneAfter) ∧ Alike id own after aloneAfter := by
  have restored := alike.restore (exchange (alone.world.mockAt id)).2
  refine ⟨_, _, _, ?_, rfl, restored⟩
  rw [Session.exchange, World.exchange, alike.mock]
  rfl

theorem Alike.change {α : Type} (alike : Alike id own session alone)
    (change : Mock → Mock × α) :
    ∃ answer after aloneAfter, session.change id change = (answer, after) ∧
      alone.change id change = (answer, aloneAfter) ∧ Alike id own after aloneAfter := by
  have restored := alike.restore (change (alone.world.mockAt id)).1
  refine ⟨_, _, _, ?_, rfl, restored⟩
  rw [Session.change, World.change, alike.mock]

theorem Alike.ask (alike : Alike id own session alone) (request : Request) :
    Parallel id own (session.ask id request) (alone.ask id request) := by
  obtain ⟨answer, after, aloneAfter, outcome, aloneOutcome, stillAlike⟩ :=
    alike.exchange request.exchange
  rw [Session.ask, Session.ask, outcome, aloneOutcome]
  exact ⟨rfl, stillAlike⟩

/-- A handle of the mock is used in both sessions. -/
theorem require_parallel {α : Type} {good : α → Prop} {table aloneTable : Table α}
    (shared : table.Shares good aloneTable) {name : String} {handle : α}
    (found : table.get? name = some handle) (isGood : good handle)
    {use aloneUse : α → Session × Answer}
    (parallel : Parallel id own (use handle) (aloneUse handle)) :
    Parallel id own (session.require table name use) (alone.require aloneTable name aloneUse) := by
  have foundAlone := (shared name handle isGood).mp found
  simpa [found, foundAlone] using parallel

theorem Alike.letGo (alike : Alike id own session alone) :
    Alike id own (session.letGo (.begun id)) (alone.letGo (.begun id)) := by
  obtain ⟨answer, after, aloneAfter, outcome, aloneOutcome, stillAlike⟩ :=
    alike.exchange Exchange.rollback
  show Alike id own (session.exchange id Exchange.rollback).2
    (alone.exchange id Exchange.rollback).2
  rw [outcome, aloneOutcome]
  exact stillAlike

/-! ## Changes elsewhere -/

section Elsewhere

variable (alike : Alike id own session alone) {other : MockId} (different : other ≠ id)

include alike different

/-- Another mock is put back in its place. -/
theorem Alike.restore_left (mock : Mock) :
    Alike id own { session with world := session.world.restore other mock } alone := by
  refine { alike with created := ?_, mock := ?_ }
  · simpa using alike.created
  · simpa [different] using alike.mock

/-- An exchange with another mock changes nothing that the second session would notice. -/
theorem Alike.exchange_left {α : Type} (exchange : Exchange α) :
    ∃ answer world,
      session.exchange other exchange = (answer, { session with world := world }) ∧
        Alike id own { session with world := world } alone :=
  ⟨_, _, rfl, alike.restore_left different _⟩

theorem Alike.restore_right (mock : Mock) :
    Alike id own session { alone with world := alone.world.restore other mock } := by
  refine { alike with createdAlone := ?_, mock := ?_ }
  · simpa using alike.createdAlone
  · simpa [different] using alike.mock

end Elsewhere

/-- A handle of another mock is used in one session, if it is there. -/
theorem require_elsewhere {α : Type} (alike : Alike id own session alone) {table : Table α}
    {name : String} {use : α → Session × Answer}
    (used : ∀ handle, table.get? name = some handle → Alike id own (use handle).1 alone) :
    Alike id own (session.require table name use).1 alone := by
  cases found : table.get? name with
  | none => simpa [found] using alike
  | some handle => simpa [found] using used handle found

end Session

end ScriptedSql
