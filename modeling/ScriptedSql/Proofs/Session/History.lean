import ScriptedSql.Proofs.Session.Visit

/-!
Contract: the history of a mock in a run of a program.

Owns:
- runs of steps;
- the events that a run brings to one mock, and the expectations that it fulfils there;
- the agreement: from its creation on, a mock is what its events make of it;
- the principle by which a law about single events becomes a law about whole runs.
-/

namespace ScriptedSql

namespace World

@[simp]
theorem mockAt_of_uncreated {world : World} {id : MockId} (uncreated : world.mocks.length ≤ id) :
    world.mockAt id = Mock.absent := by
  rw [mockAt, List.getElem?_eq_none_iff.mpr uncreated, Option.getD_none]

@[simp]
theorem restore_mockAt {world : World} {id : MockId} (created : id < world.mocks.length)
    (mock : Mock) : (world.restore id mock).mockAt id = mock := by
  rw [mockAt, restore, List.getElem?_set_self created, Option.getD_some]

@[simp]
theorem restore_mockAt_other {world : World} {id other : MockId} (different : other ≠ id)
    (mock : Mock) : (world.restore other mock).mockAt id = world.mockAt id := by
  rw [mockAt, restore, List.getElem?_set_ne different, mockAt]

@[simp]
theorem restore_length (world : World) (id : MockId) (mock : Mock) :
    (world.restore id mock).mocks.length = world.mocks.length :=
  List.length_set

@[simp]
private theorem visit_length (world : World) (visit : Visit) :
    (world.visit visit).mocks.length = world.mocks.length :=
  world.restore_length _ _

@[simp]
private theorem visitAll_length (world : World) (visits : List Visit) :
    (world.visitAll visits).mocks.length = world.mocks.length := by
  induction visits generalizing world with
  | nil => rfl
  | cons visit rest inductionHypothesis =>
      exact (inductionHypothesis (world.visit visit)).trans (world.visit_length visit)

/-- A mock only takes part in the visits to itself. -/
theorem visitAll_mockAt {world : World} {id : MockId} (created : id < world.mocks.length)
    (visits : List Visit) :
    (world.visitAll visits).mockAt id =
      (world.mockAt id).run
        (visits.flatMap fun visit => if visit.mock = id then visit.events else []) := by
  induction visits generalizing world with
  | nil => rfl
  | cons visit rest inductionHypothesis =>
      have stillCreated : id < (world.visit visit).mocks.length := by simpa using created
      have visited : (world.visit visit).mockAt id =
          (world.mockAt id).run (if visit.mock = id then visit.events else []) := by
        by_cases same : visit.mock = id
        · subst same
          simp [World.visit, created]
        · simp [World.visit, same, Mock.run]
      rw [List.flatMap_cons, Mock.run_append, ← visited]
      exact inductionHypothesis stillCreated

/-- A creation appends a fresh mock, or is refused and appends none. -/
theorem create_mocks (alive : MockId → Bool) (config : Config) (world : World) :
    (world.create alive config).2.mocks = world.mocks ∨
      ∃ dsn, (world.create alive config).2.mocks = world.mocks ++ [Mock.start dsn config] := by
  unfold create
  cases config.dsn with
  | none => exact .inr ⟨_, rfl⟩
  | some dsn =>
      by_cases taken : dsn ∈ (world.prune alive).registry.names
      · simp only [if_pos taken]
        exact .inl rfl
      · simp only [if_neg taken]
        exact .inr ⟨dsn, rfl⟩

end World

namespace Session

def run (session : Session) : List Step → Session
  | [] => session
  | step :: rest => (session.step step).1.run rest

@[simp]
theorem run_append (session : Session) (before later : List Step) :
    session.run (before ++ later) = (session.run before).run later := by
  induction before generalizing session with
  | nil => rfl
  | cons step rest inductionHypothesis => exact inductionHypothesis (session.step step).1

def eventsAt (session : Session) (step : Step) (id : MockId) : List Event :=
  (session.visits step).flatMap fun visit => if visit.mock = id then visit.events else []

/-- The slots of the expectations of a mock that steps fulfil, one for each call that the
mock accepts, in the order of the calls. -/
def taken (session : Session) (id : MockId) : List Step → List Nat
  | [] => []
  | step :: rest =>
    (session.world.mockAt id).taken (session.eventsAt step id) ++
      (session.step step).1.taken id rest

@[simp]
theorem taken_append (session : Session) (id : MockId) (before later : List Step) :
    session.taken id (before ++ later) =
      session.taken id before ++ (session.run before).taken id later := by
  induction before generalizing session with
  | nil => rfl
  | cons step rest inductionHypothesis =>
      rw [List.cons_append, taken, inductionHypothesis, taken, run, List.append_assoc]

/-- A step does to a mock what the events that it brings there do. -/
theorem step_mockAt {session : Session} {id : MockId} (created : id < session.world.mocks.length)
    (step : Step) :
    (session.step step).1.world.mockAt id =
      (session.world.mockAt id).run (session.eventsAt step id) := by
  rcases session.step_world_cases step with ⟨config, noVisits, creation⟩ | visited
  · rw [creation, eventsAt, noVisits, World.mockAt]
    rcases session.world.create_mocks session.isAlive config with same | ⟨dsn, appended⟩
    · rw [same]
      rfl
    · rw [appended, List.getElem?_append_left created]
      rfl
  · rw [visited]
    exact World.visitAll_mockAt created (session.visits step)

/-- A mock that was created keeps its number. -/
theorem step_created {session : Session} {id : MockId}
    (created : id < session.world.mocks.length) (step : Step) :
    id < (session.step step).1.world.mocks.length := by
  rcases session.step_world_cases step with ⟨config, -, creation⟩ | visited
  · rw [creation]
    rcases session.world.create_mocks session.isAlive config with same | ⟨dsn, appended⟩
    · rw [same]
      exact created
    · rw [appended, List.length_append]
      exact Nat.lt_add_right _ created
  · rw [visited, World.visitAll_length]
    exact created

/-- A mock that is not there yet is still not there after a step, or is just created. -/
theorem step_mockAt_of_uncreated {session : Session} {id : MockId}
    (uncreated : session.world.mocks.length ≤ id) (step : Step) :
    (session.step step).1.world.mockAt id = Mock.absent ∨
      ∃ dsn config, (session.step step).1.world.mockAt id = Mock.start dsn config := by
  rcases session.step_world_cases step with ⟨config, -, creation⟩ | visited
  · rw [creation, World.mockAt]
    rcases session.world.create_mocks session.isAlive config with same | ⟨dsn, appended⟩
    · rw [same, List.getElem?_eq_none_iff.mpr uncreated]
      exact .inl rfl
    · rw [appended, List.getElem?_append_right uncreated]
      cases id - session.world.mocks.length with
      | zero => exact .inr ⟨dsn, config, rfl⟩
      | succ behind => exact .inl rfl
  · have still : (session.step step).1.world.mocks.length ≤ id := by
      rw [visited, World.visitAll_length]
      exact uncreated
    exact .inl (World.mockAt_of_uncreated still)

/-- Before a mock is there, and when it is just created, it has no expectations. -/
theorem step_queue_of_uncreated {session : Session} {id : MockId}
    (uncreated : session.world.mocks.length ≤ id) (step : Step) :
    ((session.step step).1.world.mockAt id).queue = [] := by
  rcases step_mockAt_of_uncreated uncreated step with absent | ⟨dsn, config, started⟩
  · rw [absent]
    rfl
  · rw [started]
    rfl

/-- No mock, no accepted call. -/
theorem taken_of_uncreated {session : Session} {id : MockId}
    (uncreated : session.world.mocks.length ≤ id) (step : Step) :
    (session.world.mockAt id).taken (session.eventsAt step id) = [] := by
  rw [World.mockAt_of_uncreated uncreated]
  exact Mock.taken_of_closed rfl _

/-- A law of a mock together with the slots taken so far, which the events of a run keep,
is kept by the run. A mock that is not there yet counts as one whose run has not begun,
so the law has to hold of a queue without expectations. -/
theorem run_keeps (Law : Mock → List Nat → Prop) (allowed : Event → Prop)
    (kept : ∀ (mock : Mock) (taken : List Nat) (event : Event), allowed event →
      Law mock taken → Law (mock.after event) (taken ++ (mock.taken? event).toList))
    {steps : List Step} {id : MockId}
    (allAllowed : ∀ step ∈ steps, ∀ (session : Session), ∀ event ∈ session.eventsAt step id,
      allowed event)
    {session : Session} {taken : List Nat} (holds : Law (session.world.mockAt id) taken)
    (unborn : session.world.mocks.length ≤ id →
      taken = [] ∧ ∀ mock : Mock, mock.queue = [] → Law mock []) :
    Law ((session.run steps).world.mockAt id) (taken ++ session.taken id steps) := by
  induction steps generalizing session taken with
  | nil =>
      rw [Session.taken, List.append_nil]
      exact holds
  | cons step rest inductionHypothesis =>
      have restAllowed := fun other isLater => allAllowed other (List.mem_cons_of_mem step isLater)
      rw [Session.taken, ← List.append_assoc]
      -- Up to the creation of the mock the law is taken up anew after each step.
      by_cases created : id < session.world.mocks.length
      · refine inductionHypothesis restAllowed ?_ ?_
        · rw [step_mockAt created]
          exact Mock.run_keeps Law allowed kept (allAllowed step List.mem_cons_self session) holds
        · intro uncreated
          exact absurd (step_created created step) (Nat.not_lt.mpr uncreated)
      · have uncreated := Nat.not_lt.mp created
        obtain ⟨untaken, initially⟩ := unborn uncreated
        rw [untaken, taken_of_uncreated uncreated]
        exact inductionHypothesis restAllowed
          (initially _ (step_queue_of_uncreated uncreated step)) (fun _ => ⟨rfl, initially⟩)

/-- A law that a queue without expectations meets and every event keeps holds at every
point of every run. -/
theorem run_invariant (Law : Mock → List Nat → Prop)
    (initially : ∀ mock : Mock, mock.queue = [] → Law mock [])
    (kept : ∀ (mock : Mock) (taken : List Nat) (event : Event),
      Law mock taken → Law (mock.after event) (taken ++ (mock.taken? event).toList))
    (steps : List Step) (id : MockId) :
    Law ((empty.run steps).world.mockAt id) (empty.taken id steps) :=
  run_keeps Law (fun _ => True) (fun mock taken event _ => kept mock taken event)
    (fun _ _ _ _ _ => trivial) (initially _ rfl) (fun _ => ⟨rfl, initially⟩)

end Session

end ScriptedSql
