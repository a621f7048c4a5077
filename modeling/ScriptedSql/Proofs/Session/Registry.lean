import ScriptedSql.Proofs.Session.History

/-!
Contract: the entries of the registry in a run of a program.

Owns:
- mocks that no DSN leads to, and that such a mock is not listed again.
-/

namespace ScriptedSql

namespace World

/-- No DSN leads to a mock. -/
def Unlisted (world : World) (id : MockId) : Prop :=
  ∀ entry ∈ world.registry, entry.2 ≠ id

theorem lookup_of_unlisted {world : World} {id : MockId} (unlisted : world.Unlisted id)
    (alive : MockId → Bool) (dsn : String) : world.lookup? alive dsn ≠ some id := by
  intro found
  obtain ⟨listed, -⟩ := Option.filter_eq_some_iff.mp found
  obtain ⟨before, behind, entries, -⟩ := List.lookup_eq_some_iff.mp listed
  refine unlisted (dsn, id) ?_ rfl
  rw [entries]
  exact List.mem_append_right before List.mem_cons_self

private theorem unlisted_restore {world : World} {id : MockId} (unlisted : world.Unlisted id)
    (other : MockId) (mock : Mock) : (world.restore other mock).Unlisted id := by
  intro entry isListed
  refine unlisted entry ?_
  unfold restore at isListed
  by_cases closed : mock.closed = true
  · rw [if_pos closed] at isListed
    exact (List.mem_filter.mp isListed).1
  · rw [if_neg closed] at isListed
    exact isListed

/-- A mock that is put back closed is found no more. -/
theorem unlisted_restore_closed (world : World) (id : MockId) {mock : Mock}
    (closed : mock.closed = true) : (world.restore id mock).Unlisted id := by
  intro entry isListed
  unfold restore at isListed
  rw [if_pos closed] at isListed
  exact bne_iff_ne.mp (List.mem_filter.mp isListed).2

private theorem unlisted_visitAll {world : World} {id : MockId} (unlisted : world.Unlisted id)
    (visits : List Visit) : (world.visitAll visits).Unlisted id := by
  induction visits generalizing world with
  | nil => exact unlisted
  | cons visit rest inductionHypothesis =>
      exact inductionHypothesis (unlisted_restore unlisted visit.mock _)

private theorem unlisted_enroll {world : World} {id : MockId} (created : id < world.mocks.length)
    (unlisted : world.Unlisted id) (dsn : String) (config : Config) :
    (world.enroll dsn config).2.Unlisted id := by
  intro entry isListed
  rcases List.mem_append.mp isListed with wasListed | isNew
  · exact unlisted entry (List.mem_filter.mp wasListed).1
  · rw [List.mem_singleton.mp isNew]
    exact Nat.ne_of_gt created

/-- A creation lists none of the mocks that are there. -/
theorem unlisted_create {world : World} {id : MockId} (created : id < world.mocks.length)
    (unlisted : world.Unlisted id) (alive : MockId → Bool) (config : Config) :
    (world.create alive config).2.Unlisted id := by
  have pruned : (world.prune alive).Unlisted id :=
    fun entry isListed => unlisted entry (List.mem_filter.mp isListed).1
  have stillThere : id < (world.prune alive).mocks.length := created
  have enrolled (dsn : String) : ((world.prune alive).enroll dsn config).2.Unlisted id :=
    unlisted_enroll stillThere pruned dsn config
  unfold create
  cases config.dsn with
  | none => exact enrolled _
  | some dsn =>
      by_cases taken : dsn ∈ (world.prune alive).registry.names
      · simp only [if_pos taken]
        exact pruned
      · simp only [if_neg taken]
        exact enrolled dsn

end World

namespace Session

/-- A mock that has left the registry never gets back into it. -/
theorem step_unlisted {session : Session} {id : MockId}
    (created : id < session.world.mocks.length) (unlisted : session.world.Unlisted id)
    (step : Step) : (session.step step).1.world.Unlisted id := by
  rcases session.step_world_cases step with ⟨config, -, creation⟩ | visited
  · rw [creation]
    exact World.unlisted_create created unlisted session.isAlive config
  · rw [visited]
    exact World.unlisted_visitAll unlisted _

end Session

end ScriptedSql
