import ScriptedSql.Proofs.Session.Living
import ScriptedSql.Proofs.World.Consistency

/-!
Contract: the mocks that DSNs lead to, in every run of a program.

Owns:
- live mocks: some handle refers to them, and they were not shut down;
- the agreement of the registry with the live mocks, through all steps;
- what follows for connecting, asking and creating by DSN.

Does not own: the effect of single operations on the registry (`World.Consistency`).
-/

namespace ScriptedSql

namespace Session

/-- The registry agrees with the handles that are held. -/
def Consistent (session : Session) : Prop :=
  session.world.Consistent session.isAlive

theorem empty_consistent : empty.Consistent where
  once := List.nodup_nil
  sound := fun _ isThere => absurd isThere List.not_mem_nil
  complete := fun _ isAlive => absurd isAlive Bool.false_ne_true
  created := fun _ isAlive => absurd isAlive Bool.false_ne_true

/-- Every step keeps the registry in agreement with the handles. -/
theorem step_consistent {session : Session} (consistent : session.Consistent) (step : Step) :
    (session.step step).1.Consistent := by
  have held : session.AllHeld fun id => session.isAlive id = true :=
    allHeld_iff.mpr fun _ isAlive => isAlive
  by_cases creation : step.isCreation = true
  · cases step with
    | create asMock asConnection config =>
        have heldAfter : (session.step (.create asMock asConnection config)).1.AllHeld fun id =>
            session.isAlive id = true ∨
              (session.world.create session.isAlive config).1 = .ok id := by
          refine step_allHeld ?_ _ ?_
          · exact allHeld_iff.mpr fun _ isAlive => .inl isAlive
          · rintro _ _ _ id ⟨⟩ isNew
            exact .inr isNew
        unfold Consistent
        rw [create_world]
        exact World.Consistent.create consistent (allHeld_iff.mp heldAfter)
    | _ => contradiction
  · have noCreation := Bool.eq_false_iff.mpr creation
    -- What is held afterwards was held before, and the visits turn to single mocks.
    have heldAfter : (session.step step).1.AllHeld fun id => session.isAlive id = true := by
      refine step_allHeld held step ?_
      rintro asMock asConnection config id rfl
      contradiction
    have visited := World.Consistent.visitAll consistent (session.visits step)
    unfold Consistent
    rw [session.step_world noCreation]
    exact visited.mono (allHeld_iff.mp heldAfter)

/-- After every run the registry agrees with the handles. -/
theorem run_consistent (steps : List Step) : (empty.run steps).Consistent := by
  have lasts : ∀ session : Session, session.Consistent → (session.run steps).Consistent := by
    induction steps with
    | nil => exact fun _ consistent => consistent
    | cons step rest inductionHypothesis =>
        exact fun session consistent => inductionHypothesis _ (step_consistent consistent step)
  exact lasts empty empty_consistent

/-! ## Live mocks -/

/-- A mock of a DSN lives: some mock handle, connection, statement, transaction or
expectation refers to it, and it was not shut down. -/
structure Live (session : Session) (dsn : String) (id : MockId) : Prop where
  isAlive : session.isAlive id = true
  isOpen : (session.world.mockAt id).closed = false
  named : (session.world.mockAt id).dsn = dsn

variable {session : Session} {dsn : String}

/-- A DSN leads to the mock that lives under it. -/
theorem Consistent.lookup?_iff_live (consistent : session.Consistent) {id : MockId} :
    session.world.lookup? session.isAlive dsn = some id ↔ session.Live dsn id := by
  rw [World.Consistent.lookup?_eq_some_iff consistent]
  constructor
  · rintro ⟨isAlive, isOpen, named⟩
    exact ⟨isAlive, isOpen, named⟩
  · rintro ⟨isAlive, isOpen, named⟩
    exact ⟨isAlive, isOpen, named⟩

theorem Consistent.lookup?_eq_none_iff (consistent : session.Consistent) :
    session.world.lookup? session.isAlive dsn = none ↔ ¬ ∃ id, session.Live dsn id := by
  simp only [← consistent.lookup?_iff_live, ← Option.isSome_iff_exists,
    Option.not_isSome_iff_eq_none]

private theorem Consistent.isRegistered_iff (consistent : session.Consistent) :
    session.isRegistered dsn = true ↔ ∃ id, session.Live dsn id := by
  rw [isRegistered, World.isRegistered, Option.isSome_iff_exists]
  simp only [consistent.lookup?_iff_live]

/-- A connection is made to the mock that lives under the DSN, and nothing else changes. -/
theorem Consistent.connect_of_live (consistent : session.Consistent) {id : MockId}
    (live : session.Live dsn id) (asConnection : String) :
    session.step (.connect dsn asConnection) =
      ({ session with connections := session.connections.put asConnection id },
        .attempt (.ok (.dsn dsn))) := by
  show session.connect dsn asConnection = _
  rw [connect, World.connect, consistent.lookup?_iff_live.mpr live]
  simp only [live.named]

/-- A DSN under which no mock lives is refused, and nothing changes. -/
theorem Consistent.connect_of_none (consistent : session.Consistent)
    (none : ¬ ∃ id, session.Live dsn id) (asConnection : String) :
    ∃ error, session.step (.connect dsn asConnection) = (session, .attempt (.error error)) := by
  show ∃ error, session.connect dsn asConnection = _
  rw [connect, World.connect, consistent.lookup?_eq_none_iff.mpr none]
  exact ⟨_, rfl⟩

/-! ## Creations -/

private theorem create_answer_iff {asMock asConnection : String} {config : Config} :
    (∃ error, (session.step (.create asMock asConnection config)).2 = .attempt (.error error)) ↔
      ∃ error, (session.world.create session.isAlive config).1 = .error error := by
  show (∃ error, (session.create asMock asConnection config).2 = _) ↔ _
  unfold Session.create
  rcases session.world.create session.isAlive config with ⟨error | id, world⟩
  · exact iff_of_true ⟨error, rfl⟩ ⟨error, rfl⟩
  · exact iff_of_false nofun nofun

/-- A refused creation leaves the session as it was, apart from the entries of dead mocks. -/
theorem create_of_refused {asMock asConnection : String} {config : Config} {error : Error}
    (refused : (session.step (.create asMock asConnection config)).2 = .attempt (.error error)) :
    (session.step (.create asMock asConnection config)).1 =
      { session with world := session.world.prune session.isAlive } := by
  obtain ⟨fault, worldRefused⟩ := create_answer_iff.mp ⟨error, refused⟩
  have pruned := World.create_of_refused worldRefused
  show (session.create asMock asConnection config).1 = _
  unfold Session.create
  rcases outcome : session.world.create session.isAlive config with ⟨error | id, world⟩
  · rw [outcome] at pruned
    rw [← pruned]
  · rw [outcome] at worldRefused
    contradiction

private theorem Consistent.answers_of_pruned (consistent : session.Consistent) :
    let pruned := { session with world := session.world.prune session.isAlive }
    (∀ dsn, (pruned.step (.isRegistered dsn)).2 = (session.step (.isRegistered dsn)).2) ∧
    (∀ dsn asConnection,
      (pruned.step (.connect dsn asConnection)).2 = (session.step (.connect dsn asConnection)).2) ∧
    (∀ asMock asConnection config,
      (pruned.step (.create asMock asConnection config)).2 =
        (session.step (.create asMock asConnection config)).2) := by
  intro pruned
  have sameLookup (dsn : String) : pruned.world.lookup? pruned.isAlive dsn =
      session.world.lookup? session.isAlive dsn :=
    World.Consistent.lookup?_prune consistent dsn
  have sameCreation (config : Config) : pruned.world.create pruned.isAlive config =
      session.world.create session.isAlive config :=
    World.create_prune session.isAlive config session.world
  refine ⟨fun dsn => ?_, fun dsn asConnection => ?_, fun asMock asConnection config => ?_⟩
  · show Answer.flag (pruned.isRegistered dsn) = .flag (session.isRegistered dsn)
    rw [isRegistered, World.isRegistered, sameLookup, isRegistered, World.isRegistered]
  · show (pruned.connect dsn asConnection).2 = (session.connect dsn asConnection).2
    unfold connect World.connect
    rw [sameLookup]
    cases session.world.lookup? session.isAlive dsn <;> rfl
  · show (pruned.create asMock asConnection config).2 =
      (session.create asMock asConnection config).2
    unfold Session.create
    rw [sameCreation]

/-- At every point of every run of a program, for every DSN: at most one mock of that DSN
lives. The DSN is registered exactly if one does, it connects to that one and to no other, and
a creation that asks for it is refused exactly then. A refused creation changes no answer to
what is asked or created by DSN after that. -/
theorem registry_tells_of_the_living (steps : List Step) (dsn : String) :
    let session := empty.run steps
    (∀ first second, session.Live dsn first → session.Live dsn second → first = second) ∧
    (session.isRegistered dsn = true ↔ ∃ id, session.Live dsn id) ∧
    (∀ id, session.Live dsn id → ∀ asConnection,
      session.step (.connect dsn asConnection) =
        ({ session with connections := session.connections.put asConnection id },
          .attempt (.ok (.dsn dsn)))) ∧
    ((¬ ∃ id, session.Live dsn id) → ∀ asConnection, ∃ error,
      session.step (.connect dsn asConnection) = (session, .attempt (.error error))) ∧
    (∀ asMock asConnection config, config.dsn = some dsn →
      ((∃ error,
        (session.step (.create asMock asConnection config)).2 = .attempt (.error error)) ↔
          ∃ id, session.Live dsn id)) ∧
    ∀ asMock asConnection config error,
      (session.step (.create asMock asConnection config)).2 = .attempt (.error error) →
        let refused := (session.step (.create asMock asConnection config)).1
        (∀ dsn, (refused.step (.isRegistered dsn)).2 = (session.step (.isRegistered dsn)).2) ∧
        (∀ dsn asConnection, (refused.step (.connect dsn asConnection)).2 =
          (session.step (.connect dsn asConnection)).2) ∧
        (∀ asMock asConnection config, (refused.step (.create asMock asConnection config)).2 =
          (session.step (.create asMock asConnection config)).2) := by
  intro session
  have consistent : session.Consistent := run_consistent steps
  refine ⟨?_, consistent.isRegistered_iff, ?_, ?_, ?_, ?_⟩
  · intro first second firstLives secondLives
    have found := consistent.lookup?_iff_live.mpr firstLives
    rw [consistent.lookup?_iff_live.mpr secondLives] at found
    exact (Option.some.inj found).symm
  · intro id live asConnection
    exact consistent.connect_of_live live asConnection
  · intro none asConnection
    exact consistent.connect_of_none none asConnection
  · intro asMock asConnection config asked
    rw [create_answer_iff, World.Consistent.create_refused_iff consistent asked]
    simp only [consistent.lookup?_iff_live]
  · intro asMock asConnection config error wasRefused refused
    have same : refused = { session with world := session.world.prune session.isAlive } :=
      create_of_refused wasRefused
    rw [same]
    exact consistent.answers_of_pruned

end Session

end ScriptedSql
