import ScriptedSql.Proofs.Session.Registration

/-!
Contract: the mocks that are created without a DSN, in every run of a program.

Owns:
- the DSNs that a run generates, in the order of the creations;
- the counter, which never falls, and which a creation that generates a DSN moves past it;
- the agreement: the DSN of the least number that no live mock goes by is generated.

Does not own: the search for that number (`World.GeneratedDsn`), and creations that ask for a
DSN (`Session.Registration`).
-/

namespace ScriptedSql

/-! ## Single creations -/

namespace World

private theorem create_of_unnamed {config : Config} (unnamed : config.dsn = none)
    (alive : MockId → Bool) (world : World) :
    let number := firstFree (world.prune alive).registry.names world.nextDsn
    world.create alive config =
      (.ok world.mocks.length,
        { ((world.prune alive).enroll (generatedDsn number) config).2 with
          nextDsn := number + 1 }) := by
  unfold create
  rw [unnamed]
  rfl

private theorem visitAll_nextDsn (world : World) (visits : List Visit) :
    (world.visitAll visits).nextDsn = world.nextDsn := by
  induction visits generalizing world with
  | nil => rfl
  | cons visit rest inductionHypothesis => exact inductionHypothesis (world.visit visit)

private theorem create_nextDsn_le (alive : MockId → Bool) (config : Config) (world : World) :
    world.nextDsn ≤ (world.create alive config).2.nextDsn := by
  cases asked : config.dsn with
  | none =>
      rw [create_of_unnamed asked]
      exact Nat.le_succ_of_le (le_firstFree _ world.nextDsn)
  | some dsn =>
      unfold create
      rw [asked]
      by_cases taken : dsn ∈ (world.prune alive).registry.names
      · simp only [if_pos taken]
        exact Nat.le_refl world.nextDsn
      · simp only [if_neg taken]
        exact Nat.le_refl world.nextDsn

end World

namespace Session

/-- The DSNs under which a creation looks for mocks that are alive. -/
def takenDsns (session : Session) : List String :=
  (session.world.prune session.isAlive).registry.names

/-- The number of the DSN that a creation without a DSN takes. -/
def nextFree (session : Session) : Nat :=
  World.firstFree session.takenDsns session.world.nextDsn

variable {session : Session}

private theorem Consistent.mem_takenDsns_iff (consistent : session.Consistent) {dsn : String} :
    dsn ∈ session.takenDsns ↔ ∃ id, session.Live dsn id := by
  rw [takenDsns, World.Consistent.mem_prune_names_iff consistent]
  simp only [consistent.lookup?_iff_live]

private theorem create_of_unnamed (session : Session) {config : Config}
    (unnamed : config.dsn = none)
    (asMock asConnection : String) :
    let world := ((session.world.prune session.isAlive).enroll
      (World.generatedDsn session.nextFree) config).2
    session.step (.create asMock asConnection config) =
      ({ session with
          world := { world with nextDsn := session.nextFree + 1 }
          mocks := session.mocks.put asMock session.world.mocks.length
          connections := session.connections.put asConnection session.world.mocks.length },
        .attempt (.ok (.dsn (World.generatedDsn session.nextFree)))) := by
  intro world
  have isNew : world.mockAt session.world.mocks.length =
      Mock.start (World.generatedDsn session.nextFree) config :=
    World.enroll_mockAt_new (session.world.prune session.isAlive) _ config
  have named : (world.mockAt session.world.mocks.length).dsn =
      World.generatedDsn session.nextFree := by
    rw [isNew]
    rfl
  show session.create asMock asConnection config = _
  unfold Session.create
  rw [World.create_of_unnamed unnamed, ← named]
  rfl

/-- The mock that a creation makes lives under the DSN that was generated. -/
theorem created_live (session : Session) {config : Config} (unnamed : config.dsn = none)
    (asMock asConnection : String) :
    (session.step (.create asMock asConnection config)).1.Live
      (World.generatedDsn session.nextFree) session.world.mocks.length := by
  have isNew := World.enroll_mockAt_new (session.world.prune session.isAlive)
    (World.generatedDsn session.nextFree) config
  have isHeld : session.world.mocks.length ∈
      (session.mocks.put asMock session.world.mocks.length).values :=
    List.mem_map_of_mem (List.mem_append_right _ List.mem_cons_self)
  rw [session.create_of_unnamed unnamed]
  constructor
  · exact (allHeld_iff.mpr fun _ isAlive => isAlive).mocks _ isHeld
  · exact congrArg Mock.closed isNew
  · exact congrArg Mock.dsn isNew

private theorem step_nextDsn_le (session : Session) (step : Step) :
    session.world.nextDsn ≤ (session.step step).1.world.nextDsn := by
  rcases session.step_world_cases step with ⟨config, -, creation⟩ | visited
  · rw [creation]
    exact World.create_nextDsn_le session.isAlive config session.world
  · rw [visited]
    exact Nat.le_of_eq (World.visitAll_nextDsn _ _).symm

/-! ## Whole runs -/

/-- The DSN that a step generates: the one that a creation without a DSN answers. -/
def generated? (session : Session) : Step → Option String
  | .create asMock asConnection config =>
    match config.dsn, (session.create asMock asConnection config).2 with
    | none, .attempt (.ok (.dsn dsn)) => some dsn
    | _, _ => none
  | _ => none

def generated (session : Session) : List Step → List String
  | [] => []
  | step :: rest => (session.generated? step).toList ++ (session.step step).1.generated rest

/-- A step that generates a DSN takes its number from the counter on, and moves the counter
past it. -/
theorem generated?_eq_some {step : Step} {dsn : String}
    (isGenerated : session.generated? step = some dsn) :
    ∃ number, dsn = World.generatedDsn number ∧ session.world.nextDsn ≤ number ∧
      number < (session.step step).1.world.nextDsn := by
  cases step with
  | create asMock asConnection config =>
      cases asked : config.dsn with
      | some explicit => simp [generated?, asked] at isGenerated
      | none =>
          have created := session.create_of_unnamed asked asMock asConnection
          have answered : (session.create asMock asConnection config).2 =
              .attempt (.ok (.dsn (World.generatedDsn session.nextFree))) :=
            congrArg Prod.snd created
          simp only [generated?, asked, answered, Option.some.injEq] at isGenerated
          refine ⟨session.nextFree, isGenerated.symm, World.le_firstFree _ _, ?_⟩
          rw [created]
          exact Nat.lt_succ_self session.nextFree
  | _ => contradiction

/-- The numbers of the DSNs that a run generates increase, from the counter on. -/
theorem generated_increases (session : Session) (steps : List Step) :
    ∃ numbers : List Nat, session.generated steps = numbers.map World.generatedDsn ∧
      numbers.Pairwise (· < ·) ∧ ∀ number ∈ numbers, session.world.nextDsn ≤ number := by
  induction steps generalizing session with
  | nil => exact ⟨[], rfl, .nil, nofun⟩
  | cons step rest inductionHypothesis =>
      obtain ⟨later, areLater, increasing, notBelow⟩ :=
        inductionHypothesis (session.step step).1
      rw [generated, areLater]
      cases found : session.generated? step with
      | none =>
          refine ⟨later, rfl, increasing, ?_⟩
          intro number isLater
          exact Nat.le_trans (session.step_nextDsn_le step) (notBelow number isLater)
      | some dsn =>
          obtain ⟨first, rfl, notBelowFirst, passed⟩ := generated?_eq_some found
          refine ⟨first :: later, rfl, .cons ?_ increasing, ?_⟩
          · intro number isLater
            exact Nat.lt_of_lt_of_le passed (notBelow number isLater)
          · intro number isThere
            rcases List.mem_cons.mp isThere with rfl | isLater
            · exact notBelowFirst
            · exact Nat.le_trans (session.step_nextDsn_le step) (notBelow number isLater)

/-- At every point of every run of a program, whatever DSNs were asked for before: a creation
without a DSN succeeds under the generated DSN of a number that is not below the counter. No
live mock goes by that DSN, and one goes by the DSN of each lower number from the counter on.
The search, which looks up every number from the counter on among all DSNs of live mocks, ends
after at most one try more than there are such DSNs. The new mock lives under its DSN, and the
counter is moved just past the number. The DSNs that are generated in a whole run are pairwise
distinct. -/
theorem generated_dsn_is_least_free (steps : List Step) :
    let session := empty.run steps
    (∀ dsn, dsn ∈ session.takenDsns ↔ ∃ id, session.Live dsn id) ∧
    (∀ asMock asConnection config, config.dsn = none →
      let created := session.step (.create asMock asConnection config)
      ∃ number,
        World.searchFor session.takenDsns (session.takenDsns.length + 1)
          session.world.nextDsn = some number ∧
        session.world.nextDsn ≤ number ∧
        (¬ ∃ id, session.Live (World.generatedDsn number) id) ∧
        (∀ lower, session.world.nextDsn ≤ lower → lower < number →
          ∃ id, session.Live (World.generatedDsn lower) id) ∧
        created.2 = .attempt (.ok (.dsn (World.generatedDsn number))) ∧
        created.1.Live (World.generatedDsn number) session.world.mocks.length ∧
        created.1.world.nextDsn = number + 1) ∧
    (empty.generated steps).Nodup := by
  intro session
  have consistent : session.Consistent := run_consistent steps
  refine ⟨fun dsn => consistent.mem_takenDsns_iff, ?_, ?_⟩
  · intro asMock asConnection config unnamed created
    have isCreated : created = session.step (.create asMock asConnection config) := rfl
    rw [session.create_of_unnamed unnamed] at isCreated
    refine ⟨session.nextFree, World.searchFor_firstFree _ _, World.le_firstFree _ _, ?_, ?_,
      congrArg Prod.snd isCreated, session.created_live unnamed asMock asConnection,
      congrArg (·.1.world.nextDsn) isCreated⟩
    · rw [← consistent.mem_takenDsns_iff]
      exact World.firstFree_not_mem session.takenDsns session.world.nextDsn
    · intro lower notBelow isLower
      exact consistent.mem_takenDsns_iff.mp (World.mem_of_lt_firstFree notBelow isLower)
  · obtain ⟨numbers, areGenerated, increasing, -⟩ := empty.generated_increases steps
    rw [areGenerated]
    refine increasing.map World.generatedDsn fun first second isLess same => ?_
    exact Nat.ne_of_lt isLess (World.generatedDsn_injective same)

/-- Two of the DSNs that could be generated were asked for, and the next one is taken. -/
theorem third_dsn_is_generated :
    let steps := [
      Step.create "first" "firstConnection"
        { Config.standard with dsn := some "sqlmock_db_1" },
      Step.create "second" "secondConnection"
        { Config.standard with dsn := some "sqlmock_db_0" }]
    let created := (empty.run steps).step (.create "third" "thirdConnection" Config.standard)
    (empty.run steps).takenDsns = ["sqlmock_db_1", "sqlmock_db_0"] ∧
      created.1.Live "sqlmock_db_2" 2 ∧ created.1.world.nextDsn = 3 := by
  intro steps created
  obtain ⟨-, generates, -⟩ := generated_dsn_is_least_free steps
  obtain ⟨number, found, -, -, -, -, live, counted⟩ :=
    generates "third" "thirdConnection" Config.standard rfl
  have isTwo : World.searchFor (empty.run steps).takenDsns
      ((empty.run steps).takenDsns.length + 1) (empty.run steps).world.nextDsn = some 2 := by
    decide +kernel
  rw [isTwo] at found
  cases found
  have isThird : (empty.run steps).world.mocks.length = 2 := by decide +kernel
  have isShown : World.generatedDsn 2 = "sqlmock_db_2" := by decide +kernel
  rw [isThird, isShown] at live
  exact ⟨by decide +kernel, live, counted⟩

end Session

end ScriptedSql
