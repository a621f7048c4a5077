import ScriptedSql.Proofs.Session.Registration

/-!
Contract: when the DSN of a mock is free again.

Owns:
- free DSNs: not registered, not to be connected to, and granted to a creation that asks for
  them;
- mocks without mock handles and connections, of which a transaction holds one of its own;
- what still keeps the DSN of such a mock: a statement or a declared expectation, as long as
  the mock is open. Cursors, prepared texts and results never do.
-/

namespace ScriptedSql

namespace World

private theorem Consistent.create_granted {alive : MockId → Bool} {world : World}
    (consistent : world.Consistent alive) {config : Config} {dsn : String}
    (asked : config.dsn = some dsn) (unknown : world.lookup? alive dsn = none) :
    ∃ id after, world.create alive config = (.ok id, after) ∧ (after.mockAt id).dsn = dsn := by
  have free : dsn ∉ (world.prune alive).registry.names := by
    intro taken
    have refused : ∃ error, (world.create alive config).1 = .error error := by
      unfold World.create
      simp only [asked, if_pos taken]
      exact ⟨_, rfl⟩
    obtain ⟨id, found⟩ := (consistent.create_refused_iff asked).mp refused
    rw [unknown] at found
    contradiction
  have created : world.create alive config =
      (.ok world.mocks.length, ((world.prune alive).enroll dsn config).2) := by
    unfold World.create
    simp only [asked, if_neg free]
    rfl
  have started := enroll_mockAt_new (world.prune alive) dsn config
  exact ⟨_, _, created, congrArg Mock.dsn started⟩

end World

namespace Session

/-- A DSN is free: it is not registered, it cannot be connected to, and a creation that asks
for it is granted it. -/
structure Free (session : Session) (dsn : String) : Prop where
  unregistered : (session.step (.isRegistered dsn)).2 = .flag false
  unconnected : ∀ asConnection, ∃ error,
    session.step (.connect dsn asConnection) = (session, .attempt (.error error))
  granted : ∀ asMock asConnection config, config.dsn = some dsn →
    (session.step (.create asMock asConnection config)).2 = .attempt (.ok (.dsn dsn))

/-- No mock handle and no connection leads to a mock. A transaction counts as a connection,
because it holds one. -/
structure Disconnected (session : Session) (id : MockId) : Prop where
  mocks : id ∉ session.mocks.values
  connections : id ∉ session.connections.values
  transactions : id ∉ session.transactions.values

/-- A statement was prepared on a mock, or an expectation declared on it, and its handle is
still held. -/
def KeptInUse (session : Session) (id : MockId) : Prop :=
  (∃ statement ∈ session.statements.values, statement.mock = id) ∨
    ∃ declared ∈ session.expectations.values, declared.mock = id

variable {session : Session} {dsn : String} {id : MockId}

private theorem Consistent.free_iff (consistent : session.Consistent) :
    session.Free dsn ↔ ¬ ∃ id, session.Live dsn id := by
  constructor
  · rintro free ⟨id, live⟩
    obtain ⟨error, refused⟩ := free.unconnected ""
    rw [consistent.connect_of_live live ""] at refused
    cases congrArg Prod.snd refused
  · intro nobody
    have unknown := consistent.lookup?_eq_none_iff.mpr nobody
    refine ⟨?_, consistent.connect_of_none nobody, ?_⟩
    · have unregistered : session.isRegistered dsn = false := by
        rw [isRegistered, World.isRegistered, unknown]
        rfl
      exact congrArg Answer.flag unregistered
    · intro asMock asConnection config asked
      obtain ⟨id, after, created, named⟩ :=
        World.Consistent.create_granted consistent asked unknown
      show (session.create asMock asConnection config).2 = _
      rw [Session.create, created]
      simp only [named]

/-- Without mock handles and connections, a mock is alive by its statements and expectations
alone. -/
theorem Disconnected.isAlive_iff (disconnected : session.Disconnected id) :
    session.isAlive id = true ↔ session.KeptInUse id := by
  simp only [isAlive, held, List.contains_iff_mem, List.mem_append, List.mem_map, KeptInUse]
  constructor
  · rintro ((((isMock | isConnected) | isPrepared) | isBegun) | isDeclared)
    · exact absurd isMock disconnected.mocks
    · exact absurd isConnected disconnected.connections
    · exact .inl isPrepared
    · exact absurd isBegun disconnected.transactions
    · exact .inr isDeclared
  · rintro (isPrepared | isDeclared)
    · exact .inl (.inl (.inr isPrepared))
    · exact .inr isDeclared

/-- At every point of every run of a program: when all mock handles and connections of a mock
were let go, its DSN is free exactly if the mock was shut down or no statement and no
expectation of it is held, and no other mock lives under the DSN by now. -/
theorem dsn_free_iff (steps : List Step) (id : MockId)
    (disconnected : (empty.run steps).Disconnected id) :
    let session := empty.run steps
    let mock := session.world.mockAt id
    session.Free mock.dsn ↔
      (mock.closed = true ∨ ¬ session.KeptInUse id) ∧
        ¬ ∃ other, other ≠ id ∧ session.Live mock.dsn other := by
  intro session mock
  have consistent : session.Consistent := run_consistent steps
  have live_iff : session.Live mock.dsn id ↔ session.KeptInUse id ∧ mock.closed = false := by
    constructor
    · rintro ⟨isAlive, isOpen, -⟩
      exact ⟨disconnected.isAlive_iff.mp isAlive, isOpen⟩
    · rintro ⟨inUse, isOpen⟩
      exact ⟨disconnected.isAlive_iff.mpr inUse, isOpen, rfl⟩
  rw [consistent.free_iff]
  constructor
  · intro nobody
    refine ⟨?_, fun ⟨other, _, live⟩ => nobody ⟨other, live⟩⟩
    by_cases closed : mock.closed = true
    · exact .inl closed
    · refine .inr fun inUse => nobody ⟨id, live_iff.mpr ⟨inUse, ?_⟩⟩
      exact Bool.eq_false_iff.mpr closed
  · rintro ⟨closedOrUnused, noOther⟩ ⟨other, live⟩
    by_cases same : other = id
    · subst same
      obtain ⟨inUse, isOpen⟩ := live_iff.mp live
      rcases closedOrUnused with closed | unused
      · rw [isOpen] at closed
        contradiction
      · exact unused inUse
    · exact noOther ⟨other, same, live⟩

/-- A cursor and a prepared text keep no DSN from being free. -/
theorem dsn_free_despite_cursor :
    let steps : List Step :=
      [.create "mock" "connection" { Config.standard with matching := .equal, dsn := some "dsn" },
        .expect "mock" .query (some "SELECT") [.rows ⟨.inl ["column"], [], [], none⟩] none,
        .expect "mock" .prepare (some "SELECT") [] none,
        .openCursor (.connection "connection" "SELECT") [] "cursor",
        .prepareText "connection" "SELECT" "text",
        .drop .mock "mock",
        .drop .connection "connection"]
    let session := empty.run steps
    session.cursors.names = ["cursor"] ∧ session.prepared.names = ["text"] ∧
      session.Disconnected 0 ∧ session.Free "dsn" := by
  intro steps session
  have noHandles : session.held = [] := by decide +kernel
  have named : (session.world.mockAt 0).dsn = "dsn" := by decide +kernel
  have disconnected : session.Disconnected 0 :=
    ⟨by decide +kernel, by decide +kernel, by decide +kernel⟩
  have dead (id : MockId) : session.isAlive id ≠ true := by
    rw [isAlive, noHandles]
    exact Bool.false_ne_true
  have unused : ¬ session.KeptInUse 0 := fun inUse => dead 0 (disconnected.isAlive_iff.mpr inUse)
  have nobody : ¬ ∃ other, other ≠ 0 ∧ session.Live (session.world.mockAt 0).dsn other := by
    rintro ⟨other, _, live⟩
    exact dead other live.isAlive
  have free := (dsn_free_iff steps 0 disconnected).mpr ⟨.inr unused, nobody⟩
  exact ⟨by decide +kernel, by decide +kernel, disconnected, named ▸ free⟩

/-- A declared expectation that is held keeps the DSN of its mock taken, although all its
mock handles and connections were let go. -/
theorem held_expectation_keeps_dsn :
    let session := empty.run
      [.create "mock" "connection" { Config.standard with dsn := some "dsn" },
        .expect "mock" .begin none [] (some "expectation"),
        .drop .connection "connection",
        .drop .mock "mock"]
    session.Disconnected 0 ∧
      session.isRegistered "dsn" = true ∧
      session.world.lookup? session.isAlive "dsn" = some 0 ∧
      ¬ session.Free "dsn" := by
  intro session
  have disconnected : session.Disconnected 0 := ⟨by decide, by decide, by decide⟩
  refine ⟨disconnected, by decide, by decide, fun free => ?_⟩
  cases free.unregistered

end Session

end ScriptedSql
