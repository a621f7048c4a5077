import ScriptedSql.Session.Run

/-!
Contract: which tables the operations of a session touch.

Owns:
- laws of the session after a step through a handle, which is not changed where there is none;
- for each operation that makes a handle, the one table beside the world that it touches;
- the steps that leave the statements, the prepared texts or the expectations alone.

Does not own: what is entered there, and what becomes of the world (`Session.Visit`).
-/

namespace ScriptedSql

namespace Step

/-! ## Steps that reach a table -/

def altersStatements : Step → Bool
  | .prepare .. | .closeStatement _ | .drop .statement _ => true
  | _ => false

def altersTexts : Step → Bool
  | .prepareText .. => true
  | _ => false

def altersExpectations : Step → Bool
  | .cloneExpectation .. | .expect .. | .follow .. | .drop .expectation _ => true
  | _ => false

end Step

namespace Session

variable {session : Session}

/-! ## Steps through handles -/

/-- To show a law after a step that uses a handle, it is enough to show it for every handle that
may be found, and for none. -/
theorem require_holds (Law : Session → Prop) {α : Type} {table : Table α} {name : String}
    {use : α → Session × Answer} (missing : Law session)
    (used : ∀ handle, table.get? name = some handle → Law (use handle).1) :
    Law (session.require table name use).1 := by
  unfold require
  cases found : table.get? name with
  | none => exact missing
  | some handle => exact used handle found

/-- To show a law after a step that uses a channel, it is enough to show it for every mock and
text, and for none. -/
theorem withChannel_holds (Law : Session → Prop) {channel : Channel}
    {use : MockId → String → Session × Answer} (missing : Law session)
    (used : ∀ id sql, Law (use id sql).1) : Law (session.withChannel channel use).1 := by
  cases channel with
  | connection name sql => exact require_holds Law missing fun id _ => used id sql
  | statement name =>
      exact require_holds Law missing fun statement _ => used statement.mock statement.sql

/-! ## Operations -/

theorem state_of_exchange {α : Type} {id : MockId} {exchange : Exchange α}
    {answer : Except Error α} {after : Session}
    (exchanged : session.exchange id exchange = (answer, after)) :
    ∃ world, after = { session with world := world } :=
  ⟨_, (congrArg Prod.snd exchanged).symm⟩

/-- A query concerns the world and the cursors only. -/
theorem openCursor_state (session : Session) (id : MockId) (sql : String)
    (arguments : List Argument) (asCursor : String) :
    ∃ world cursors, (session.openCursor id sql arguments asCursor).1 =
      { session with world := world, cursors := cursors } := by
  unfold openCursor
  rcases exchanged : session.exchange id (Exchange.query sql arguments) with ⟨_ | cursor, after⟩
  all_goals
    obtain ⟨world, rfl⟩ := state_of_exchange exchanged
    exact ⟨world, _, rfl⟩

private theorem prepare_state (session : Session) (id : MockId) (sql asStatement : String) :
    ∃ world statements, (session.prepare id sql asStatement).1 =
      { session with world := world, statements := statements } := by
  unfold prepare
  rcases exchanged : session.exchange id (Exchange.prepare sql) with ⟨_ | prepared, after⟩
  all_goals
    obtain ⟨world, rfl⟩ := state_of_exchange exchanged
    exact ⟨world, _, rfl⟩

/-- The prepare of a text concerns the world and the prepared texts only. -/
theorem prepareText_state (session : Session) (id : MockId) (sql asPrepared : String) :
    ∃ world texts, (session.prepareText id sql asPrepared).1 =
      { session with world := world, prepared := texts } := by
  unfold prepareText
  rcases exchanged : session.exchange id (Exchange.prepare sql) with ⟨_ | prepared, after⟩
  all_goals
    obtain ⟨world, rfl⟩ := state_of_exchange exchanged
    exact ⟨world, _, rfl⟩

theorem keepTransaction_state (session : Session) (name : String) (id : MockId) :
    ∃ world, session.keepTransaction name id =
      { session with world := world, transactions := session.transactions.put name id } := by
  unfold keepTransaction
  cases session.transactions.get? name with
  | none => exact ⟨session.world, rfl⟩
  | some former => exact ⟨_, rfl⟩

private theorem beginTransaction_state (session : Session) (id : MockId) (asTransaction : String)
    (level : IsolationLevel) :
    ∃ world transactions, (session.beginTransaction id asTransaction level).1 =
      { session with world := world, transactions := transactions } := by
  unfold beginTransaction
  rcases exchanged : session.exchange id (Exchange.beginAt level) with ⟨_ | begun, after⟩
  all_goals obtain ⟨world, rfl⟩ := state_of_exchange exchanged
  · exact ⟨world, session.transactions, rfl⟩
  · obtain ⟨last, kept⟩ := keepTransaction_state { session with world := world } asTransaction id
    exact ⟨last, _, kept⟩

private theorem declare_state (session : Session) (id : MockId) (declaration : Mock → Mock)
    (adjustments : List Adjustment) (asExpectation : Option String) :
    ∃ world expectations, (session.declare id declaration adjustments asExpectation).1 =
      { session with world := world, expectations := expectations } := by
  unfold declare
  cases asExpectation with
  | none => exact ⟨_, session.expectations, rfl⟩
  | some name => exact ⟨_, _, rfl⟩

private theorem expect_state (session : Session) (id : MockId) (kind : CallKind)
    (sql : Option String)
    (adjustments : List Adjustment) (asExpectation : Option String) :
    ∃ world expectations, (session.expect id kind sql adjustments asExpectation).1 =
      { session with world := world, expectations := expectations } := by
  unfold expect
  cases sql.mapM (session.world.mockAt id).compile with
  | error error => exact ⟨session.world, session.expectations, rfl⟩
  | ok matcher => exact session.declare_state id _ adjustments asExpectation

/-! ## Steps -/

/-- A step leaves alone the tables that it has nothing to do with. -/
structure Leaves (session : Session) (step : Step) (after : Session) : Prop where
  statements : step.altersStatements = false → after.statements = session.statements
  texts : step.altersTexts = false → after.prepared = session.prepared
  expectations : step.altersExpectations = false → after.expectations = session.expectations

private theorem leaves_self (session : Session) (step : Step) : session.Leaves step session :=
  ⟨fun _ => rfl, fun _ => rfl, fun _ => rfl⟩

private theorem require_leaves {step : Step} {α : Type} {table : Table α} {name : String}
    {use : α → Session × Answer} (used : ∀ handle, session.Leaves step (use handle).1) :
    session.Leaves step (session.require table name use).1 :=
  require_holds (session.Leaves step) (session.leaves_self step) fun handle _ => used handle

private theorem withChannel_leaves {step : Step} {channel : Channel}
    {use : MockId → String → Session × Answer}
    (used : ∀ id sql, session.Leaves step (use id sql).1) :
    session.Leaves step (session.withChannel channel use).1 :=
  withChannel_holds (session.Leaves step) (session.leaves_self step) used

/-- The one case analysis of a step behind the histories of these tables. -/
theorem step_leaves (session : Session) (step : Step) :
    session.Leaves step (session.step step).1 := by
  cases step with
  | create asMock asConnection config =>
      show session.Leaves _ (session.create asMock asConnection config).1
      unfold Session.create
      rcases session.world.create session.isAlive config with ⟨_ | _, _⟩
      all_goals exact ⟨fun _ => rfl, fun _ => rfl, fun _ => rfl⟩
  | connect dsn asConnection =>
      show session.Leaves _ (session.connect dsn asConnection).1
      unfold connect
      cases session.world.connect session.isAlive dsn
      all_goals exact ⟨fun _ => rfl, fun _ => rfl, fun _ => rfl⟩
  | isRegistered dsn => exact session.leaves_self _
  | cloneExpectation expectation asExpectation =>
      exact require_leaves fun _ => ⟨fun _ => rfl, fun _ => rfl, nofun⟩
  | drop kind name =>
      cases kind with
      | statement => exact require_leaves fun _ => ⟨nofun, fun _ => rfl, fun _ => rfl⟩
      | expectation => exact require_leaves fun _ => ⟨fun _ => rfl, fun _ => rfl, nofun⟩
      | _ => exact require_leaves fun _ => ⟨fun _ => rfl, fun _ => rfl, fun _ => rfl⟩
  | expect mock kind sql adjustments asExpectation =>
      refine require_leaves fun id => ?_
      obtain ⟨world, expectations, state⟩ :=
        session.expect_state id kind sql adjustments asExpectation
      rw [state]
      exact ⟨fun _ => rfl, fun _ => rfl, nofun⟩
  | follow expectation kind adjustments asExpectation =>
      refine require_leaves fun declared => ?_
      obtain ⟨world, expectations, state⟩ :=
        session.declare_state declared.mock (·.follow declared.slot kind) adjustments asExpectation
      rw [state]
      exact ⟨fun _ => rfl, fun _ => rfl, nofun⟩
  | query channel arguments =>
      exact withChannel_leaves fun _ _ => ⟨fun _ => rfl, fun _ => rfl, fun _ => rfl⟩
  | openCursor channel arguments asCursor =>
      refine withChannel_leaves fun id sql => ?_
      obtain ⟨world, cursors, state⟩ := session.openCursor_state id sql arguments asCursor
      rw [state]
      exact ⟨fun _ => rfl, fun _ => rfl, fun _ => rfl⟩
  | exec channel arguments =>
      exact withChannel_leaves fun _ _ => ⟨fun _ => rfl, fun _ => rfl, fun _ => rfl⟩
  | prepare connection sql asStatement =>
      refine require_leaves fun id => ?_
      obtain ⟨world, statements, state⟩ := session.prepare_state id sql asStatement
      rw [state]
      exact ⟨nofun, fun _ => rfl, fun _ => rfl⟩
  | closeStatement name => exact require_leaves fun _ => ⟨nofun, fun _ => rfl, fun _ => rfl⟩
  | prepareText connection sql asPrepared =>
      refine require_leaves fun id => ?_
      obtain ⟨world, texts, state⟩ := session.prepareText_state id sql asPrepared
      rw [state]
      exact ⟨fun _ => rfl, nofun, fun _ => rfl⟩
  | fetchPrepared connection prepared parameters =>
      exact require_leaves fun _ => require_leaves fun _ =>
        ⟨fun _ => rfl, fun _ => rfl, fun _ => rfl⟩
  | executePrepared connection prepared parameters =>
      exact require_leaves fun _ => require_leaves fun _ =>
        ⟨fun _ => rfl, fun _ => rfl, fun _ => rfl⟩
  | beginTransaction connection asTransaction level =>
      refine require_leaves fun id => ?_
      obtain ⟨world, transactions, state⟩ := session.beginTransaction_state id asTransaction level
      rw [state]
      exact ⟨fun _ => rfl, fun _ => rfl, fun _ => rfl⟩
  | _ => exact require_leaves fun _ => ⟨fun _ => rfl, fun _ => rfl, fun _ => rfl⟩

end Session

end ScriptedSql
