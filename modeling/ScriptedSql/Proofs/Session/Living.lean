import ScriptedSql.Proofs.Session.Operations
import ScriptedSql.Proofs.Session.Visit

/-!
Contract: the handles that steps make and let go of.

Owns:
- rearrangements: names are removed from the tables of handles, and handles of mocks that
  meet a law are entered;
- the agreement: every step rearranges the handles, and but for the mock that it creates it
  only enters handles of mocks that were referred to before;
- what rearrangements keep: laws of all mocks that are referred to, and that no name stands
  twice in a table.

Does not own: what the steps do to the mocks (`Session.Visit`).
-/

namespace ScriptedSql

namespace Table

variable {α : Type} {good : α → Prop} {table after : Table α}

/-- What comes of a table when good values are entered and names removed. -/
inductive Revised (good : α → Prop) (table : Table α) : Table α → Prop where
  | unchanged : Revised good table table
  | put {after : Table α} (so : Revised good table after) (name : String) {value : α}
      (isGood : good value) : Revised good table (after.put name value)
  | remove {after : Table α} (so : Revised good table after) (name : String) :
      Revised good table (after.remove name)

private theorem Revised.forall_values (so : table.Revised good after)
    (all : ∀ value ∈ table.values, good value) : ∀ value ∈ after.values, good value := by
  induction so with
  | unchanged => exact all
  | put so name isGood inductionHypothesis => exact forall_values_put inductionHypothesis isGood
  | remove so name inductionHypothesis => exact forall_values_remove inductionHypothesis name

private theorem Revised.names_nodup (so : table.Revised good after) (once : table.names.Nodup) :
    after.names.Nodup := by
  induction so with
  | unchanged => exact once
  | put so name isGood inductionHypothesis =>
      exact names_put_nodup inductionHypothesis name _
  | remove so name inductionHypothesis => exact names_filter_nodup inductionHypothesis _

end Table

namespace Session

/-- What comes of the handles of a session when handles of good mocks are made and others let
go of. Cursors and prepared texts refer to no mock. -/
structure Rearranged (good : MockId → Prop) (session after : Session) : Prop where
  mocks : session.mocks.Revised good after.mocks
  connections : session.connections.Revised good after.connections
  statements : session.statements.Revised (good ·.mock) after.statements
  transactions : session.transactions.Revised good after.transactions
  expectations : session.expectations.Revised (good ·.mock) after.expectations

/-- A law of all mocks that handles refer to. -/
structure AllHeld (good : MockId → Prop) (session : Session) : Prop where
  mocks : ∀ id ∈ session.mocks.values, good id
  connections : ∀ id ∈ session.connections.values, good id
  statements : ∀ statement ∈ session.statements.values, good statement.mock
  transactions : ∀ id ∈ session.transactions.values, good id
  expectations : ∀ declared ∈ session.expectations.values, good declared.mock

/-- A law of all mocks that handles refer to is one of all mocks that are alive. -/
theorem allHeld_iff {good : MockId → Prop} {session : Session} :
    session.AllHeld good ↔ ∀ id, session.isAlive id = true → good id := by
  simp only [isAlive, held, List.contains_iff_mem, List.mem_append, List.mem_map]
  constructor
  · rintro all id ((((isMock | isConnected) | ⟨statement, isThere, rfl⟩) | isBegun) |
      ⟨declared, isThere, rfl⟩)
    · exact all.mocks id isMock
    · exact all.connections id isConnected
    · exact all.statements statement isThere
    · exact all.transactions id isBegun
    · exact all.expectations declared isThere
  · intro all
    constructor
    · exact fun id isMock => all id (.inl (.inl (.inl (.inl isMock))))
    · exact fun id isConnected => all id (.inl (.inl (.inl (.inr isConnected))))
    · exact fun statement isThere => all _ (.inl (.inl (.inr ⟨statement, isThere, rfl⟩)))
    · exact fun id isBegun => all id (.inl (.inr isBegun))
    · exact fun declared isThere => all _ (.inr ⟨declared, isThere, rfl⟩)

/-- No name stands for two handles of one kind. -/
structure WellNamed (session : Session) : Prop where
  mocks : session.mocks.names.Nodup
  connections : session.connections.names.Nodup
  statements : session.statements.names.Nodup
  transactions : session.transactions.names.Nodup
  expectations : session.expectations.names.Nodup

variable {good : MockId → Prop} {session after : Session}

/-- What happens to the world alone is not seen by the handles. -/
theorem rearranged_within (good : MockId → Prop) (session : Session) (world : World) :
    session.Rearranged good { session with world := world } :=
  ⟨.unchanged, .unchanged, .unchanged, .unchanged, .unchanged⟩

private theorem rearranged_self (good : MockId → Prop) (session : Session) :
    session.Rearranged good session :=
  session.rearranged_within good session.world

private theorem Rearranged.allHeld (so : session.Rearranged good after)
    (all : session.AllHeld good) :
    after.AllHeld good where
  mocks := so.mocks.forall_values all.mocks
  connections := so.connections.forall_values all.connections
  statements := so.statements.forall_values all.statements
  transactions := so.transactions.forall_values all.transactions
  expectations := so.expectations.forall_values all.expectations

theorem Rearranged.wellNamed (so : session.Rearranged good after) (named : session.WellNamed) :
    after.WellNamed where
  mocks := so.mocks.names_nodup named.mocks
  connections := so.connections.names_nodup named.connections
  statements := so.statements.names_nodup named.statements
  transactions := so.transactions.names_nodup named.transactions
  expectations := so.expectations.names_nodup named.expectations

/-! ## Steps -/

private theorem require_rearranged {α : Type} {table : Table α} {name : String}
    {use : α → Session × Answer}
    (so : ∀ handle ∈ table.values, session.Rearranged good (use handle).1) :
    session.Rearranged good (session.require table name use).1 :=
  require_holds (session.Rearranged good) (session.rearranged_self good)
    fun handle found => so handle (Table.mem_values_of_get? found)

private theorem withChannel_rearranged {channel : Channel}
    {use : MockId → String → Session × Answer}
    (so : ∀ id sql, session.Rearranged good (use id sql).1) :
    session.Rearranged good (session.withChannel channel use).1 :=
  withChannel_holds (session.Rearranged good) (session.rearranged_self good) so

private theorem keepTransaction_rearranged (session : Session) (name : String) {id : MockId}
    (isGood : good id) : session.Rearranged good (session.keepTransaction name id) := by
  obtain ⟨world, state⟩ := session.keepTransaction_state name id
  rw [state]
  exact { session.rearranged_within good world with
    transactions := .put .unchanged name isGood }

private theorem create_rearranged (asMock asConnection : String) {config : Config}
    (created : ∀ id, (session.world.create session.isAlive config).1 = .ok id → good id) :
    session.Rearranged good (session.create asMock asConnection config).1 := by
  unfold Session.create
  rcases outcome : session.world.create session.isAlive config with ⟨error | id, world⟩
  · exact session.rearranged_within good world
  · have isGood := created id (by rw [outcome])
    exact { session.rearranged_within good world with
      mocks := .put .unchanged asMock isGood
      connections := .put .unchanged asConnection isGood }

private theorem connect_rearranged (all : session.AllHeld good) (dsn asConnection : String) :
    session.Rearranged good (session.connect dsn asConnection).1 := by
  unfold connect World.connect
  cases found : session.world.lookup? session.isAlive dsn with
  | none => exact session.rearranged_self good
  | some id =>
      have isAlive := (Option.filter_eq_some_iff.mp found).2
      have isGood := allHeld_iff.mp all id isAlive
      exact { session.rearranged_self good with connections := .put .unchanged asConnection isGood }

private theorem drop_rearranged (session : Session) (kind : HandleKind) (name : String) :
    session.Rearranged good (session.drop kind name).1 := by
  have unchanged := session.rearranged_self good
  cases kind with
  | mock => exact require_rearranged fun _ _ => { unchanged with mocks := .remove .unchanged name }
  | connection =>
      exact require_rearranged fun _ _ => { unchanged with connections := .remove .unchanged name }
  | statement =>
      exact require_rearranged fun _ _ => { unchanged with statements := .remove .unchanged name }
  | cursor => exact require_rearranged fun _ _ => { unchanged with }
  | transaction =>
      exact require_rearranged fun _ _ => { unchanged with transactions := .remove .unchanged name }
  | expectation =>
      exact require_rearranged fun _ _ => { unchanged with expectations := .remove .unchanged name }

private theorem declare_rearranged (session : Session) {id : MockId} (isGood : good id)
    (declaration : Mock → Mock) (adjustments : List Adjustment) (asExpectation : Option String) :
    session.Rearranged good (session.declare id declaration adjustments asExpectation).1 := by
  unfold Session.declare
  cases asExpectation with
  | none => exact session.rearranged_within good _
  | some name =>
      exact { session.rearranged_self good with expectations := .put .unchanged name isGood }

private theorem openCursor_rearranged (session : Session) (id : MockId) (sql : String)
    (arguments : List Argument) (asCursor : String) :
    session.Rearranged good (session.openCursor id sql arguments asCursor).1 := by
  obtain ⟨world, cursors, state⟩ := session.openCursor_state id sql arguments asCursor
  rw [state]
  exact { session.rearranged_within good world with }

private theorem prepare_rearranged (session : Session) {id : MockId} (isGood : good id)
    (sql asStatement : String) :
    session.Rearranged good (session.prepare id sql asStatement).1 := by
  have asked : session.Rearranged good (session.exchange id (Exchange.prepare sql)).2 :=
    session.rearranged_within good _
  unfold prepare
  generalize session.exchange id (Exchange.prepare sql) = outcome at asked ⊢
  rcases outcome with ⟨error | prepared, after⟩
  · exact asked
  · exact { asked with statements := .put asked.statements asStatement isGood }

private theorem prepareText_rearranged (session : Session) (id : MockId) (sql asPrepared : String) :
    session.Rearranged good (session.prepareText id sql asPrepared).1 := by
  obtain ⟨world, texts, state⟩ := session.prepareText_state id sql asPrepared
  rw [state]
  exact { session.rearranged_within good world with }

private theorem beginTransaction_rearranged (session : Session) {id : MockId} (isGood : good id)
    (asTransaction : String) (level : IsolationLevel) :
    session.Rearranged good (session.beginTransaction id asTransaction level).1 := by
  have kept : (session.exchange id (Exchange.beginAt level)).2.Rearranged good
      ((session.exchange id (Exchange.beginAt level)).2.keepTransaction asTransaction id) :=
    keepTransaction_rearranged _ asTransaction isGood
  have asked : session.Rearranged good (session.exchange id (Exchange.beginAt level)).2 :=
    session.rearranged_within good _
  have keptHere : session.Rearranged good
      ((session.exchange id (Exchange.beginAt level)).2.keepTransaction asTransaction id) :=
    { kept with }
  unfold beginTransaction
  generalize session.exchange id (Exchange.beginAt level) = outcome at asked keptHere ⊢
  rcases outcome with ⟨error | begun, after⟩
  · exact asked
  · exact keptHere

private theorem endTransaction_rearranged (session : Session) (name : String) (request : Request) :
    session.Rearranged good (session.endTransaction name request).1 := by
  refine require_rearranged fun id _ => ?_
  exact { session.rearranged_self good with transactions := .remove .unchanged name }

/-- Steps let go of handles and make handles of mocks that were referred to before, and of
the one that they create. -/
theorem step_rearranged (all : session.AllHeld good) (step : Step)
    (created : ∀ asMock asConnection config id, step = .create asMock asConnection config →
      (session.world.create session.isAlive config).1 = .ok id → good id) :
    session.Rearranged good (session.step step).1 := by
  have unchanged := session.rearranged_self good
  have asks (id : MockId) (request : Request) :
      session.Rearranged good (session.ask id request).1 :=
    session.rearranged_within good _
  cases step with
  | create asMock asConnection config =>
      exact create_rearranged asMock asConnection fun id isNew =>
        created asMock asConnection config id rfl isNew
  | connect dsn asConnection => exact connect_rearranged all dsn asConnection
  | isRegistered dsn => exact unchanged
  | dsn mock => exact require_rearranged fun _ _ => unchanged
  | clone connection asConnection =>
      refine require_rearranged fun id isThere => ?_
      have isGood := all.connections id isThere
      exact { unchanged with connections := .put .unchanged asConnection isGood }
  | cloneMock mock asMock =>
      refine require_rearranged fun id isThere => ?_
      have isGood := all.mocks id isThere
      exact { unchanged with mocks := .put .unchanged asMock isGood }
  | cloneExpectation expectation asExpectation =>
      refine require_rearranged fun declared isThere => ?_
      have isGood := all.expectations declared isThere
      exact { unchanged with expectations := .put .unchanged asExpectation isGood }
  | drop kind name => exact session.drop_rearranged kind name
  | setOrdered mock ordered => exact require_rearranged fun _ _ => { unchanged with }
  | expect mock kind sql adjustments asExpectation =>
      refine require_rearranged fun id isThere => ?_
      unfold expect
      cases sql.mapM (session.world.mockAt id).compile with
      | error error => exact unchanged
      | ok matcher =>
          exact session.declare_rearranged (all.mocks id isThere) _ adjustments asExpectation
  | follow expectation kind adjustments asExpectation =>
      refine require_rearranged fun declared isThere => ?_
      exact session.declare_rearranged (all.expectations declared isThere) _ adjustments
        asExpectation
  | adjust expectation adjustments => exact require_rearranged fun _ _ => { unchanged with }
  | newRows mock columns => exact require_rearranged fun _ _ => unchanged
  | verify mock => exact require_rearranged fun _ _ => unchanged
  | query channel arguments => exact withChannel_rearranged fun id _ => asks id _
  | openCursor channel arguments asCursor =>
      exact withChannel_rearranged fun id sql =>
        session.openCursor_rearranged id sql arguments asCursor
  | exec channel arguments => exact withChannel_rearranged fun id _ => asks id _
  | prepare connection sql asStatement =>
      refine require_rearranged fun id isThere => ?_
      exact session.prepare_rearranged (all.connections id isThere) sql asStatement
  | closeStatement name =>
      exact require_rearranged fun _ _ => { unchanged with statements := .remove .unchanged name }
  | next name => exact require_rearranged fun _ _ => { unchanged with }
  | drain name => exact require_rearranged fun _ _ => { unchanged with }
  | describe name => exact require_rearranged fun _ _ => unchanged
  | closeCursor name => exact require_rearranged fun _ _ => { unchanged with }
  | request connection request => exact require_rearranged fun id _ => asks id request
  | isValid connection => exact require_rearranged fun _ _ => { unchanged with }
  | closeConnection connection =>
      refine require_rearranged fun id _ => ?_
      exact { unchanged with connections := .remove .unchanged connection }
  | prepareText connection sql asPrepared =>
      exact require_rearranged fun id _ => session.prepareText_rearranged id sql asPrepared
  | fetchPrepared connection prepared parameters =>
      exact require_rearranged fun id _ => require_rearranged fun _ _ => asks id _
  | executePrepared connection prepared parameters =>
      exact require_rearranged fun id _ => require_rearranged fun _ _ => asks id _
  | beginTransaction connection asTransaction level =>
      refine require_rearranged fun id isThere => ?_
      exact session.beginTransaction_rearranged (all.connections id isThere) asTransaction level
  | requestWithin transaction request => exact require_rearranged fun id _ => asks id request
  | commitTransaction transaction => exact session.endTransaction_rearranged transaction .commit
  | rollbackTransaction transaction => exact session.endTransaction_rearranged transaction .rollback

/-! ## What steps keep -/

/-- Steps only hold mocks that were held before, and the one that they create. -/
theorem step_allHeld (all : session.AllHeld good) (step : Step)
    (created : ∀ asMock asConnection config id, step = .create asMock asConnection config →
      (session.world.create session.isAlive config).1 = .ok id → good id) :
    (session.step step).1.AllHeld good :=
  (step_rearranged all step created).allHeld all

theorem empty_wellNamed : empty.WellNamed :=
  ⟨List.nodup_nil, List.nodup_nil, List.nodup_nil, List.nodup_nil, List.nodup_nil⟩

/-- A handle takes the place of the one that had its name. -/
theorem step_wellNamed (named : session.WellNamed) (step : Step) :
    (session.step step).1.WellNamed := by
  have anything : session.AllHeld fun _ => True := allHeld_iff.mpr fun _ _ => trivial
  have so := step_rearranged anything step fun _ _ _ _ _ _ => trivial
  exact so.wellNamed named

/-- A mock is alive exactly if some name leads to a handle of it. -/
theorem WellNamed.isAlive_iff (named : session.WellNamed) {id : MockId} :
    session.isAlive id = true ↔
      (∃ name, session.mocks.get? name = some id) ∨
      (∃ name, session.connections.get? name = some id) ∨
      (∃ name statement, session.statements.get? name = some statement ∧ statement.mock = id) ∨
      (∃ name, session.transactions.get? name = some id) ∨
      ∃ name declared, session.expectations.get? name = some declared ∧ declared.mock = id := by
  simp only [isAlive, held, List.contains_iff_mem, List.mem_append, List.mem_map, Table.values,
    Prod.exists, exists_eq_right, Table.get?_eq_some_iff named.mocks,
    Table.get?_eq_some_iff named.connections, Table.get?_eq_some_iff named.statements,
    Table.get?_eq_some_iff named.transactions, Table.get?_eq_some_iff named.expectations]
  constructor
  · rintro ((((isMock | isConnected) | ⟨statement, ⟨name, isThere⟩, same⟩) | isBegun) |
      ⟨declared, ⟨name, isThere⟩, same⟩)
    · exact .inl isMock
    · exact .inr (.inl isConnected)
    · exact .inr (.inr (.inl ⟨name, statement, isThere, same⟩))
    · exact .inr (.inr (.inr (.inl isBegun)))
    · exact .inr (.inr (.inr (.inr ⟨name, declared, isThere, same⟩)))
  · rintro (isMock | isConnected | ⟨name, statement, isThere, same⟩ | isBegun |
      ⟨name, declared, isThere, same⟩)
    · exact .inl (.inl (.inl (.inl isMock)))
    · exact .inl (.inl (.inl (.inr isConnected)))
    · exact .inl (.inl (.inr ⟨statement, ⟨name, isThere⟩, same⟩))
    · exact .inl (.inr isBegun)
    · exact .inr ⟨declared, ⟨name, isThere⟩, same⟩

end Session

end ScriptedSql
