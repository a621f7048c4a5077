import ScriptedSql.Proofs.Session.Share

/-!
Contract: steps on a mock in sessions that are alike for it.

Owns:
- the handle that a step goes through, and the steps that are on a mock;
- the cursors that were read from a mock;
- the agreement: a step on the mock is answered the same in both sessions, which are alike
  after it.

Does not own: steps on other mocks (`Session.Elsewhere`).
-/

namespace ScriptedSql

abbrev HandleName := HandleKind × String

def Channel.handle : Channel → HandleName
  | .connection name _ => (.connection, name)
  | .statement name => (.statement, name)

/-- The handle that a step goes through. Creating, connecting and asking by DSN take none. -/
def Step.through : Step → Option HandleName
  | .create _ _ _ => none
  | .connect _ _ => none
  | .isRegistered _ => none
  | .dsn mock => some (.mock, mock)
  | .clone connection _ => some (.connection, connection)
  | .cloneMock mock _ => some (.mock, mock)
  | .cloneExpectation expectation _ => some (.expectation, expectation)
  | .drop kind name => some (kind, name)
  | .setOrdered mock _ => some (.mock, mock)
  | .expect mock _ _ _ _ => some (.mock, mock)
  | .follow expectation _ _ _ => some (.expectation, expectation)
  | .adjust expectation _ => some (.expectation, expectation)
  | .newRows mock _ => some (.mock, mock)
  | .verify mock => some (.mock, mock)
  | .query channel _ => some channel.handle
  | .openCursor channel _ _ => some channel.handle
  | .exec channel _ => some channel.handle
  | .prepare connection _ _ => some (.connection, connection)
  | .closeStatement statement => some (.statement, statement)
  | .next cursor => some (.cursor, cursor)
  | .drain cursor => some (.cursor, cursor)
  | .describe cursor => some (.cursor, cursor)
  | .closeCursor cursor => some (.cursor, cursor)
  | .request connection _ => some (.connection, connection)
  | .isValid connection => some (.connection, connection)
  | .closeConnection connection => some (.connection, connection)
  | .prepareText connection _ _ => some (.connection, connection)
  | .fetchPrepared connection _ _ => some (.connection, connection)
  | .executePrepared connection _ _ => some (.connection, connection)
  | .beginTransaction connection _ _ => some (.connection, connection)
  | .requestWithin transaction _ => some (.transaction, transaction)
  | .commitTransaction transaction => some (.transaction, transaction)
  | .rollbackTransaction transaction => some (.transaction, transaction)

namespace Session

/-- Whether a handle is one of a mock. A cursor does not refer to its mock: `own` are the
names of those that were read from it. -/
def leadsTo (session : Session) (id : MockId) (own : List String) : HandleName → Bool
  | (.mock, name) => session.mocks.get? name == some id
  | (.connection, name) => session.connections.get? name == some id
  | (.statement, name) => (session.statements.get? name).any (·.mock == id)
  | (.cursor, name) => own.contains name
  | (.transaction, name) => session.transactions.get? name == some id
  | (.expectation, name) => (session.expectations.get? name).any (·.mock == id)

/-- Whether a step is one on a mock: it goes through a handle of the mock, or connects to it. -/
def isOn (session : Session) (id : MockId) (own : List String) (step : Step) : Bool :=
  match step with
  | .connect dsn _ => session.world.lookup? session.isAlive dsn == some id
  | _ => step.through.any (session.leadsTo id own)

/-- The names of the cursors that were read from a mock, after a step. -/
def cursorsAfter (session : Session) (id : MockId) (own : List String) (step : Step) :
    List String :=
  match step, (session.step step).2 with
  | .openCursor _ _ asCursor, .attempt (.ok _) =>
    if session.isOn id own step then asCursor :: own else own.filter (· != asCursor)
  | _, _ => own

/-- The step with the prepared text that it uses spelled out: it has become a plain text,
whichever mock prepared it. -/
def spelled (session : Session) : Step → Step
  | .fetchPrepared connection prepared parameters =>
    (session.prepared.get? prepared).elim (.fetchPrepared connection prepared parameters)
      fun text => .request connection (.fetch text.sql parameters)
  | .executePrepared connection prepared parameters =>
    (session.prepared.get? prepared).elim (.executePrepared connection prepared parameters)
      fun text => .request connection (.execute text.sql parameters)
  | step => step

variable {id : MockId} {own : List String} {session alone : Session}

/-! ## Handles of the mock -/

theorem statement_of_leadsTo {name : String}
    (leads : (session.statements.get? name).any (·.mock == id) = true) :
    ∃ statement, session.statements.get? name = some statement ∧ statement.mock = id := by
  obtain ⟨statement, found, isGood⟩ := (Option.any_eq_true _ _).mp leads
  exact ⟨statement, found, eq_of_beq isGood⟩

theorem declared_of_leadsTo {name : String}
    (leads : (session.expectations.get? name).any (·.mock == id) = true) :
    ∃ declared, session.expectations.get? name = some declared ∧ declared.mock = id := by
  obtain ⟨declared, found, isGood⟩ := (Option.any_eq_true _ _).mp leads
  exact ⟨declared, found, eq_of_beq isGood⟩

/-- A channel of the mock is one in both sessions, with the same text. -/
theorem withChannel_of_leadsTo (alike : Alike id own session alone) {channel : Channel}
    (leads : session.leadsTo id own channel.handle = true) :
    ∃ sql, (∀ use, session.withChannel channel use = use id sql) ∧
      ∀ use, alone.withChannel channel use = use id sql := by
  cases channel with
  | connection name sql =>
      have found : session.connections.get? name = some id := eq_of_beq leads
      have foundAlone := (alike.connections name id rfl).mp found
      exact ⟨sql, fun use => require_of_some found session _,
        fun use => require_of_some foundAlone alone _⟩
  | statement name =>
      obtain ⟨statement, found, rfl⟩ := statement_of_leadsTo leads
      have foundAlone := (alike.statements name statement rfl).mp found
      exact ⟨statement.sql, fun use => require_of_some found session _,
        fun use => require_of_some foundAlone alone _⟩

private theorem cursor_parallel (alike : Alike id own session alone) {name : String}
    (isOwn : own.contains name = true) {use aloneUse : Cursor → Session × Answer}
    (parallel : ∀ cursor, Parallel id own (use cursor) (aloneUse cursor)) :
    Parallel id own (session.require session.cursors name use)
      (alone.require alone.cursors name aloneUse) := by
  have same := alike.cursors name (List.contains_iff_mem.mp isOwn)
  unfold require
  rw [same]
  cases alone.cursors.get? name with
  | none => exact ⟨rfl, alike⟩
  | some cursor => exact parallel cursor

private theorem Alike.putCursor (alike : Alike id own session alone) (name : String)
    (cursor : Cursor) :
    Alike id own { session with cursors := session.cursors.put name cursor }
      { alone with cursors := alone.cursors.put name cursor } := by
  refine { alike with cursors := fun other isOwn => ?_ }
  simp [alike.cursors other isOwn]

private theorem Alike.removeCursor (alike : Alike id own session alone) (name : String) :
    Alike id own { session with cursors := session.cursors.remove name }
      { alone with cursors := alone.cursors.remove name } := by
  refine { alike with cursors := fun other isOwn => ?_ }
  simp [alike.cursors other isOwn]

/-! ## Operations -/

/-- A transaction that takes the name of another has that one rolled back. -/
theorem keepTransaction_of_some {name : String} {former : MockId}
    (found : session.transactions.get? name = some former) (kept : MockId) :
    session.keepTransaction name kept =
      { session with transactions := session.transactions.put name kept }.letGo
        (.begun former) := by
  unfold keepTransaction
  rw [found]

/-- Whichever transactions are let go of, they are both of the mock, or neither is. -/
theorem keepTransaction_alike (alike : Alike id own session alone) (name : String) :
    Alike id own (session.keepTransaction name id) (alone.keepTransaction name id) := by
  have kept : Alike id own { session with transactions := session.transactions.put name id }
      { alone with transactions := alone.transactions.put name id } :=
    { alike with transactions := alike.transactions.put name id }
  have sameFormer := alike.transactions name id rfl
  by_cases found : session.transactions.get? name = some id
  · rw [keepTransaction_of_some found, keepTransaction_of_some (sameFormer.mp found)]
    exact kept.letGo
  · have left : Alike id own (session.keepTransaction name id)
        { alone with transactions := alone.transactions.put name id } := by
      unfold keepTransaction
      cases former : session.transactions.get? name with
      | none => exact kept
      | some other => exact kept.restore_left (fun same => found (same ▸ former)) _
    unfold keepTransaction at left ⊢
    cases former : alone.transactions.get? name with
    | none => exact left
    | some other =>
        exact left.restore_right (fun same => found (sameFormer.mpr (same ▸ former))) _

variable (alike : Alike id own session alone)

include alike

private theorem connect_parallel (here : session.InOrder) (there : alone.InOrder) {dsn : String}
    (leads : session.world.lookup? session.isAlive dsn = some id) (asConnection : String) :
    Parallel id own (session.connect dsn asConnection) (alone.connect dsn asConnection) := by
  have leadsAlone := (alike.lookup?_iff here there dsn).mp leads
  unfold connect World.connect
  rw [leads, leadsAlone]
  refine ⟨?_, { alike with connections := alike.connections.put asConnection id }⟩
  show Answer.attempt (.ok (.dsn (session.world.mockAt id).dsn)) = _
  rw [alike.mock]

private theorem drop_parallel {kind : HandleKind} {name : String}
    (leads : session.leadsTo id own (kind, name) = true) :
    Parallel id own (session.drop kind name) (alone.drop kind name) := by
  cases kind with
  | mock =>
      refine require_parallel alike.mocks (eq_of_beq leads) rfl ⟨rfl, ?_⟩
      exact { alike with mocks := alike.mocks.remove name }
  | connection =>
      refine require_parallel alike.connections (eq_of_beq leads) rfl ⟨rfl, ?_⟩
      exact { alike with connections := alike.connections.remove name }
  | statement =>
      obtain ⟨statement, found, isGood⟩ := statement_of_leadsTo leads
      refine require_parallel alike.statements found isGood ⟨rfl, ?_⟩
      exact { alike with statements := alike.statements.remove name }
  | cursor => exact cursor_parallel alike leads fun _ => ⟨rfl, alike.removeCursor name⟩
  | transaction =>
      refine require_parallel alike.transactions (eq_of_beq leads) rfl ⟨rfl, ?_⟩
      exact Alike.letGo { alike with transactions := alike.transactions.remove name }
  | expectation =>
      obtain ⟨declared, found, isGood⟩ := declared_of_leadsTo leads
      refine require_parallel alike.expectations found isGood ⟨rfl, ?_⟩
      exact { alike with expectations := alike.expectations.remove name }

private theorem declare_parallel (declaration : Mock → Mock) (adjustments : List Adjustment)
    (asExpectation : Option String) :
    Parallel id own (session.declare id declaration adjustments asExpectation)
      (alone.declare id declaration adjustments asExpectation) := by
  obtain ⟨answer, after, aloneAfter, outcome, aloneOutcome, stillAlike⟩ := alike.change
    fun mock => (declaration mock).adjust (alone.world.mockAt id).queue.length adjustments
  unfold Session.declare
  simp only [alike.mock, outcome, aloneOutcome]
  cases asExpectation with
  | none => exact ⟨rfl, stillAlike⟩
  | some name =>
      exact ⟨rfl, { stillAlike with expectations := stillAlike.expectations.put name _ }⟩

private theorem expect_parallel (kind : CallKind) (sql : Option String)
    (adjustments : List Adjustment)
    (asExpectation : Option String) :
    Parallel id own (session.expect id kind sql adjustments asExpectation)
      (alone.expect id kind sql adjustments asExpectation) := by
  unfold expect
  rw [alike.mock]
  cases sql.mapM (alone.world.mockAt id).compile with
  | error error => exact ⟨rfl, alike⟩
  | ok matcher => exact declare_parallel alike _ adjustments asExpectation

private theorem openCursor_parallel (sql : String) (arguments : List Argument) (asCursor : String) :
    let outcome := session.openCursor id sql arguments asCursor
    let after := match outcome.2 with
      | .attempt (.ok _) => asCursor :: own
      | _ => own
    Parallel id after outcome (alone.openCursor id sql arguments asCursor) := by
  obtain ⟨answer, after, aloneAfter, outcome, aloneOutcome, stillAlike⟩ :=
    alike.exchange (Exchange.query sql arguments)
  rw [openCursor, openCursor, outcome, aloneOutcome]
  cases answer with
  | error error => exact ⟨rfl, stillAlike⟩
  | ok cursor =>
      refine ⟨rfl, { stillAlike with cursors := fun name isOwn => ?_ }⟩
      rcases List.mem_cons.mp isOwn with isNew | wasOwn
      · simp [isNew]
      · simp [stillAlike.cursors name wasOwn]

private theorem prepare_parallel (sql asStatement : String) :
    Parallel id own (session.prepare id sql asStatement) (alone.prepare id sql asStatement) := by
  obtain ⟨answer, after, aloneAfter, outcome, aloneOutcome, stillAlike⟩ :=
    alike.exchange (Exchange.prepare sql)
  rw [prepare, prepare, outcome, aloneOutcome]
  cases answer with
  | error error => exact ⟨rfl, stillAlike⟩
  | ok prepared =>
      exact ⟨rfl, { stillAlike with statements := stillAlike.statements.put asStatement _ }⟩

private theorem prepareText_parallel (sql asPrepared : String) :
    Parallel id own (session.prepareText id sql asPrepared)
      (alone.prepareText id sql asPrepared) := by
  obtain ⟨answer, after, aloneAfter, outcome, aloneOutcome, stillAlike⟩ :=
    alike.exchange (Exchange.prepare sql)
  rw [prepareText, prepareText, outcome, aloneOutcome]
  cases answer with
  | error error => exact ⟨rfl, stillAlike⟩
  | ok prepared =>
      refine ⟨rfl, { stillAlike with prepared := fun name => ?_ }⟩
      by_cases isNew : name = asPrepared
      · simp [isNew]
      · simpa [isNew] using stillAlike.prepared name

/-- A step that uses a prepared text of the first session is spelled out in the second. -/
theorem prepared_parallel {step : Step} {connection prepared : String}
    (found : session.connections.get? connection = some id) {request : PreparedText → Request}
    (usesText : ∀ session : Session, session.step step =
      session.withConnection connection fun id =>
        session.require session.prepared prepared fun text => session.ask id (request text)) :
    Parallel id own (session.step step)
      (alone.step ((session.prepared.get? prepared).elim step fun text =>
        .request connection (request text))) := by
  rw [usesText]
  cases noted : session.prepared.get? prepared with
  | none =>
      have notedAlone := alike.prepared prepared noted
      rw [Option.elim, usesText]
      refine require_parallel alike.connections found rfl ?_
      unfold require
      rw [noted, notedAlone]
      exact ⟨rfl, alike⟩
  | some text =>
      refine require_parallel alike.connections found rfl ?_
      simpa [noted] using alike.ask (request text)

private theorem beginTransaction_parallel (asTransaction : String) (level : IsolationLevel) :
    Parallel id own (session.beginTransaction id asTransaction level)
      (alone.beginTransaction id asTransaction level) := by
  obtain ⟨answer, after, aloneAfter, outcome, aloneOutcome, stillAlike⟩ :=
    alike.exchange (Exchange.beginAt level)
  rw [beginTransaction, beginTransaction, outcome, aloneOutcome]
  cases answer with
  | error error => exact ⟨rfl, stillAlike⟩
  | ok begun => exact ⟨rfl, keepTransaction_alike stillAlike asTransaction⟩

private theorem endTransaction_parallel {name : String}
    (leads : session.leadsTo id own (.transaction, name) = true) (request : Request) :
    Parallel id own (session.endTransaction name request) (alone.endTransaction name request) := by
  obtain ⟨sameAnswer, stillAlike⟩ := alike.ask request
  refine require_parallel alike.transactions (eq_of_beq leads) rfl ⟨sameAnswer, ?_⟩
  exact { stillAlike with transactions := alike.transactions.remove name }

private theorem closeStatement_parallel (name : String) {statement : Statement}
    (isGood : statement.mock = id) :
    Parallel id own (session.closeStatement name statement)
      (alone.closeStatement name statement) := by
  subst isGood
  obtain ⟨answer, after, aloneAfter, outcome, aloneOutcome, stillAlike⟩ :=
    alike.change (·.closeStatement statement.prepared.slot)
  rw [closeStatement, closeStatement, outcome, aloneOutcome]
  exact ⟨rfl, { stillAlike with statements := stillAlike.statements.remove name }⟩

omit alike

theorem cursorsAfter_openCursor {channel : Channel} {arguments : List Argument}
    {asCursor : String} {made : List String}
    (chosen : (if session.isOn id own (.openCursor channel arguments asCursor) then asCursor :: own
      else own.filter (· != asCursor)) = made) :
    session.cursorsAfter id own (.openCursor channel arguments asCursor) =
      match (session.step (.openCursor channel arguments asCursor)).2 with
      | .attempt (.ok _) => made
      | _ => own := by
  unfold cursorsAfter
  cases (session.step (.openCursor channel arguments asCursor)).2 with
  | attempt outcome =>
      cases outcome with
      | error error => rfl
      | ok outcome => exact chosen
  | _ => rfl

/-- A step on the mock is answered the same in both sessions, and they stay alike. -/
theorem step_parallel (alike : Alike id own session alone) (here : session.InOrder)
    (there : alone.InOrder) {step : Step} (on : session.isOn id own step = true) :
    Parallel id (session.cursorsAfter id own step) (session.step step)
      (alone.step (session.spelled step)) := by
  cases step with
  | create asMock asConnection config => contradiction
  | connect dsn asConnection => exact connect_parallel alike here there (eq_of_beq on) asConnection
  | isRegistered dsn => contradiction
  | dsn mock =>
      refine require_parallel alike.mocks (eq_of_beq on) rfl ⟨?_, alike⟩
      show Answer.name _ = .name _
      rw [alike.mock]
  | clone connection asConnection =>
      refine require_parallel alike.connections (eq_of_beq on) rfl ⟨rfl, ?_⟩
      exact { alike with connections := alike.connections.put asConnection id }
  | cloneMock mock asMock =>
      refine require_parallel alike.mocks (eq_of_beq on) rfl ⟨rfl, ?_⟩
      exact { alike with mocks := alike.mocks.put asMock id }
  | cloneExpectation expectation asExpectation =>
      obtain ⟨declared, found, rfl⟩ := declared_of_leadsTo on
      refine require_parallel alike.expectations found rfl ⟨rfl, ?_⟩
      exact { alike with expectations := alike.expectations.put asExpectation declared }
  | drop kind name => exact drop_parallel alike on
  | setOrdered mock ordered =>
      refine require_parallel alike.mocks (eq_of_beq on) rfl ⟨rfl, ?_⟩
      obtain ⟨_, _, _, outcome, aloneOutcome, stillAlike⟩ :=
        alike.change fun mock => (mock.setOrdered ordered, ())
      rw [outcome, aloneOutcome]
      exact stillAlike
  | expect mock kind sql adjustments asExpectation =>
      refine require_parallel alike.mocks (eq_of_beq on) rfl ?_
      exact expect_parallel alike kind sql adjustments asExpectation
  | follow expectation kind adjustments asExpectation =>
      obtain ⟨declared, found, rfl⟩ := declared_of_leadsTo on
      refine require_parallel alike.expectations found rfl ?_
      exact declare_parallel alike (·.follow declared.slot kind) adjustments asExpectation
  | adjust expectation adjustments =>
      obtain ⟨declared, found, rfl⟩ := declared_of_leadsTo on
      refine require_parallel alike.expectations found rfl ?_
      obtain ⟨_, _, _, outcome, aloneOutcome, stillAlike⟩ :=
        alike.change (·.adjust declared.slot adjustments)
      rw [outcome, aloneOutcome]
      exact ⟨rfl, stillAlike⟩
  | newRows mock columns =>
      exact require_parallel alike.mocks (eq_of_beq on) rfl ⟨rfl, alike⟩
  | verify mock =>
      refine require_parallel alike.mocks (eq_of_beq on) rfl ⟨?_, alike⟩
      show Answer.ofUnit _ = .ofUnit _
      rw [alike.mock]
  | query channel arguments =>
      obtain ⟨sql, used, usedAlone⟩ := withChannel_of_leadsTo alike on
      show Parallel id own (session.withChannel channel _) (alone.withChannel channel _)
      rw [used, usedAlone]
      exact alike.ask (.replay sql arguments)
  | openCursor channel arguments asCursor =>
      obtain ⟨sql, used, usedAlone⟩ := withChannel_of_leadsTo alike on
      have stepped : session.step (.openCursor channel arguments asCursor) =
          session.openCursor id sql arguments asCursor := used _
      have steppedAlone : alone.step (.openCursor channel arguments asCursor) =
          alone.openCursor id sql arguments asCursor := usedAlone _
      rw [cursorsAfter_openCursor (if_pos on), stepped]
      show Parallel _ _ _ (alone.step (.openCursor channel arguments asCursor))
      rw [steppedAlone]
      exact openCursor_parallel alike sql arguments asCursor
  | exec channel arguments =>
      obtain ⟨sql, used, usedAlone⟩ := withChannel_of_leadsTo alike on
      show Parallel id own (session.withChannel channel _) (alone.withChannel channel _)
      rw [used, usedAlone]
      exact alike.ask (.exec sql arguments)
  | prepare connection sql asStatement =>
      refine require_parallel alike.connections (eq_of_beq on) rfl ?_
      exact prepare_parallel alike sql asStatement
  | closeStatement name =>
      obtain ⟨statement, found, isGood⟩ := statement_of_leadsTo on
      refine require_parallel alike.statements found isGood ?_
      exact closeStatement_parallel alike name isGood
  | next name => exact cursor_parallel alike on fun cursor => ⟨rfl, alike.putCursor name _⟩
  | drain name => exact cursor_parallel alike on fun cursor => ⟨rfl, alike.putCursor name _⟩
  | describe name => exact cursor_parallel alike on fun cursor => ⟨rfl, alike⟩
  | closeCursor name => exact cursor_parallel alike on fun cursor => ⟨rfl, alike.removeCursor name⟩
  | request connection request =>
      exact require_parallel alike.connections (eq_of_beq on) rfl (alike.ask request)
  | isValid connection =>
      refine require_parallel alike.connections (eq_of_beq on) rfl ?_
      obtain ⟨_, _, _, outcome, aloneOutcome, stillAlike⟩ := alike.exchange Exchange.ping
      rw [outcome, aloneOutcome]
      exact ⟨rfl, stillAlike⟩
  | closeConnection connection =>
      obtain ⟨sameAnswer, stillAlike⟩ := alike.ask .close
      refine require_parallel alike.connections (eq_of_beq on) rfl ⟨sameAnswer, ?_⟩
      exact { stillAlike with connections := alike.connections.remove connection }
  | prepareText connection sql asPrepared =>
      refine require_parallel alike.connections (eq_of_beq on) rfl ?_
      exact prepareText_parallel alike sql asPrepared
  | fetchPrepared connection prepared parameters =>
      exact prepared_parallel alike (eq_of_beq on) fun _ => rfl
  | executePrepared connection prepared parameters =>
      exact prepared_parallel alike (eq_of_beq on) fun _ => rfl
  | beginTransaction connection asTransaction level =>
      refine require_parallel alike.connections (eq_of_beq on) rfl ?_
      exact beginTransaction_parallel alike asTransaction level
  | requestWithin transaction request =>
      exact require_parallel alike.transactions (eq_of_beq on) rfl (alike.ask request)
  | commitTransaction transaction => exact endTransaction_parallel alike on .commit
  | rollbackTransaction transaction => exact endTransaction_parallel alike on .rollback

end Session

end ScriptedSql
