import ScriptedSql.Proofs.Session.Lockstep

/-!
Contract: steps on other mocks than one.

Owns:
- the handles that a step makes, and the handles of the mock that give way to them;
- what the creation of a mock leaves as it is;
- the agreement: a step on other mocks does no more to the mock than letting go of the handles
  that give way.

Does not own: runs of such steps (`Session.Separation`).
-/

namespace ScriptedSql

/-- The handles that a step makes and that refer to a mock. -/
def Step.made : Step → List HandleName
  | .create asMock asConnection _ => [(.mock, asMock), (.connection, asConnection)]
  | .connect _ asConnection => [(.connection, asConnection)]
  | .clone _ asConnection => [(.connection, asConnection)]
  | .cloneMock _ asMock => [(.mock, asMock)]
  | .cloneExpectation _ asExpectation => [(.expectation, asExpectation)]
  | .expect _ _ _ _ asExpectation => asExpectation.toList.map (.expectation, ·)
  | .follow _ _ _ asExpectation => asExpectation.toList.map (.expectation, ·)
  | .prepare _ _ asStatement => [(.statement, asStatement)]
  | .beginTransaction _ asTransaction _ => [(.transaction, asTransaction)]
  | _ => []

namespace World

/-- A creation numbers its mock behind all others. -/
theorem create_of_ok {alive : MockId → Bool} {config : Config} {world created : World}
    {id : MockId} (granted : world.create alive config = (.ok id, created)) :
    id = world.mocks.length ∧ created.mocks.length = world.mocks.length + 1 := by
  unfold World.create at granted
  cases asked : config.dsn with
  | none =>
      simp only [asked] at granted
      obtain ⟨new, rfl⟩ := Prod.mk.inj granted
      exact ⟨(Except.ok.inj new).symm, List.length_append⟩
  | some dsn =>
      simp only [asked] at granted
      by_cases taken : dsn ∈ (world.prune alive).registry.names
      · rw [if_pos taken] at granted
        cases congrArg Prod.fst granted
      · rw [if_neg taken] at granted
        obtain ⟨new, rfl⟩ := Prod.mk.inj granted
        exact ⟨(Except.ok.inj new).symm, List.length_append⟩

end World

namespace Session

/-- Whether a handle of a mock is one no more in a later session. -/
def loses (session after : Session) (id : MockId) (handle : HandleName) : Bool :=
  session.leadsTo id [] handle && !after.leadsTo id [] handle

/-- What is left of a step on other mocks: the handles of the mock that give way to those that
the step makes are let go of. -/
def lettingGo (session : Session) (id : MockId) (step : Step) : List Step :=
  (step.made.filter (session.loses (session.step step).1 id)).map fun handle =>
    .drop handle.1 handle.2

def release (session : Session) (lost : Bool) (handle : HandleName) : Session :=
  if lost then (session.step (.drop handle.1 handle.2)).1 else session

variable {id other : MockId} {own : List String} {session alone after : Session}

/-! ## Handles that give way -/

private theorem run_drops (lost : HandleName → Bool) (handles : List HandleName)
    (session : Session) :
    session.run ((handles.filter lost).map fun handle => .drop handle.1 handle.2) =
      handles.foldl (fun session handle => session.release (lost handle) handle) session := by
  induction handles generalizing session with
  | nil => rfl
  | cons handle rest inductionHypothesis =>
      rw [List.foldl_cons, List.filter_cons]
      by_cases isLost : lost handle = true
      · rw [if_pos isLost, List.map_cons, run, inductionHypothesis, release, if_pos isLost]
      · rw [if_neg isLost, inductionHypothesis, release, if_neg isLost]

/-- Handles that are there no more after a step are let go of, if they were of the mock. -/
theorem run_lettingGo {step : Step}
    (gone : ∀ handle ∈ step.made, (session.step step).1.leadsTo id [] handle = false) :
    alone.run (session.lettingGo id step) =
      step.made.foldl
        (fun alone handle => alone.release (session.leadsTo id [] handle) handle) alone := by
  have lost : step.made.filter (session.loses (session.step step).1 id) =
      step.made.filter (session.leadsTo id []) := by
    refine List.filter_congr fun handle isMade => ?_
    rw [loses, gone handle isMade, Bool.not_false, Bool.and_true]
  rw [lettingGo, lost, run_drops]

private theorem lettingGo_eq_nil {step : Step}
    (noneLost : ∀ handle ∈ step.made, session.loses (session.step step).1 id handle = false) :
    session.lettingGo id step = [] := by
  have none := List.filter_eq_nil_iff.mpr fun handle isMade =>
    Bool.eq_false_iff.mp (noneLost handle isMade)
  rw [lettingGo, none, List.map_nil]

/-- A step that reuses no name of a handle of the mock takes none away. -/
theorem lettingGo_of_free {step : Step}
    (free : ∀ handle ∈ step.made, session.leadsTo id [] handle = false) :
    session.lettingGo id step = [] := by
  refine lettingGo_eq_nil fun handle isMade => ?_
  rw [loses, free handle isMade, Bool.false_and]

/-- A step that leaves the handles as they are makes none give way. -/
theorem elsewhere_of_still {step : Step} {world : World}
    (still : (session.step step).1 = { session with world := world })
    (alike : Alike id own { session with world := world } alone) :
    Alike id own (session.step step).1 (alone.run (session.lettingGo id step)) := by
  have noneLost : session.lettingGo id step = [] := by
    refine lettingGo_eq_nil fun handle _ => ?_
    have same : (session.step step).1.leadsTo id [] handle = session.leadsTo id [] handle := by
      rw [still]
      rfl
    rw [loses, same, Bool.and_not_self]
  rw [still, noneLost]
  exact alike

/-- A step through a handle that is not there does nothing, so that the handles which may be
found are all that has to be looked at. -/
theorem elsewhere_through {α : Type} {step : Step} {table : Table α} {name : String}
    {use : α → Session × Answer} (goes : session.step step = session.require table name use)
    (alike : Alike id own session alone)
    (used : ∀ handle, table.get? name = some handle → session.step step = use handle →
      Alike id own (session.step step).1 (alone.run (session.lettingGo id step))) :
    Alike id own (session.step step).1 (alone.run (session.lettingGo id step)) := by
  cases found : table.get? name with
  | none =>
      have still : session.step step = (session, .noHandle name) :=
        goes.trans (require_of_none found session use)
      exact elsewhere_of_still (congrArg Prod.fst still) alike
  | some handle => exact used handle found (goes.trans (require_of_some found session use))

/-- A step that makes one handle, of another mock, makes one of its name give way. -/
theorem elsewhere_of_made {step : Step} {handle : HandleName}
    (stepped : (session.step step).1 = after) (made : step.made = [handle])
    (gone : after.leadsTo id [] handle = false)
    (released : Alike id own after (alone.release (session.leadsTo id [] handle) handle)) :
    Alike id own (session.step step).1 (alone.run (session.lettingGo id step)) := by
  rw [run_lettingGo, made, stepped]
  · exact released
  · rw [made, stepped]
    exact List.forall_mem_singleton.mpr gone

private theorem different_of_beq {found? : Option MockId} (off : (found? == some id) = false)
    (found : found? = some other) : other ≠ id := by
  rintro rfl
  exact ne_of_beq_false off found

private theorem different_of_any {α : Type} {mockOf : α → MockId} {found? : Option α} {handle : α}
    (off : found?.any (mockOf · == id) = false) (found : found? = some handle) :
    mockOf handle ≠ id :=
  ne_of_beq_false ((Option.any_eq_false _ _).mp off handle found)

private theorem ne_of_own {name asked : String} (off : own.contains name = false)
    (isOwn : asked ∈ own) :
    asked ≠ name := by
  rintro rfl
  rw [List.contains_iff_mem.mpr isOwn] at off
  contradiction

private theorem gone_of_put (different : other ≠ id) (table : Table MockId) (name : String) :
    ((table.put name other).get? name == some id) = false := by
  simpa using different

private theorem gone_of_put_any {α : Type} {mockOf : α → MockId} {handle : α}
    (different : mockOf handle ≠ id) (table : Table α) (name : String) :
    ((table.put name handle).get? name).any (mockOf · == id) = false := by
  simpa using different

private theorem release_cases {handle : HandleName}
    (dropped : session.leadsTo id [] handle = true →
      Alike id own after (alone.step (.drop handle.1 handle.2)).1)
    (kept : session.leadsTo id [] handle = false → Alike id own after alone) :
    Alike id own after (alone.release (session.leadsTo id [] handle) handle) := by
  cases leads : session.leadsTo id [] handle with
  | false => exact kept leads
  | true => exact dropped leads

private theorem Alike.releaseMock (alike : Alike id own session alone) (different : other ≠ id)
    (name : String) :
    Alike id own { session with mocks := session.mocks.put name other }
      (alone.release (session.leadsTo id [] (.mock, name)) (.mock, name)) := by
  refine release_cases (fun held => ?_) fun free => ?_
  · have heldAlone := (alike.mocks name id rfl).mp (eq_of_beq held)
    simp only [step, drop, require_of_some heldAlone]
    exact { alike with mocks := alike.mocks.put_remove name different }
  · exact { alike with mocks := alike.mocks.put_left different fun _ => different_of_beq free }

private theorem Alike.releaseConnection (alike : Alike id own session alone)
    (different : other ≠ id)
    (name : String) :
    Alike id own { session with connections := session.connections.put name other }
      (alone.release (session.leadsTo id [] (.connection, name)) (.connection, name)) := by
  refine release_cases (fun held => ?_) fun free => ?_
  · have heldAlone := (alike.connections name id rfl).mp (eq_of_beq held)
    simp only [step, drop, require_of_some heldAlone]
    exact { alike with connections := alike.connections.put_remove name different }
  · have others := alike.connections.put_left different fun _ => different_of_beq free
    exact { alike with connections := others }

private theorem Alike.releaseStatement (alike : Alike id own session alone) {statement : Statement}
    (different : statement.mock ≠ id) (name : String) :
    Alike id own { session with statements := session.statements.put name statement }
      (alone.release (session.leadsTo id [] (.statement, name)) (.statement, name)) := by
  refine release_cases (fun held => ?_) fun free => ?_
  · obtain ⟨former, found, isGood⟩ := statement_of_leadsTo held
    have heldAlone := (alike.statements name former isGood).mp found
    simp only [step, drop, require_of_some heldAlone]
    exact { alike with statements := alike.statements.put_remove name different }
  · have others := alike.statements.put_left different fun _ => different_of_any free
    exact { alike with statements := others }

private theorem Alike.releaseExpectation (alike : Alike id own session alone)
    {declared : Declaration}
    (different : declared.mock ≠ id) (name : String) :
    Alike id own { session with expectations := session.expectations.put name declared }
      (alone.release (session.leadsTo id [] (.expectation, name)) (.expectation, name)) := by
  refine release_cases (fun held => ?_) fun free => ?_
  · obtain ⟨former, found, isGood⟩ := declared_of_leadsTo held
    have heldAlone := (alike.expectations name former isGood).mp found
    simp only [step, drop, require_of_some heldAlone]
    exact { alike with expectations := alike.expectations.put_remove name different }
  · have others := alike.expectations.put_left different fun _ => different_of_any free
    exact { alike with expectations := others }

/-- A transaction of the mock that gives way is rolled back, as one that is let go of. -/
theorem Alike.releaseTransaction (alike : Alike id own session alone) (different : other ≠ id)
    (name : String) :
    Alike id own (session.keepTransaction name other)
      (alone.release (session.leadsTo id [] (.transaction, name)) (.transaction, name)) := by
  refine release_cases (fun held => ?_) fun free => ?_
  · have found := eq_of_beq held
    have heldAlone := (alike.transactions name id rfl).mp found
    simp only [keepTransaction_of_some found, step, drop, require_of_some heldAlone]
    have others := alike.transactions.put_remove name different
    exact Alike.letGo { alike with transactions := others }
  · have others := alike.transactions.put_left different fun _ => different_of_beq free
    have kept : Alike id own
        { session with transactions := session.transactions.put name other } alone :=
      { alike with transactions := others }
    unfold keepTransaction
    cases found : session.transactions.get? name with
    | none => exact kept
    | some former => exact kept.restore_left (different_of_beq free found) _

/-! ## Steps on other mocks -/

private theorem keepTransaction_transactions (session : Session) (name : String) (id : MockId) :
    (session.keepTransaction name id).transactions = session.transactions.put name id := by
  unfold keepTransaction
  cases session.transactions.get? name <;> rfl

/-- A creation leaves the mocks that are there. -/
theorem Alike.create (alike : Alike id own session alone) (config : Config) :
    Alike id own
      { session with world := (session.world.create session.isAlive config).2 } alone := by
  have created := alike.created
  rcases session.world.create_mocks session.isAlive config with same | ⟨dsn, appended⟩
  · refine { alike with created := ?_, mock := ?_ }
    · rw [same]
      exact created
    · rw [← alike.mock, World.mockAt, same]
      rfl
  · refine { alike with created := ?_, mock := ?_ }
    · rw [appended, List.length_append]
      exact Nat.lt_add_right _ created
    · rw [← alike.mock, World.mockAt, appended, List.getElem?_append_left created]
      rfl

private theorem create_elsewhere (alike : Alike id own session alone) (asMock asConnection : String)
    (config : Config) :
    Alike id own (session.step (.create asMock asConnection config)).1
      (alone.run (session.lettingGo id (.create asMock asConnection config))) := by
  have grown := alike.create config
  have stepped : session.step (.create asMock asConnection config) =
      session.create asMock asConnection config := rfl
  unfold Session.create at stepped
  rcases outcome : session.world.create session.isAlive config with ⟨error | new, world⟩
  · rw [outcome] at stepped grown
    exact elsewhere_of_still (congrArg Prod.fst stepped) grown
  · rw [outcome] at stepped grown
    have different : new ≠ id := by
      rw [(World.create_of_ok outcome).1]
      exact Nat.ne_of_gt alike.created
    rw [run_lettingGo, stepped]
    · exact (grown.releaseMock different asMock).releaseConnection different asConnection
    · rw [stepped]
      refine List.forall_mem_cons.mpr ⟨gone_of_put different _ _, ?_⟩
      exact List.forall_mem_singleton.mpr (gone_of_put different _ _)

private theorem connect_elsewhere (alike : Alike id own session alone) {dsn : String}
    (off : (session.world.lookup? session.isAlive dsn == some id) = false)
    (asConnection : String) :
    Alike id own (session.step (.connect dsn asConnection)).1
      (alone.run (session.lettingGo id (.connect dsn asConnection))) := by
  have stepped : session.step (.connect dsn asConnection) = session.connect dsn asConnection := rfl
  unfold Session.connect World.connect at stepped
  cases found : session.world.lookup? session.isAlive dsn with
  | none =>
      rw [found] at stepped
      exact elsewhere_of_still (congrArg Prod.fst stepped) alike
  | some other =>
      rw [found] at stepped
      have different := different_of_beq off found
      exact elsewhere_of_made (congrArg Prod.fst stepped) rfl (gone_of_put different _ _)
        (alike.releaseConnection different asConnection)

private theorem Alike.putCursor_left (alike : Alike id own session alone) {name : String}
    (off : own.contains name = false) (cursor : Cursor) :
    Alike id own { session with cursors := session.cursors.put name cursor } alone := by
  refine { alike with cursors := fun asked isOwn => ?_ }
  simpa [ne_of_own off isOwn] using alike.cursors asked isOwn

private theorem Alike.removeCursor_left (alike : Alike id own session alone) {name : String}
    (off : own.contains name = false) :
    Alike id own { session with cursors := session.cursors.remove name } alone := by
  refine { alike with cursors := fun asked isOwn => ?_ }
  simpa [ne_of_own off isOwn] using alike.cursors asked isOwn

/-- A handle of another mock that is let go of was in no way one of this mock. -/
theorem drop_elsewhere (alike : Alike id own session alone) {kind : HandleKind} {name : String}
    (off : session.leadsTo id own (kind, name) = false) :
    Alike id own (session.drop kind name).1 alone := by
  cases kind with
  | mock =>
      refine require_elsewhere alike fun _ _ => ?_
      have others := alike.mocks.remove_left fun _ => different_of_beq off
      exact { alike with mocks := others }
  | connection =>
      refine require_elsewhere alike fun _ _ => ?_
      have others := alike.connections.remove_left fun _ => different_of_beq off
      exact { alike with connections := others }
  | statement =>
      refine require_elsewhere alike fun _ _ => ?_
      have others := alike.statements.remove_left fun _ => different_of_any off
      exact { alike with statements := others }
  | cursor => exact require_elsewhere alike fun _ _ => alike.removeCursor_left off
  | transaction =>
      refine require_elsewhere alike fun other found => ?_
      have others := alike.transactions.remove_left fun _ => different_of_beq off
      have removed : Alike id own
          { session with transactions := session.transactions.remove name } alone :=
        { alike with transactions := others }
      exact removed.restore_left (different_of_beq off found) _
  | expectation =>
      refine require_elsewhere alike fun _ _ => ?_
      have others := alike.expectations.remove_left fun _ => different_of_any off
      exact { alike with expectations := others }

/-- Through a handle of another mock, an expectation is declared there. -/
theorem declare_elsewhere (alike : Alike id own session alone) (different : other ≠ id)
    {step : Step} {declaration : Mock → Mock} {adjustments : List Adjustment}
    {asExpectation : Option String}
    (stepped : session.step step =
      session.declare other declaration adjustments asExpectation)
    (made : step.made = asExpectation.toList.map (.expectation, ·)) :
    Alike id own (session.step step).1 (alone.run (session.lettingGo id step)) := by
  have elsewhere (mock : Mock) := alike.restore_left different mock
  cases asExpectation with
  | none => exact elsewhere_of_still (congrArg Prod.fst stepped) (elsewhere _)
  | some name =>
      have there : ((⟨other, (session.world.mockAt other).queue.length⟩ : Declaration)).mock ≠ id :=
        different
      exact elsewhere_of_made (congrArg Prod.fst stepped) made (gone_of_put_any there _ _)
        ((elsewhere _).releaseExpectation there name)

private theorem prepare_elsewhere (alike : Alike id own session alone) (different : other ≠ id)
    {connection sql asStatement : String}
    (stepped : session.step (.prepare connection sql asStatement) =
      session.prepare other sql asStatement) :
    Alike id own (session.step (.prepare connection sql asStatement)).1
      (alone.run (session.lettingGo id (.prepare connection sql asStatement))) := by
  obtain ⟨answer, world, outcome, elsewhere⟩ :=
    alike.exchange_left different (Exchange.prepare sql)
  rw [prepare, outcome] at stepped
  cases answer with
  | error error => exact elsewhere_of_still (congrArg Prod.fst stepped) elsewhere
  | ok prepared =>
      have there : (⟨other, sql, prepared⟩ : Statement).mock ≠ id := different
      exact elsewhere_of_made (congrArg Prod.fst stepped) rfl (gone_of_put_any there _ _)
        (elsewhere.releaseStatement there asStatement)

private theorem beginTransaction_elsewhere (alike : Alike id own session alone)
    (different : other ≠ id)
    {connection asTransaction : String} {level : IsolationLevel}
    (stepped : session.step (.beginTransaction connection asTransaction level) =
      session.beginTransaction other asTransaction level) :
    Alike id own (session.step (.beginTransaction connection asTransaction level)).1
      (alone.run (session.lettingGo id (.beginTransaction connection asTransaction level))) := by
  obtain ⟨answer, world, outcome, elsewhere⟩ :=
    alike.exchange_left different (Exchange.beginAt level)
  rw [beginTransaction, outcome] at stepped
  cases answer with
  | error error => exact elsewhere_of_still (congrArg Prod.fst stepped) elsewhere
  | ok begun =>
      refine elsewhere_of_made (congrArg Prod.fst stepped) rfl ?_
        (elsewhere.releaseTransaction different asTransaction)
      show (Table.get? (keepTransaction _ _ _).transactions asTransaction == some id) = false
      rw [keepTransaction_transactions]
      exact gone_of_put different _ _

private theorem openCursor_elsewhere (alike : Alike id own session alone) (different : other ≠ id)
    (sql : String) (arguments : List Argument) (asCursor : String) :
    let outcome := session.openCursor other sql arguments asCursor
    let after := match outcome.2 with
      | .attempt (.ok _) => own.filter (· != asCursor)
      | _ => own
    Alike id after outcome.1 alone := by
  obtain ⟨answer, world, outcome, elsewhere⟩ :=
    alike.exchange_left different (Exchange.query sql arguments)
  rw [openCursor, outcome]
  cases answer with
  | error error => exact elsewhere
  | ok cursor =>
      refine { elsewhere with cursors := fun name isOwn => ?_ }
      obtain ⟨wasOwn, isOther⟩ := List.mem_filter.mp isOwn
      simpa [bne_iff_ne.mp isOther] using alike.cursors name wasOwn

/-- A channel of another mock is used there, if it is one at all. -/
theorem withChannel_cases {P : Session × Answer → Prop} {channel : Channel}
    (off : session.leadsTo id own channel.handle = false)
    {use : MockId → String → Session × Answer} (idle : ∀ name, P (session, .noHandle name))
    (used : ∀ other sql, other ≠ id → P (use other sql)) : P (session.withChannel channel use) := by
  cases channel with
  | connection name sql =>
      show P (session.require session.connections name _)
      unfold require
      cases found : session.connections.get? name with
      | none => exact idle name
      | some other => exact used other sql (different_of_beq off found)
  | statement name =>
      show P (session.require session.statements name _)
      unfold require
      cases found : session.statements.get? name with
      | none => exact idle name
      | some statement => exact used statement.mock statement.sql (different_of_any off found)

private theorem expect_elsewhere (alike : Alike id own session alone) {mock : String}
    {kind : CallKind}
    {sql : Option String} {adjustments : List Adjustment} {asExpectation : Option String}
    (off : (session.mocks.get? mock == some id) = false) :
    Alike id own (session.step (.expect mock kind sql adjustments asExpectation)).1
      (alone.run (session.lettingGo id (.expect mock kind sql adjustments asExpectation))) := by
  refine elsewhere_through rfl alike fun other found stepped => ?_
  unfold expect at stepped
  cases compiled : sql.mapM (session.world.mockAt other).compile with
  | error error =>
      rw [compiled] at stepped
      exact elsewhere_of_still (congrArg Prod.fst stepped) alike
  | ok matcher =>
      rw [compiled] at stepped
      exact declare_elsewhere alike (different_of_beq off found) stepped rfl

private theorem prepareText_elsewhere (alike : Alike id own session alone) (different : other ≠ id)
    (sql asPrepared : String) :
    Alike id own (session.prepareText other sql asPrepared).1 alone := by
  obtain ⟨answer, world, outcome, elsewhere⟩ :=
    alike.exchange_left different (Exchange.prepare sql)
  rw [prepareText, outcome]
  cases answer with
  | error error => exact elsewhere
  | ok prepared =>
      refine { elsewhere with prepared := fun name => ?_ }
      by_cases isNew : name = asPrepared
      · simp [isNew]
      · simpa [isNew] using alike.prepared name

private theorem endTransaction_elsewhere (alike : Alike id own session alone) {name : String}
    (off : (session.transactions.get? name == some id) = false) (request : Request) :
    Alike id own (session.endTransaction name request).1 alone := by
  refine require_elsewhere alike fun other found => ?_
  have others := alike.transactions.remove_left fun _ => different_of_beq off
  exact { alike.restore_left (different_of_beq off found) _ with transactions := others }

/-- A step on other mocks leaves the sessions alike, once the handles that give way to those
that it makes are let go of. -/
theorem step_elsewhere (alike : Alike id own session alone) {step : Step}
    (off : session.isOn id own step = false) :
    Alike id (session.cursorsAfter id own step) (session.step step).1
      (alone.run (session.lettingGo id step)) := by
  have elsewhere {other : MockId} (different : other ≠ id) (mock : Mock) :=
    alike.restore_left different mock
  cases step with
  | create asMock asConnection config => exact create_elsewhere alike asMock asConnection config
  | connect dsn asConnection => exact connect_elsewhere alike off asConnection
  | isRegistered dsn => exact alike
  | dsn mock => exact require_elsewhere alike fun _ _ => alike
  | clone connection asConnection =>
      refine elsewhere_through rfl alike fun other found stepped => ?_
      have different := different_of_beq off found
      exact elsewhere_of_made (congrArg Prod.fst stepped) rfl (gone_of_put different _ _)
        (alike.releaseConnection different asConnection)
  | cloneMock mock asMock =>
      refine elsewhere_through rfl alike fun other found stepped => ?_
      have different := different_of_beq off found
      exact elsewhere_of_made (congrArg Prod.fst stepped) rfl (gone_of_put different _ _)
        (alike.releaseMock different asMock)
  | cloneExpectation expectation asExpectation =>
      refine elsewhere_through rfl alike fun declared found stepped => ?_
      have there := different_of_any off found
      exact elsewhere_of_made (congrArg Prod.fst stepped) rfl (gone_of_put_any there _ _)
        (alike.releaseExpectation there asExpectation)
  | drop kind name => exact drop_elsewhere alike off
  | setOrdered mock ordered =>
      exact require_elsewhere alike fun _ found => elsewhere (different_of_beq off found) _
  | expect mock kind sql adjustments asExpectation => exact expect_elsewhere alike off
  | follow expectation kind adjustments asExpectation =>
      exact elsewhere_through rfl alike fun _ found stepped =>
        declare_elsewhere alike (different_of_any off found) stepped rfl
  | adjust expectation adjustments =>
      exact require_elsewhere alike fun _ found => elsewhere (different_of_any off found) _
  | newRows mock columns => exact require_elsewhere alike fun _ _ => alike
  | verify mock => exact require_elsewhere alike fun _ _ => alike
  | query channel arguments =>
      exact withChannel_cases (P := fun outcome => Alike id own outcome.1 alone) off
        (fun _ => alike) fun _ _ different => elsewhere different _
  | openCursor channel arguments asCursor =>
      rw [cursorsAfter_openCursor (if_neg (Bool.eq_false_iff.mp off))]
      exact withChannel_cases (P := fun outcome => Alike id (match outcome.2 with
        | .attempt (.ok _) => own.filter (· != asCursor)
        | _ => own) outcome.1 alone) off (fun _ => alike) fun _ sql different =>
          openCursor_elsewhere alike different sql arguments asCursor
  | exec channel arguments =>
      exact withChannel_cases (P := fun outcome => Alike id own outcome.1 alone) off
        (fun _ => alike) fun _ _ different => elsewhere different _
  | prepare connection sql asStatement =>
      exact elsewhere_through rfl alike fun _ found stepped =>
        prepare_elsewhere alike (different_of_beq off found) stepped
  | closeStatement name =>
      refine require_elsewhere alike fun statement found => ?_
      have others := alike.statements.remove_left fun _ => different_of_any off
      exact { elsewhere (different_of_any off found) _ with statements := others }
  | next name => exact require_elsewhere alike fun _ _ => alike.putCursor_left off _
  | drain name => exact require_elsewhere alike fun _ _ => alike.putCursor_left off _
  | describe name => exact require_elsewhere alike fun _ _ => alike
  | closeCursor name => exact require_elsewhere alike fun _ _ => alike.removeCursor_left off
  | request connection request =>
      exact require_elsewhere alike fun _ found => elsewhere (different_of_beq off found) _
  | isValid connection =>
      exact require_elsewhere alike fun _ found => elsewhere (different_of_beq off found) _
  | closeConnection connection =>
      refine require_elsewhere alike fun other found => ?_
      have others := alike.connections.remove_left fun _ => different_of_beq off
      exact { elsewhere (different_of_beq off found) _ with connections := others }
  | prepareText connection sql asPrepared =>
      exact require_elsewhere alike fun _ found =>
        prepareText_elsewhere alike (different_of_beq off found) sql asPrepared
  | fetchPrepared connection prepared parameters =>
      exact require_elsewhere alike fun _ found => require_elsewhere alike fun _ _ =>
        elsewhere (different_of_beq off found) _
  | executePrepared connection prepared parameters =>
      exact require_elsewhere alike fun _ found => require_elsewhere alike fun _ _ =>
        elsewhere (different_of_beq off found) _
  | beginTransaction connection asTransaction level =>
      exact elsewhere_through rfl alike fun _ found stepped =>
        beginTransaction_elsewhere alike (different_of_beq off found) stepped
  | requestWithin transaction request =>
      exact require_elsewhere alike fun _ found => elsewhere (different_of_beq off found) _
  | commitTransaction transaction => exact endTransaction_elsewhere alike off .commit
  | rollbackTransaction transaction => exact endTransaction_elsewhere alike off .rollback

end Session

end ScriptedSql
