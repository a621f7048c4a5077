import ScriptedSql.Config
import ScriptedSql.Queue

/-!
Contract: the state of one mock and what declarations and calls do to it.

Owns:
- the state: queue, mode of order, whether it is closed, the next statement id;
- declarations, adjustments of declared expectations, and verification;
- the dispatch of calls: a closed mock refuses all; otherwise the queue resolves
  the call, the expectation found is fulfilled, and the answer is the one that it
  was given.
-/

namespace ScriptedSql

/-- A mock. `dsn` is the name under which it was registered, `ordered` the mode
that the next declaration is stamped with. -/
structure Mock where
  dsn : String
  config : Config
  queue : Queue
  ordered : Bool
  closed : Bool
  nextStatement : Nat

/-- An exchange with a mock: it may change the mock, and answers with a value or an
error. Changes stay when it fails. -/
abbrev Exchange := ExceptT Error (StateM Mock)

/-- A statement handed out by a prepare: its id, and the index of the expectation that the
prepare fulfilled. -/
structure Prepared where
  id : Nat
  slot : Nat
deriving DecidableEq, Repr

/-- What a call of a kind answers with when all goes well. -/
abbrev CallKind.Outcome : CallKind → Type
  | .query => ResultSet
  | .exec => ExecResult
  | .prepare => Prepared
  | .begin => Unit
  | .commit => Unit
  | .rollback => Unit
  | .ping => Unit
  | .close => Unit

inductive Adjustment where
  | withArguments (expected : List ExpectedArgument)
  | withoutArguments
  | rows (plan : ResultSetPlan)
  | result (result : ExecResult)
  | error (error : Error)
  | closeError (error : Error)
  | willBeClosed

namespace Adjustment

/-- Change an expectation; fails when a result set cannot be built. -/
def apply (expectation : Expectation) : Adjustment → Except Error Expectation
  | .withArguments expected => .ok { expectation with arguments := .exactly expected }
  | .withoutArguments => .ok { expectation with arguments := .exactly [] }
  | .rows plan =>
    match plan.build with
    | .ok set => .ok { expectation with rows := some set }
    | .error fault => .error fault
  | .result report => .ok { expectation with result := some report }
  | .error fault => .ok { expectation with error := some fault }
  | .closeError fault => .ok { expectation with closeError := some fault }
  | .willBeClosed => .ok { expectation with mustBeClosed := true }

/-- Make changes in order, up to the first that fails. -/
def applyAll (expectation : Expectation) :
    List Adjustment → Expectation × Except Error Unit
  | [] => (expectation, .ok ())
  | adjustment :: rest =>
    match adjustment.apply expectation with
    | .ok expectation => applyAll expectation rest
    | .error fault => (expectation, .error fault)

end Adjustment

namespace Mock

def start (dsn : String) (config : Config) : Mock where
  dsn := dsn
  config := config
  queue := []
  ordered := config.ordered
  closed := false
  nextStatement := 1

/-- Switch the mode that later declarations are stamped with. -/
def setOrdered (mock : Mock) (ordered : Bool) : Mock :=
  { mock with ordered := ordered }

/-- Append an expectation. Its index is the number of those before it. -/
def declare (mock : Mock) (kind : CallKind) (sql : Option SqlMatcher) : Mock :=
  { mock with queue := mock.queue ++ [.fresh kind sql mock.ordered] }

def compile (mock : Mock) (pattern : String) : Except Error SqlMatcher :=
  mock.config.matching.compile pattern

/-- Append an expectation of the same SQL as the one at an index. -/
def follow (mock : Mock) (slot : Nat) (kind : CallKind) : Mock :=
  mock.declare kind (mock.queue[slot]?.bind (·.sql))

def adjust (mock : Mock) (slot : Nat) (adjustments : List Adjustment) :
    Mock × Except Error Unit :=
  match mock.queue[slot]? with
  | none => (mock, .ok ())
  | some expectation =>
    let (expectation, answer) := Adjustment.applyAll expectation adjustments
    ({ mock with queue := mock.queue.set slot expectation }, answer)

def verify (mock : Mock) : Except Error Unit :=
  mock.queue.verify

/-- Close a statement, which its expectation remembers even on a closed mock. -/
def closeStatement (mock : Mock) (slot : Nat) : Mock × Except Error Unit :=
  match mock.queue[slot]? with
  | none => (mock, .ok ())
  | some expectation =>
    ({ mock with
        queue := mock.queue.modify slot fun expectation =>
          { expectation with wasClosed := true } },
      match expectation.closeError with
      | some error => .error error
      | none => .ok ())

def closedCall (mock : Mock) (call : Call) : Error :=
  .ofMock .closed ("call to " ++ call.shown ++ " on closed connection '" ++ mock.dsn ++ "'")

def closedConnection (mock : Mock) : Error :=
  .ofMock .closed ("connection '" ++ mock.dsn ++ "' is closed")

end Mock

namespace Call

/-- The error of a call whose expectation has nothing to answer with. -/
def missingOutcome (call : Call) (what hint : String) : Error :=
  .ofMock .missingOutcome
    (call.shown ++ " matched an expectation with no " ++ what ++ " configured: use " ++ hint ++
      " or will_return_error")

end Call

namespace Expectation

/-- Answer a call of a kind as the expectation at an index says. Only a prepare
uses up a statement id. -/
def answer (expectation : Expectation) (slot : Nat) (call : Call) :
    (kind : CallKind) → Exchange kind.Outcome
  | .query =>
    match expectation.rows with
    | some rows => pure rows
    | none => throw (call.missingOutcome "rows" "will_return_rows")
  | .exec =>
    match expectation.result with
    | some result => pure result
    | none => throw (call.missingOutcome "result" "will_return_result")
  | .prepare => do
    let mock ← get
    set { mock with nextStatement := mock.nextStatement + 1 }
    return ⟨mock.nextStatement, slot⟩
  | .begin => pure ()
  | .commit => pure ()
  | .rollback => pure ()
  | .ping => pure ()
  | .close => pure ()

end Expectation

namespace Exchange

def dispatch (kind : CallKind) (sql : Option String) (arguments : List Argument) :
    Exchange kind.Outcome := do
  let call : Call := ⟨kind, sql, arguments⟩
  let mock ← get
  if mock.closed then
    throw (mock.closedCall call)
  else
    match mock.queue.settle mock.config.converter call with
    | (.error rejection, _) => throw (rejection.toError call)
    | (.ok slot, queue) =>
      let expectation := mock.queue.get slot
      set { mock with queue := queue }
      match expectation.error with
      | some error => throw error
      | none => expectation.answer slot call kind

end Exchange

end ScriptedSql
