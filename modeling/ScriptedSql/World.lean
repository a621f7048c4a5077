import ScriptedSql.Connection
import ScriptedSql.Table

/-!
Contract: all mocks of a program and the names under which they are found.

Owns:
- the registry from DSNs to mocks. Its entries keep no mock alive: an entry counts
  only as long as some handle of its mock is held, which the caller tells;
- the creation of mocks, under a DSN of their own or a generated one;
- the opening of connections by DSN;
- exchanges with a mock, and the removal of the entry of a mock that they close.

Does not own: the handles (`Session`).
-/

namespace ScriptedSql

/-- Mocks are numbered in the order of their creation, and keep their number. -/
abbrev MockId := Nat

/-- All mocks so far, the registry, and the number of the next generated DSN. -/
structure World where
  mocks : List Mock
  registry : Table MockId
  nextDsn : Nat

/-- A closed mock without a name, which stands for a number that no mock has. -/
def Mock.absent : Mock :=
  { Mock.start "" Config.standard with closed := true }

namespace World

def empty : World := ⟨[], [], 0⟩

def mockAt (world : World) (id : MockId) : Mock :=
  world.mocks[id]?.getD Mock.absent

def lookup? (alive : MockId → Bool) (dsn : String) (world : World) : Option MockId :=
  (world.registry.get? dsn).filter alive

def isRegistered (alive : MockId → Bool) (dsn : String) (world : World) : Bool :=
  (world.lookup? alive dsn).isSome

def connect (alive : MockId → Bool) (dsn : String) (world : World) : Except Error MockId :=
  match world.lookup? alive dsn with
  | some id => .ok id
  | none =>
    .error (.connection
      ⟨.connect, "expected a connection to be available, but it is not: '" ++ dsn ++ "'", none⟩)

def generatedDsn (number : Nat) : String :=
  "sqlmock_db_" ++ Text.decimal number

/-- The first number from `number` on whose DSN is not taken. A DSN that was found
taken cannot come again, so the search ends when none are left. -/
def firstFree (taken : List String) (number : Nat) : Nat :=
  if generatedDsn number ∈ taken then
    firstFree (taken.erase (generatedDsn number)) (number + 1)
  else
    number
termination_by taken.length
decreasing_by
  next isTaken =>
    have positive := List.length_pos_of_mem isTaken
    rw [List.length_erase_of_mem isTaken]
    omega

def enroll (dsn : String) (config : Config) (world : World) : MockId × World :=
  (world.mocks.length,
    { world with
      mocks := world.mocks ++ [Mock.start dsn config]
      registry := world.registry.put dsn world.mocks.length })

/-- The world without the registry entries of mocks that are not alive. -/
def prune (alive : MockId → Bool) (world : World) : World :=
  { world with registry := world.registry.filter fun entry => alive entry.2 }

/-- Create a mock. A DSN that is asked for must be free; without one the first free
generated DSN is taken. -/
def create (alive : MockId → Bool) (config : Config) (world : World) :
    Except Error MockId × World :=
  let world := world.prune alive
  match config.dsn with
  | some dsn =>
    if dsn ∈ world.registry.names then
      (.error (.connection
        ⟨.refused, "cannot create driver connection, DSN '" ++ dsn ++ "' is taken", none⟩), world)
    else
      let (id, world) := world.enroll dsn config
      (.ok id, world)
  | none =>
    let number := firstFree world.registry.names world.nextDsn
    let (id, world) := world.enroll (generatedDsn number) config
    (.ok id, { world with nextDsn := number + 1 })

/-- Put a mock back in its place. A closed mock is no longer found. -/
def restore (id : MockId) (mock : Mock) (world : World) : World :=
  { world with
    mocks := world.mocks.set id mock
    registry :=
      if mock.closed then world.registry.filter fun entry => entry.2 != id
      else world.registry }

def exchange {α : Type} (id : MockId) (exchange : Exchange α) (world : World) :
    Except Error α × World :=
  let (answer, mock) := exchange (world.mockAt id)
  (answer, world.restore id mock)

def change {α : Type} (id : MockId) (change : Mock → Mock × α) (world : World) : α × World :=
  let (mock, answer) := change (world.mockAt id)
  (answer, world.restore id mock)

end World

end ScriptedSql
