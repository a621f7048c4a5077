import ScriptedSql.Row
import ScriptedSql.SqlType

/-!
Contract: what statements give: result sets, the cursors that replay them, and reports of
execution.

Owns:
- result sets with their columns, rows, row errors and close error, built step by
  step, a step being refused when a row has the wrong width or an error lies past
  the end;
- cursors, which read forward only and stop for good after an error or the last
  row;
- the two facets of a report, the last inserted id and the number of rows affected,
  either of which may fail without the other.
-/

namespace ScriptedSql

structure ColumnDefinition where
  name : String
  type : SqlType
  nullable : Bool
deriving DecidableEq, Repr

/-- A result that a query answers with. Of several errors at one index, the first
in the list counts. -/
structure ResultSet where
  columns : Columns
  definitions : Option (List ColumnDefinition)
  rows : List (List Value)
  errors : List (Nat × Error)
  closeError : Option Error

namespace ResultSet

def ofColumns (names : List String) : ResultSet :=
  ⟨⟨names⟩, none, [], [], none⟩

def ofDefinitions (definitions : List ColumnDefinition) : ResultSet :=
  { ofColumns (definitions.map (·.name)) with definitions := some definitions }

def size (set : ResultSet) : Nat :=
  set.rows.length

/-- Append a row, which must have a value for every column. -/
def addRow (set : ResultSet) (values : List Value) : Except Error ResultSet :=
  if values.length = set.columns.size then
    .ok { set with rows := set.rows ++ [values] }
  else
    .error (.ofMock .declaration
      ("expected " ++ Text.decimal set.columns.size ++ " values in row " ++
        Text.decimal set.size ++ ", got " ++ Text.decimal values.length))

/-- Append rows, up to the first that does not fit. -/
def addRows (set : ResultSet) : List (List Value) → Except Error ResultSet
  | [] => .ok set
  | values :: rest =>
    match set.addRow values with
    | .ok set => set.addRows rest
    | .error error => .error error

/-- Place an error at an index, in the stead of that row or behind the last
one. -/
def addError (set : ResultSet) (index : Nat) (error : Error) : Except Error ResultSet :=
  if index ≤ set.size then
    .ok { set with errors := (index, error) :: set.errors }
  else
    .error (.ofMock .declaration
      ("row error index " ++ Text.decimal index ++ " is out of range, rows has " ++
        Text.decimal set.size ++ " rows"))

/-- Place errors, up to the first that lies past the end. -/
def addErrors (set : ResultSet) : List (Nat × Error) → Except Error ResultSet
  | [] => .ok set
  | (index, error) :: rest =>
    match set.addError index error with
    | .ok set => set.addErrors rest
    | .error error => .error error

def withCloseError (set : ResultSet) (error : Error) : ResultSet :=
  { set with closeError := some error }

def errorAt? (set : ResultSet) (index : Nat) : Option Error :=
  set.errors.lookup index

/-- The declared type of each column, none for columns without. -/
def columnTypes (set : ResultSet) : List (Option SqlType) :=
  match set.definitions with
  | some definitions => definitions.map fun definition => some definition.type
  | none => set.columns.names.map fun _ => none

end ResultSet

/-- How a result set is asked for: its columns, then rows, row errors and a close
error, in that order. -/
structure ResultSetPlan where
  columns : List String ⊕ List ColumnDefinition
  rows : List (List Value)
  errors : List (Nat × Error)
  closeError : Option Error

namespace ResultSetPlan

def start (plan : ResultSetPlan) : ResultSet :=
  match plan.columns with
  | .inl names => .ofColumns names
  | .inr definitions => .ofDefinitions definitions

def build (plan : ResultSetPlan) : Except Error ResultSet := do
  let set ← plan.start.addRows plan.rows
  let set ← set.addErrors plan.errors
  return match plan.closeError with
    | some error => set.withCloseError error
    | none => set

end ResultSetPlan

structure Cursor where
  set : ResultSet
  position : Nat
  done : Bool

namespace Cursor

def ofSet (set : ResultSet) : Cursor :=
  ⟨set, 0, false⟩

/-- The next item, a row or the error in its place, and the cursor behind it. After
an error, and after the last row, there is nothing more. -/
def next (cursor : Cursor) : Option (Except Error Row) × Cursor :=
  if cursor.done then
    (none, cursor)
  else
    match cursor.set.errorAt? cursor.position with
    | some error => (some (.error error), { cursor with done := true })
    | none =>
      match cursor.set.rows[cursor.position]? with
      | none => (none, { cursor with done := true })
      | some values =>
        (some (.ok ⟨cursor.set.columns, values⟩), { cursor with position := cursor.position + 1 })

/-- At most this many items are left. -/
def reach (cursor : Cursor) : Nat :=
  if cursor.done then 0 else cursor.set.size - cursor.position + 1

/-- The next items, `limit` of them at most, and the cursor behind them. -/
def take : Nat → Cursor → List (Except Error Row) × Cursor
  | 0, cursor => ([], cursor)
  | limit + 1, cursor =>
    match cursor.next with
    | (none, cursor) => ([], cursor)
    | (some item, cursor) =>
      let (items, cursor) := take limit cursor
      (item :: items, cursor)

def drain (cursor : Cursor) : List (Except Error Row) × Cursor :=
  take (cursor.reach + 1) cursor

/-- All rows that are left, or the error among them. -/
def collect (cursor : Cursor) : Except Error (List Row) :=
  cursor.drain.1.mapM id

/-- The first row that is left, if there is one, or the error in its place. -/
def first (cursor : Cursor) : Except Error (Option Row) :=
  match cursor.next.1 with
  | none => .ok none
  | some (.ok row) => .ok (some row)
  | some (.error error) => .error error

def close (cursor : Cursor) : Except Error Unit :=
  match cursor.set.closeError with
  | some error => .error error
  | none => .ok ()

end Cursor

structure ExecResult where
  lastInsertId : Except Error Int64
  rowsAffected : Except Error UInt64

namespace ExecResult

def ofNumbers (lastInsertId : Int64) (rowsAffected : UInt64) : ExecResult :=
  ⟨.ok lastInsertId, .ok rowsAffected⟩

/-- A report whose two facets fail alike. -/
def ofError (error : Error) : ExecResult :=
  ⟨.error error, .error error⟩

def withIdError (result : ExecResult) (error : Error) : ExecResult :=
  { result with lastInsertId := .error error }

def withRowsError (result : ExecResult) (error : Error) : ExecResult :=
  { result with rowsAffected := .error error }

end ExecResult

end ScriptedSql
