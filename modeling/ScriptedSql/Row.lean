import ScriptedSql.Scan
import ScriptedSql.Table

/-!
Contract: rows and their columns.

Owns:
- column names, and the table of their indices, filled in order;
- rows, with access to values by index and by name, as they are or typed.
-/

namespace ScriptedSql

/-- The columns of a result, by name and in order. A name may come twice. -/
structure Columns where
  names : List String
deriving DecidableEq, Repr

namespace Columns

def size (columns : Columns) : Nat :=
  columns.names.length

/-- The index of every name. The names are entered from the first to the last, so that of several
columns of one name the last remains. -/
def table (columns : Columns) : Table Nat :=
  columns.names.zipIdx.foldl (fun table entry => table.put entry.1 entry.2) []

def indexOf? (columns : Columns) (name : String) : Option Nat :=
  columns.table.get? name

def nameAt? (columns : Columns) (index : Nat) : Option String :=
  columns.names[index]?

end Columns

/-- A row: values under shared columns. The two need not be equally many. -/
structure Row where
  columns : Columns
  values : List Value

namespace Row

def size (row : Row) : Nat :=
  row.values.length

def get? (row : Row) (index : Nat) : Option Value :=
  row.values[index]?

def getNamed? (row : Row) (name : String) : Option Value :=
  (row.columns.indexOf? name).bind row.get?

def read (row : Row) (type : ScanType) (index : Nat) : Except Error type.Carrier :=
  match row.get? index with
  | some value => value.scan type
  | none =>
    .error (.type {
      expected := type.fullName
      actual :=
        "index " ++ Text.decimal index ++ " out of bounds (row has " ++
          Text.decimal row.size ++ " columns)"
      column := none })

/-- The error with the name of the column in it, if it is one of type. -/
def inColumn (name : String) : Error → Error
  | .type error => .type { error with column := some name }
  | error => error

/-- Read the value under a name as a type; errors name the column. -/
def readNamed (row : Row) (type : ScanType) (name : String) : Except Error type.Carrier :=
  match row.getNamed? name with
  | some value => (value.scan type).mapError (inColumn name)
  | none => .error (.type ⟨type.fullName, "column '" ++ name ++ "' not found", some name⟩)

end Row

/-- A question to a row: the value at an index or under a name, as it is or read
as a type. -/
inductive Getter where
  | at (index : Nat) (type : Option ScanType)
  | named (name : String) (type : Option ScanType)
deriving DecidableEq, Repr

inductive Got where
  | value (found : Option Value)
  | scanned (type : ScanType) (found : Except Error type.Carrier)

namespace Getter

def ask (row : Row) : Getter → Got
  | .at index none => .value (row.get? index)
  | .at index (some type) => .scanned type (row.read type index)
  | .named name none => .value (row.getNamed? name)
  | .named name (some type) => .scanned type (row.readNamed type name)

end Getter

end ScriptedSql
