import ScriptedSql.Value

/-!
Contract: the SQL types of declared columns.

Owns:
- the types and their names in SQL;
- the type that a value would come back as.
-/

namespace ScriptedSql

inductive SqlType where
  | tinyInt
  | smallInt
  | integer
  | bigInt
  | real
  | double
  | decimal (precision scale : UInt8)
  | boolean
  | varChar (length : UInt32)
  | text
  | blob
  | date
  | time
  | timestamp
  | timestampTz
  | uuid
  | json
  | array (item : SqlType)
  | custom (name : String)
deriving DecidableEq, Repr

namespace SqlType

def sqlName : SqlType → String
  | .tinyInt => "TINYINT"
  | .smallInt => "SMALLINT"
  | .integer => "INTEGER"
  | .bigInt => "BIGINT"
  | .real => "REAL"
  | .double => "DOUBLE PRECISION"
  | .decimal precision scale =>
    "DECIMAL(" ++ Text.decimal precision.toNat ++ ", " ++ Text.decimal scale.toNat ++ ")"
  | .boolean => "BOOLEAN"
  | .varChar length => "VARCHAR(" ++ Text.decimal length.toNat ++ ")"
  | .text => "TEXT"
  | .blob => "BLOB"
  | .date => "DATE"
  | .time => "TIME"
  | .timestamp => "TIMESTAMP"
  | .timestampTz => "TIMESTAMPTZ"
  | .uuid => "UUID"
  | .json => "JSON"
  | .array item => item.sqlName ++ "[]"
  | .custom name => name

mutual

/-- The type that a value would come back as. NULL and DEFAULT carry none; an
array has the type of its first item that carries one, and is an array of texts
when no item does. -/
def ofValue? : Value → Option SqlType
  | .null => none
  | .defaultKeyword => none
  | .bool _ => some .boolean
  | .tinyInt _ => some .tinyInt
  | .smallInt _ => some .smallInt
  | .int _ => some .integer
  | .bigInt _ => some .bigInt
  | .float _ => some .real
  | .double _ => some .double
  | .decimal _ => some (.decimal 38 0)
  | .text _ => some .text
  | .bytes _ => some .blob
  | .date _ => some .date
  | .time _ => some .time
  | .timestamp _ => some .timestamp
  | .timestampTz _ => some .timestampTz
  | .uuid _ => some .uuid
  | .json _ => some .json
  | .array items => some (.array ((firstOfValues? items).getD .text))

def firstOfValues? : List Value → Option SqlType
  | [] => none
  | value :: rest =>
    match ofValue? value with
    | some type => some type
    | none => firstOfValues? rest

end

end SqlType

end ScriptedSql
