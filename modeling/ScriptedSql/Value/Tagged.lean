import ScriptedSql.Value

/-!
Contract: values as JSON, tagged with their variant.

Owns:
- the written form: the name of a variant alone if it carries nothing, otherwise
  an object of one member, the name with the content;
- the reading of that form, which takes integers only as such and within the
  range of their variant.

A floating-point number that is not finite is written as `null`, which reads as no
number.
-/

namespace ScriptedSql

namespace Value

def tagged (tag : String) (content : Json.Tree) : Json.Tree :=
  .object [(tag, content)]

def integerTree (number : Int) : Json.Tree :=
  .number (.ofInt number)

def floatingTree (format : Format) : Floating → Json.Tree
  | .finite number => .number (.ofFinite format number)
  | _ => .null

def bytesTree (bytes : List UInt8) : Json.Tree :=
  .array (bytes.map fun byte => integerTree byte.toNat)

mutual

def toTagged : Value → Json.Tree
  | .null => .string "Null"
  | .bool flag => tagged "Bool" (.bool flag)
  | .tinyInt number => tagged "TinyInt" (integerTree number.toInt)
  | .smallInt number => tagged "SmallInt" (integerTree number.toInt)
  | .int number => tagged "Int" (integerTree number.toInt)
  | .bigInt number => tagged "BigInt" (integerTree number.toInt)
  | .float number => tagged "Float" (floatingTree .single number)
  | .double number => tagged "Double" (floatingTree .double number)
  | .decimal digits => tagged "Decimal" (.string digits)
  | .text content => tagged "Text" (.string content)
  | .bytes content => tagged "Bytes" (bytesTree content)
  | .date days => tagged "Date" (integerTree days.toInt)
  | .time microseconds => tagged "Time" (integerTree microseconds.toInt)
  | .timestamp microseconds => tagged "Timestamp" (integerTree microseconds.toInt)
  | .timestampTz microseconds => tagged "TimestampTz" (integerTree microseconds.toInt)
  | .uuid id => tagged "Uuid" (bytesTree id.bytes)
  | .json document => tagged "Json" document.content.toTree
  | .array items => tagged "Array" (.array (toTaggedItems items))
  | .defaultKeyword => .string "Default"

def toTaggedItems : List Value → List Json.Tree
  | [] => []
  | item :: rest => toTagged item :: toTaggedItems rest

end

/-- An integer of a tree, from `low` to `high`. -/
def integer? (low high : Int) : Json.Tree → Option Int
  | .number numeral =>
    numeral.integer?.bind fun number =>
      if low ≤ number.value ∧ number.value ≤ high then some number.value else none
  | _ => none

def integer32? (tree : Json.Tree) : Option Int32 :=
  (integer? (-2147483648) 2147483647 tree).map Int32.ofInt

def integer64? (tree : Json.Tree) : Option Int64 :=
  (integer? (-9223372036854775808) 9223372036854775807 tree).map Int64.ofInt

/-- A floating-point number of a format. An integer is rounded at once, any other
numeral is a double first. -/
def floating? (format : Format) : Json.Tree → Option Floating
  | .number numeral =>
    match numeral.integer? with
    | some number => some (format.ofInt number.value)
    | none => numeral.toDouble?.map fun number => format.narrow (.finite number)
  | _ => none

def string? : Json.Tree → Option String
  | .string content => some content
  | _ => none

def flag? : Json.Tree → Option Bool
  | .bool flag => some flag
  | _ => none

def byteList? : Json.Tree → Option (List UInt8)
  | .array items => items.mapM fun item => (integer? 0 255 item).map UInt8.ofInt
  | _ => none

def uuid? (tree : Json.Tree) : Option Uuid :=
  (byteList? tree).bind fun bytes =>
    if sixteen : bytes.length = 16 then some ⟨bytes, sixteen⟩ else none

/-- The value of a variant that carries nothing. -/
def ofTag? (tag : String) : Option Value :=
  if tag = "Null" then some .null
  else if tag = "Default" then some .defaultKeyword
  else none

/-- The value of a variant with a content other than items. -/
def ofContent? (tag : String) (content : Json.Tree) : Option Value :=
  match tag with
  | "Bool" => (flag? content).map .bool
  | "TinyInt" => (integer? (-128) 127 content).map fun number => .tinyInt (Int8.ofInt number)
  | "SmallInt" =>
    (integer? (-32768) 32767 content).map fun number => .smallInt (Int16.ofInt number)
  | "Int" => (integer32? content).map .int
  | "BigInt" => (integer64? content).map .bigInt
  | "Float" => (floating? .single content).map .float
  | "Double" => (floating? .double content).map .double
  | "Decimal" => (string? content).map .decimal
  | "Text" => (string? content).map .text
  | "Bytes" => (byteList? content).map .bytes
  | "Date" => (integer32? content).map .date
  | "Time" => (integer64? content).map .time
  | "Timestamp" => (integer64? content).map .timestamp
  | "TimestampTz" => (integer64? content).map .timestampTz
  | "Uuid" => (uuid? content).map .uuid
  | "Json" => (Json.Document.ofTree? content).map .json
  | tag =>
    match content with
    | .null => ofTag? tag
    | _ => none

mutual

/-- The value of a tagged tree. A variant that carries nothing may also be the one
member of an object, with the content `null`. -/
def ofTagged? : Json.Tree → Option Value
  | .string tag => ofTag? tag
  | .object [(tag, .array items)] =>
    if tag = "Array" then (ofTaggedItems? items).map .array else ofContent? tag (.array items)
  | .object [(tag, content)] => ofContent? tag content
  | _ => none

def ofTaggedItems? : List Json.Tree → Option (List Value)
  | [] => some []
  | item :: rest =>
    match ofTagged? item with
    | none => none
    | some value => (ofTaggedItems? rest).map (value :: ·)

end

def encode (value : Value) : String :=
  value.toTagged.text

def decode? (text : String) : Option Value :=
  (Json.Tree.read? text.toList).bind ofTagged?

end Value

end ScriptedSql
