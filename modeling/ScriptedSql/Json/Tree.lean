import ScriptedSql.Json.Numeral

/-!
Contract: JSON texts as trees, in the order and with the numerals in which they
are written.

Owns:
- the tree of a text and its compact written form;
- the escapes of strings.

Does not own: reading (`Json.Reader`), and what a tree means as a value
(`Json.Document`).
-/

namespace ScriptedSql.Json

/-- A JSON text without its blanks. Members of an object stand in the order of
the text, and a key may come more than once. -/
inductive Tree where
  | null
  | bool (flag : Bool)
  | number (numeral : Numeral)
  | string (text : String)
  | array (items : List Tree)
  | object (members : List (String × Tree))
deriving Repr

def escapedCharacter (character : Char) : List Char :=
  if character = '"' then ['\\', '"']
  else if character = '\\' then ['\\', '\\']
  else if character = '\x08' then ['\\', 'b']
  else if character = '\x0c' then ['\\', 'f']
  else if character = '\n' then ['\\', 'n']
  else if character = '\r' then ['\\', 'r']
  else if character = '\t' then ['\\', 't']
  else if character < ' ' then '\\' :: 'u' :: Text.hexPadded 4 character.toNat
  else [character]

def writtenString (text : String) : List Char :=
  '"' :: text.toList.flatMap escapedCharacter ++ ['"']

namespace Tree

mutual

def written : Tree → List Char
  | .null => "null".toList
  | .bool true => "true".toList
  | .bool false => "false".toList
  | .number numeral => numeral.written
  | .string text => writtenString text
  | .array [] => ['[', ']']
  | .array (first :: rest) => '[' :: written first ++ writtenItems rest
  | .object [] => ['\x7b', '\x7d']
  | .object ((key, value) :: rest) =>
    '\x7b' :: writtenString key ++ ':' :: written value ++ writtenMembers rest

/-- The items after the first, each behind a comma, and the closing bracket. -/
def writtenItems : List Tree → List Char
  | [] => [']']
  | item :: rest => ',' :: written item ++ writtenItems rest

/-- The members after the first, each behind a comma, and the closing brace. -/
def writtenMembers : List (String × Tree) → List Char
  | [] => ['\x7d']
  | (key, value) :: rest =>
    ',' :: writtenString key ++ ':' :: written value ++ writtenMembers rest

end

def text (tree : Tree) : String :=
  String.ofList tree.written

end Tree

end ScriptedSql.Json
