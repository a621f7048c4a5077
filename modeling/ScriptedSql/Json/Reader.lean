import ScriptedSql.Json.Tree

/-!
Contract: reading JSON texts.

Owns:
- the grammar of strings, with no raw control characters and no half of a
  surrogate pair on its own;
- the grammar of values, with objects and arrays nested at most 127 deep;
- whole texts: one value and blanks around it.
-/

namespace ScriptedSql.Json

def isGap (character : Char) : Bool :=
  character == ' ' || character == '\n' || character == '\t' || character == '\r'

/-- The number of four hexadecimal digits. -/
def codeUnit? (first second third fourth : Char) : Option Nat := do
  let digits ← [first, second, third, fourth].mapM Text.hexValue?
  return Text.numberOf 16 digits

/-- The character that a letter after a backslash stands for. -/
def letterEscape? (letter : Char) : Option Char :=
  if letter = '"' then some '"'
  else if letter = '\\' then some '\\'
  else if letter = '/' then some '/'
  else if letter = 'b' then some '\x08'
  else if letter = 'f' then some '\x0c'
  else if letter = 'n' then some '\n'
  else if letter = 'r' then some '\r'
  else if letter = 't' then some '\t'
  else none

/-- Whether a code unit opens a surrogate pair. -/
def opensPair (unit : Nat) : Bool :=
  0xD800 ≤ unit && unit ≤ 0xDBFF

def closesPair (unit : Nat) : Bool :=
  0xDC00 ≤ unit && unit ≤ 0xDFFF

/-- The rest of a string behind its opening quote: its characters, and what
follows the closing quote. -/
def readString? : List Char → Option (List Char × List Char)
  | [] => none
  | '"' :: rest => some ([], rest)
  | '\\' :: 'u' :: a :: b :: c :: d :: rest =>
    match codeUnit? a b c d with
    | none => none
    | some unit =>
      if closesPair unit then none
      else if opensPair unit then
        match rest with
        | '\\' :: 'u' :: e :: f :: g :: h :: after =>
          match codeUnit? e f g h with
          | none => none
          | some second =>
            if closesPair second then
              let code := 0x10000 + (unit - 0xD800) * 0x400 + (second - 0xDC00)
              (readString? after).map fun (text, left) => (Char.ofNat code :: text, left)
            else none
        | _ => none
      else
        (readString? rest).map fun (text, left) => (Char.ofNat unit :: text, left)
  | '\\' :: letter :: rest =>
    match letterEscape? letter with
    | none => none
    | some character => (readString? rest).map fun (text, left) => (character :: text, left)
  | character :: rest =>
    if character < ' ' ∨ character = '\\' then none
    else (readString? rest).map fun (text, left) => (character :: text, left)

def depthLimit : Nat := 127

mutual

/-- The value that a text begins with, behind blanks, and what follows it.
`depth` is how many more brackets may be opened inside each other; `fuel` bounds
the steps, of which there are at most two for each character and one more. -/
def readValue? (fuel depth : Nat) (text : List Char) : Option (Tree × List Char) :=
  match fuel with
  | 0 => none
  | fuel + 1 =>
    match text.dropWhile isGap with
    | 'n' :: 'u' :: 'l' :: 'l' :: rest => some (.null, rest)
    | 't' :: 'r' :: 'u' :: 'e' :: rest => some (.bool true, rest)
    | 'f' :: 'a' :: 'l' :: 's' :: 'e' :: rest => some (.bool false, rest)
    | '"' :: rest =>
      (readString? rest).map fun (characters, after) =>
        (.string (String.ofList characters), after)
    | '[' :: rest =>
      match depth, rest.dropWhile isGap with
      | 0, _ => none
      | _, ']' :: after => some (.array [], after)
      | depth + 1, after =>
        (readItems? fuel depth after).map fun (items, left) => (.array items, left)
    | '\x7b' :: rest =>
      match depth, rest.dropWhile isGap with
      | 0, _ => none
      | _, '\x7d' :: after => some (.object [], after)
      | depth + 1, after =>
        (readMembers? fuel depth after).map fun (members, left) => (.object members, left)
    | start => (Numeral.read? start).map fun (numeral, rest) => (.number numeral, rest)

/-- The items of an array up to its closing bracket, at least one. -/
def readItems? (fuel depth : Nat) (text : List Char) : Option (List Tree × List Char) :=
  match fuel with
  | 0 => none
  | fuel + 1 =>
    match readValue? fuel depth text with
    | none => none
    | some (item, rest) =>
      match rest.dropWhile isGap with
      | ']' :: after => some ([item], after)
      | ',' :: after =>
        (readItems? fuel depth after).map fun (items, left) => (item :: items, left)
      | _ => none

/-- The members of an object up to its closing brace, at least one. -/
def readMembers? (fuel depth : Nat) (text : List Char) :
    Option (List (String × Tree) × List Char) :=
  match fuel with
  | 0 => none
  | fuel + 1 =>
    match text.dropWhile isGap with
    | '"' :: rest =>
      match readString? rest with
      | none => none
      | some (key, afterKey) =>
        match afterKey.dropWhile isGap with
        | ':' :: afterColon =>
          match readValue? fuel depth afterColon with
          | none => none
          | some (value, rest) =>
            match rest.dropWhile isGap with
            | '\x7d' :: after => some ([(String.ofList key, value)], after)
            | ',' :: after =>
              (readMembers? fuel depth after).map fun (members, left) =>
                ((String.ofList key, value) :: members, left)
            | _ => none
        | _ => none
    | _ => none

end

namespace Tree

/-- The tree of a text: one value, and nothing but blanks around it. -/
def read? (text : List Char) : Option Tree :=
  match readValue? (2 * text.length + 1) depthLimit text with
  | some (tree, rest) => if rest.all isGap then some tree else none
  | none => none

end Tree

end ScriptedSql.Json
