import ScriptedSql.Pattern.Expression
import ScriptedSql.Text.Letter
import ScriptedSql.Text.Numeral

/-!
Contract: reading regular expressions.

Owns:
- the grammar of escapes, sets in brackets, flags, groups and repetitions, with
  the reasons for which an expression is refused;
- verbose mode, in which blanks and comments between tokens are skipped.

Every reader takes the characters that are left and answers with those behind
what it read.
-/

namespace ScriptedSql.Pattern

inductive PatternFault where
  | unclosedGroup
  | unopenedGroup
  | groupName
  | duplicateName
  | lookAround
  | backreference
  | unknownFlag
  | repeatedFlag
  | danglingNegation
  | nothingToRepeat
  | unclosedCount
  | missingCount
  | countTooLarge
  | countOrder
  | unclosedSet
  | setMember
  | rangeOrder
  | unknownEscape
  | unfinishedEscape
  | badCodePoint
  | unknownProperty
  | unknownBoundary
  | unicodeNeeded
  | tooDeep
  | tooLarge
deriving DecidableEq, Repr

abbrev Reading (α : Type) := Except PatternFault (α × List Char)

/-- Drop blanks and comments, from inside a comment or from outside. -/
def skipVerbose : Bool → List Char → List Char
  | _, [] => []
  | true, character :: rest => skipVerbose (character != '\n') rest
  | false, character :: rest =>
    if Text.isBlank character then skipVerbose false rest
    else if character = '#' then skipVerbose true rest
    else character :: rest

def skipSpace (verbose : Bool) (text : List Char) : List Char :=
  if verbose then skipVerbose false text else text

/-- One character of an expression, or what an escape stands for. -/
inductive Primitive where
  | literal (character : Char)
  | byte (character : Char)
  | dot
  | anchor (anchor : Anchor)
  | named (family : NamedClass) (negated : Bool)
deriving DecidableEq, Repr

def characterOf (code : Nat) : Except PatternFault Char :=
  if code.isValidChar then .ok (Char.ofNat code) else .error .badCodePoint

/-- Exactly `count` hexadecimal digits, added to a number. -/
def readHexDigits (verbose : Bool) : Nat → Nat → List Char → Reading Nat
  | 0, number, text => .ok (number, text)
  | _ + 1, _, [] => .error .unfinishedEscape
  | count + 1, number, character :: rest =>
    match Text.hexValue? character with
    | none => .error .badCodePoint
    | some digit => readHexDigits verbose count (number * 16 + digit) (skipSpace verbose rest)

/-- The hexadecimal digits in braces, with their count; `fuel` bounds their
number. -/
def readBraced (verbose : Bool) : Nat → Nat → Nat → List Char → Reading (Nat × Nat)
  | 0, _, _, _ => .error .unfinishedEscape
  | fuel + 1, count, number, text =>
    match skipSpace verbose text with
    | [] => .error .unfinishedEscape
    | '\x7d' :: rest => .ok ((count, number), skipSpace verbose rest)
    | character :: rest =>
      match Text.hexValue? character with
      | none => .error .badCodePoint
      | some digit => readBraced verbose fuel (count + 1) (number * 16 + digit) rest

/-- The code point behind the letter of a hexadecimal escape: `width` digits, or
any number of them in braces. -/
def readHex (verbose : Bool) (width : Nat) (text : List Char) :
    Except PatternFault (Primitive × List Char) := do
  match skipSpace verbose text with
  | [] => .error .unfinishedEscape
  | '\x7b' :: rest =>
    let ((count, number), after) ← readBraced verbose (rest.length + 1) 0 0 rest
    if count = 0 then .error .badCodePoint
    else
      let character ← characterOf number
      return (.literal character, after)
  | start =>
    let (number, after) ← readHexDigits verbose width 0 start
    let character ← characterOf number
    return (if width = 2 then .byte character else .literal character, after)

def isBoundaryCharacter (character : Char) : Bool :=
  character.isAlpha || character == '-'

/-- The name of a word boundary up to the brace behind it; `fuel` bounds its
length. -/
def readBoundaryName (verbose : Bool) : Nat → List Char → List Char → Reading (List Char)
  | 0, _, _ => .error .unknownBoundary
  | fuel + 1, name, text =>
    match text with
    | [] => .error .unknownBoundary
    | '\x7d' :: rest => .ok (name.reverse, rest)
    | character :: rest =>
      if isBoundaryCharacter character then
        readBoundaryName verbose fuel (character :: name) (skipSpace verbose rest)
      else
        .error .unknownBoundary

/-- What stands behind the escape of a word boundary: a name in braces makes it a
boundary of one side, while braces that hold no name are left to be read as a
count. -/
def readBoundary (verbose : Bool) (text : List Char) :
    Except PatternFault (Primitive × List Char) := do
  match text with
  | '\x7b' :: rest =>
    match skipSpace verbose rest with
    | [] => .error .unknownBoundary
    | start :: others =>
      if isBoundaryCharacter start then
        let (name, after) ← readBoundaryName verbose (others.length + 2) [] (start :: others)
        let name := String.ofList name
        if name = "start" then return (.anchor .wordStart, after)
        else if name = "end" then return (.anchor .wordEnd, after)
        else if name = "start-half" then return (.anchor .wordStartHalf, after)
        else if name = "end-half" then return (.anchor .wordEndHalf, after)
        else .error .unknownBoundary
      else
        return (.anchor .wordBoundary, text)
  | _ => return (.anchor .wordBoundary, text)

/-- Whether a backslash in front makes a character stand for itself: all ASCII
characters but letters, digits and angle brackets. -/
def isEscapable (character : Char) : Bool :=
  character.toNat < 128 && !character.isAlphanum && character != '<' && character != '>'

def readEscape (verbose : Bool) : List Char → Reading Primitive
  | [] => .error .unfinishedEscape
  | letter :: rest =>
    if letter.isDigit then .error .backreference
    else if isEscapable letter then .ok (.literal letter, rest)
    else
      match letter with
      | 'x' => readHex verbose 2 rest
      | 'u' => readHex verbose 4 rest
      | 'U' => readHex verbose 8 rest
      | 'p' | 'P' => .error .unknownProperty
      | 'd' => .ok (.named .digit false, rest)
      | 's' => .ok (.named .space false, rest)
      | 'w' => .ok (.named .word false, rest)
      | 'D' => .ok (.named .digit true, rest)
      | 'S' => .ok (.named .space true, rest)
      | 'W' => .ok (.named .word true, rest)
      | 'a' => .ok (.literal '\x07', rest)
      | 'f' => .ok (.literal '\x0c', rest)
      | 't' => .ok (.literal '\t', rest)
      | 'n' => .ok (.literal '\n', rest)
      | 'r' => .ok (.literal '\r', rest)
      | 'v' => .ok (.literal '\x0b', rest)
      | 'A' => .ok (.anchor .textStart, rest)
      | 'z' => .ok (.anchor .textEnd, rest)
      | 'b' => readBoundary verbose rest
      | 'B' => .ok (.anchor .notWordBoundary, rest)
      | '<' => .ok (.anchor .wordStart, rest)
      | '>' => .ok (.anchor .wordEnd, rest)
      | _ => .error .unknownEscape

/-- A class of ASCII characters behind the bracket that opens it, as in the sets
of the portable shells; none if it is something else. -/
def readAsciiClass? (text : List Char) : Option (SetExpression × List Char) :=
  match text with
  | ':' :: rest =>
    let (negated, start) : Bool × List Char :=
      match rest with
      | '^' :: after => (true, after)
      | after => (false, after)
    match start.dropWhile (· != ':') with
    | ':' :: ']' :: after =>
      (AsciiClass.ofName? (String.ofList (start.takeWhile (· != ':')))).map fun family =>
        (.ascii family negated, after)
    | _ => none
  | _ => none

def readSetItem (verbose : Bool) : List Char → Reading Primitive
  | [] => .error .unclosedSet
  | '\\' :: rest => readEscape verbose rest
  | character :: rest => .ok (.literal character, rest)

/-- A primitive as an item of a set, which anchors are not. -/
def Primitive.toSetItem : Primitive → Except PatternFault SetExpression
  | .literal character => .ok (.range character character)
  | .byte character => .ok (.range character character)
  | .named family negated => .ok (.named family negated)
  | _ => .error .setMember

/-- A primitive as the end of a range, which must be a character. -/
def Primitive.toRangeEnd : Primitive → Except PatternFault Char
  | .literal character => .ok character
  | .byte character => .ok character
  | _ => .error .setMember

/-- The character that decides whether a hyphen makes a range. In verbose mode
blanks do not count, nor does the sign that begins a comment, but what stands in
the comment does. -/
def beyondHyphen? (verbose : Bool) (text : List Char) : Option Char :=
  if verbose then
    match text.dropWhile Text.isBlank with
    | '#' :: rest => (rest.dropWhile Text.isBlank).head?
    | start => start.head?
  else
    text.head?

/-- An item or a range of a set. A hyphen in front of the closing bracket, or of
another hyphen, makes no range. -/
def readSetRange (verbose : Bool) (text : List Char) :
    Except PatternFault (SetExpression × List Char) := do
  let (first, afterFirst) ← readSetItem verbose text
  match skipSpace verbose afterFirst with
  | [] => .error .unclosedSet
  | '-' :: rest =>
    let beyond? := beyondHyphen? verbose rest
    if beyond? = some ']' ∨ beyond? = some '-' then
      let item ← first.toSetItem
      return (item, '-' :: rest)
    else
      let (last, afterLast) ← readSetItem verbose (skipSpace verbose rest)
      let low ← first.toRangeEnd
      let high ← last.toRangeEnd
      if low ≤ high then return (.range low high, afterLast) else .error .rangeOrder
  | start =>
    let item ← first.toSetItem
    return (item, start)

/-- Hyphens at the start of a set stand for themselves. -/
def readHyphens (verbose : Bool) : Nat → List SetExpression → List Char →
    Reading (List SetExpression)
  | 0, _, _ => .error .unclosedSet
  | fuel + 1, items, text =>
    match text with
    | [] => .error .unclosedSet
    | '-' :: rest =>
      readHyphens verbose fuel (.range '-' '-' :: items) (skipSpace verbose rest)
    | start => .ok (items, start)

/-- What stands between the bracket that opens a set and its first item: the sign
of negation, hyphens, and a closing bracket that stands for itself. -/
def readSetStart (verbose : Bool) (text : List Char) :
    Except PatternFault ((Bool × List SetExpression) × List Char) := do
  let (negated, start) : Bool × List Char :=
    match skipSpace verbose text with
    | '^' :: rest => (true, skipSpace verbose rest)
    | start => (false, start)
  let (items, afterHyphens) ← readHyphens verbose (start.length + 1) [] start
  match items, afterHyphens with
  | [], ']' :: rest =>
    match skipSpace verbose rest with
    | [] => .error .unclosedSet
    | after => return ((negated, [.range ']' ']']), after)
  | _, _ => return ((negated, items), afterHyphens)

/-- The operand on the left of an operation, if there is one, combined with what
has been read since. -/
def combineOperand : Option (SetOperation × SetExpression) → List SetExpression → SetExpression
  | none, items => .ofItems items.reverse
  | some (operation, left), items => .combined operation left (.ofItems items.reverse)

mutual

/-- A set behind the bracket that opens it, with its sign of negation; `fuel`
bounds the steps. -/
def readSet (verbose : Bool) (fuel : Nat) (text : List Char) : Reading (SetExpression × Bool) :=
  match fuel with
  | 0 => .error .unclosedSet
  | fuel + 1 =>
    match readSetStart verbose text with
    | .error fault => .error fault
    | .ok ((negated, items), rest) =>
      match readSetItems verbose fuel none items rest with
      | .error fault => .error fault
      | .ok (inner, after) => .ok ((inner, negated), after)

/-- The items and operations of a set up to the bracket that closes it. -/
def readSetItems (verbose : Bool) (fuel : Nat) (operand : Option (SetOperation × SetExpression))
    (items : List SetExpression) (text : List Char) : Reading SetExpression :=
  match fuel with
  | 0 => .error .unclosedSet
  | fuel + 1 =>
    match skipSpace verbose text with
    | [] => .error .unclosedSet
    | ']' :: rest => .ok (combineOperand operand items, rest)
    | '&' :: '&' :: rest =>
      readSetItems verbose fuel (some (.intersection, combineOperand operand items)) [] rest
    | '-' :: '-' :: rest =>
      readSetItems verbose fuel (some (.difference, combineOperand operand items)) [] rest
    | '~' :: '~' :: rest =>
      readSetItems verbose fuel (some (.symmetricDifference, combineOperand operand items)) []
        rest
    | '[' :: rest =>
      match readAsciiClass? rest with
      | some (item, after) => readSetItems verbose fuel operand (item :: items) after
      | none =>
        match readSet verbose fuel rest with
        | .error fault => .error fault
        | .ok ((inner, negated), after) =>
          readSetItems verbose fuel operand (.bracketed inner negated :: items) after
    | start =>
      match readSetRange verbose start with
      | .error fault => .error fault
      | .ok (item, after) => readSetItems verbose fuel operand (item :: items) after

end

def flagOf? : Char → Option Flag
  | 'i' => some .ignoreCase
  | 'm' => some .multiLine
  | 's' => some .dotAll
  | 'U' => some .swapGreed
  | 'u' => some .unicode
  | 'R' => some .carriageReturn
  | 'x' => some .verbose
  | _ => none

/-- Flags up to the colon or the parenthesis behind them, which is kept. No flag
and no sign of negation may come twice, and the sign not last. -/
def readFlags : List FlagItem → List Char → Reading (List FlagItem)
  | _, [] => .error .unclosedGroup
  | items, character :: rest =>
    if character = ':' ∨ character = ')' then
      if items.getLast? = some .negation then .error .danglingNegation
      else .ok (items, character :: rest)
    else
      let item? : Option FlagItem :=
        if character = '-' then some .negation else (flagOf? character).map .flag
      match item? with
      | none => .error .unknownFlag
      | some item =>
        if items.contains item then .error .repeatedFlag else readFlags (items ++ [item]) rest

/-- Whether a character may stand in the name of a group; the first one may be no
digit. -/
def isNameCharacter (isFirst : Bool) (character : Char) : Bool :=
  character == '_' ||
    if isFirst then Text.isAlphabetic character
    else character == '.' || character == '[' || character == ']' || Text.isAlphanumeric character

def readGroupName (text : List Char) : Reading String :=
  let name := text.takeWhile (· != '>')
  match text.dropWhile (· != '>'), name with
  | _ :: rest, first :: others =>
    if isNameCharacter true first && others.all (isNameCharacter false) then
      .ok (String.ofList name, rest)
    else
      .error .groupName
  | _, _ => .error .groupName

inductive Opening where
  | flags (items : List FlagItem)
  | group (head : GroupHead)
deriving DecidableEq, Repr

/-- What stands behind an opening parenthesis, up to the inside of the group. -/
def readOpening (verbose : Bool) (text : List Char) : Reading Opening :=
  match skipSpace verbose text with
  | '?' :: '=' :: _ | '?' :: '!' :: _ | '?' :: '<' :: '=' :: _ | '?' :: '<' :: '!' :: _ =>
    .error .lookAround
  | '?' :: 'P' :: '<' :: rest | '?' :: '<' :: rest =>
    match readGroupName rest with
    | .error fault => .error fault
    | .ok (name, after) => .ok (.group (.capture (some name)), after)
  | '?' :: rest =>
    match readFlags [] rest with
    | .error fault => .error fault
    | .ok (items, ')' :: after) =>
      if items.isEmpty then .error .nothingToRepeat else .ok (.flags items, after)
    | .ok (items, after) => .ok (.group (.plain items), after.drop 1)
  | start => .ok (.group (.capture none), start)

def readCountDigits (verbose : Bool) : Nat → List Nat → List Char → List Nat × List Char
  | fuel + 1, found, character :: rest =>
    match Text.digitValue? character with
    | none => (found, character :: rest)
    | some digit => readCountDigits verbose fuel (found ++ [digit]) (skipSpace verbose rest)
  | _, found, text => (found, text)

/-- A count in a repetition, with blanks around it, of 32 bits at most. -/
def readCount (verbose : Bool) (text : List Char) : Reading Nat :=
  let start := text.dropWhile Text.isBlank
  let (digits, after) := readCountDigits verbose start.length [] start
  let rest := skipSpace verbose (after.dropWhile Text.isBlank)
  if digits.isEmpty then .error .missingCount
  else if Text.numberOf 10 digits < 4294967296 then .ok (Text.numberOf 10 digits, rest)
  else .error .countTooLarge

/-- Whether the mark stands here that swaps the preference of a repetition for
many or few. -/
def readMark : List Char → Bool × List Char
  | '?' :: rest => (true, rest)
  | text => (false, text)

/-- The bounds of a repetition behind the brace that opens them, up to the brace
that closes them. -/
def readBounds (verbose : Bool) (text : List Char) :
    Except PatternFault ((Nat × Option Nat) × List Char) := do
  let start := skipSpace verbose text
  if start.isEmpty then .error .unclosedCount
  else
    let (least, afterLeast) ← readCount verbose start
    let ((low, high), closing) : (Nat × Option Nat) × List Char ←
      match afterLeast with
      | ',' :: rest =>
        match skipSpace verbose rest with
        | [] => .error .unclosedCount
        | '\x7d' :: after => pure ((least, none), '\x7d' :: after)
        | start => do
          let (most, after) ← readCount verbose start
          pure ((least, some most), after)
      | after => pure ((least, some least), after)
    match closing with
    | '\x7d' :: rest =>
      if high.all (low ≤ ·) then return ((low, high), skipSpace verbose rest)
      else .error .countOrder
    | _ => .error .unclosedCount

/-- A group that is open: what surrounds it, all in reverse order, and whether
verbose mode was in force there. -/
structure OpenGroup where
  head : GroupHead
  alternatives : List Expression
  items : List Expression
  verbose : Bool

/-- Where the reader stands: the open groups, innermost first, the names in use,
and the alternatives and items of the group that is being read, in reverse
order. -/
structure ReaderState where
  groups : List OpenGroup
  names : List String
  alternatives : List Expression
  items : List Expression
  verbose : Bool

namespace ReaderState

def start : ReaderState := ⟨[], [], [], [], false⟩

def current (state : ReaderState) : Expression :=
  .ofAlternatives ((.ofSequence state.items.reverse :: state.alternatives).reverse)

def push (state : ReaderState) (item : Expression) : ReaderState :=
  { state with items := item :: state.items }

/-- Repeat the last item. Flags cannot be repeated. -/
def repeatLast (state : ReaderState) (least : Nat) (most : Option Nat) (marked : Bool) :
    Except PatternFault ReaderState :=
  match state.items with
  | [] => .error .nothingToRepeat
  | .flags _ :: _ => .error .nothingToRepeat
  | item :: rest => .ok { state with items := .repetition item least most marked :: rest }

def «open» (state : ReaderState) : Opening → Except PatternFault ReaderState
  | .flags items =>
    .ok { state.push (.flags items) with
      verbose := (flagState? .verbose true items).getD state.verbose }
  | .group head =>
    let inside : ReaderState :=
      { state with
        groups := ⟨head, state.alternatives, state.items, state.verbose⟩ :: state.groups
        alternatives := []
        items := [] }
    match head with
    | .capture (some name) =>
      if state.names.contains name then .error .duplicateName
      else .ok { inside with names := name :: state.names }
    | .capture none => .ok inside
    | .plain items =>
      .ok { inside with verbose := (flagState? .verbose true items).getD state.verbose }

def close (state : ReaderState) : Except PatternFault ReaderState :=
  match state.groups with
  | [] => .error .unopenedGroup
  | group :: outer =>
    .ok { state with
      groups := outer
      alternatives := group.alternatives
      items := .group group.head state.current :: group.items
      verbose := group.verbose }

def alternate (state : ReaderState) : ReaderState :=
  { state with
    alternatives := .ofSequence state.items.reverse :: state.alternatives
    items := [] }

end ReaderState

def Primitive.toExpression : Primitive → Expression
  | .literal character => .literal character
  | .byte character => .byte character
  | .dot => .dot
  | .anchor place => .anchor place
  | .named family negated => .named family negated

def readPrimitive (verbose : Bool) : List Char → Reading Primitive
  | [] => .error .unfinishedEscape
  | '\\' :: rest => readEscape verbose rest
  | '.' :: rest => .ok (.dot, rest)
  | '^' :: rest => .ok (.anchor .caret, rest)
  | '$' :: rest => .ok (.anchor .dollar, rest)
  | character :: rest => .ok (.literal character, rest)

def readToken (state : ReaderState) (text : List Char) :
    Except PatternFault (ReaderState × List Char) := do
  match text with
  | '(' :: rest =>
    let (opening, after) ← readOpening state.verbose rest
    let state ← state.open opening
    return (state, after)
  | ')' :: rest =>
    let state ← state.close
    return (state, rest)
  | '|' :: rest => return (state.alternate, rest)
  | '[' :: rest =>
    let ((inner, negated), after) ← readSet state.verbose (2 * rest.length + 2) rest
    return (state.push (.set inner negated), after)
  | '?' :: rest =>
    let (marked, after) := readMark rest
    let state ← state.repeatLast 0 (some 1) marked
    return (state, after)
  | '*' :: rest =>
    let (marked, after) := readMark rest
    let state ← state.repeatLast 0 none marked
    return (state, after)
  | '+' :: rest =>
    let (marked, after) := readMark rest
    let state ← state.repeatLast 1 none marked
    return (state, after)
  | '\x7b' :: rest =>
    let _ ← state.repeatLast 0 none false
    let ((least, most), afterBounds) ← readBounds state.verbose rest
    let (marked, after) := readMark afterBounds
    let state ← state.repeatLast least most marked
    return (state, after)
  | start =>
    let (primitive, after) ← readPrimitive state.verbose start
    return (state.push primitive.toExpression, after)

/-- All tokens up to the end of the text; `fuel` bounds their number. -/
def readTokens : Nat → ReaderState → List Char → Except PatternFault Expression
  | 0, _, _ => .error .unclosedGroup
  | fuel + 1, state, text =>
    match skipSpace state.verbose text with
    | [] => if state.groups.isEmpty then .ok state.current else .error .unclosedGroup
    | start =>
      match readToken state start with
      | .error fault => .error fault
      | .ok (state, rest) => readTokens fuel state rest

def depthLimit : Nat := 250

def Expression.read (text : List Char) : Except PatternFault Expression := do
  let expression ← readTokens (text.length + 1) .start text
  if expression.depth ≤ depthLimit then return expression else .error .tooDeep

end ScriptedSql.Pattern
