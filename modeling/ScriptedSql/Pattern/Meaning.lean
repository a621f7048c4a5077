import ScriptedSql.Pattern.Beginning
import ScriptedSql.Pattern.Reader
import ScriptedSql.Pattern.Size
import ScriptedSql.Text.Folding

/-!
Contract: what regular expressions ask for.

Owns:
- the pattern of an expression, in which flags, escapes and written forms are
  resolved to sets of characters and conditions on places;
- the switches that flags turn, in force from where they stand to the end of
  their group;
- the refusal of patterns that need automata which are too large.
-/

namespace ScriptedSql

namespace Pattern

structure Switches where
  ignoreCase : Bool
  multiLine : Bool
  dotAll : Bool
  unicode : Bool
  carriageReturn : Bool
  swapGreed : Bool
deriving DecidableEq, Repr

namespace Switches

def start : Switches := ⟨false, false, false, true, false, false⟩

def apply (switches : Switches) (items : List FlagItem) : Switches where
  ignoreCase := (flagState? .ignoreCase true items).getD switches.ignoreCase
  multiLine := (flagState? .multiLine true items).getD switches.multiLine
  dotAll := (flagState? .dotAll true items).getD switches.dotAll
  unicode := (flagState? .unicode true items).getD switches.unicode
  carriageReturn := (flagState? .carriageReturn true items).getD switches.carriageReturn
  swapGreed := (flagState? .swapGreed true items).getD switches.swapGreed

def closed (switches : Switches) (set : Text.CodeSet) : Text.CodeSet :=
  if switches.ignoreCase then
    if switches.unicode then set.anyCase else set.anyAsciiCase
  else
    set

/-- A set or its complement. Without Unicode a complement would hold parts of
characters, and is refused. -/
def negated (switches : Switches) (negated : Bool) (set : Text.CodeSet) :
    Except PatternFault Text.CodeSet :=
  if negated then
    if switches.unicode then .ok set.complement else .error .unicodeNeeded
  else
    .ok set

def namedClass (switches : Switches) (family : NamedClass) : Text.CodeSet :=
  if switches.unicode then family.characters else family.asciiPart.characters

def dot (switches : Switches) : Except PatternFault Text.CodeSet :=
  if switches.unicode then
    if switches.dotAll then .ok .everything
    else if switches.carriageReturn then
      .ok (Text.CodeSet.ofRanges [('\n', '\n'), ('\r', '\r')]).complement
    else .ok (Text.CodeSet.single '\n').complement
  else
    .error .unicodeNeeded

def look (switches : Switches) : Anchor → Look
  | .caret => if switches.multiLine then .lineStart switches.carriageReturn else .textStart
  | .dollar => if switches.multiLine then .lineEnd switches.carriageReturn else .textEnd
  | .textStart => .textStart
  | .textEnd => .textEnd
  | .wordBoundary => .wordBoundary switches.unicode
  | .notWordBoundary => .notWordBoundary switches.unicode
  | .wordStart => .wordStart switches.unicode
  | .wordEnd => .wordEnd switches.unicode
  | .wordStartHalf => .wordStartHalf switches.unicode
  | .wordEndHalf => .wordEndHalf switches.unicode

end Switches

namespace SetExpression

mutual

/-- The set that stands between brackets. Case is closed before a negation and
before an operation. -/
def toSet (switches : Switches) : SetExpression → Except PatternFault Text.CodeSet
  | .range first last =>
    if switches.unicode || last.toNat < 128 then .ok (.range first last)
    else .error .unicodeNeeded
  | .named family negated => switches.negated negated (switches.namedClass family)
  | .ascii family negated => switches.negated negated (switches.closed family.characters)
  | .union items => unionToSet switches items
  | .bracketed inner negated => do
    let set ← toSet switches inner
    switches.negated negated (switches.closed set)
  | .combined operation left right => do
    let left ← toSet switches left
    let right ← toSet switches right
    let left := switches.closed left
    let right := switches.closed right
    return match operation with
      | .intersection => left.intersection right
      | .difference => left.difference right
      | .symmetricDifference => left.symmetricDifference right

def unionToSet (switches : Switches) : List SetExpression → Except PatternFault Text.CodeSet
  | [] => .ok .empty
  | item :: rest => do
    let first ← toSet switches item
    let others ← unionToSet switches rest
    return first.union others

end

end SetExpression

namespace Expression

mutual

/-- The pattern that an expression stands for under the flags in force, and the
flags in force behind it. -/
def toPattern (switches : Switches) : Expression → Except PatternFault (Pattern × Switches)
  | .empty => .ok (.nothing, switches)
  | .flags items => .ok (.nothing, switches.apply items)
  | .literal letter => .ok (.ofSet switches.unicode (switches.closed (.single letter)), switches)
  | .byte letter =>
    if switches.unicode || letter.toNat < 128 then
      .ok (.ofSet switches.unicode (switches.closed (.single letter)), switches)
    else .error .unicodeNeeded
  | .dot => do
    let set ← switches.dot
    return (.ofSet switches.unicode set, switches)
  | .anchor place => .ok (.look (switches.look place), switches)
  | .named family negated => do
    let set ← switches.negated negated (switches.namedClass family)
    return (.ofSet switches.unicode set, switches)
  | .set inner negated => do
    let set ← inner.toSet switches
    let set ← switches.negated negated (switches.closed set)
    return (.ofSet switches.unicode set, switches)
  | .repetition inner least most marked => do
    let (pattern, after) ← toPattern switches inner
    return (pattern.repeated least most (marked == switches.swapGreed), after)
  | .group (.capture _) inner => do
    let (pattern, _) ← toPattern switches inner
    return (.capture pattern, switches)
  | .group (.plain items) inner => do
    let (pattern, _) ← toPattern (switches.apply items) inner
    return (pattern, switches)
  | .sequence items => do
    let (patterns, after) ← toPatterns switches items
    return (.inOrder patterns, after)
  | .alternatives items => do
    let (patterns, after) ← toPatterns switches items
    return (.anyOf patterns, after)

def toPatterns (switches : Switches) :
    List Expression → Except PatternFault (List Pattern × Switches)
  | [] => .ok ([], switches)
  | item :: rest => do
    let (first, afterFirst) ← toPattern switches item
    let (others, after) ← toPatterns afterFirst rest
    return (first :: others, after)

end

end Expression

/-- The pattern that a text stands for. It must be searched for without an automaton
or have small ones. -/
def read (text : List Char) : Except PatternFault Pattern := do
  let expression ← Expression.read text
  let (pattern, _) ← expression.toPattern .start
  if pattern.isPlain || pattern.isSmall then return pattern else .error .tooLarge

end Pattern

end ScriptedSql
