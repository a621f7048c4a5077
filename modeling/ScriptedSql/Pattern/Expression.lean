import ScriptedSql.Pattern.CharClass

/-!
Contract: regular expressions as they are written.

Owns:
- the tree of an expression: characters, classes, anchors, flags, groups,
  repetitions, sequences and alternatives;
- how deep a tree is nested.

Does not own: reading (`Pattern.Reader`) and meaning (`Pattern.Meaning`).
-/

namespace ScriptedSql.Pattern

inductive Anchor where
  | caret
  | dollar
  | textStart
  | textEnd
  | wordBoundary
  | notWordBoundary
  | wordStart
  | wordEnd
  | wordStartHalf
  | wordEndHalf
deriving DecidableEq, Repr

inductive Flag where
  | ignoreCase
  | multiLine
  | dotAll
  | swapGreed
  | unicode
  | carriageReturn
  | verbose
deriving DecidableEq, Repr

/-- An item in a list of flags: a flag, or the sign behind which flags are
switched off. -/
inductive FlagItem where
  | negation
  | flag (flag : Flag)
deriving DecidableEq, Repr

inductive SetOperation where
  | intersection
  | difference
  | symmetricDifference
deriving DecidableEq, Repr

inductive SetExpression where
  | range (first last : Char)
  | named (family : NamedClass) (negated : Bool)
  | ascii (family : AsciiClass) (negated : Bool)
  | union (items : List SetExpression)
  | bracketed (inner : SetExpression) (negated : Bool)
  | combined (operation : SetOperation) (left right : SetExpression)

inductive GroupHead where
  | capture (name : Option String)
  | plain (flags : List FlagItem)
deriving DecidableEq, Repr

/-- A regular expression. A character written as `byte`, by two hexadecimal
digits, stands for a byte where Unicode is switched off. A repetition that is
`marked` has the mark that swaps its preference for many or few. -/
inductive Expression where
  | empty
  | flags (items : List FlagItem)
  | literal (character : Char)
  | byte (character : Char)
  | dot
  | anchor (anchor : Anchor)
  | named (family : NamedClass) (negated : Bool)
  | set (inner : SetExpression) (negated : Bool)
  | repetition (inner : Expression) (least : Nat) (most : Option Nat) (marked : Bool)
  | group (head : GroupHead) (inner : Expression)
  | sequence (items : List Expression)
  | alternatives (items : List Expression)

/-- What a list of flags sets a flag to, if it is in the list. -/
def flagState? (wanted : Flag) : Bool → List FlagItem → Option Bool
  | _, [] => none
  | _, .negation :: rest => flagState? wanted false rest
  | value, .flag flag :: rest => if flag = wanted then some value else flagState? wanted value rest

namespace SetExpression

/-- Items side by side; one alone stands for itself. -/
def ofItems : List SetExpression → SetExpression
  | [item] => item
  | items => .union items

mutual

def depth : SetExpression → Nat
  | .range _ _ => 0
  | .named _ _ => 0
  | .ascii _ _ => 0
  | .union [] => 0
  | .union (item :: rest) => max (depth item) (depths rest) + 1
  | .bracketed inner _ => depth inner + 1
  | .combined _ left right => max (depth left) (depth right) + 1

def depths : List SetExpression → Nat
  | [] => 0
  | item :: rest => max (depth item) (depths rest)

end

end SetExpression

namespace Expression

def ofSequence : List Expression → Expression
  | [] => .empty
  | [item] => item
  | items => .sequence items

def ofAlternatives : List Expression → Expression
  | [item] => item
  | items => .alternatives items

mutual

/-- The depth of groups, repetitions, brackets, sequences and alternatives. -/
def depth : Expression → Nat
  | .set inner _ => inner.depth + 1
  | .repetition inner _ _ _ => depth inner + 1
  | .group _ inner => depth inner + 1
  | .sequence items => depths items + 1
  | .alternatives items => depths items + 1
  | _ => 0

def depths : List Expression → Nat
  | [] => 0
  | item :: rest => max (depth item) (depths rest)

end

end Expression

end ScriptedSql.Pattern
