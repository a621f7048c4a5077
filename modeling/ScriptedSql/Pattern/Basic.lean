import ScriptedSql.Pattern.CharClass
import ScriptedSql.Text.Encoding

/-!
Contract: patterns, which say what a part of a text has to be like.

Owns:
- the conditions on places and when they hold;
- patterns in their simplest form, and the functions that build them so:
  sequences and choices are flat, literals that meet are joined, a choice among
  single characters is a set, and parts with which all branches of a choice begin
  stand in front of it;
- the lengths of what a pattern is found in.

Does not own: the written form of patterns (`Pattern.Expression`).
-/

namespace ScriptedSql

/-- A condition on a place between two characters. With `unicode`, words are made
of the word characters of all scripts, otherwise of the ASCII ones. -/
inductive Pattern.Look where
  | textStart
  | textEnd
  | lineStart (carriageReturn : Bool)
  | lineEnd (carriageReturn : Bool)
  | wordBoundary (unicode : Bool)
  | notWordBoundary (unicode : Bool)
  | wordStart (unicode : Bool)
  | wordEnd (unicode : Bool)
  | wordStartHalf (unicode : Bool)
  | wordEndHalf (unicode : Bool)
deriving DecidableEq, Repr

/-- What a part of a text has to be like. With `unicode`, a set was asked for among
the characters of all scripts, otherwise among the ASCII ones; they differ even where
they have the same members. A `greedy` repetition prefers many. -/
inductive Pattern where
  | nothing
  | literal (characters : List Char)
  | oneOf (set : Text.CodeSet) (unicode : Bool)
  | look (condition : Pattern.Look)
  | capture (inner : Pattern)
  | sequence (first second : Pattern)
  | choice (first second : Pattern)
  | repetition (inner : Pattern) (least : Nat) (most : Option Nat) (greedy : Bool)
deriving DecidableEq, Repr

namespace Pattern

namespace Look

def inWord (unicode : Bool) : Option Char → Bool
  | none => false
  | some letter =>
    if unicode then NamedClass.word.characters.contains letter
    else AsciiClass.word.characters.contains letter

/-- Whether a place between two characters, either of which may be missing at an
end of the text, meets the condition. -/
def holds (before after : Option Char) : Look → Bool
  | .textStart => before.isNone
  | .textEnd => after.isNone
  | .lineStart false => before.isNone || before == some '\n'
  | .lineStart true =>
    before.isNone || before == some '\n' || (before == some '\r' && after != some '\n')
  | .lineEnd false => after.isNone || after == some '\n'
  | .lineEnd true =>
    after.isNone || after == some '\r' || (after == some '\n' && before != some '\r')
  | .wordBoundary unicode => inWord unicode before != inWord unicode after
  | .notWordBoundary unicode => inWord unicode before == inWord unicode after
  | .wordStart unicode => !inWord unicode before && inWord unicode after
  | .wordEnd unicode => inWord unicode before && !inWord unicode after
  | .wordStartHalf unicode => !inWord unicode before
  | .wordEndHalf unicode => !inWord unicode after

end Look

/-- One character of a set; a set of one is that character, and there is only one
empty set. -/
def ofSet (unicode : Bool) (set : Text.CodeSet) : Pattern :=
  match set.only? with
  | some character => .literal [character]
  | none => .oneOf set (unicode && set.first?.isSome)

def parts : Pattern → List Pattern
  | .nothing => []
  | .sequence first second => first.parts ++ second.parts
  | pattern => [pattern]

def joinLiterals : List Pattern → List Pattern
  | [] => []
  | .literal left :: rest =>
    match joinLiterals rest with
    | .literal right :: others => .literal (left ++ right) :: others
    | others => .literal left :: others
  | part :: rest => part :: joinLiterals rest

def ofParts : List Pattern → Pattern
  | [] => .nothing
  | [part] => part
  | part :: rest => .sequence part (ofParts rest)

def inOrder (patterns : List Pattern) : Pattern :=
  ofParts (joinLiterals (patterns.flatMap parts))

def branches : Pattern → List Pattern
  | .choice first second => first.branches ++ second.branches
  | pattern => [pattern]

def ofBranches : List Pattern → Pattern
  | [] => .oneOf .empty false
  | [branch] => branch
  | branch :: rest => .choice branch (ofBranches rest)

def character? : Pattern → Option Char
  | .literal [character] => some character
  | _ => none

def set? : Pattern → Option Text.CodeSet
  | .oneOf set _ => some set
  | _ => none

/-- The set that branches choose from when all are single characters, or when all
are sets. -/
def merged? (branches : List Pattern) : Option Text.CodeSet :=
  match branches.mapM character? with
  | some characters => some (.ofCodes (characters.map Char.toNat))
  | none => (branches.mapM set?).map (·.foldr .union .empty)

/-- A choice among branches of which none is a choice. -/
def amongBranches (branches : List Pattern) : Pattern :=
  match branches with
  | [branch] => branch
  | _ =>
    match merged? branches with
    | some set => ofSet true set
    | none => ofBranches branches

def literal? : Pattern → Option (List Char)
  | .literal characters => some characters
  | _ => none

def literals? (pattern : Pattern) : Option (List (List Char)) :=
  pattern.branches.mapM literal?

def hasCapture : Pattern → Bool
  | .capture _ => true
  | .sequence first second => first.hasCapture || second.hasCapture
  | .choice first second => first.hasCapture || second.hasCapture
  | .repetition inner _ _ _ => inner.hasCapture
  | _ => false

/-- The parts that two lists begin with. Groups are all different. -/
def sharedParts : List Pattern → List Pattern → List Pattern
  | left :: lefts, right :: rights =>
    if left = right ∧ !left.hasCapture then left :: sharedParts lefts rights else []
  | _, _ => []

/-- The parts of a sequence; all else has none. -/
def sequenceParts : Pattern → List Pattern
  | .sequence first second => (Pattern.sequence first second).parts
  | _ => []

def sharedStart : List Pattern → List Pattern
  | [] => []
  | first :: rest =>
    rest.foldl (fun shared branch => sharedParts shared branch.sequenceParts) first.sequenceParts

def anyOf (patterns : List Pattern) : Pattern :=
  let among := patterns.flatMap branches
  match among with
  | [branch] => branch
  | _ =>
    match sharedStart among with
    | [] => amongBranches among
    | start =>
      let remainders := among.map fun branch => inOrder (branch.parts.drop start.length)
      inOrder (start ++ [amongBranches (remainders.flatMap branches)])

/-- The fewest bytes of a text that a pattern is found in; none if it is found in
no text, or if a choice has such a branch. -/
def shortest? : Pattern → Option Nat
  | .nothing => some 0
  | .literal characters => some (Text.byteCount characters)
  | .oneOf set _ => set.first?.map fun code => (Char.ofNat code).utf8Size
  | .look _ => some 0
  | .capture inner => inner.shortest?
  | .sequence first second => do return (← first.shortest?) + (← second.shortest?)
  | .choice first second => do return min (← first.shortest?) (← second.shortest?)
  | .repetition inner least _ _ => inner.shortest?.map (· * least)

/-- The most bytes of a text that a pattern is found in; none if there is no bound
or if a set is empty. -/
def longest? : Pattern → Option Nat
  | .nothing => some 0
  | .literal characters => some (Text.byteCount characters)
  | .oneOf set _ => set.last?.map fun code => (Char.ofNat code).utf8Size
  | .look _ => some 0
  | .capture inner => inner.longest?
  | .sequence first second => do return (← first.longest?) + (← second.longest?)
  | .choice first second => do return max (← first.longest?) (← second.longest?)
  | .repetition inner _ most _ => do return (← inner.longest?) * (← most)

/-- A pattern repeated at least `least` and at most `most` times. What takes no
characters need not be repeated more than once. -/
def repeated (inner : Pattern) (least : Nat) (most : Option Nat) (greedy : Bool) : Pattern :=
  let (least, most) : Nat × Option Nat :=
    if inner.longest? = some 0 then (min least 1, some (min (most.getD 1) 1)) else (least, most)
  if most = some 0 then .nothing
  else if least = 1 ∧ most = some 1 then inner
  else .repetition inner least most greedy

end Pattern

end ScriptedSql
