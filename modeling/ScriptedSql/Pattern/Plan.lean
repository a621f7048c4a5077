import ScriptedSql.Pattern.Basic

/-!
Contract: plans of the automata that search for a pattern.

Owns:
- what states take: 32 bytes each; where a state has a list of the ranges of
  bytes that leave it, or of the states that it branches to, each range takes 8
  more and each branch 4;
- what the automaton for a pattern is made of and in which order, with counted
  repetitions written out.

Automata read the bytes of a text forward or backward. The forward one also has a
state at either end of each group.

Does not own: how states are shared in sets of characters (`Pattern.Size`).
-/

namespace ScriptedSql.Pattern

inductive Direction where
  | forward
  | backward
deriving DecidableEq, Repr

/-- A number of states, and the bytes of the lists that they have. -/
structure Tally where
  states : Nat
  listed : Nat
deriving DecidableEq, Repr

namespace Tally

def plus (left right : Tally) : Tally :=
  ⟨left.states + right.states, left.listed + right.listed⟩

instance : Add Tally := ⟨plus⟩

def ofStates (count : Nat) : Tally := ⟨count, 0⟩

def ofTransitions (count : Nat) : Tally := ⟨0, 8 * count⟩

def ofBranchings (count : Nat) : Tally := ⟨0, 4 * count⟩

def size (tally : Tally) : Nat := 32 * tally.states + tally.listed

end Tally

/-- What an automaton is made of, in the order in which it is made. -/
inductive Plan where
  | fixed (tally : Tally)
  | encodings (spans : List Text.ByteSpan)
  | both (first second : Plan)
  | copies (count : Nat) (inner : Plan)

def stretches : List (List UInt8) → List (List (List UInt8))
  | [] => [[]]
  | [] :: rest => [] :: stretches rest
  | word :: rest =>
    match stretches rest with
    | stretch :: others => (word :: stretch) :: others
    | [] => [[word]]

def behind (byte : UInt8) (words : List (List UInt8)) : List (List UInt8) :=
  words.filterMap fun word => if word.head? = some byte then some word.tail else none

/-- The tally of a state with several words left to read, in the order of
preference and all shorter than `length`. Words that begin alike go on in one
state, unless a word ends between them. The state for the end is not counted. -/
def treeTally : Nat → List (List UInt8) → Tally
  | 0, _ => .ofStates 0
  | length + 1, words =>
    if words.all List.isEmpty then .ofStates 0
    else
      let distinct := if words.head? = some [] then [] :: words.dropWhile List.isEmpty else words
      let cut := stretches distinct
      let begun := cut.filter (!·.isEmpty)
      begun.foldl
        (fun total stretch =>
          let bytes := (stretch.filterMap List.head?).eraseDups
          let own := Tally.ofTransitions (if bytes.length = 1 then 0 else bytes.length)
          bytes.foldl (fun total byte => total + treeTally length (behind byte stretch))
            (total + .ofStates 1 + own))
        (.ofStates 1 + .ofBranchings (begun.length + (cut.length - 1)))

def Direction.bytes (direction : Direction) (characters : List Char) : List UInt8 :=
  let bytes := characters.flatMap String.utf8EncodeChar
  match direction with
  | .forward => bytes
  | .backward => bytes.reverse

namespace Plan

/-- One character of a set. ASCII characters leave one state for another, while
the spans of the encodings of others share states. -/
def ofSet (set : Text.CodeSet) : Plan :=
  if set.last?.all (· < 128) then
    .fixed (.ofStates 2 + .ofTransitions set.ranges.length)
  else
    .encodings (Text.ByteSpan.ofSet set)

/-- A choice among literals, of which those that begin alike share states. -/
def ofLiterals (direction : Direction) (literals : List (List Char)) : Plan :=
  let words := literals.map direction.bytes
  .fixed (.ofStates 1 + treeTally ((words.map List.length).foldl max 0 + 1) words)

/-- A choice among branches, which may be literals. The states where it begins and
ends are made behind the second branch. -/
def ofBranches (direction : Direction) (literals? : Option (List (List Char))) :
    List Plan → Plan
  | first :: second :: rest =>
    match literals? with
    | some literals => ofLiterals direction literals
    | none =>
      rest.foldl (fun begun branch => .both begun (.both branch (.fixed (.ofBranchings 1))))
        (.both first (.both second (.fixed (.ofStates 2 + .ofBranchings 2))))
  | [plan] => plan
  | [] => .fixed (.ofStates 0)

/-- A part repeated. What takes no characters must not be left in a circle. -/
def repeated (inner : Plan) (consumes : Bool) : Nat → Option Nat → Plan
  | 0, none =>
    if consumes then .both (.fixed (.ofStates 1 + .ofBranchings 2)) inner
    else .both inner (.fixed (.ofStates 3 + .ofBranchings 4))
  | least, none => .both (.copies least inner) (.fixed (.ofStates 1 + .ofBranchings 2))
  | 0, some 1 =>
    .both (.fixed (.ofStates 1)) (.both inner (.fixed (.ofStates 1 + .ofBranchings 2)))
  | least, some most =>
    let begun : Plan := if least = 0 then .fixed (.ofStates 1) else .copies least inner
    if least = most then begun
    else
      .both begun
        (.both (.fixed (.ofStates 1))
          (.copies (most - least) (.both (.fixed (.ofStates 1 + .ofBranchings 2)) inner)))

/-- The plans of the branches of a pattern; all but choices have one. -/
def branchesOf (direction : Direction) : Pattern → List Plan
  | .nothing => [.fixed (.ofStates 1)]
  | .literal characters => [.fixed (.ofStates (Text.byteCount characters))]
  | .oneOf set _ => [ofSet set]
  | .look _ => [.fixed (.ofStates 1)]
  | .capture inner =>
    let plan := ofBranches direction inner.literals? (branchesOf direction inner)
    match direction with
    | .forward => [.both (.fixed (.ofStates 1)) (.both plan (.fixed (.ofStates 1)))]
    | .backward => [plan]
  | .sequence first second =>
    let plan := ofBranches direction first.literals? (branchesOf direction first)
    let other := ofBranches direction second.literals? (branchesOf direction second)
    match direction with
    | .forward => [.both plan other]
    | .backward => [.both other plan]
  | .choice first second => branchesOf direction first ++ branchesOf direction second
  | .repetition inner least most _ =>
    [(ofBranches direction inner.literals? (branchesOf direction inner)).repeated
      (inner.shortest?.any (0 < ·)) least most]

def ofPattern (direction : Direction) (pattern : Pattern) : Plan :=
  ofBranches direction pattern.literals? (branchesOf direction pattern)

end Plan

end ScriptedSql.Pattern
