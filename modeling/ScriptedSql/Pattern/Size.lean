import ScriptedSql.Pattern.Plan

/-!
Contract: the size of the automata that search for a pattern.

Owns:
- shelves with a fixed number of places for what has been made, so that it need not
  be made again. What is put on a place takes the place of what was there, so a
  shelf may forget but never mistakes one key for another;
- automata as they are made from their plans: the states of a set of characters
  are shared as long as a shelf remembers them;
- the memory of the automaton of each direction, and the limit on both.
-/

namespace ScriptedSql.Pattern

/-- Numbers of things made, each with the numbers that say what it is. -/
structure Shelf where
  places : Array (Option (List Nat × Nat))

namespace Shelf

def ofCapacity (capacity : Nat) : Shelf := ⟨Array.replicate capacity none⟩

/-- Mix a number into 64 bits. -/
def mix (bits : UInt64) (number : Nat) : UInt64 :=
  (bits ^^^ UInt64.ofNat number) * 1099511628211

def place (shelf : Shelf) (key : List Nat) : Nat :=
  (key.foldl mix 14695981039346656037).toNat % shelf.places.size

/-- What has been put on the shelf for a key, unless something else has taken its
place. -/
def find? (shelf : Shelf) (key : List Nat) : Option Nat :=
  match shelf.places[shelf.place key]? with
  | some (some (other, made)) => if other = key then some made else none
  | _ => none

def put (shelf : Shelf) (key : List Nat) (made : Nat) : Shelf :=
  ⟨shelf.places.setIfInBounds (shelf.place key) (some (key, made))⟩

end Shelf

/-- The greatest size of an automaton: ten mebibytes. -/
def sizeLimit : Nat := 10485760

/-- An automaton in the making. States are numbered in the order in which they
are made; the shelf has those of sets of characters. A state of one set is never
found for another: all states lead on to states of their own set, whose numbers
are part of what is looked for. -/
structure Draft where
  tally : Tally
  shelf : Shelf

namespace Draft

def shelfCapacity : Direction → Nat
  | .forward => 10000
  | .backward => 1000

def start (direction : Direction) : Draft :=
  ⟨.ofStates 0, .ofCapacity (shelfCapacity direction)⟩

def add (draft : Draft) (tally : Tally) : Draft :=
  { draft with tally := draft.tally + tally }

def isLarge (draft : Draft) : Bool := decide (sizeLimit < draft.tally.size)

/-- The number of the state for a key, which is made unless it is on the shelf. -/
def sharedState (draft : Draft) (key : List Nat) (lists : Tally) : Nat × Draft :=
  match draft.shelf.find? key with
  | some state => (state, draft)
  | none =>
    let state := draft.tally.states
    (state, ⟨draft.tally + .ofStates 1 + lists, draft.shelf.put key state⟩)

/-- The state from which any of several spans is read forward to the state
`target`, made behind those that follow it; no span is longer than `length`. What
a state does is which ranges lead to which states. -/
def readForward (target : Nat) : Nat → List Text.ByteSpan → Draft → Nat × Draft
  | 0, _, draft => (target, draft)
  | length + 1, spans, draft =>
    let branches := Text.ByteSpan.branches spans
    let (key, draft) : List Nat × Draft :=
      branches.foldl
        (fun (key, draft) (range, tails) =>
          if tails = [[]] then (target :: range.last :: range.first :: key, draft)
          else
            let (state, draft) := readForward target length tails draft
            (state :: range.last :: range.first :: key, draft))
        ([], draft)
    draft.sharedState key.reverse (.ofTransitions branches.length)

/-- The state from which a span is read backward to the state `target`, its first
range last. What a state does is which range leads to which state. -/
def readBackward (target : Nat) : Text.ByteSpan → Draft → Nat × Draft
  | [], draft => (target, draft)
  | range :: rest, draft =>
    let (state, draft) := draft.sharedState [target, range.first, range.last] (.ofStates 0)
    readBackward state rest draft

def addSpans (draft : Draft) (direction : Direction) (spans : List Text.ByteSpan) : Draft :=
  match direction with
  | .forward =>
    let target := draft.tally.states
    (readForward target 4 spans (draft.add (.ofStates 1))).2
  | .backward =>
    let target := draft.tally.states + 1
    spans.foldl
      (fun draft span => (readBackward target span draft).2.add (.ofBranchings 1))
      (draft.add (.ofStates 2))

/-- Repeat a step, up to the limit. -/
def addCopies (step : Draft → Draft) : Nat → Draft → Draft
  | 0, draft => draft
  | count + 1, draft => if draft.isLarge then draft else addCopies step count (step draft)

end Draft

def Plan.build (direction : Direction) : Plan → Draft → Draft
  | .fixed tally, draft => draft.add tally
  | .encodings spans, draft => draft.addSpans direction spans
  | .both first second, draft => second.build direction (first.build direction draft)
  | .copies count inner, draft => draft.addCopies (inner.build direction) count

/-- Whether a pattern begins with a condition wherever it is found. -/
def beginsWith (condition : Look) : Pattern → Bool
  | .look other => other == condition
  | .capture inner => inner.beginsWith condition
  | .sequence first second =>
    first.beginsWith condition || (first.longest? == some 0 && second.beginsWith condition)
  | .choice first second => first.beginsWith condition && second.beginsWith condition
  | .repetition inner least _ _ => 0 < least && inner.beginsWith condition
  | _ => false

/-- Whether a pattern ends with a condition wherever it is found. -/
def endsWith (condition : Look) : Pattern → Bool
  | .look other => other == condition
  | .capture inner => inner.endsWith condition
  | .sequence first second =>
    second.endsWith condition || (second.longest? == some 0 && first.endsWith condition)
  | .choice first second => first.endsWith condition && second.endsWith condition
  | .repetition inner least _ _ => 0 < least && inner.endsWith condition
  | _ => false

/-- Whether a pattern is found only at the end of the text where an automaton
starts. -/
def isAnchored (pattern : Pattern) : Direction → Bool
  | .forward => pattern.beginsWith .textStart
  | .backward => pattern.endsWith .textEnd

/-- The plan of an automaton: unless it is anchored, a loop over any bytes; then
the pattern as a group, and a state for success. -/
def automaton (pattern : Pattern) (direction : Direction) : Plan :=
  let start : Tally :=
    if pattern.isAnchored direction then .ofStates 1
    else .ofStates 3 + .ofTransitions 1 + .ofBranchings 2
  .both (.fixed start) (.both (.ofPattern direction (.capture pattern)) (.fixed (.ofStates 1)))

/-- The memory of an automaton; if it passes the limit, of a part that does. -/
def automatonSize (pattern : Pattern) (direction : Direction) : Nat :=
  ((pattern.automaton direction).build direction (.start direction)).tally.size

def isSmall (pattern : Pattern) : Bool :=
  decide (pattern.automatonSize .forward ≤ sizeLimit) &&
    decide (pattern.automatonSize .backward ≤ sizeLimit)

end ScriptedSql.Pattern
