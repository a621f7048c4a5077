/-!
Contract: sets of code points, written as the places where membership changes.

Owns:
- the representation and its membership test;
- sets of given code points and of ranges, and the ranges of a set;
- union, intersection, differences and complement.

Does not own: the tables of particular properties of characters (`Text.Word`,
`Text.Letter`, `Text.Folding`, `Text.Quoted`).
-/

namespace ScriptedSql.Text

/-- A set of code points. `changes` is increasing: counting from zero, code
points are outside the set up to the first entry, inside it up to the second,
outside up to the third, and so on. -/
structure CodeSet where
  changes : Array Nat
deriving DecidableEq, Repr

namespace CodeSet

/-- How many entries of `changes` between `low` and `high` (all before `low`
counted in) are at most `code`, found by halving the interval. -/
def rank (changes : Array Nat) (code low high : Nat) : Nat :=
  if low < high then
    let middle := (low + high) / 2
    if changes.getD middle 0 ≤ code then
      rank changes code (middle + 1) high
    else
      rank changes code low middle
  else
    low
termination_by high - low

/-- A code point is in the set when membership changed an odd number of times
up to it. -/
def has (set : CodeSet) (code : Nat) : Bool :=
  rank set.changes code 0 set.changes.size % 2 == 1

def contains (set : CodeSet) (character : Char) : Bool :=
  set.has character.toNat

def empty : CodeSet := ⟨#[]⟩

/-- All characters: the code points without the surrogates. -/
def everything : CodeSet := ⟨#[0, 0xd800, 0xe000, 0x110000]⟩

/-- A change at `place` if the kept set is changed there. -/
def changeAt (place : Nat) (before after : Bool) (rest : List Nat) : List Nat :=
  if before = after then rest else place :: rest

/-- The changes of the set of the code points that `keep` holds of. It is asked
about their membership in two sets, whose changes are walked side by side; `left`
and `right` tell on which side of the sets the walk stands. -/
def combineChanges (keep : Bool → Bool → Bool) (left right : Bool) :
    List Nat → List Nat → List Nat
  | [], [] => []
  | place :: lefts, [] =>
    changeAt place (keep left right) (keep (!left) right)
      (combineChanges keep (!left) right lefts [])
  | [], place :: rights =>
    changeAt place (keep left right) (keep left (!right))
      (combineChanges keep left (!right) [] rights)
  | first :: lefts, second :: rights =>
    if first < second then
      changeAt first (keep left right) (keep (!left) right)
        (combineChanges keep (!left) right lefts (second :: rights))
    else if second < first then
      changeAt second (keep left right) (keep left (!right))
        (combineChanges keep left (!right) (first :: lefts) rights)
    else
      changeAt first (keep left right) (keep (!left) (!right))
        (combineChanges keep (!left) (!right) lefts rights)
termination_by lefts rights => lefts.length + rights.length

/-- The code points of which `keep` holds; it must not hold of those in neither
set. -/
def combine (keep : Bool → Bool → Bool) (left right : CodeSet) : CodeSet :=
  ⟨(combineChanges keep false false left.changes.toList right.changes.toList).toArray⟩

def union (left right : CodeSet) : CodeSet :=
  combine (fun left right => left || right) left right

def intersection (left right : CodeSet) : CodeSet :=
  combine (fun left right => left && right) left right

def difference (left right : CodeSet) : CodeSet :=
  combine (fun left right => left && !right) left right

def symmetricDifference (left right : CodeSet) : CodeSet :=
  combine (fun left right => left != right) left right

/-- The characters that are not in a set. -/
def complement (set : CodeSet) : CodeSet :=
  everything.difference set

def single (character : Char) : CodeSet :=
  ⟨#[character.toNat, character.toNat + 1]⟩

def range (first last : Char) : CodeSet :=
  if first ≤ last then everything.intersection ⟨#[first.toNat, last.toNat + 1]⟩ else empty

def ofRanges (ranges : List (Char × Char)) : CodeSet :=
  ranges.foldr (fun (first, last) others => (range first last).union others) empty

/-- The changes of the set of the code points of an increasing list. -/
def changesOf : List Nat → List Nat
  | [] => []
  | code :: rest =>
    match changesOf rest with
    | [] => [code, code + 1]
    | next :: others =>
      if code = next then next :: others
      else if code + 1 = next then code :: others
      else code :: (code + 1) :: next :: others

def ofCodes (codes : List Nat) : CodeSet :=
  ⟨(changesOf (codes.mergeSort fun left right => decide (left ≤ right))).toArray⟩

/-- Pairs of neighbours, the second one of each lowered by one. -/
def pairs : List Nat → List (Nat × Nat)
  | first :: next :: rest => (first, next - 1) :: pairs rest
  | _ => []

/-- The first and the last code point of each unbroken run of members. -/
def ranges (set : CodeSet) : List (Nat × Nat) :=
  pairs set.changes.toList

def only? (set : CodeSet) : Option Char :=
  match set.ranges with
  | [(first, last)] => if first = last then some (Char.ofNat first) else none
  | _ => none

def first? (set : CodeSet) : Option Nat :=
  set.changes[0]?

def last? (set : CodeSet) : Option Nat :=
  set.changes.back?.map (· - 1)

end CodeSet

end ScriptedSql.Text
