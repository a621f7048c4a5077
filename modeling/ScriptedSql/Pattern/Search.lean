import ScriptedSql.Pattern.Meaning

/-!
Contract: searching a text for a pattern.

Owns:
- sets of places of a text, as the bits of a natural;
- the places that a pattern reaches from given ones, and whether a text has any
  part that is like the pattern.

A text of `n` characters has `n + 1` places, the place `i` before its character
`i`. All start places are followed at once, so the cost does not grow with the
number of ways to match.
-/

namespace ScriptedSql.Pattern

/-- A pattern laid over one text: the characters of each set and the places of
each condition are known. -/
inductive Overlay where
  | nothing
  | consume (characters : Nat)
  | hold (places : Nat)
  | sequence (first second : Overlay)
  | choice (first second : Overlay)
  | repetition (inner : Overlay) (least : Nat) (most : Option Nat)

def charactersWhere (test : Char → Bool) : List Char → Nat
  | [] => 0
  | letter :: rest => 2 * charactersWhere test rest + (if test letter then 1 else 0)

/-- The places of a text that pass a test on the characters around them, as
bits. -/
def placesWhere (test : Option Char → Option Char → Bool) (before : Option Char) :
    List Char → Nat
  | [] => if test before none then 1 else 0
  | letter :: rest =>
    2 * placesWhere test (some letter) rest + (if test before (some letter) then 1 else 0)

def overlay (text : List Char) : Pattern → Overlay
  | .nothing => .nothing
  | .literal characters =>
    characters.foldr
      (fun letter rest => .sequence (.consume (charactersWhere (· == letter) text)) rest) .nothing
  | .oneOf set _ => .consume (charactersWhere set.contains text)
  | .look condition =>
    .hold (placesWhere (fun before after => condition.holds before after) none text)
  | .capture inner => inner.overlay text
  | .sequence first second => .sequence (first.overlay text) (second.overlay text)
  | .choice first second => .choice (first.overlay text) (second.overlay text)
  | .repetition inner least most _ => .repetition (inner.overlay text) least most

/-- The places reached by `count` steps, each from those of the one before. There
is nothing to do once no place is left or a step changes nothing. -/
def reachAfter (step : Nat → Nat) : Nat → Nat → Nat
  | 0, places => places
  | count + 1, places =>
    if places = 0 then 0
    else
      let next := step places
      if next = places then places else reachAfter step count next

/-- The places reached by at most `count` steps. `reached` are those already
found, `frontier` those found last. -/
def reachWithin (step : Nat → Nat) : Nat → Nat → Nat → Nat
  | 0, reached, _ => reached
  | count + 1, reached, frontier =>
    let found := step frontier
    let fresh := found ^^^ (found &&& reached)
    if fresh = 0 then reached else reachWithin step count (reached ||| fresh) fresh

namespace Overlay

/-- The places that a pattern reaches from given ones. More steps than there are
places find nothing new, so repetitions are cut off there. -/
def reach (placeCount : Nat) : Overlay → Nat → Nat
  | .nothing, places => places
  | .consume characters, places => (places &&& characters) <<< 1
  | .hold held, places => places &&& held
  | .sequence first second, places => second.reach placeCount (first.reach placeCount places)
  | .choice first second, places =>
    first.reach placeCount places ||| second.reach placeCount places
  | .repetition inner least most, places =>
    let begun := reachAfter (inner.reach placeCount) (min least placeCount) places
    let more :=
      match most with
      | none => placeCount
      | some most => min (most - least) placeCount
    reachWithin (inner.reach placeCount) more begun begun

end Overlay

/-- Whether some part of a text is like the pattern. -/
def found (pattern : Pattern) (text : List Char) : Bool :=
  let placeCount := text.length + 1
  (pattern.overlay text).reach placeCount (Nat.pow 2 placeCount - 1) != 0

end ScriptedSql.Pattern
