import ScriptedSql.Pattern.Basic

/-!
Contract: the words with which what is found begins.

Owns:
- the beginnings of a pattern in the order of preference, as long as they are few
  and short;
- the choice of beginnings to look for, which may be shorter than those known;
- patterns that are found wherever one of some words is, so that no automaton is
  needed to search for them.

A beginning is whole if it is all that is found. Beginnings that are cut, or
behind which there is more than can be told, are not whole.
-/

namespace ScriptedSql.Pattern

/-- Bytes with which what is found begins. -/
structure Beginning where
  bytes : List UInt8
  whole : Bool
deriving DecidableEq, Repr

/-- The beginnings of all that is found, in the order of preference; none if they
are too many to tell. -/
abbrev Beginnings := Option (List Beginning)

namespace Beginning

def nowhere : Beginning := ⟨[], true⟩

def opened (beginning : Beginning) : Beginning := { beginning with whole := false }

def cut (count : Nat) (beginning : Beginning) : Beginning :=
  if beginning.bytes.length ≤ count then beginning else ⟨beginning.bytes.take count, false⟩

/-- A beginning that goes on with another one, unless there may be more between
them. -/
def followedBy (first second : Beginning) : Beginning :=
  if first.whole then ⟨first.bytes ++ second.bytes, second.whole⟩ else first

/-- Beginnings side by side with the same bytes are one, which is whole if all of
them are. -/
def merged : List Beginning → List Beginning
  | [] => []
  | first :: rest =>
    match merged rest with
    | second :: others =>
      if first.bytes = second.bytes then
        ⟨first.bytes, first.whole && second.whole⟩ :: others
      else first :: second :: others
    | [] => [first]

def areWhole (all : List Beginning) : Bool := all.all whole

/-- Leave out each beginning that begins with one kept in front of it: where it
is found, so is that one, which is preferred. -/
def needed (all : List Beginning) : List Beginning :=
  all.foldl
    (fun kept beginning =>
      if kept.any fun other => other.bytes.isPrefixOf beginning.bytes then kept
      else kept ++ [beginning])
    []

end Beginning

namespace Beginnings

open Beginning

def countLimit : Nat := 250

def lengthLimit : Nat := 100

def setLimit : Nat := 10

def repetitionLimit : Nat := 10

/-- Whether nothing is told about what goes on behind the beginnings. -/
def isSettled : Beginnings → Bool
  | none => true
  | some all => all.all (!·.whole)

def opened (beginnings : Beginnings) : Beginnings := beginnings.map (·.map Beginning.opened)

/-- Beginnings that go on with others, behind which too many others stand. -/
def unknownBehind (all : List Beginning) : Beginnings :=
  if all.any (·.bytes.isEmpty) then none else some (all.map Beginning.opened)

def followedBy : Beginnings → Beginnings → Beginnings
  | none, _ => none
  | some firsts, none => unknownBehind firsts
  | some firsts, some seconds =>
    if firsts.length * seconds.length ≤ countLimit then
      let pairs := firsts.flatMap fun first =>
        if first.whole then seconds.map first.followedBy else [first]
      some ((merged pairs).map (cut lengthLimit))
    else
      unknownBehind firsts

/-- Beginnings and others that are less preferred. If they are too many, what
they have in their first four bytes may be few enough. -/
def orElse : Beginnings → Beginnings → Beginnings
  | some firsts, some seconds =>
    if firsts.length + seconds.length ≤ countLimit then some (merged (firsts ++ seconds))
    else
      let firsts := merged (firsts.map (cut 4))
      let seconds := merged (seconds.map (cut 4))
      if firsts.length + seconds.length ≤ countLimit then some (merged (firsts ++ seconds))
      else none
  | _, _ => none

/-- The beginnings of a part that stands `count` times behind given ones. -/
def repeated (start part : Beginnings) : Nat → Beginnings
  | 0 => start
  | count + 1 =>
    if start.isSettled then start else repeated (start.followedBy part) part count

/-- The characters of a set. One that has characters on both sides of the
surrogates counts those in. -/
def ofSet (set : Text.CodeSet) : Beginnings :=
  let ranges := set.ranges
  let surrogates := if set.has 0xd7ff && set.has 0xe000 then 0x800 else 0
  let count := ranges.foldl (fun count (first, last) => count + (last + 1 - first)) surrogates
  if count ≤ setLimit then
    let codes := ranges.flatMap fun (first, last) =>
      (List.range (last + 1 - first)).map (first + ·)
    some (codes.map fun code => ⟨String.utf8EncodeChar (Char.ofNat code), true⟩)
  else none

/-- Where a part of a pattern stands: behind what begins with `start` in a
sequence, or behind branches that begin with `others` in a choice. -/
inductive Place where
  | alone
  | behind (start : Beginnings)
  | beside (others : Beginnings)

namespace Place

/-- What is known of all, if the part at a place cannot change it. -/
def settled? : Place → Option Beginnings
  | .alone => none
  | .behind start => if start.isSettled then some start else none
  | .beside others => if others.isNone then some none else none

/-- What is known of all, from the beginnings of the part at a place. -/
def including (place : Place) (part : Beginnings) : Beginnings :=
  match place with
  | .alone => part
  | .behind start => start.followedBy part
  | .beside others => others.orElse part

end Place

/-- The beginnings of a pattern together with those of what stands in front of it
at its place. -/
def ofPattern (place : Place) (pattern : Pattern) : Beginnings :=
  match place.settled? with
  | some known => known
  | none =>
    match pattern with
    | .nothing => place.including (some [nowhere])
    | .literal characters =>
      let bytes := characters.flatMap String.utf8EncodeChar
      place.including (some [cut lengthLimit ⟨bytes, true⟩])
    | .oneOf set _ => place.including (ofSet set)
    | .look _ => place.including (some [nowhere])
    | .capture inner => place.including (ofPattern .alone inner)
    | .sequence first second =>
      match place with
      | .behind _ => ofPattern (.behind (ofPattern place first)) second
      | _ =>
        let begun := ofPattern (.behind (some [nowhere])) first
        place.including (ofPattern (.behind begun) second)
    | .choice first second =>
      match place with
      | .beside _ => ofPattern (.beside (ofPattern place first)) second
      | _ =>
        let begun := ofPattern (.beside (some [])) first
        place.including (ofPattern (.beside begun) second)
    | .repetition inner least most greedy =>
      let part := ofPattern .alone inner
      if least = 0 then
        let more := if most = some 1 then part else part.opened
        let nothing : Beginnings := some [nowhere]
        place.including (if greedy then more.orElse nothing else nothing.orElse more)
      else
        let times := min least repetitionLimit
        let begun := Beginnings.repeated (some [nowhere]) part times
        place.including (if most = some times then begun else begun.opened)

end Beginnings

namespace Beginning

def sharedBytes : List UInt8 → List UInt8 → List UInt8
  | left :: lefts, right :: rights => if left = right then left :: sharedBytes lefts rights else []
  | _, _ => []

def sharedStart : List Beginning → List UInt8
  | [] => []
  | first :: rest => rest.foldl (fun shared other => sharedBytes shared other.bytes) first.bytes

/-- Whether a byte is frequent in texts: the blanks, signs and letters of prose
and programs, and what is not ASCII. -/
def isFrequent (byte : UInt8) : Bool :=
  128 ≤ byte ||
    " \n\r(),-./0129:_|abcdefghilmnoprstuvxy".toList.contains (Char.ofNat byte.toNat)

/-- How many bytes are kept of beginnings that are more than so many. -/
def shortenings : List (Nat × Nat) := [(5, 10), (4, 10), (3, 64), (2, 64), (1, 10)]

def shortened : List (Nat × Nat) → List Beginning → List Beginning
  | [], all => all
  | (length, count) :: rest, all =>
    if all.length ≤ count then all else shortened rest (needed (all.map (cut length)))

/-- Beginnings to look for instead of given ones. Many that begin alike are looked
for by what they share, above all if its first byte is rare, and other ones are
shortened if they are many. Whole ones stay, if they would become very short or
stay many. -/
def sought (all : List Beginning) : List Beginning :=
  let known := needed all
  let shared := sharedStart known
  let isFast := areWhole known && decide (known.length ≤ 16)
  if 1 < all.length && shared.length ≤ 3 && shared.head?.any (!isFrequent ·) then
    merged (known.map (cut 1))
  else
    let narrowed :=
      if 4 < shared.length || (1 < shared.length && !isFast) then
        merged (known.map (cut shared.length))
      else known
    let short := shortened shortenings narrowed
    if areWhole narrowed && (64 < short.length || short.any (·.bytes.length ≤ 2)) then narrowed
    else short

end Beginning

def hasLook : Pattern → Bool
  | .look _ => true
  | .capture inner => inner.hasLook
  | .sequence first second => first.hasLook || second.hasLook
  | .choice first second => first.hasLook || second.hasLook
  | .repetition inner _ _ _ => inner.hasLook
  | _ => false

/-- How many literals a choice has that is looked for by its literals, however
many they are. -/
def manyLiterals : Nat := 3000

/-- Whether what is looked for are the words that a pattern is found as. -/
def hasWords (pattern : Pattern) : Bool :=
  match Beginnings.ofPattern .alone pattern with
  | none => false
  | some all =>
    let sought := Beginning.sought (Beginning.merged all)
    !all.any (·.bytes.isEmpty) && !sought.isEmpty && Beginning.areWhole sought

/-- Whether a pattern is searched for as words, without an automaton. -/
def isPlain (pattern : Pattern) : Bool :=
  !pattern.hasCapture && !pattern.hasLook &&
    (pattern.hasWords || pattern.literals?.any (manyLiterals ≤ ·.length))

end ScriptedSql.Pattern
