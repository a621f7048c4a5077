import ScriptedSql.Text.CodeSet

/-!
Contract: the bytes that encode the characters of a set.

Owns:
- the number of bytes of a text;
- spans of byte sequences: a range of characters is cut into pieces whose
  encodings are all sequences with one byte from each of some byte ranges;
- what may follow a first byte, for spans that begin alike together.

The encoding is UTF-8: one to four bytes, the leading one with the number of the
others, those with six bits each.
-/

namespace ScriptedSql.Text

def byteCount (characters : List Char) : Nat :=
  characters.foldl (fun count character => count + character.utf8Size) 0

structure ByteRange where
  first : Nat
  last : Nat
deriving DecidableEq, Repr

/-- All sequences with one byte from each range. -/
abbrev ByteSpan := List ByteRange

namespace ByteSpan

/-- The spans of the numbers from `low` to `high`, written with six bits in each
of `count` bytes behind the leading one, to which `base` is added. The pieces at
both ends are cut off as long as they do not fill the bytes behind. -/
def ofNumbers : Nat → Nat → Nat → Nat → List ByteSpan
  | 0, base, low, high => [[⟨base + low, base + high⟩]]
  | count + 1, base, low, high =>
    let unit := Nat.pow 64 (count + 1)
    let first := low / unit
    let last := high / unit
    if first = last then
      (ofNumbers count 128 (low % unit) (high % unit)).map (⟨base + first, base + first⟩ :: ·)
    else
      let head :=
        if low % unit = 0 then []
        else
          (ofNumbers count 128 (low % unit) (unit - 1)).map (⟨base + first, base + first⟩ :: ·)
      let tail :=
        if high % unit = unit - 1 then []
        else (ofNumbers count 128 0 (high % unit)).map (⟨base + last, base + last⟩ :: ·)
      let begun := if low % unit = 0 then first else first + 1
      let done := if high % unit = unit - 1 then last + 1 else last
      let body : List ByteSpan :=
        if begun < done then
          [⟨base + begun, base + done - 1⟩ :: List.replicate (count + 1) ⟨128, 191⟩]
        else []
      head ++ body ++ tail

/-- The first and the last code point that are encoded in so many bytes behind a
leading one, and what is added to that one. -/
def widths : List (Nat × Nat × Nat × Nat) :=
  [(0, 0x7f, 0, 0), (0x80, 0x7ff, 1, 0xc0), (0x800, 0xffff, 2, 0xe0),
    (0x10000, 0x10ffff, 3, 0xf0)]

/-- The spans of the encodings of the members of a set, in order. -/
def ofSet (set : CodeSet) : List ByteSpan :=
  set.ranges.flatMap fun (first, last) =>
    widths.flatMap fun (least, most, count, base) =>
      if max first least ≤ min last most then
        ofNumbers count base (max first least) (min last most)
      else []

/-- The first ranges of spans, each with what follows it. Spans that begin alike
stand side by side. -/
def branches : List ByteSpan → List (ByteRange × List ByteSpan)
  | [] => []
  | [] :: rest => branches rest
  | (range :: tail) :: rest =>
    match branches rest with
    | (other, tails) :: others =>
      if range = other then (range, tail :: tails) :: others
      else (range, [tail]) :: (other, tails) :: others
    | [] => [(range, [tail])]

end ByteSpan

end ScriptedSql.Text
