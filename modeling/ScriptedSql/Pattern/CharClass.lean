import ScriptedSql.Text.Word

/-!
Contract: classes of characters that patterns name.

Owns:
- the named classes over all of Unicode and over ASCII, and their sets.
-/

namespace ScriptedSql.Pattern

inductive NamedClass where
  | digit
  | space
  | word
deriving DecidableEq, Repr

inductive AsciiClass where
  | alnum
  | alpha
  | ascii
  | blank
  | cntrl
  | digit
  | graph
  | lower
  | print
  | punct
  | space
  | upper
  | word
  | xdigit
deriving DecidableEq, Repr

namespace NamedClass

/-- The characters of a named class over all of Unicode. -/
def characters : NamedClass → Text.CodeSet
  | .digit => Text.decimalDigits
  | .space => Text.whiteSpace
  | .word => Text.wordCharacters

def asciiPart : NamedClass → AsciiClass
  | .digit => .digit
  | .space => .space
  | .word => .word

end NamedClass

namespace AsciiClass

def ofName? (name : String) : Option AsciiClass :=
  [("alnum", .alnum), ("alpha", .alpha), ("ascii", .ascii), ("blank", .blank),
    ("cntrl", .cntrl), ("digit", .digit), ("graph", .graph), ("lower", .lower),
    ("print", .print), ("punct", .punct), ("space", .space), ("upper", .upper),
    ("word", AsciiClass.word), ("xdigit", .xdigit)].lookup name

def ranges : AsciiClass → List (Char × Char)
  | .alnum => [('0', '9'), ('A', 'Z'), ('a', 'z')]
  | .alpha => [('A', 'Z'), ('a', 'z')]
  | .ascii => [('\x00', '\x7f')]
  | .blank => [('\t', '\t'), (' ', ' ')]
  | .cntrl => [('\x00', '\x1f'), ('\x7f', '\x7f')]
  | .digit => [('0', '9')]
  | .graph => [('!', '~')]
  | .lower => [('a', 'z')]
  | .print => [(' ', '~')]
  | .punct => [('!', '/'), (':', '@'), ('[', '\x60'), ('\x7b', '~')]
  | .space => [('\t', '\r'), (' ', ' ')]
  | .upper => [('A', 'Z')]
  | .word => [('0', '9'), ('A', 'Z'), ('_', '_'), ('a', 'z')]
  | .xdigit => [('0', '9'), ('A', 'F'), ('a', 'f')]

def characters (family : AsciiClass) : Text.CodeSet :=
  Text.CodeSet.ofRanges family.ranges

end AsciiClass

end ScriptedSql.Pattern
