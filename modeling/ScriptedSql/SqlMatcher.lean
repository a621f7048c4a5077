import ScriptedSql.Error
import ScriptedSql.Pattern.Search

/-!
Contract: matching the SQL text of a call against a declared pattern.

Owns:
- the two ways to compare: a regular expression searched for anywhere, and
  equality of the texts without the blanks at their ends;
- the compilation of a pattern, which fails for a malformed expression.
-/

namespace ScriptedSql

inductive MatchMode where
  | expression
  | equal
deriving DecidableEq, Repr

inductive SqlTest where
  | search (pattern : Pattern)
  | equal (trimmed : List Char)
deriving DecidableEq, Repr

structure SqlMatcher where
  pattern : String
  test : SqlTest
deriving DecidableEq, Repr

/-- Stands in messages for the account of what is wrong with an expression, which
is not part of them. -/
def Pattern.faultDetail : String := "<detail>"

namespace MatchMode

def compile (mode : MatchMode) (pattern : String) : Except Error SqlMatcher :=
  match mode with
  | .equal => .ok ⟨pattern, .equal (Text.trim pattern.toList)⟩
  | .expression =>
    match Pattern.read pattern.toList with
    | .ok compiled => .ok ⟨pattern, .search compiled⟩
    | .error _ =>
      .error (.ofMock .declaration
        ("could not compile SQL pattern '" ++ pattern ++ "': " ++ Pattern.faultDetail))

end MatchMode

namespace SqlMatcher

def accepts (matcher : SqlMatcher) (sql : String) : Bool :=
  match matcher.test with
  | .search pattern => pattern.found sql.toList
  | .equal trimmed => decide (trimmed = Text.trim sql.toList)

def shown (matcher : SqlMatcher) : String :=
  "'" ++ matcher.pattern ++ "'"

end SqlMatcher

end ScriptedSql
