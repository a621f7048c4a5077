import ScriptedSql.Converter
import ScriptedSql.SqlMatcher

/-!
Contract: the options of a mock.

Owns:
- the options, their values when nothing is said, and their text.
-/

namespace ScriptedSql

/-- The options of a mock: whether expectations are met in order, how SQL texts
are compared, how argument values are converted, whether pings count as calls,
and the DSN, generated when none is given. -/
structure Config where
  ordered : Bool
  matching : MatchMode
  converter : Converter
  monitorPings : Bool
  dsn : Option String

namespace Config

def standard : Config where
  ordered := true
  matching := .expression
  converter := Converter.normalize
  monitorPings := false
  dsn := none

def flagText (flag : Bool) : String :=
  if flag then "true" else "false"

/-- The options as a text; converters have no text of their own. -/
def shown (config : Config) : String :=
  let matching := match config.matching with
    | .expression => "Regex"
    | .equal => "Equal"
  let dsn := match config.dsn with
    | some dsn => "Some(" ++ Text.quoted dsn ++ ")"
    | none => "None"
  "MockConfig \x7b ordered: " ++ flagText config.ordered ++ ", query_matcher: " ++ matching ++
    ", converter: \"<converter>\", monitor_pings: " ++ flagText config.monitorPings ++
    ", dsn: " ++ dsn ++ " \x7d"

end Config

end ScriptedSql
