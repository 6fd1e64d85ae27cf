/-! # Log lines

What a run reports on the side, in the order in which it happens.
-/

namespace Rehearsal

/-- How much a log line matters. -/
inductive LogLevel where
  | info
  | warning
  deriving Repr, DecidableEq

namespace LogLevel

def label : LogLevel → String
  | info => "INFO"
  | warning => "WARN"

end LogLevel

structure LogLine where
  level : LogLevel
  text : String
  deriving Repr, DecidableEq

namespace LogLine

/-- The line with its level. -/
def shown (line : LogLine) : String :=
  line.level.label ++ " " ++ line.text

end LogLine

end Rehearsal
