/-
CapabilityBroker/Journal.lean

Lines for the operator.

Trails are for questions about what happened; the journal is for people who
read along.
-/

namespace CapabilityBroker

/-- How much a line matters. -/
inductive Level where
  | error
  | warn
  | info
  | debug
deriving DecidableEq

/-- The name of the level. -/
def Level.text : Level → String
  | error => "ERROR"
  | warn => "WARN"
  | info => "INFO"
  | debug => "DEBUG"

/-- A line of the journal. -/
structure JournalLine where
  level : Level
  message : String
deriving DecidableEq

/-- The line as it is written. -/
def JournalLine.text (line : JournalLine) : String := line.level.text ++ " " ++ line.message

end CapabilityBroker
