import DatalogDoc.Text

/-!
# Urgency and emphasis

How urgent an event is, and the parts of a printed line that a terminal sets off from the rest.
-/

namespace DatalogDoc

/-- How urgent an event is, the most urgent first. -/
inductive Level
  | error
  | warn
  | info
  | debug
  | trace
deriving DecidableEq

namespace Level

def rank : Level → Nat
  | error => 0
  | warn => 1
  | info => 2
  | debug => 3
  | trace => 4

def name : Level → Text
  | error => "ERROR".toList
  | warn => "WARN".toList
  | info => "INFO".toList
  | debug => "DEBUG".toList
  | trace => "TRACE".toList

def all : List Level := [error, warn, info, debug, trace]

end Level

inductive Role
  /-- Announces a failure. -/
  | failure
  /-- Announces what lies behind a failure. -/
  | cause
  | level (l : Level)
  | fieldName
  /-- The time, the target and the signs between the parts. -/
  | faint

abbrev Styling := Role → Text → Text

def Styling.plain : Styling := fun _ t => t

end DatalogDoc
