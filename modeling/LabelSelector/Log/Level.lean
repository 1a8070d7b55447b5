/-! # Levels of log records

  A level tells how important a record is. What a filter lets through at one
  level, it lets through at every more important one.
-/

namespace LabelSelector.Log

/-- The importance of a record, most important first. -/
inductive Level where
  /-- Something failed. -/
  | error
  /-- Something may be wrong. -/
  | warn
  /-- Something of note happened. -/
  | info
  /-- For the search for faults. -/
  | debug
  /-- Every single step. -/
  | trace
  deriving DecidableEq, Repr

namespace Level

/-- How many levels are at least as important. -/
def verbosity : Level → Nat
  | .error => 1
  | .warn => 2
  | .info => 3
  | .debug => 4
  | .trace => 5

/-- The name of a level in records. -/
def name : Level → String
  | .error => "ERROR"
  | .warn => "WARN"
  | .info => "INFO"
  | .debug => "DEBUG"
  | .trace => "TRACE"

/-- Whether a bound at level `limit` lets a record of the given level through. -/
def allows (limit level : Level) : Bool := level.verbosity ≤ limit.verbosity

end Level

end LabelSelector.Log
