/-! # Faults

  A fault is the answer to a call that breaks a promise its caller made. It is
  kept apart from the errors that a selector text can have.
-/

namespace LabelSelector

/-- A broken promise of a caller. -/
inductive Fault where
  /-- A natural number was to be taken from a smaller one. -/
  | negativeDifference
  /-- The process-wide settings are fixed a second time. -/
  | settingsAlreadyFixed
  /-- The process-wide settings are asked for before they are fixed. -/
  | settingsNotFixed
  /-- A logger is set up before the settings are fixed. -/
  | loggerBeforeSettings
  /-- The log file cannot be opened. -/
  | logFileNotOpened
  /-- A logger is set up a second time. -/
  | loggerAlreadySet
  deriving DecidableEq, Repr

/-- The wording of a fault. -/
def Fault.message : Fault → String
  | .negativeDifference => "attempt to subtract with overflow"
  | .settingsAlreadyFixed => "Config already initialized"
  | .settingsNotFixed => "Config not initialized"
  | .loggerBeforeSettings => "Config must be initialized before logger"
  | .logFileNotOpened => "Failed to open log file"
  | .loggerAlreadySet => "failed to set global default subscriber"

/-- The difference of two natural numbers, which has to be a natural number. -/
def difference (a b : Nat) : Except Fault Nat :=
  if b ≤ a then .ok (a - b) else .error .negativeDifference

end LabelSelector
