import LabelSelector.Log.Format
import LabelSelector.Selector

/-! # Sessions

  A session is the life of one process: settings that are fixed once, a logger
  that is set up once and after them, and what has been logged since.
-/

namespace LabelSelector

open Log (Filter Format Trace Verbosity)

/-- The settings of a process. -/
structure Settings where
  /-- How much is logged. -/
  verbosity : Verbosity
  /-- How strict the grammar is. -/
  parser : ParserSettings
  deriving DecidableEq, Repr

/-- Where a logger writes besides the console. -/
inductive LogFile where
  /-- Nowhere. -/
  | absent
  /-- To a file. -/
  | usable
  /-- To a file that cannot be opened. -/
  | unusable
  deriving DecidableEq, Repr

/-- A logger. -/
structure Logger where
  /-- The form of lines on the console. -/
  format : Format
  /-- What is let through. -/
  filter : Filter
  /-- Whether there is a log file. -/
  toFile : Bool
  deriving DecidableEq, Repr

/-- The state of a process. -/
structure Session where
  /-- The settings, once they are fixed. -/
  settings : Option Settings
  /-- The logger, once it is set up. -/
  logger : Option Logger
  /-- Lines on the console. -/
  console : List String
  /-- Lines of the log file, once it is made. -/
  file : Option (List String)
  deriving DecidableEq, Repr

namespace Session

/-- A process at its start. -/
def start : Session := ⟨none, none, [], none⟩

/-! ### Settings -/

/-- Whether the settings are fixed. -/
def isReady (σ : Session) : Bool := σ.settings.isSome

/-- The settings, which have to be fixed. -/
def required (σ : Session) : Except Fault Settings :=
  match σ.settings with
  | some s => .ok s
  | none => .error .settingsNotFixed

/-- Fixes the settings. -/
def fix (σ : Session) (s : Settings) : Except Fault Unit × Session :=
  match σ.settings with
  | some _ => (.error .settingsAlreadyFixed, σ)
  | none => (.ok (), { σ with settings := some s })

/-! ### Logging -/

/-- Makes the log file, unless it is there. -/
def withFile (σ : Session) : LogFile → Session
  | .usable => { σ with file := some (σ.file.getD []) }
  | .absent | .unusable => σ

/-- Sets up the logger. The log file is made first, and stays if a logger was there
    already. -/
def setLogger (σ : Session) (format : Format) (file : LogFile) : Except Fault Unit × Session :=
  match σ.settings with
  | none => (.error .loggerBeforeSettings, σ)
  | some s =>
    if file = .unusable then (.error .logFileNotOpened, σ)
    else
      -- The file is made before it is known whether a logger can be set.
      let σ := σ.withFile file
      match σ.logger with
      | some _ => (.error .loggerAlreadySet, σ)
      | none =>
        let logger := ⟨format, .ofVerbosity s.verbosity, file = .usable⟩
        (.ok (), { σ with logger := some logger })

/-- Fixes the settings and sets up a logger without a file. -/
def fixWithLogger (σ : Session) (s : Settings) (format : Format) : Except Fault Unit × Session :=
  match σ.fix s with
  | (.error e, σ) => (.error e, σ)
  | (.ok _, σ) => σ.setLogger format .absent

/-- Logs what a call reports. -/
def log (σ : Session) (t : Trace) : Session :=
  match σ.logger with
  | none => σ
  | some logger =>
    let records := logger.filter.records t
    let file := if logger.toFile then records.flatMap Log.fileLines else []
    { σ with
      console := σ.console ++ records.flatMap (Log.consoleLines logger.format)
      file := σ.file.map (· ++ file) }

/-! ### Calls -/

/-- The answer of a call, which is logged. -/
def run {α : Type} (σ : Session) (call : Traced α) : α × Session := (call.result, σ.log call.trace)

/-- Cuts a text into tokens. -/
def tokenize (σ : Session) (text : String) : Except ParseError (List Token) × Session :=
  σ.run (tokenizeTraced text)

/-- Reads a selector under the given settings. -/
def parseWith (σ : Session) (text : String) (settings : ParserSettings) :
    Except ParseError (List Matcher) × Session :=
  σ.run (parseTraced text Factory.standard settings)

/-- Reads a selector under the settings of the process, or leniently without any. -/
def parse (σ : Session) (text : String) : Except ParseError (List Matcher) × Session :=
  σ.parseWith text ((σ.settings.map Settings.parser).getD .lenient)

end Session

end LabelSelector
