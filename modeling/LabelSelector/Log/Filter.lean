import LabelSelector.Log.Event

/-! # Filters

  A filter decides by target and level what is let through. A directive applies to
  every target whose name starts with the directive's; of several, the longest
  decides, and where none applies the default does.
-/

namespace LabelSelector

/-- The target under which a stage reports. -/
def Phase.target (p : Phase) : String := "labelmatch::" ++ p.name

namespace Log

/-- How much is logged. -/
structure Verbosity where
  /-- For everything that is not set apart. -/
  global : Level
  /-- For the lexer, if it is set apart. -/
  lexer : Option Level
  /-- For the parser, if it is set apart. -/
  parser : Option Level
  deriving DecidableEq, Repr

namespace Verbosity

/-- What is of note, from everywhere. -/
def standard : Verbosity := ⟨.info, none, none⟩

/-- The level for a stage. -/
def levelFor (v : Verbosity) : Phase → Level
  | .lexer => v.lexer.getD v.global
  | .parser => v.parser.getD v.global

end Verbosity

/-- What is let through. -/
structure Filter where
  /-- Where no directive applies. -/
  default : Level
  /-- Beginnings of targets, with the level for each. -/
  directives : List (String × Level)
  deriving DecidableEq, Repr

namespace Filter

/-- The filter for the stages of reading a selector. -/
def ofVerbosity (v : Verbosity) : Filter :=
  ⟨v.global, [Phase.lexer, Phase.parser].map fun p => (p.target, v.levelFor p)⟩

/-- The longer of two directives. -/
def longer (a : Option (String × Level)) (b : String × Level) : Option (String × Level) :=
  match a with
  | none => some b
  | some a => if a.1.length < b.1.length then some b else some a

/-- The level for a target. -/
def levelFor (f : Filter) (target : String) : Level :=
  let applying := f.directives.filter fun d => d.1.toList.isPrefixOf target.toList
  match applying.foldl longer none with
  | some d => d.2
  | none => f.default

/-- Whether a record with the given target and level is let through. -/
def enables (f : Filter) (target : String) (level : Level) : Bool :=
  (f.levelFor target).allows level

end Filter

end Log

end LabelSelector
