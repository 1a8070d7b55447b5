import LabelSelector.Log.Filter

/-! # Records

  A trace is everything that one call reports: the scope it opens, if it opens
  one, and the events within it. Records are what a filter lets through of it.
-/

namespace LabelSelector.Log

/-- Everything that one call reports. -/
structure Trace where
  /-- The scope of the call. -/
  scope : Option Scope
  /-- The events within it, in order. -/
  events : List Event
  deriving DecidableEq, Repr

/-- Something that was let through. -/
inductive Record where
  /-- A scope was opened. -/
  | opened (s : Scope)
  /-- An event was reported, within a scope that was let through too, or outside. -/
  | event (e : Event) (within : Option Scope)
  deriving DecidableEq, Repr

namespace Filter

/-- Whether a scope is let through. -/
def enablesScope (f : Filter) (s : Scope) : Bool := f.enables s.phase.target s.level

/-- Whether an event is let through. -/
def enablesEvent (f : Filter) (e : Event) : Bool := f.enables e.phase.target e.level

/-- What is let through of a trace. -/
def records (f : Filter) (t : Trace) : List Record :=
  let scope := t.scope.filter f.enablesScope
  let events := t.events.filter f.enablesEvent
  scope.toList.map .opened ++ events.map (.event · scope)

end Filter

end LabelSelector.Log
