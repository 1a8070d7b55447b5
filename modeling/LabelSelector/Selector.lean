import LabelSelector.Expression.Parser
import LabelSelector.Log.Record
import LabelSelector.Matcher.Basic

/-! # Reading selectors

  The calls by which a text becomes tokens or matchers, with what they report.
-/

namespace LabelSelector

open Log (Event Scope Trace)

/-! ### Factories -/

namespace Factory

/-- Makes matchers: escapes are resolved and patterns compiled. -/
def standard : Factory Matcher := fun r =>
  match Matcher.ofRaw r.operator r.name r.raw with
  | .ok m => .ok m
  | .error e => .error e.message

/-- Answers names, and refuses some of them. -/
def refusing (names : List String) : Factory String := fun r =>
  if names.contains r.name then .error ("label " ++ r.name ++ " is not allowed") else .ok r.name

end Factory

/-! ### Calls -/

/-- An answer and everything that was reported on the way. -/
structure Traced (α : Type) where
  /-- The answer. -/
  result : α
  /-- What was reported. -/
  trace : Trace

/-- Reads the selector `text` within a scope. -/
def parseTraced {μ : Type} (text : String) (make : Factory μ) (settings : ParserSettings) :
    Traced (Except ParseError (List μ)) :=
  let (result, p) := (Parser.ofText text).parse settings make
  let completed := match result with
    | .ok ms => [Event.parseCompleted ms.length]
    | .error _ => []
  ⟨result, some (.parse text.utf8ByteSize settings.requireBraces), p.events ++ completed⟩

/-- Reads the selector `text` without a scope, leniently. -/
def parsePlainTraced (text : String) : Traced (Except ParseError (List Matcher)) :=
  let (result, p) := (Parser.ofText text).parse .lenient Factory.standard
  ⟨result, none, p.events⟩

/-- Cuts a text into tokens within a scope. -/
def tokenizeTraced (text : String) : Traced (Except ParseError (List Token)) :=
  let (ts, e) := Token.streamOf text
  let last := match e with
    | none => Event.inputEnded
    | some e => .scanFailed e
  let result := match e with
    | none => .ok ts
    | some e => .error (.lexical e none)
  ⟨result, some (.tokenize text.utf8ByteSize),
    .scannerMade text.utf8ByteSize :: ts.map .tokenRead ++ [last]⟩

/-- The matchers of a selector. -/
def parse (text : String) (settings : ParserSettings) : Except ParseError (List Matcher) :=
  parseWith text Factory.standard settings

end LabelSelector
