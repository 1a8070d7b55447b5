import LabelSelector.Source.Span

/-! # Lexical errors

  What stands in a text where no token can be read.
-/

namespace LabelSelector

namespace LexicalError

/-- The cause of a lexical error. -/
inductive Cause where
  /-- One of the characters of a set has to stand here. -/
  | expected (oneOf : String)
  /-- No token starts with this character. -/
  | invalidInput
  /-- A quoted text has no end. -/
  | unterminated (quote : Char)
  deriving DecidableEq, Repr

/-- The wording of a cause. -/
def Cause.message : Cause → String
  | .expected oneOf => "expected one of '" ++ oneOf ++ "'"
  | .invalidInput => "invalid input"
  | .unterminated quote => "missing end " ++ String.singleton quote

end LexicalError

/-- A lexical error with its place. -/
structure LexicalError where
  /-- What is wrong. -/
  cause : LexicalError.Cause
  /-- The stretch of text at fault. -/
  span : Span
  /-- The text of that stretch. -/
  fragment : String
  deriving DecidableEq, Repr

namespace LexicalError

/-- The error with the given cause at a span of a text. -/
def located (cause : Cause) (span : Span) (text : String) : LexicalError :=
  ⟨cause, span, span.slice text⟩

/-- The error in one line: place, fragment and cause. -/
def message (e : LexicalError) : String :=
  let fragment := if e.fragment.isEmpty then "end of input" else e.fragment
  toString e.span.offsetStart ++ ":" ++ toString e.span.offsetEnd ++ ": " ++ fragment ++ ": " ++
    e.cause.message

end LexicalError

end LabelSelector
