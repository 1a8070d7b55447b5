import LabelSelector.Token.Basic
import LabelSelector.Token.Error

/-! # Errors of selectors

  A selector text can fail lexically or in its grammar. A lexical error also
  tells what the grammar asked for when it came up.
-/

namespace LabelSelector

/-- The stages of reading a selector. -/
inductive Phase where
  /-- Characters to tokens. -/
  | lexer
  /-- Tokens to matchers. -/
  | parser
  deriving DecidableEq, Repr

/-- The name of a stage. -/
def Phase.name : Phase → String
  | .lexer => "lexer"
  | .parser => "parser"

/-! ### Grammar -/

/-- What the grammar asks for and does not find. -/
inductive Expectation where
  /-- The brace that opens the selector. -/
  | openBrace
  /-- The brace that closes the selector. -/
  | closeBrace
  /-- The name of a label. -/
  | labelName
  /-- An operator. -/
  | operator
  /-- The value of a label. -/
  | labelValue
  /-- A comma or the closing brace. -/
  | commaOrCloseBrace
  /-- The name of a label behind a comma. -/
  | labelNameAfterComma
  /-- The end of the text. -/
  | endOfInput
  /-- A clause for which a matcher can be made. -/
  | matcher (cause : String)
  deriving DecidableEq, Repr

/-- The wording of an expectation. -/
def Expectation.message : Expectation → String
  | .openBrace => "expected opening brace"
  | .closeBrace => "expected close brace"
  | .labelName => "expected a label name"
  | .operator => "expected an operator such as '=', '!=', '=~' or '!~'"
  | .labelValue => "expected a label value"
  | .commaOrCloseBrace => "expected a comma or close brace"
  | .labelNameAfterComma => "expected a label name after comma"
  | .endOfInput => "expected end of input"
  | .matcher cause => "failed to create matcher: " ++ cause

/-- Where an error is. -/
inductive Location where
  /-- At a token or a stretch of text. -/
  | token (span : Span) (text : String)
  /-- At the end of the text. -/
  | endOfInput (span : Span)
  deriving DecidableEq, Repr

namespace Location

/-- The stretch of text. -/
def span : Location → Span
  | .token span _ => span
  | .endOfInput span => span

/-- The text there, in words. -/
def describe : Location → String
  | .token _ text => text
  | .endOfInput _ => "end of input"

end Location

/-- An error of the grammar. -/
structure GrammarError where
  /-- What was asked for. -/
  expected : Expectation
  /-- Where. -/
  location : Location
  deriving DecidableEq, Repr

/-- Place, text and expectation in one line. -/
def GrammarError.message (e : GrammarError) : String :=
  let span := e.location.span
  toString span.offsetStart ++ ":" ++ toString span.offsetEnd ++ ": " ++ e.location.describe ++
    ": " ++ e.expected.message

/-! ### Errors -/

/-- An error of a selector text. -/
inductive ParseError where
  /-- A lexical error, and what the grammar asked for. -/
  | lexical (error : LexicalError) (expected : Option Expectation)
  /-- An error of the grammar. -/
  | grammar (error : GrammarError)
  deriving DecidableEq, Repr

namespace ParseError

/-- The stretch of text at fault. -/
def span : ParseError → Span
  | .lexical e _ => e.span
  | .grammar e => e.location.span

/-- The stage that failed. -/
def phase : ParseError → Phase
  | .lexical _ _ => .lexer
  | .grammar _ => .parser

/-- The error in one line. -/
def message : ParseError → String
  | .lexical e none => e.message
  | .lexical e (some expected) => e.message ++ ": " ++ expected.message
  | .grammar e => e.message

/-- Whether the opening brace is missing. -/
def isMissingOpenBrace : ParseError → Bool
  | .grammar e => e.expected == .openBrace
  | .lexical _ _ => false

/-- Whether the closing brace is missing. -/
def isMissingCloseBrace : ParseError → Bool
  | .grammar e => e.expected == .closeBrace
  | .lexical _ _ => false

/-- Tells what the grammar asked for, unless the error does already. -/
def expecting (expected : Expectation) : ParseError → ParseError
  | .lexical e none => .lexical e (some expected)
  | e => e

end ParseError

end LabelSelector
