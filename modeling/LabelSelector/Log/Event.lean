import LabelSelector.Expression.Error
import LabelSelector.Log.Level
import LabelSelector.Matcher.Operator

/-! # Events

  What is reported while a selector is read, and the scopes within which it is.
  An event has a level, the stage it comes from, a message and fields.
-/

namespace LabelSelector.Log

/-! ### Fields -/

/-- The value of a field. -/
inductive FieldValue where
  /-- A number. -/
  | number (n : Nat)
  /-- A yes or no. -/
  | flag (b : Bool)
  /-- A text, shown in quotes. -/
  | text (s : String)
  /-- The one-line form of something, shown as it is. -/
  | shown (s : String)
  deriving DecidableEq, Repr

/-- A field: its name and its value. -/
abbrev Field := String × FieldValue

/-! ### Events -/

/-- Something that is reported. -/
inductive Event where
  /-- A scanner was made for a text of so many bytes. -/
  | scannerMade (length : Nat)
  /-- A token was read. -/
  | tokenRead (t : Token)
  /-- The end of the text was reached. -/
  | inputEnded
  /-- A lexical error came up. -/
  | scanFailed (e : LexicalError)
  /-- A clause was read. -/
  | clauseRead (name : String) (op : Operator) (raw : String)
  /-- A selector was read to its end. -/
  | listRead (count : Nat) (braces : Bool)
  /-- A token does not fit the grammar. -/
  | unexpected (found : String) (expected : Expectation)
  /-- Reading a selector failed. -/
  | parseFailed (e : ParseError)
  /-- Reading a selector succeeded. -/
  | parseCompleted (count : Nat)
  deriving DecidableEq, Repr

namespace Event

/-- The importance of an event. -/
def level : Event → Level
  | .scannerMade _ | .tokenRead _ | .inputEnded | .clauseRead _ _ _ | .listRead _ _ => .trace
  | .scanFailed _ | .unexpected _ _ | .parseFailed _ | .parseCompleted _ => .debug

/-- The stage an event comes from. -/
def phase : Event → Phase
  | .scannerMade _ | .tokenRead _ | .inputEnded | .scanFailed _ => .lexer
  | .clauseRead _ _ _ | .listRead _ _ | .unexpected _ _ | .parseFailed _ | .parseCompleted _ =>
    .parser

/-- The message of an event. -/
def message : Event → String
  | .scannerMade _ => "Creating new Lexer"
  | .tokenRead _ => "Produced token"
  | .inputEnded => "Reached end of input"
  | .scanFailed _ => "Lex error encountered"
  | .clauseRead _ _ _ => "Parsed matcher"
  | .listRead _ _ => "Parsed matcher list"
  | .unexpected _ _ => "Unexpected token"
  | .parseFailed _ => "Parse failed"
  | .parseCompleted _ => "parse completed"

/-- The fields of an event, in order. -/
def fields : Event → List Field
  | .scannerMade length => [("len", .number length)]
  | .tokenRead t =>
    [("kind", .shown t.kind.name), ("value", .shown t.text),
      ("offset_start", .number t.span.offsetStart), ("offset_end", .number t.span.offsetEnd)]
  | .inputEnded => []
  | .scanFailed e => [("error", .shown e.message)]
  | .clauseRead name op raw =>
    [("name", .shown name), ("op", .shown op.text), ("value", .text raw)]
  | .listRead count braces => [("count", .number count), ("braces", .flag braces)]
  | .unexpected found expected =>
    [("found", .shown found), ("expected", .shown expected.message)]
  | .parseFailed e => [("error", .shown e.message)]
  | .parseCompleted count => [("count", .number count)]

end Event

/-! ### Scopes -/

/-- A call within which events are reported. -/
inductive Scope where
  /-- A text is cut into tokens. -/
  | tokenize (length : Nat)
  /-- A selector is read. -/
  | parse (length : Nat) (requireBraces : Bool)
  deriving DecidableEq, Repr

namespace Scope

/-- The importance of a scope. -/
def level (_ : Scope) : Level := .debug

/-- The stage a scope belongs to. -/
def phase : Scope → Phase
  | .tokenize _ => .lexer
  | .parse _ _ => .parser

/-- The name of a scope. -/
def name : Scope → String
  | .tokenize _ => "tokenize"
  | .parse _ _ => "parse"

/-- The fields of a scope, in order. -/
def fields : Scope → List Field
  | .tokenize length => [("len", .number length)]
  | .parse length requireBraces =>
    [("len", .number length), ("require_braces", .flag requireBraces)]

end Scope

end LabelSelector.Log
