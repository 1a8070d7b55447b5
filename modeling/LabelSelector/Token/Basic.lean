import LabelSelector.Source.Span

/-! # Tokens

  The smallest units of a selector text: braces, commas, names, operators and
  quoted texts. A token keeps its text as written, quotes and escapes included.
-/

namespace LabelSelector

namespace Token

/-- What a token is. -/
inductive Kind where
  /-- The brace that opens a selector. -/
  | openBrace
  /-- The brace that closes a selector. -/
  | closeBrace
  /-- The comma between two clauses. -/
  | comma
  /-- A name or an unquoted value. -/
  | identifier
  /-- One of the four comparison operators. -/
  | operator
  /-- A text between double quotes. -/
  | quoted
  deriving DecidableEq, Repr

/-- The name under which a kind is shown. -/
def Kind.name : Kind → String
  | .openBrace => "OpenBrace"
  | .closeBrace => "CloseBrace"
  | .comma => "Comma"
  | .identifier => "Ident"
  | .operator => "Op"
  | .quoted => "Quoted"

end Token

/-- A token of a selector text. -/
structure Token where
  /-- What the token is. -/
  kind : Token.Kind
  /-- The text as written. -/
  text : String
  /-- Where the text stands. -/
  span : Span
  deriving DecidableEq, Repr

namespace Token

/-- The token in one line: kind and text. -/
def display (t : Token) : String := "(" ++ t.kind.name ++ ") '" ++ t.text ++ "'"

/-- The text of a token, or the words for the place where there is none. -/
def describe : Option Token → String
  | some t => t.text
  | none => "end of input"

end Token

end LabelSelector
