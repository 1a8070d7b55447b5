import LabelSelector.Matcher.Escape
import LabelSelector.Matcher.Operator
import LabelSelector.Pattern
import LabelSelector.Source.Quoted

/-! # Matchers

  A matcher is a condition on the value of one label: a name, an operator and a
  value. With a pattern operator, the value is compiled once, when the matcher is
  made; assigning a field later does not touch what was compiled.
-/

namespace LabelSelector

/-! ### Errors -/

/-- Why a matcher cannot be made. -/
inductive MatcherError where
  /-- The value is no pattern. -/
  | invalidPattern (value : String) (cause : Pattern.Error)
  /-- The raw value has an escape that does not exist. -/
  | invalidEscape (c : Char)
  /-- The raw value ends inside an escape. -/
  | unterminatedEscape
  deriving DecidableEq, Repr

namespace MatcherError

/-- The error of a raw value. -/
def ofEscape : Escape.Error → MatcherError
  | .invalid c => .invalidEscape c
  | .unterminated => .unterminatedEscape

/-- The wording of an error. -/
def message : MatcherError → String
  | .invalidPattern value cause =>
    "invalid regular expression '" ++ value ++ "': " ++ cause.message
  | .invalidEscape c => "invalid escape sequence '\\" ++ String.singleton c ++ "'"
  | .unterminatedEscape => "unterminated escape sequence"

end MatcherError

/-! ### Matchers -/

/-- A condition on the value of one label. -/
structure Matcher where
  /-- The name of the label. -/
  name : String
  /-- The operator. -/
  operator : Operator
  /-- The value, without escapes. -/
  value : String
  /-- What was compiled when the matcher was made with a pattern operator. -/
  pattern : Option Pattern
  deriving Repr

namespace Matcher

/-- Makes a matcher. -/
def make (operator : Operator) (name value : String) : Except MatcherError Matcher :=
  if operator.isRegex then
    match Pattern.anchored value with
    | .ok p => .ok ⟨name, operator, value, some p⟩
    | .error e => .error (.invalidPattern value e)
  else .ok ⟨name, operator, value, none⟩

/-- Makes a matcher from a raw value. -/
def ofRaw (operator : Operator) (name raw : String) : Except MatcherError Matcher :=
  match unescape raw with
  | .ok u => make operator name u.value
  | .error e => .error (.ofEscape e)

/-- Whether a label's value meets the condition. A pattern operator without a
    compiled pattern is met by nothing. -/
def accepts (m : Matcher) (s : String) : Bool :=
  match m.operator, m.pattern with
  | .equal, _ => s == m.value
  | .notEqual, _ => s != m.value
  | .regexp, some p => p.isMatch s
  | .notRegexp, some p => !p.isMatch s
  | .regexp, none | .notRegexp, none => false

/-- Matchers are equal if their fields are; what was compiled does not count. -/
instance : BEq Matcher where
  beq a b := a.name == b.name && a.operator == b.operator && a.value == b.value

/-- The matcher as text. -/
def display (m : Matcher) : String := m.name ++ m.operator.text ++ quoted m.value

/-! ### Edits -/

/-- A change of a matcher after it was made. -/
inductive Edit where
  /-- Assigns the operator. -/
  | operator (op : Operator)
  /-- Assigns the name. -/
  | name (s : String)
  /-- Assigns the value. -/
  | value (s : String)
  /-- Goes on with a copy. -/
  | copy
  deriving DecidableEq, Repr

/-- The matcher after a change. -/
def edit (m : Matcher) : Edit → Matcher
  | .operator op => { m with operator := op }
  | .name s => { m with name := s }
  | .value s => { m with value := s }
  | .copy => m

end Matcher

end LabelSelector
