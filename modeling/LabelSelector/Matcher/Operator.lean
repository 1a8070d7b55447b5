/-! # Comparison operators

  The four operators between a label's name and a value.
-/

namespace LabelSelector

/-- How a label's value is compared. -/
inductive Operator where
  /-- The value is the given text. -/
  | equal
  /-- The value is another text. -/
  | notEqual
  /-- The value matches the given pattern. -/
  | regexp
  /-- The value does not match the given pattern. -/
  | notRegexp
  deriving DecidableEq, Repr

namespace Operator

/-- The operator as written in a selector. -/
def text : Operator → String
  | .equal => "="
  | .notEqual => "!="
  | .regexp => "=~"
  | .notRegexp => "!~"

/-- The operator that is written so. -/
def ofText? : String → Option Operator
  | "=" => some .equal
  | "!=" => some .notEqual
  | "=~" => some .regexp
  | "!~" => some .notRegexp
  | _ => none

/-- The name of the operator in serialised matchers. -/
def name : Operator → String
  | .equal => "equal"
  | .notEqual => "not_equal"
  | .regexp => "regexp"
  | .notRegexp => "not_regexp"

/-- Whether the operator takes a pattern. -/
def isRegex : Operator → Bool
  | .regexp | .notRegexp => true
  | .equal | .notEqual => false

/-- Reading what was written gives the operator back. -/
theorem ofText?_text (op : Operator) : ofText? op.text = some op := by
  cases op <;> rfl

end Operator

end LabelSelector
