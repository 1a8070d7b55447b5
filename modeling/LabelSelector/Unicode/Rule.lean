import LabelSelector.Unicode.CharSet

/-! # Rules

  A property is given by a table, or by a rule that makes it from other sets. A
  rule is worked out only when its property is asked for.
-/

namespace LabelSelector.Unicode

/-- How a set of code points is given. -/
inductive Rule where
  /-- By the lines of its table. -/
  | table (lines : List String)
  /-- As the union of sets. -/
  | sets (ss : List CharSet)
  /-- As the members of either of two sets. -/
  | plus (a b : Rule)
  /-- As the members of the first set that are not in the second. -/
  | minus (a b : Rule)
  deriving DecidableEq, Repr

namespace Rule

/-- The set that a rule gives. -/
def set : Rule → CharSet
  | .table lines => .ofTable lines
  | .sets ss => .ofRanges (ss.flatMap CharSet.ranges)
  | .plus a b => a.set.union b.set
  | .minus a b => a.set.diff b.set

/-- The set that the rule with the given name gives. -/
def named? (rules : List (List String × Rule)) (name : String) : Option CharSet :=
  (rules.find? fun entry => entry.1.contains name).map fun entry => entry.2.set

end Rule

end LabelSelector.Unicode
