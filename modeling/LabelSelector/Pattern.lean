import LabelSelector.Pattern.Lower
import LabelSelector.Pattern.Match
import LabelSelector.Pattern.Parse
import LabelSelector.Pattern.Size

/-! # Patterns

  A pattern is a text compiled to a regular expression. For label values the text
  is set between anchors first; what is compiled is then the whole anchored text,
  so parentheses of the value that do not match can pair up with those of the
  anchors.
-/

namespace LabelSelector

/-- A compiled pattern. -/
structure Pattern where
  /-- The meaning. -/
  regex : Regex
  deriving DecidableEq, Repr

namespace Pattern

/-- Compiles a text. -/
def compile (text : List Char) : Except Error Pattern := do
  let tree ← Node.parse text
  let (regex, _) ← tree.lower .initial
  if regex.fits then return ⟨regex⟩ else throw .size

/-- The text between anchors. -/
def anchor (text : List Char) : List Char := ['^', '(', '?', ':'] ++ text ++ [')', '$']

/-- Compiles a text between anchors. -/
def anchored (text : String) : Except Error Pattern := compile (anchor text.toList)

/-- Whether the pattern matches somewhere in a text. -/
def isMatch (p : Pattern) (text : String) : Bool := p.regex.isMatch text.toList

end Pattern

end LabelSelector
