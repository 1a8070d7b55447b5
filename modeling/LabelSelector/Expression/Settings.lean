/-! # Settings of the grammar -/

namespace LabelSelector

/-- How strict the grammar is. -/
structure ParserSettings where
  /-- Whether a selector has to stand between braces. -/
  requireBraces : Bool
  deriving DecidableEq, Repr

namespace ParserSettings

/-- Braces may be left out. -/
def lenient : ParserSettings := ⟨false⟩

/-- Braces have to be there. -/
def strict : ParserSettings := ⟨true⟩

end ParserSettings

end LabelSelector
