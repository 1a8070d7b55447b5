/-! # Errors of patterns

  Everything that can be wrong with a pattern. A pattern is read from the left,
  so the first fault in reading order is the one reported; faults of meaning come
  after faults of form, and the size limit last.
-/

namespace LabelSelector.Pattern

/-- How deeply groups, classes, repetitions and lists may be nested. -/
def nestLimit : Nat := 250

/-- How many bytes a compiled pattern may take. -/
def sizeLimit : Nat := 10 * 1024 * 1024

/-- What is wrong with a pattern. -/
inductive Error where
  /-- A class has no closing bracket. -/
  | unclosedClass
  /-- A range of a class ends before it starts. -/
  | classRangeOrder
  /-- An end of a range of a class is no single character. -/
  | classRangeEnd
  /-- An escape in a class stands for no character. -/
  | classEscape
  /-- A repetition count has no digits. -/
  | countMissing
  /-- A repetition count is too large. -/
  | countTooLarge
  /-- A counted repetition has no closing brace. -/
  | unclosedCount
  /-- A counted repetition ends before it starts. -/
  | countOrder
  /-- There is nothing to repeat. -/
  | nothingToRepeat
  /-- A character number has no digits. -/
  | hexEmpty
  /-- A character number is no scalar value. -/
  | hexNoScalar
  /-- A digit of base sixteen has to stand here. -/
  | hexDigit
  /-- The pattern ends inside an escape. -/
  | escapeEnd
  /-- There is no such escape. -/
  | escapeUnknown
  /-- References to groups are not supported. -/
  | backreference
  /-- Looking ahead or behind is not supported. -/
  | lookAround
  /-- A minus sign has no flag after it. -/
  | flagDangling
  /-- A flag is given twice. -/
  | flagDuplicate
  /-- A minus sign is given twice. -/
  | flagNegationTwice
  /-- The pattern ends inside a list of flags. -/
  | flagEnd
  /-- There is no such flag. -/
  | flagUnknown
  /-- Two groups have one name. -/
  | groupNameDuplicate
  /-- A group has an empty name. -/
  | groupNameEmpty
  /-- A character cannot stand in the name of a group. -/
  | groupNameInvalid
  /-- The pattern ends inside the name of a group. -/
  | groupNameEnd
  /-- A group has no closing parenthesis. -/
  | unclosedGroup
  /-- A closing parenthesis has no group to close. -/
  | unopenedGroup
  /-- Too much nesting. -/
  | nesting
  /-- A named word boundary has no closing brace. -/
  | boundaryUnclosed
  /-- There is no such word boundary. -/
  | boundaryUnknown
  /-- The pattern ends behind the brace of a word boundary. -/
  | boundaryEnd
  /-- A property is given by a backslash. -/
  | propertyLetter
  /-- There is no such property. -/
  | propertyUnknown
  /-- There is no such value of a property. -/
  | propertyValueUnknown
  /-- Characters beyond ASCII are switched off here. -/
  | unicodeOff
  /-- A single byte beyond ASCII could match. -/
  | invalidUtf8
  /-- The compiled pattern is too large. -/
  | size
  deriving DecidableEq, Repr

/-- What is wrong, in words. -/
def Error.what : Error → String
  | .unclosedClass => "unclosed character class"
  | .classRangeOrder => "invalid character class range, the start must be <= the end"
  | .classRangeEnd => "invalid range boundary, must be a literal"
  | .classEscape => "invalid escape sequence found in character class"
  | .countMissing => "repetition quantifier expects a valid decimal"
  | .countTooLarge => "decimal literal invalid"
  | .unclosedCount => "unclosed counted repetition"
  | .countOrder => "invalid repetition count range, the start must be <= the end"
  | .nothingToRepeat => "repetition operator missing expression"
  | .hexEmpty => "hexadecimal literal empty"
  | .hexNoScalar => "hexadecimal literal is not a Unicode scalar value"
  | .hexDigit => "invalid hexadecimal digit"
  | .escapeEnd => "incomplete escape sequence, reached end of pattern prematurely"
  | .escapeUnknown => "unrecognized escape sequence"
  | .backreference => "backreferences are not supported"
  | .lookAround => "look-around, including look-ahead and look-behind, is not supported"
  | .flagDangling => "dangling flag negation operator"
  | .flagDuplicate => "duplicate flag"
  | .flagNegationTwice => "flag negation operator repeated"
  | .flagEnd => "expected flag but got end of regex"
  | .flagUnknown => "unrecognized flag"
  | .groupNameDuplicate => "duplicate capture group name"
  | .groupNameEmpty => "empty capture group name"
  | .groupNameInvalid => "invalid capture group character"
  | .groupNameEnd => "unclosed capture group name"
  | .unclosedGroup => "unclosed group"
  | .unopenedGroup => "unopened group"
  | .nesting =>
    "exceed the maximum number of nested parentheses/brackets (" ++ toString nestLimit ++ ")"
  | .boundaryUnclosed =>
    "special word boundary assertion is either unclosed or contains an invalid character"
  | .boundaryUnknown =>
    "unrecognized special word boundary assertion, " ++
      "valid choices are: start, end, start-half or end-half"
  | .boundaryEnd =>
    "found either the beginning of a special word boundary or a bounded repetition " ++
      "on a \\b with an opening brace, but no closing brace"
  | .propertyLetter => "invalid Unicode character class"
  | .propertyUnknown => "Unicode property not found"
  | .propertyValueUnknown => "Unicode property value not found"
  | .unicodeOff => "Unicode not allowed here"
  | .invalidUtf8 => "pattern can match invalid UTF-8"
  | .size => "Compiled regex exceeds size limit of " ++ toString sizeLimit ++ " bytes."

/-- The last line of the wording of an error.

  The full wording of a fault in the text has more lines above: a heading, the text
  itself, and marks below the place of the fault. These are left out, here and wherever
  the line is part of another message. The size limit is no fault of the text itself, and
  its one line is all there is. -/
def Error.message (e : Error) : String :=
  match e with
  | .size => e.what
  | _ => "error: " ++ e.what

end LabelSelector.Pattern
