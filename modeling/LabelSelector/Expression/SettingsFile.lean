import LabelSelector.Expression.Settings
import LabelSelector.Json.Reader
import LabelSelector.Json.Text

/-! # Settings as JSON

  Settings are an object or an array. An object may have other members too, which
  are passed over; the one that counts may be missing and may not come twice. An
  array lists the values of the members in order.
-/

namespace LabelSelector

namespace ParserSettings

open TextReader Json

/-- The name of the member that counts. -/
def requireBracesName : String := "require_braces"

/-- Reads a truth value. -/
def truth : Json.Reader Bool := do
  if ← skipIf ['t', 'r', 'u', 'e'] then return true
  else
    mark ['f', 'a', 'l', 's', 'e']
    return false

/-- Reads a member; `found` is the value found before. -/
def member (found : Option Bool) : Json.Reader (Option Bool) := do
  let name ← Json.string
  blanks
  mark [':']
  blanks
  if name = requireBracesName then
    if found.isSome then fail .malformed else return some (← truth)
  else
    Json.value
    return found

/-- Reads members up to the closing brace, at most the given number of them. -/
def members (found : Option Bool) : Nat → Json.Reader (Option Bool)
  | 0 => fail .malformed
  | n + 1 => do
    let found ← member found
    blanks
    match ← look with
    | some ',' => do
      skip
      blanks
      members found n
    | some '\x7d' => do
      skip
      return found
    | _ => fail .malformed

/-- Reads an object whose brace has been passed. -/
def fromObject : Json.Reader (Option Bool) := do
  blanks
  if ← skipIf ['\x7d'] then return none
  else
    let cs ← ahead
    members none cs.length

/-- Reads an array whose bracket has been passed. -/
def fromArray : Json.Reader (Option Bool) := do
  blanks
  if ← skipIf [']'] then return none
  else
    let b ← truth
    blanks
    mark [']']
    return some b

/-- Reads a whole text. -/
def document : Json.Reader ParserSettings := do
  blanks
  let found ←
    if ← skipIf ['\x7b'] then fromObject
    else do
      mark ['[']
      fromArray
  blanks
  if (← look).isSome then fail .malformed else return ⟨found.getD false⟩

/-- The settings that a text holds. -/
def ofJson (text : String) : Except Json.Error ParserSettings :=
  (document text.toList).map Prod.fst

/-- The settings as an object. -/
def toJson (s : ParserSettings) : String :=
  Json.writeObject [(requireBracesName, Json.writeBool s.requireBraces)]

end ParserSettings

end LabelSelector
