/-! # Escapes in label values

  A raw value writes five characters as a backslash and a letter. `decode` reads
  a raw value from the left, one unit at a time: a character other than the
  backslash, or one of the five pairs.
-/

namespace LabelSelector

namespace Escape

/-- What is wrong with a raw value. -/
inductive Error where
  /-- No escape is written with this character. -/
  | invalid (c : Char)
  /-- The value ends behind a backslash. -/
  | unterminated
  deriving DecidableEq, Repr

/-- The character that a backslash and `c` stand for. -/
def meaning? : Char → Option Char
  | 'n' => some '\n'
  | 't' => some '\t'
  | 'r' => some '\r'
  | '\\' => some '\\'
  | '"' => some '"'
  | _ => none

/-- Reads a raw value, unit by unit. -/
def decode : List Char → Except Error (List Char)
  | [] => .ok []
  | '\\' :: [] => .error .unterminated
  | '\\' :: c :: rest =>
    match meaning? c with
    | none => .error (.invalid c)
    | some m => (decode rest).map (m :: ·)
  | c :: rest => (decode rest).map (c :: ·)

end Escape

/-- A value as read from its raw form. -/
structure Unescaped where
  /-- The value. -/
  value : String
  /-- Whether the raw form was the value already. -/
  verbatim : Bool
  deriving DecidableEq, Repr

/-- Reads a raw value. Without a backslash there is nothing to do. -/
def unescape (raw : String) : Except Escape.Error Unescaped :=
  if raw.toList.contains '\\' then
    (Escape.decode raw.toList).map fun cs => ⟨String.ofList cs, false⟩
  else .ok ⟨raw, true⟩

end LabelSelector
