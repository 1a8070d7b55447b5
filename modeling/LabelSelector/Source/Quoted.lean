import LabelSelector.Unicode.Property
import LabelSelector.Unicode.Recent

/-! # Quoted form of a text

  The form in which a text is shown inside a line: between double quotes, with
  everything escaped that would not be seen as itself. Six characters have an
  escape of two characters; all other hidden characters are written by number.
-/

namespace LabelSelector

namespace Quoted

open Unicode

/-- Characters without a shape of their own: controls, format characters, private
    use, unassigned, what may be left out when shown, and separators other than the
    plain blank. -/
def shapeless : CharSet :=
  (Category.unionAll [Category.other, Category.separator, Property.ignorable]).diff
    (Category.unionAll [Recent.assigned, .single 0x20])

/-- Characters that show only together with the one before them. Letters show by
    themselves. -/
def attached : CharSet :=
  (Category.unionAll [Property.graphemeExtend, Recent.graphemeExtend]).diff
    Category.modifierLetter

/-- Whether a character is written by number. The printable ASCII characters need
    no table. -/
def isHidden (c : Char) : Bool :=
  let n := c.toNat
  if 0x20 ≤ n ∧ n < 0x7F then false
  else shapeless.containsCode n || attached.containsCode n

/-- The escape by number: the code point in base sixteen between braces. -/
def byNumber (c : Char) : List Char :=
  ['\\', 'u', '\x7b'] ++ Nat.toDigits 16 c.toNat ++ ['\x7d']

/-- The escape of two characters, for the characters that have one. -/
def shortEscape? : Char → Option Char
  | '\x00' => some '0'
  | '\t' => some 't'
  | '\r' => some 'r'
  | '\n' => some 'n'
  | '"' => some '"'
  | '\\' => some '\\'
  | _ => none

/-- How one character is written. -/
def encodeChar (c : Char) : List Char :=
  match shortEscape? c with
  | some e => ['\\', e]
  | none => if isHidden c then byNumber c else [c]

/-- How a text is written between the quotes. -/
def encode (cs : List Char) : List Char := cs.flatMap encodeChar

end Quoted

/-- The quoted form of a text. -/
def quoted (text : String) : String :=
  String.ofList ('"' :: Quoted.encode text.toList ++ ['"'])

end LabelSelector
