/-! # Cutting texts

  Texts are lists of characters here; these functions cut them at a number of
  bytes of their UTF-8 form.

  - `splitAtByte?` cuts exactly, and fails inside a character or past the end,
  - `takeBytes` rounds down to the last character boundary.

  Lines and digits are taken care of here too.
-/

namespace LabelSelector.Text

/-- Cuts a text after exactly `n` bytes. -/
def splitAtByte? : Nat → List Char → Option (List Char × List Char)
  | 0, cs => some ([], cs)
  | _ + 1, [] => none
  | n + 1, c :: cs =>
    if c.utf8Size ≤ n + 1 then
      (splitAtByte? (n + 1 - c.utf8Size) cs).map fun (before, after) => (c :: before, after)
    else none

/-- The longest beginning of a text of at most `n` bytes. -/
def takeBytes : Nat → List Char → List Char
  | _, [] => []
  | n, c :: cs => if c.utf8Size ≤ n then c :: takeBytes (n - c.utf8Size) cs else []

/-- What lies between two byte offsets, or nothing if they are no range on
    character boundaries of the text. -/
def slice (start stop : Nat) (cs : List Char) : List Char :=
  if start ≤ stop then
    match splitAtByte? start cs with
    | none => []
    | some (_, rest) =>
      match splitAtByte? (stop - start) rest with
      | none => []
      | some (inside, _) => inside
  else []

/-- The part after the last line break. -/
def lastLine (cs : List Char) : List Char := (cs.reverse.takeWhile (· ≠ '\n')).reverse

/-- The part before the first line break. -/
def firstLine (cs : List Char) : List Char := cs.takeWhile (· ≠ '\n')

/-- A text without the carriage returns at its end. -/
def trimReturns (cs : List Char) : List Char := (cs.reverse.dropWhile (· = '\r')).reverse

/-- The value of a digit of base sixteen. -/
def hexDigit? (c : Char) : Option Nat :=
  let n := c.toNat
  if 0x30 ≤ n && n ≤ 0x39 then some (n - 0x30)
  else if 0x41 ≤ n && n ≤ 0x46 then some (n - 0x41 + 10)
  else if 0x61 ≤ n && n ≤ 0x66 then some (n - 0x61 + 10)
  else none

end LabelSelector.Text
