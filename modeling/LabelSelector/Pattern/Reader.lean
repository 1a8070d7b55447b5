import LabelSelector.Pattern.Error
import LabelSelector.Source.TextReader
import LabelSelector.Unicode.Property

/-! # Reading patterns

  The parts from which the readers of patterns are put together. In verbose mode,
  blanks and comments between the parts of a pattern are skipped; `verbose` is
  handed to every reader that does so.
-/

namespace LabelSelector.Pattern

/-- Something that reads the front of a pattern. -/
abbrev Reader (α : Type) : Type := TextReader Error α

namespace Reader

open TextReader

/-! ### Blanks and comments -/

/-- Blank characters. -/
def isSpace (c : Char) : Bool := Unicode.Property.whiteSpace.contains c

/-- Drops blanks and comments; `comment` tells whether a comment is under way. -/
def dropSpace (comment : Bool) : List Char → List Char
  | [] => []
  | c :: cs =>
    if comment then dropSpace (c != '\n') cs
    else if isSpace c then dropSpace false cs
    else if c = '#' then dropSpace true cs
    else c :: cs

theorem length_dropSpace (comment : Bool) (cs : List Char) :
    (dropSpace comment cs).length ≤ cs.length := by
  induction cs generalizing comment with
  | nil => simp [dropSpace]
  | cons c cs ih =>
    unfold dropSpace
    split
    · exact Nat.le_succ_of_le (ih _)
    · split
      · exact Nat.le_succ_of_le (ih _)
      · split
        · exact Nat.le_succ_of_le (ih _)
        · exact Nat.le_refl _

/-- What is left once blanks and comments are skipped, if they are to be. -/
def spaced (verbose : Bool) (cs : List Char) : List Char :=
  if verbose then dropSpace false cs else cs

theorem length_spaced (verbose : Bool) (cs : List Char) :
    (spaced verbose cs).length ≤ cs.length := by
  unfold spaced
  split
  · exact length_dropSpace _ _
  · exact Nat.le_refl _

/-- Skips blanks and comments. -/
def space (verbose : Bool) : Reader Unit := fun cs =>
  .ok ((), ⟨spaced verbose cs, length_spaced verbose cs⟩)

/-- Passes over one character and what may be skipped after it. -/
def skipSpaced (verbose : Bool) : Reader Unit := do
  skip
  space verbose

/-- Splits off the characters with a property `p`, skipping what may be skipped
    after each. -/
def splitSpaced (verbose : Bool) (p : Char → Bool) : List Char → List Char × List Char
  | [] => ([], [])
  | c :: cs =>
    if p c then
      let (taken, rest) := splitSpaced verbose p (spaced verbose cs)
      (c :: taken, rest)
    else ([], c :: cs)
termination_by cs => cs.length
decreasing_by
  have := length_spaced verbose cs
  simp only [List.length_cons]
  omega

theorem length_splitSpaced (verbose : Bool) (p : Char → Bool) (cs : List Char) :
    (splitSpaced verbose p cs).2.length ≤ cs.length := by
  fun_induction splitSpaced verbose p cs with
  | case1 => simp
  | case2 c cs h taken rest heq ih =>
    have := length_spaced verbose cs
    rw [heq] at ih
    change rest.length ≤ _ at ih
    simp only [List.length_cons]
    omega
  | case3 c cs h => simp

/-- Takes characters as long as they have a property, skipping what may be
    skipped after each. -/
def takeSpaced (verbose : Bool) (p : Char → Bool) : Reader (List Char) := fun cs =>
  .ok ((splitSpaced verbose p cs).1, ⟨(splitSpaced verbose p cs).2, length_splitSpaced _ _ _⟩)

/-! ### Numbers -/

/-- The value of a digit of base ten. -/
def decimalDigit? (c : Char) : Option Nat :=
  if c.isDigit then some (c.toNat - 0x30) else none

/-- The value of digits in a base. -/
def number (base : Nat) (digit? : Char → Option Nat) (cs : List Char) : Nat :=
  cs.foldl (fun n c => n * base + (digit? c).getD 0) 0

/-- The largest repetition count. -/
def countLimit : Nat := 0xFFFFFFFF

/-- Reads a decimal number with any blanks around it. What is wrong with the
    number is told as a value, since other faults may come before it. -/
def decimal (verbose : Bool) : Reader (Except Error Nat) := do
  let _ ← takeWhile isSpace
  let digits ← takeSpaced verbose Char.isDigit
  let _ ← takeSpaced verbose isSpace
  if digits.isEmpty then return .error .countMissing
  let n := number 10 decimalDigit? digits
  return if n ≤ countLimit then .ok n else .error .countTooLarge

end Reader

end LabelSelector.Pattern
