import LabelSelector.Unicode.CharSet

/-! # Characters as bytes

  An automaton over bytes takes a character by the bytes of its UTF-8 form. A set
  of characters is then a list of sequences of byte ranges, in ascending order: a
  character is in the set if its bytes are in the ranges of one of the sequences.
-/

namespace LabelSelector.Regex.Encoding

open Unicode (CharSet)

/-- The bytes from one to another. -/
abbrev ByteRange := Nat × Nat

/-- The numbers from `lo` to `hi`, written with a leading number and `k` digits of base
    sixty-four: ranges for each position of the writing. -/
def digitRanges : Nat → (lo hi : Nat) → List (List (Nat × Nat))
  | 0, lo, hi => [[(lo, hi)]]
  | k + 1, lo, hi =>
    let unit := Nat.pow 64 (k + 1)
    let first := lo / unit
    let last := hi / unit
    if first = last then
      (digitRanges k (lo % unit) (hi % unit)).map ((first, first) :: ·)
    else
      -- Only the first and the last leading number may lack some of their numbers.
      let first' := if lo % unit = 0 then first else first + 1
      let last' := if hi % unit = unit - 1 then last else last - 1
      let head := if first' = first then [] else
        (digitRanges k (lo % unit) (unit - 1)).map ((first, first) :: ·)
      let tail := if last' = last then [] else
        (digitRanges k 0 (hi % unit)).map ((last, last) :: ·)
      let middle := if first' ≤ last' then
        (digitRanges k 0 (unit - 1)).map ((first', last') :: ·) else []
      head ++ middle ++ tail

/-- Both ends of a range, moved up. -/
def shift (n : Nat) (r : Nat × Nat) : ByteRange := (r.1 + n, r.2 + n)

/-- The bytes of a leading number, which is marked, and of digits. -/
def toBytes (mark : Nat) : List (Nat × Nat) → List ByteRange
  | [] => []
  | lead :: digits => shift mark lead :: digits.map (shift 0x80)

/-- The code points whose UTF-8 form has a certain length. -/
structure Length where
  /-- The first of them. -/
  lo : Nat
  /-- The last of them. -/
  hi : Nat
  /-- The number of bytes after the leading one. -/
  digits : Nat
  /-- What the leading byte is marked with. -/
  mark : Nat

/-- The four lengths of the UTF-8 form. -/
def lengths : List Length :=
  [⟨0, 0x7F, 0, 0⟩, ⟨0x80, 0x7FF, 1, 0xC0⟩, ⟨0x800, 0xFFFF, 2, 0xE0⟩,
    ⟨0x10000, 0x10FFFF, 3, 0xF0⟩]

/-- The sequences of byte ranges that make up a set. -/
def sequences (s : CharSet) : List (List ByteRange) :=
  lengths.flatMap fun l =>
    s.ranges.flatMap fun (a, b) =>
      let lo := Nat.max a l.lo
      let hi := Nat.min b l.hi
      if lo ≤ hi then (digitRanges l.digits lo hi).map (toBytes l.mark) else []

/-- The bytes of a code point. -/
def bytes (n : Nat) : List Nat := (sequences (.single n)).flatMap fun s => s.map (·.1)

end LabelSelector.Regex.Encoding
