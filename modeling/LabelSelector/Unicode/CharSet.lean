import LabelSelector.Source.Text

/-! # Sets of code points

  A `CharSet` is a list of inclusive ranges, kept ascending and apart from each
  other by every operation here:

  - `ofRanges` sorts and joins any list of ranges,
  - `compl` is taken within the scalar values, so surrogates never enter,
  - the other set operations come from `union` and `compl`,
  - `ofTable` reads the written form of the property tables.
-/

namespace LabelSelector.Unicode

/-- The largest code point. -/
def maxCodePoint : Nat := 0x10FFFF

/-- A set of code points. -/
structure CharSet where
  /-- Inclusive ranges, ascending, no two of them touching. -/
  ranges : List (Nat × Nat)
  deriving DecidableEq, Repr, Inhabited

namespace CharSet

/-! ### Membership -/

/-- Looks for a range that holds `n`, giving up at the first range beyond it. -/
def search (n : Nat) : List (Nat × Nat) → Bool
  | [] => false
  | (lo, hi) :: rest => if n < lo then false else if n ≤ hi then true else search n rest

/-- Whether the code point `n` is in the set. -/
def containsCode (s : CharSet) (n : Nat) : Bool := search n s.ranges

/-- Whether the character `c` is in the set. -/
def contains (s : CharSet) (c : Char) : Bool := s.containsCode c.toNat

/-! ### Construction -/

/-- Joins ranges that touch or overlap; `lo` to `hi` is the range under way. -/
def join (lo hi : Nat) : List (Nat × Nat) → List (Nat × Nat)
  | [] => [(lo, hi)]
  | (lo', hi') :: rest =>
    if lo' ≤ hi + 1 then join lo (max hi hi') rest else (lo, hi) :: join lo' hi' rest

/-- The set with all code points of the given ranges, in whatever order they come. -/
def ofRanges (rs : List (Nat × Nat)) : CharSet :=
  match (rs.filter fun r => r.1 ≤ r.2).mergeSort fun a b => a.1 ≤ b.1 with
  | [] => ⟨[]⟩
  | (lo, hi) :: rest => ⟨join lo hi rest⟩

/-- The set without members. -/
def empty : CharSet := ⟨[]⟩

/-- The set of one code point. -/
def single (n : Nat) : CharSet := ⟨[(n, n)]⟩

/-- The scalar values: every code point that is no surrogate. -/
def scalars : CharSet := ⟨[(0, 0xD7FF), (0xE000, maxCodePoint)]⟩

/-- The scalar values below `0x80`. -/
def ascii : CharSet := ⟨[(0, 0x7F)]⟩

/-! ### Set operations -/

/-- The members of either set. -/
def union (a b : CharSet) : CharSet := ofRanges (a.ranges ++ b.ranges)

/-- The gaps from `lo` to the end of the code space left by ascending ranges. -/
def gaps (lo : Nat) : List (Nat × Nat) → List (Nat × Nat)
  | [] => if lo ≤ maxCodePoint then [(lo, maxCodePoint)] else []
  | (lo', hi') :: rest =>
    if lo < lo' then (lo, lo' - 1) :: gaps (hi' + 1) rest else gaps (hi' + 1) rest

/-- The scalar values that are not in the set. -/
def compl (s : CharSet) : CharSet :=
  ⟨gaps 0 (ofRanges ((0xD800, 0xDFFF) :: s.ranges)).ranges⟩

/-- The members of both sets. -/
def inter (a b : CharSet) : CharSet := compl (union (compl a) (compl b))

/-- The members of the first set that are not in the second. -/
def diff (a b : CharSet) : CharSet := inter a (compl b)

/-- The members of exactly one of the sets. -/
def symmDiff (a b : CharSet) : CharSet := diff (union a b) (inter a b)

/-- Whether every member is below `0x80`. -/
def isAscii (s : CharSet) : Bool := s.ranges.all fun r => r.2 < 0x80

/-! ### Written form

  A table is written as ranges in base sixteen, `41-5A` for a range and `AA` for
  a single code point, with blanks between them and in as many lines as needed. -/

/-- The range from `lo` to `n`, if a number has been read; alone, it is its own range. -/
def closeRange (lo n : Option Nat) : List (Nat × Nat) :=
  match n with
  | some n => [(lo.getD n, n)]
  | none => []

/-- Reads ranges off a written table: `lo` is the start of a range whose end is
    being read, `n` the number under way. -/
def readRanges (lo n : Option Nat) : List Char → List (Nat × Nat)
  | [] => closeRange lo n
  | c :: cs =>
    match Text.hexDigit? c with
    | some d => readRanges lo (some (n.getD 0 * 16 + d)) cs
    | none =>
      if c = '-' then readRanges n none cs else closeRange lo n ++ readRanges none none cs

/-- The set whose written form are the given lines. -/
def ofTable (lines : List String) : CharSet :=
  ofRanges (lines.flatMap fun line => readRanges none none line.toList)

end CharSet

end LabelSelector.Unicode
