import LabelSelector.Unicode.Property

/-! # Regular expressions

  What a pattern means once its flags are resolved. `Regex.Spans` is the meaning:
  from which place to which a regular expression leads in a text. Places are
  counted in code points.

  Whether a set was written with Unicode on, whether a repetition is greedy and
  whether the text of a group is kept has no bearing on this meaning, but on the
  size of the expression.
-/

namespace LabelSelector

open Unicode (CharSet)

namespace Regex

/-! ### Conditions on places -/

/-- A condition on word characters around a place. -/
inductive WordLook where
  /-- A word character on exactly one side. -/
  | boundary
  /-- A word character on both sides or on neither. -/
  | notBoundary
  /-- A word character after, and none before. -/
  | start
  /-- A word character before, and none after. -/
  | stop
  /-- No word character before. -/
  | startHalf
  /-- No word character after. -/
  | stopHalf
  deriving DecidableEq, Repr

/-- A condition on a place. -/
inductive Look where
  /-- Start of the text. -/
  | textStart
  /-- End of the text. -/
  | textEnd
  /-- Start of a line; lines end with a line feed. -/
  | lineStart
  /-- End of a line. -/
  | lineEnd
  /-- Start of a line; lines end with a carriage return, a line feed, or both. -/
  | lineStartCrlf
  /-- End of such a line. -/
  | lineEndCrlf
  /-- A condition on word characters, in all of Unicode or in ASCII only. -/
  | word (look : WordLook) (unicode : Bool)
  deriving DecidableEq, Repr

/-- The ASCII characters of words. -/
def asciiWord : CharSet := ⟨[(0x30, 0x39), (0x41, 0x5A), (0x5F, 0x5F), (0x61, 0x7A)]⟩

/-- Whether a character is one of a word. -/
def isWordChar (unicode : Bool) (c : Char) : Bool :=
  if unicode then Unicode.Property.word.contains c else asciiWord.contains c

/-- Whether a condition holds with a word character before and after, or not. -/
def WordLook.holds : WordLook → (before after : Bool) → Bool
  | .boundary, before, after => before != after
  | .notBoundary, before, after => before == after
  | .start, before, after => !before && after
  | .stop, before, after => before && !after
  | .startHalf, before, _ => !before
  | .stopHalf, _, after => !after

/-- Whether a condition holds between two characters; there is none before the
    start and none after the end of the text. -/
def Look.holds (look : Look) (before after : Option Char) : Bool :=
  match look with
  | .textStart => before.isNone
  | .textEnd => after.isNone
  | .lineStart => before.isNone || before == some '\n'
  | .lineEnd => after.isNone || after == some '\n'
  | .lineStartCrlf =>
    before.isNone || before == some '\n' || (before == some '\r' && after != some '\n')
  | .lineEndCrlf =>
    after.isNone || after == some '\r' || (after == some '\n' && before != some '\r')
  | .word look unicode => look.holds (before.any (isWordChar unicode)) (after.any (isWordChar unicode))

end Regex

/-! ### Expressions -/

/-- A regular expression. -/
inductive Regex where
  /-- The empty text. -/
  | empty
  /-- One character of a set, which was written with Unicode switched on or off. -/
  | chars (unicode : Bool) (s : CharSet)
  /-- A condition on the place. -/
  | look (l : Regex.Look)
  /-- One after the other. -/
  | seq (first second : Regex)
  /-- One or the other. -/
  | alt (first second : Regex)
  /-- At least `min` times, and at most `max` times if there is such a bound; a greedy
      repetition prefers many times. -/
  | rep (min : Nat) (max : Option Nat) (greedy : Bool) (body : Regex)
  /-- A group, whose text is kept or not. -/
  | group (kept : Bool) (body : Regex)
  deriving DecidableEq, Repr

namespace Regex

/-- The character before a place of a text. -/
def charBefore (text : List Char) (i : Nat) : Option Char :=
  if i = 0 then none else text[i - 1]?

/-- `Spans text r i j`: the expression `r` leads from place `i` to place `j` of the text. -/
inductive Spans (text : List Char) : Regex → Nat → Nat → Prop where
  /-- The empty text leads nowhere. -/
  | empty {i : Nat} (hi : i ≤ text.length) : Spans text .empty i i
  /-- A character of the set leads behind it. -/
  | chars {unicode : Bool} {s : CharSet} {i : Nat} {c : Char} (hc : text[i]? = some c)
    (hs : s.contains c = true) : Spans text (.chars unicode s) i (i + 1)
  /-- A condition that holds leads nowhere. -/
  | look {l : Look} {i : Nat} (hi : i ≤ text.length)
    (hl : l.holds (charBefore text i) text[i]? = true) : Spans text (.look l) i i
  /-- The second part goes on where the first ends. -/
  | seq {r₁ r₂ : Regex} {i j k : Nat} (h₁ : Spans text r₁ i j) (h₂ : Spans text r₂ j k) :
    Spans text (.seq r₁ r₂) i k
  /-- The first alternative. -/
  | altLeft {r₁ r₂ : Regex} {i j : Nat} (h : Spans text r₁ i j) : Spans text (.alt r₁ r₂) i j
  /-- The second alternative. -/
  | altRight {r₁ r₂ : Regex} {i j : Nat} (h : Spans text r₂ i j) : Spans text (.alt r₁ r₂) i j
  /-- No repetition, if none is asked for. -/
  | repNone {max : Option Nat} {greedy : Bool} {r : Regex} {i : Nat} (hi : i ≤ text.length) :
    Spans text (.rep 0 max greedy r) i i
  /-- One repetition, and the others with both bounds lowered by one. -/
  | repOne {min : Nat} {max : Option Nat} {greedy : Bool} {r : Regex} {i j k : Nat}
    (hm : max ≠ some 0) (h₁ : Spans text r i j)
    (h₂ : Spans text (.rep (min - 1) (max.map (· - 1)) greedy r) j k) :
    Spans text (.rep min max greedy r) i k
  /-- A group is its body. -/
  | group {kept : Bool} {r : Regex} {i j : Nat} (h : Spans text r i j) :
    Spans text (.group kept r) i j

/-- Whether an expression matches somewhere in a text. -/
def Matches (r : Regex) (text : List Char) : Prop := ∃ i j, Spans text r i j

end Regex

end LabelSelector
