import LabelSelector.Unicode.Lookup

/-! # Pattern trees

  The tree of a pattern as it is written, before flags give it its meaning.

  - an `Atom` is one escape or one plain character,
  - a `ClassSet` is what stands between brackets,
  - a `Node` is a pattern. Lists and alternatives are built from pairs whose
    second part goes on with the same list.
-/

namespace LabelSelector.Pattern

open Unicode (Query)

/-! ### Atoms -/

/-- A character as written. -/
structure Literal where
  /-- The character. -/
  char : Char
  /-- Whether it is written as a byte, by two digits of base sixteen. -/
  byte : Bool
  deriving DecidableEq, Repr

/-- A class of characters with a letter of its own. -/
inductive Letter where
  /-- Digits. -/
  | digit
  /-- Blanks. -/
  | space
  /-- Characters of words. -/
  | word
  deriving DecidableEq, Repr

/-- A condition on a place in the text. -/
inductive Assertion where
  /-- Start of the text or of a line. -/
  | lineStart
  /-- End of the text or of a line. -/
  | lineEnd
  /-- Start of the text. -/
  | textStart
  /-- End of the text. -/
  | textEnd
  /-- Start or end of a word. -/
  | wordBoundary
  /-- Neither start nor end of a word. -/
  | notWordBoundary
  /-- Start of a word. -/
  | wordStart
  /-- End of a word. -/
  | wordEnd
  /-- No word character before. -/
  | wordStartHalf
  /-- No word character after. -/
  | wordEndHalf
  deriving DecidableEq, Repr

/-- One escape or one plain character. -/
inductive Atom where
  /-- A character. -/
  | literal (l : Literal)
  /-- Any character. -/
  | dot
  /-- A condition on a place. -/
  | assertion (a : Assertion)
  /-- A class with a letter, or its complement. -/
  | letter (l : Letter) (negated : Bool)
  /-- A Unicode property, or its complement. -/
  | property (q : Query) (negated : Bool)
  deriving DecidableEq, Repr

/-- The atom of a character that stands for itself. -/
def Atom.plain (c : Char) : Atom := .literal ⟨c, false⟩

/-! ### Classes -/

/-- A class of ASCII characters with a name. -/
inductive Named where
  /-- Letters and digits. -/
  | alnum
  /-- Letters. -/
  | alpha
  /-- All of ASCII. -/
  | ascii
  /-- The blank and the tab. -/
  | blank
  /-- Control characters. -/
  | cntrl
  /-- Digits. -/
  | digit
  /-- Characters with a shape. -/
  | graph
  /-- Lowercase letters. -/
  | lower
  /-- Characters with a shape, and the blank. -/
  | print
  /-- Punctuation. -/
  | punct
  /-- White space. -/
  | space
  /-- Uppercase letters. -/
  | upper
  /-- Letters, digits and the underscore. -/
  | word
  /-- Digits of base sixteen. -/
  | xdigit
  deriving DecidableEq, Repr

/-- The class with the given name. -/
def Named.ofName? : String → Option Named
  | "alnum" => some .alnum
  | "alpha" => some .alpha
  | "ascii" => some .ascii
  | "blank" => some .blank
  | "cntrl" => some .cntrl
  | "digit" => some .digit
  | "graph" => some .graph
  | "lower" => some .lower
  | "print" => some .print
  | "punct" => some .punct
  | "space" => some .space
  | "upper" => some .upper
  | "word" => some .word
  | "xdigit" => some .xdigit
  | _ => none

/-- An operation on two classes. -/
inductive SetOp where
  /-- What is in both. -/
  | inter
  /-- What is in the first only. -/
  | diff
  /-- What is in exactly one. -/
  | symmDiff
  deriving DecidableEq, Repr

/-- What stands between brackets. -/
inductive ClassSet where
  /-- Nothing. -/
  | empty
  /-- A character or a class with an escape. -/
  | atom (a : Atom)
  /-- All characters from one to another. -/
  | range (lo hi : Literal)
  /-- A class with a name, or its complement. -/
  | named (n : Named) (negated : Bool)
  /-- Brackets within brackets. -/
  | bracket (negated : Bool) (body : ClassSet)
  /-- An item and the items after it. -/
  | union (first rest : ClassSet)
  /-- An operation on two sets. -/
  | op (op : SetOp) (lhs rhs : ClassSet)
  deriving DecidableEq, Repr

/-- The items of a class as one set. -/
def ClassSet.ofItems : List ClassSet → ClassSet
  | [] => .empty
  | [item] => item
  | item :: items => .union item (ofItems items)

/-! ### Patterns -/

/-- A switch of the pattern language. -/
inductive Flag where
  /-- Case does not count. -/
  | ignoreCase
  /-- Line starts and ends count as such. -/
  | multiLine
  /-- The dot takes line breaks too. -/
  | dotAll
  /-- Lazy and greedy repetition change places. -/
  | swapGreed
  /-- Classes go beyond ASCII. -/
  | unicode
  /-- A carriage return belongs to a line break. -/
  | crlf
  /-- Blanks and comments are skipped. -/
  | verbose
  deriving DecidableEq, Repr

/-- The flag with the given letter. -/
def Flag.ofChar? : Char → Option Flag
  | 'i' => some .ignoreCase
  | 'm' => some .multiLine
  | 's' => some .dotAll
  | 'U' => some .swapGreed
  | 'u' => some .unicode
  | 'R' => some .crlf
  | 'x' => some .verbose
  | _ => none

/-- Flags that are switched on or off. -/
abbrev Setting := List (Flag × Bool)

/-- What kind of group parentheses form. -/
inductive GroupKind where
  /-- A group whose text is kept. -/
  | capture
  /-- A group that only sets flags for its body. -/
  | plain (flags : Setting)
  deriving DecidableEq, Repr

/-- A pattern as written. -/
inductive Node where
  /-- Nothing. -/
  | empty
  /-- A switch of flags up to the end of the group. -/
  | flags (s : Setting)
  /-- One escape or character. -/
  | atom (a : Atom)
  /-- A class, or its complement. -/
  | bracket (negated : Bool) (body : ClassSet)
  /-- A repetition, marked as lazy or not; without `max` there is no upper bound. -/
  | rep (min : Nat) (max : Option Nat) (isLazy : Bool) (body : Node)
  /-- A group. -/
  | group (kind : GroupKind) (body : Node)
  /-- An item and the items after it. -/
  | seq (first rest : Node)
  /-- An alternative and the alternatives after it. -/
  | alt (first rest : Node)
  deriving DecidableEq, Repr

namespace Node

/-- Items one after the other. -/
def ofItems : List Node → Node
  | [] => .empty
  | [item] => item
  | item :: items => .seq item (ofItems items)

/-- Alternatives. -/
def ofBranches : List Node → Node
  | [] => .empty
  | [branch] => branch
  | branch :: branches => .alt branch (ofBranches branches)

end Node

/-! ### Depth

  A list, an alternation, a repetition, a group, a class, and within a class a
  list of items and an operation, each add one level to what they hold. The
  pairs of one list share a level. -/

/-- How deeply a class is nested. -/
def ClassSet.depth : ClassSet → Nat
  | .empty | .atom _ | .range _ _ | .named _ _ => 0
  | .bracket _ body => body.depth + 1
  | .union first (.union a b) => max (first.depth + 1) (ClassSet.union a b).depth
  | .union first rest => max first.depth rest.depth + 1
  | .op _ lhs rhs => max lhs.depth rhs.depth + 1

/-- How deeply a pattern is nested. -/
def Node.depth : Node → Nat
  | .empty | .flags _ | .atom _ => 0
  | .bracket _ body => body.depth + 1
  | .rep _ _ _ body | .group _ body => body.depth + 1
  | .seq first (.seq a b) => max (first.depth + 1) (Node.seq a b).depth
  | .seq first rest => max first.depth rest.depth + 1
  | .alt first (.alt a b) => max (first.depth + 1) (Node.alt a b).depth
  | .alt first rest => max first.depth rest.depth + 1

end LabelSelector.Pattern
