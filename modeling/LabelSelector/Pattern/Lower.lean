import LabelSelector.Pattern.Error
import LabelSelector.Pattern.Regex
import LabelSelector.Pattern.Tree
import LabelSelector.Unicode.CaseFolding

/-! # From tree to meaning

  Resolves the flags of a pattern tree. Flags set inside a group hold from there
  to the end of the group, also across alternatives, so they are handed from left
  to right through the tree.

  With Unicode switched off, a class may not hold anything beyond ASCII, since a
  single byte of a longer character could match then.
-/

namespace LabelSelector.Pattern

open Unicode (CharSet Query)

/-! ### Flags -/

/-- The flags that bear on the meaning of a pattern. -/
structure Flags where
  /-- Case does not count. -/
  ignoreCase : Bool
  /-- Line starts and ends count as such. -/
  multiLine : Bool
  /-- The dot takes line breaks too. -/
  dotAll : Bool
  /-- Classes go beyond ASCII. -/
  unicode : Bool
  /-- A carriage return belongs to a line break. -/
  crlf : Bool
  /-- Lazy and greedy repetition change places. -/
  swapGreed : Bool
  deriving DecidableEq, Repr

namespace Flags

/-- The flags at the start of a pattern. -/
def initial : Flags := ⟨false, false, false, true, false, false⟩

/-- Switches one flag. -/
def set (f : Flags) : Flag × Bool → Flags
  | (.ignoreCase, on) => { f with ignoreCase := on }
  | (.multiLine, on) => { f with multiLine := on }
  | (.dotAll, on) => { f with dotAll := on }
  | (.unicode, on) => { f with unicode := on }
  | (.crlf, on) => { f with crlf := on }
  | (.swapGreed, on) => { f with swapGreed := on }
  | (.verbose, _) => f

/-- Switches several flags. -/
def apply (f : Flags) (s : Setting) : Flags := s.foldl set f

/-! ### Sets of characters -/

/-- The set together with the other cases of its members, if case does not count. -/
def fold (f : Flags) (s : CharSet) : CharSet :=
  if f.ignoreCase then
    if f.unicode then Unicode.CaseFolding.closure s else Unicode.CaseFolding.asciiClosure s
  else s

/-- The set or its complement, which has to stay within ASCII if Unicode is off. -/
def negate (f : Flags) (negated : Bool) (s : CharSet) : Except Error CharSet :=
  let s := if negated then s.compl else s
  if f.unicode || s.isAscii then .ok s else .error .invalidUtf8

/-- The character that a literal stands for. -/
def literal (f : Flags) (l : Literal) : Except Error Char :=
  if !f.unicode && l.byte && l.char.toNat ≥ 0x80 then .error .invalidUtf8 else .ok l.char

/-- The character that a literal of a class stands for. -/
def classLiteral (f : Flags) (l : Literal) : Except Error Char := do
  let c ← f.literal l
  if !f.unicode && c.toNat ≥ 0x80 then throw .unicodeOff
  return c

/-- ASCII blanks. -/
def asciiSpace : CharSet := ⟨[(0x09, 0x0D), (0x20, 0x20)]⟩

/-- ASCII digits. -/
def asciiDigit : CharSet := ⟨[(0x30, 0x39)]⟩

/-- The members of a class with a letter. -/
def letterSet (f : Flags) : Letter → CharSet
  | .digit => if f.unicode then Unicode.Category.decimalNumber else asciiDigit
  | .space => if f.unicode then Unicode.Property.whiteSpace else asciiSpace
  | .word => if f.unicode then Unicode.Property.word else Regex.asciiWord

/-- The members of a class with a name. -/
def namedSet : Named → CharSet
  | .alnum => ⟨[(0x30, 0x39), (0x41, 0x5A), (0x61, 0x7A)]⟩
  | .alpha => ⟨[(0x41, 0x5A), (0x61, 0x7A)]⟩
  | .ascii => .ascii
  | .blank => ⟨[(0x09, 0x09), (0x20, 0x20)]⟩
  | .cntrl => ⟨[(0x00, 0x1F), (0x7F, 0x7F)]⟩
  | .digit => asciiDigit
  | .graph => ⟨[(0x21, 0x7E)]⟩
  | .lower => ⟨[(0x61, 0x7A)]⟩
  | .print => ⟨[(0x20, 0x7E)]⟩
  | .punct => ⟨[(0x21, 0x2F), (0x3A, 0x40), (0x5B, 0x60), (0x7B, 0x7E)]⟩
  | .space => asciiSpace
  | .upper => ⟨[(0x41, 0x5A)]⟩
  | .word => Regex.asciiWord
  | .xdigit => ⟨[(0x30, 0x39), (0x41, 0x46), (0x61, 0x66)]⟩

/-- The members of a Unicode property. -/
def propertySet (f : Flags) (q : Query) : Except Error CharSet :=
  if f.unicode then
    match q.answer with
    | .ok s => .ok s
    | .error .noProperty => .error .propertyUnknown
    | .error .noValue => .error .propertyValueUnknown
  else .error .unicodeOff

/-- The members of an atom of a class. Atoms that stand for no characters have none. -/
def atomSet (f : Flags) : Atom → Except Error CharSet
  | .literal l => do return .single (← f.classLiteral l).toNat
  | .letter l negated => f.negate negated (f.letterSet l)
  | .property q negated => do f.negate negated (f.fold (← f.propertySet q))
  | .dot | .assertion _ => .ok .empty

/-- The result of an operation on two sets. -/
def opSet : SetOp → CharSet → CharSet → CharSet
  | .inter => .inter
  | .diff => .diff
  | .symmDiff => .symmDiff

/-- The members of a class, as ranges in any order. -/
def classRanges (f : Flags) : ClassSet → Except Error (List (Nat × Nat))
  | .empty => .ok []
  | .atom a => do return (← f.atomSet a).ranges
  | .range lo hi => do
    let lo ← f.classLiteral lo
    let hi ← f.classLiteral hi
    return (CharSet.inter .scalars (.ofRanges [(lo.toNat, hi.toNat)])).ranges
  | .named n negated => do return (← f.negate negated (f.fold (namedSet n))).ranges
  | .bracket negated body => do
    let s := CharSet.ofRanges (← f.classRanges body)
    return (← f.negate negated (f.fold s)).ranges
  | .union first rest => do
    let s ← f.classRanges first
    let t ← f.classRanges rest
    return s ++ t
  | .op o lhs rhs => do
    let s := CharSet.ofRanges (← f.classRanges lhs)
    let t := CharSet.ofRanges (← f.classRanges rhs)
    return (opSet o (f.fold s) (f.fold t)).ranges

/-- The members of a class. -/
def classSet (f : Flags) (c : ClassSet) : Except Error CharSet :=
  return .ofRanges (← f.classRanges c)

/-! ### Atoms -/

/-- The characters that the dot takes. -/
def dotSet (f : Flags) : CharSet :=
  if f.dotAll then .scalars
  else if f.crlf then CharSet.compl ⟨[(0x0A, 0x0A), (0x0D, 0x0D)]⟩
  else CharSet.compl ⟨[(0x0A, 0x0A)]⟩

/-- The condition that an assertion stands for. -/
def assertion (f : Flags) : Assertion → Regex.Look
  | .lineStart =>
    if f.multiLine then if f.crlf then .lineStartCrlf else .lineStart else .textStart
  | .lineEnd => if f.multiLine then if f.crlf then .lineEndCrlf else .lineEnd else .textEnd
  | .textStart => .textStart
  | .textEnd => .textEnd
  | .wordBoundary => .word .boundary f.unicode
  | .notWordBoundary => .word .notBoundary f.unicode
  | .wordStart => .word .start f.unicode
  | .wordEnd => .word .stop f.unicode
  | .wordStartHalf => .word .startHalf f.unicode
  | .wordEndHalf => .word .stopHalf f.unicode

/-- The meaning of an atom. -/
def atom (f : Flags) : Atom → Except Error Regex
  | .literal l => do return .chars f.unicode (f.fold (.single (← f.literal l).toNat))
  | .dot => if f.unicode then .ok (.chars true f.dotSet) else .error .invalidUtf8
  | .assertion a => .ok (.look (f.assertion a))
  | a => do return .chars f.unicode (← f.atomSet a)

end Flags

/-! ### Repetitions -/

/-- Whether an expression matches nothing but the empty text. -/
def onlyEmpty : Regex → Bool
  | .empty | .look _ => true
  | .chars _ _ => false
  | .seq a b | .alt a b => onlyEmpty a && onlyEmpty b
  | .rep _ _ _ body | .group _ body => onlyEmpty body

/-- A repetition. No repetition at all is the empty text, and repeating the empty
    text more than once adds nothing. -/
def repeating (min : Nat) (max : Option Nat) (greedy : Bool) (body : Regex) : Regex :=
  if max = some 0 then .empty
  else if onlyEmpty body then .rep (Nat.min min 1) (some 1) greedy body
  else .rep min max greedy body

/-! ### Trees -/

/-- The meaning of a pattern under the given flags, and the flags behind it. -/
def Node.lower (f : Flags) : Node → Except Error (Regex × Flags)
  | .empty => .ok (.empty, f)
  | .flags s => .ok (.empty, f.apply s)
  | .atom a => do return (← f.atom a, f)
  | .bracket negated body => do
    return (.chars f.unicode (← f.negate negated (f.fold (← f.classSet body))), f)
  | .rep min max isLazy body => do
    let (r, f) ← body.lower f
    return (repeating min max (isLazy == f.swapGreed) r, f)
  -- Flags set inside a group end with it.
  | .group .capture body => do
    let (r, _) ← body.lower f
    return (.group true r, f)
  | .group (.plain s) body => do
    let (r, _) ← body.lower (f.apply s)
    return (.group false r, f)
  | .seq first rest => do
    let (r₁, f) ← first.lower f
    let (r₂, f) ← rest.lower f
    return (.seq r₁ r₂, f)
  | .alt first rest => do
    let (r₁, f) ← first.lower f
    let (r₂, f) ← rest.lower f
    return (.alt r₁ r₂, f)

end LabelSelector.Pattern
