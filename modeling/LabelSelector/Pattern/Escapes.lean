import LabelSelector.Pattern.Reader
import LabelSelector.Pattern.Tree

/-! # Escapes of patterns

  What a backslash and the characters after it stand for: a character, a class, a
  property, or a condition on a place.
-/

namespace LabelSelector.Pattern.Reader

open TextReader
open Unicode (Query)

/-! ### Characters by number -/

/-- The scalar value with the given number. -/
def scalar? (n : Nat) : Option Char :=
  if h : n.isValidChar then some (Char.ofNatAux n h) else none

/-- The character with the given digits of base sixteen. -/
def hexChar (digits : List Char) : Reader Char :=
  match scalar? (number 16 Text.hexDigit? digits) with
  | some c => return c
  | none => fail .hexNoScalar

/-- Reads the next digit of base sixteen. -/
def hexDigit (verbose : Bool) : Reader Char := do
  match ← look with
  | none => fail .escapeEnd
  | some c =>
    if (Text.hexDigit? c).isSome then
      skipSpaced verbose
      return c
    else fail .hexDigit

/-- Reads exactly `n` digits of base sixteen. -/
def hexDigits (verbose : Bool) : Nat → Reader (List Char)
  | 0 => return []
  | n + 1 => do
    let d ← hexDigit verbose
    let ds ← hexDigits verbose n
    return d :: ds

/-- Reads a character number between braces; the opening brace is next. -/
def hexBraced (verbose : Bool) : Reader Char := do
  skipSpaced verbose
  let digits ← takeSpaced verbose (· != '\x7d')
  if digits.any fun c => (Text.hexDigit? c).isNone then fail .hexDigit
  else if (← look).isNone then fail .escapeEnd
  else
    skipSpaced verbose
    if digits.isEmpty then fail .hexEmpty else hexChar digits

/-- Reads a character by its number; the letter before it gives the number of
    digits, unless they stand between braces. -/
def hex (verbose : Bool) (letter : Char) : Reader Literal := do
  space verbose
  match ← look with
  | none => fail .escapeEnd
  | some '\x7b' => return ⟨← hexBraced verbose, false⟩
  | some _ =>
    let count := if letter = 'x' then 2 else if letter = 'u' then 4 else 8
    let digits ← hexDigits verbose count
    return ⟨← hexChar digits, letter = 'x'⟩

/-! ### Properties -/

/-- Splits a text at the first place where `mark` stands. -/
def splitAtMark? (mark : List Char) : List Char → Option (List Char × List Char)
  | [] => none
  | c :: cs =>
    if mark.isPrefixOf (c :: cs) then some ([], (c :: cs).drop mark.length)
    else (splitAtMark? mark cs).map fun (before, after) => (c :: before, after)

/-- The property that a text between braces asks for, and whether the text itself
    asks for its complement. -/
def property (text : List Char) : Query × Bool :=
  let valued := fun (pair : List Char × List Char) =>
    Query.valued (String.ofList pair.1) (String.ofList pair.2)
  match splitAtMark? ['!', '='] text with
  | some pair => (valued pair, true)
  | none =>
    match splitAtMark? [':'] text <|> splitAtMark? ['='] text with
    | some pair => (valued pair, false)
    | none => (.named (String.ofList text), false)

/-- Reads a property: one letter, or a text between braces. -/
def propertyAtom (verbose negated : Bool) : Reader Atom := do
  space verbose
  match ← look with
  | none => fail .escapeEnd
  | some '\x7b' =>
    skipSpaced verbose
    let text ← takeSpaced verbose (· != '\x7d')
    if (← look).isNone then fail .escapeEnd
    else
      skip
      let (query, complement) := property text
      return .property query (negated != complement)
  | some '\\' => fail .propertyLetter
  | some c =>
    skipSpaced verbose
    return .property (.named (String.singleton c)) negated

/-! ### Places -/

/-- Characters of the name of a word boundary. -/
def isBoundaryChar (c : Char) : Bool := c.isAlpha || c == '-'

/-- The word boundary with the given name. -/
def boundary? : String → Option Assertion
  | "start" => some .wordStart
  | "end" => some .wordEnd
  | "start-half" => some .wordStartHalf
  | "end-half" => some .wordEndHalf
  | _ => none

/-- Reads the name of a word boundary; the opening brace is next. -/
def boundaryName (verbose : Bool) : Reader Assertion := do
  skipSpaced verbose
  let name ← takeSpaced verbose isBoundaryChar
  if (← look) = some '\x7d' then
    skip
    match boundary? (String.ofList name) with
    | some a => return a
    | none => fail .boundaryUnknown
  else fail .boundaryUnclosed

/-- Reads what may follow the letter of a word boundary: a name between braces.
    Braces without a name are left alone, since they are a repetition. -/
def boundary (verbose : Bool) : Reader Assertion := do
  match ← ahead with
  | '\x7b' :: rest =>
    match (spaced verbose rest).head? with
    | none => fail .boundaryEnd
    | some c => if isBoundaryChar c then boundaryName verbose else return .wordBoundary
  | _ => return .wordBoundary

/-! ### Escapes -/

/-- The characters that have a meaning of their own in patterns. -/
def metaChars : List Char :=
  ['\\', '.', '+', '*', '?', '(', ')', '|', '[', ']', '\x7b', '\x7d', '^', '$', '#', '&', '-',
    '~']

/-- Whether a character stands for itself behind a backslash: every ASCII
    character other than letters, digits and the two angle brackets. -/
def isEscapable (c : Char) : Bool :=
  metaChars.contains c || (c.toNat < 0x80 && !c.isAlphanum && c != '<' && c != '>')

/-- The escapes that need nothing but their letter. -/
def letterAtom? : Char → Option Atom
  | 'd' => some (.letter .digit false)
  | 's' => some (.letter .space false)
  | 'w' => some (.letter .word false)
  | 'D' => some (.letter .digit true)
  | 'S' => some (.letter .space true)
  | 'W' => some (.letter .word true)
  | 'a' => some (.plain '\x07')
  | 'f' => some (.plain '\x0c')
  | 't' => some (.plain '\t')
  | 'n' => some (.plain '\n')
  | 'r' => some (.plain '\r')
  | 'v' => some (.plain '\x0b')
  | 'A' => some (.assertion .textStart)
  | 'z' => some (.assertion .textEnd)
  | 'B' => some (.assertion .notWordBoundary)
  | '<' => some (.assertion .wordStart)
  | '>' => some (.assertion .wordEnd)
  | _ => none

/-- Reads the rest of an escape; the backslash has been passed. -/
def escape (verbose : Bool) : Reader Atom := do
  match ← look with
  | none => fail .escapeEnd
  | some c =>
    if c.isDigit then fail .backreference
    else
      skip
      if c = 'x' ∨ c = 'u' ∨ c = 'U' then return .literal (← hex verbose c)
      else if c = 'p' ∨ c = 'P' then propertyAtom verbose (c = 'P')
      else if isEscapable c then return .plain c
      else if c = 'b' then return .assertion (← boundary verbose)
      else
        match letterAtom? c with
        | some a => return a
        | none => fail .escapeUnknown

end LabelSelector.Pattern.Reader
