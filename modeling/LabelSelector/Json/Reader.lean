import LabelSelector.Source.Text
import LabelSelector.Source.TextReader

/-! # Reading JSON

  Strings are read in full; any other value can only be passed over. Passing over
  a value checks its form and nothing else: there is no limit on its depth, and
  its strings may hold halves of surrogate pairs.
-/

namespace LabelSelector.Json

open TextReader

/-- A text that is not what it should be. -/
inductive Error where
  /-- The text has another form than JSON. -/
  | malformed
  deriving DecidableEq, Repr

/-- Something that reads the front of a JSON text. -/
abbrev Reader (α : Type) : Type := TextReader Error α

/-! ### Blanks and marks -/

/-- Blanks of JSON. -/
def isBlank (c : Char) : Bool := c == ' ' || c == '\n' || c == '\t' || c == '\r'

/-- Passes over blanks. -/
def blanks : Reader Unit := do
  let _ ← takeWhile isBlank

/-- Passes over the given text, which has to stand here. -/
def mark (text : List Char) : Reader Unit := do
  if ← skipIf text then return else fail .malformed

/-! ### Strings -/

/-- A part of a string: a character, or a number that stands for half a character. -/
inductive Piece where
  /-- A character. -/
  | char (c : Char)
  /-- A unit of the UTF-16 form. -/
  | unit (n : Nat)
  deriving DecidableEq, Repr

/-- The number with the given four digits. -/
def hexUnit? (a b c d : Char) : Option Nat := do
  let a ← Text.hexDigit? a
  let b ← Text.hexDigit? b
  let c ← Text.hexDigit? c
  let d ← Text.hexDigit? d
  return ((a * 16 + b) * 16 + c) * 16 + d

/-- The character of an escape of one letter. -/
def escape? : Char → Option Char
  | '"' => some '"'
  | '\\' => some '\\'
  | '/' => some '/'
  | 'b' => some '\x08'
  | 'f' => some '\x0c'
  | 'n' => some '\n'
  | 'r' => some '\r'
  | 't' => some '\t'
  | _ => none

/-- Reads a string whose opening quote has been passed. -/
def stringBody : Reader (List Piece)
  | [] => .error .malformed
  | '"' :: rest => .ok ([], ⟨rest, by simp⟩)
  | '\\' :: 'u' :: a :: b :: c :: d :: rest =>
    match hexUnit? a b c d with
    | none => .error .malformed
    | some n =>
      (shorten (by simp only [List.length_cons]; omega) (stringBody rest)).map
        fun (pieces, rest) => (.unit n :: pieces, rest)
  | '\\' :: e :: rest =>
    match escape? e with
    | none => .error .malformed
    | some c =>
      (shorten (by simp only [List.length_cons]; omega) (stringBody rest)).map
        fun (pieces, rest) => (.char c :: pieces, rest)
  | c :: rest =>
    -- A backslash with nothing behind it, or a control character as it is.
    if c = '\\' ∨ c.toNat < 0x20 then .error .malformed
    else
      (shorten (by simp) (stringBody rest)).map
        fun (pieces, rest) => (.char c :: pieces, rest)

/-- The characters of a string, if its surrogates come in pairs. -/
def characters : List Piece → Option (List Char)
  | [] => some []
  | .char c :: rest => (characters rest).map (c :: ·)
  | .unit n :: rest =>
    if 0xD800 ≤ n ∧ n < 0xDC00 then
      match rest with
      | .unit m :: rest =>
        if 0xDC00 ≤ m ∧ m < 0xE000 then
          let code := (n - 0xD800) * 0x400 + (m - 0xDC00) + 0x10000
          (characters rest).map (Char.ofNat code :: ·)
        else none
      | _ => none
    else if 0xDC00 ≤ n ∧ n < 0xE000 then none
    else (characters rest).map (Char.ofNat n :: ·)

/-- Reads a string. -/
def string : Reader String := do
  mark ['"']
  match characters (← stringBody) with
  | some cs => return String.ofList cs
  | none => fail .malformed

/-! ### Passing over values -/

/-- Passes over at least one digit. -/
def digits : Reader Unit := do
  let ds ← takeWhile Char.isDigit
  if ds.isEmpty then fail .malformed else return

/-- Passes over an exponent, if there is one. -/
def exponent : Reader Unit := do
  match ← look with
  | some 'e' | some 'E' =>
    skip
    match ← look with
    | some '+' | some '-' => do skip; digits
    | _ => digits
  | _ => return

/-- Passes over a number. -/
def number : Reader Unit := do
  let _ ← skipIf ['-']
  if ← skipIf ['0'] then
    if (← look).any Char.isDigit then fail .malformed
  else digits
  if ← skipIf ['.'] then digits
  exponent

/-- Passes over a value that holds no others; its first character is `c`. -/
def scalar (c : Char) : Reader Unit :=
  match c with
  | 'n' => mark ['n', 'u', 'l', 'l']
  | 't' => mark ['t', 'r', 'u', 'e']
  | 'f' => mark ['f', 'a', 'l', 's', 'e']
  | '"' => do
    skip
    let _ ← stringBody
  | _ => number

/-- What encloses a value. -/
inductive Enclosing where
  /-- An array. -/
  | array
  /-- An object. -/
  | object
  deriving DecidableEq, Repr

/-- Passes over the name of a member and the colon behind it. -/
def memberName : Reader Unit := do
  blanks
  mark ['"']
  let _ ← stringBody
  blanks
  mark [':']

/-- What a step of passing over a value leads to: more values, or the end of them. -/
inductive Move where
  /-- A value comes next, within these brackets. -/
  | value (stack : List Enclosing)
  /-- A value is over, within these brackets. -/
  | after (stack : List Enclosing)

/-- Passes over the start of a value; blanks have been passed. -/
def enter (stack : List Enclosing) : Reader Move := do
  match ← look with
  | none => fail .malformed
  | some '[' =>
    skip
    blanks
    if ← skipIf [']'] then return .after stack else return .value (.array :: stack)
  | some '\x7b' =>
    skip
    blanks
    if ← skipIf ['\x7d'] then return .after stack
    else
      memberName
      return .value (.object :: stack)
  | some c =>
    scalar c
    return .after stack

/-- Passes over what follows a value within brackets; blanks have been passed. -/
def leave (enclosing : Enclosing) (stack : List Enclosing) : Reader Move :=
  match enclosing with
  | .array => do
    match ← look with
    | some ',' => do skip; return .value (.array :: stack)
    | some ']' => do skip; return .after stack
    | _ => fail .malformed
  | .object => do
    match ← look with
    | some ',' => do
      skip
      memberName
      return .value (.object :: stack)
    | some '\x7d' => do skip; return .after stack
    | _ => fail .malformed

/-- One step of passing over a value. -/
def step : Move → Reader Move
  | .value stack => do
    blanks
    enter stack
  | .after (enclosing :: stack) => do
    blanks
    leave enclosing stack
  | .after [] => return .after []

/-- Passes over a value in at most the given number of steps. -/
def steps : Nat → Move → Reader Unit
  | _, .after [] => return
  | 0, _ => fail .malformed
  | n + 1, m => do
    let m ← step m
    steps n m

/-- Passes over a value. Every step passes over a character, so there are no more
    steps than characters. -/
def value : Reader Unit := do
  let cs ← ahead
  steps cs.length (.value [])

end LabelSelector.Json
