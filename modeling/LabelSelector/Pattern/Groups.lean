import LabelSelector.Pattern.Escapes
import LabelSelector.Unicode.Recent

/-! # Groups and repetitions

  Reads what follows an opening parenthesis, and the operators of repetition.
-/

namespace LabelSelector.Pattern.Reader

open TextReader

/-! ### Flags -/

/-- Reads flags up to a colon or a closing parenthesis, which stays: `read` are the
    flags so far, last first, `negated` tells whether a minus sign has been read and
    `dangling` whether it was the last thing read. -/
def flags (read : Setting) (negated dangling : Bool) : Reader Setting
  | [] => .error .flagEnd
  | c :: cs =>
    if c = ':' ∨ c = ')' then
      if dangling then .error .flagDangling
      else .ok (read.reverse, ⟨c :: cs, Nat.le_refl _⟩)
    else if c = '-' then
      if negated then .error .flagNegationTwice
      else shorten (Nat.lt_succ_self _) (flags read true true cs)
    else
      match Flag.ofChar? c with
      | none => .error .flagUnknown
      | some f =>
        if read.any fun entry => entry.1 = f then .error .flagDuplicate
        else shorten (Nat.lt_succ_self _) (flags ((f, !negated) :: read) negated false cs)

/-- The mode that a list of flags leads to. -/
def verboseAfter (verbose : Bool) (s : Setting) : Bool :=
  match s.find? fun entry => entry.1 = .verbose with
  | some (_, on) => on
  | none => verbose

/-! ### Names -/

/-- Characters that start the name of a group. -/
def isGroupNameStart (c : Char) : Bool :=
  c == '_' || Unicode.Property.alphabetic.contains c || Unicode.Recent.alphabetic.contains c

/-- Characters of the name of a group. -/
def isGroupNameChar (first : Bool) (c : Char) : Bool :=
  isGroupNameStart c ||
    (!first && (c == '.' || c == '[' || c == ']' || Unicode.Category.number.contains c ||
      Unicode.Recent.number.contains c))

/-- Reads the name of a group and the bracket behind it. -/
def groupName (first : Bool) : Reader (List Char)
  | [] => .error .groupNameEnd
  | c :: cs =>
    if c = '>' then .ok ([], ⟨cs, by simp⟩)
    else if isGroupNameChar first c then
      (shorten (Nat.lt_succ_self _) (groupName false cs)).map fun (name, rest) => (c :: name, rest)
    else .error .groupNameInvalid

/-! ### The start of a group -/

/-- What an opening parenthesis starts. -/
inductive Opening where
  /-- A group, which may have a name. -/
  | group (kind : GroupKind) (name : Option String)
  /-- No group: flags are set. -/
  | setting (s : Setting)

/-- Reads the rest of a group that starts with a question mark. -/
def flagGroup : Reader Opening := do
  if (← look).isNone then fail .unclosedGroup
  else
    let s ← flags [] false false
    let stop ← look
    skip
    if stop = some ')' then
      if s.isEmpty then fail .nothingToRepeat else return .setting s
    else return .group (.plain s) none

/-- Reads the rest of a group with a name. -/
def namedGroup : Reader Opening := do
  let name ← groupName true
  if name.isEmpty then fail .groupNameEmpty
  else return .group .capture (some (String.ofList name))

/-- Reads the start of a group; its parenthesis has been passed. -/
def opening (verbose : Bool) : Reader Opening := do
  space verbose
  match ← ahead with
  -- Looking around is told before any other fault of the group.
  | '?' :: '=' :: _ | '?' :: '!' :: _ => fail .lookAround
  | '?' :: '<' :: '=' :: _ | '?' :: '<' :: '!' :: _ => fail .lookAround
  | '?' :: 'P' :: '<' :: _ => do skip; skip; skip; namedGroup
  | '?' :: '<' :: _ => do skip; skip; namedGroup
  | '?' :: _ => do skip; flagGroup
  | _ => return .group .capture none

/-! ### Repetitions -/

/-- The bounds of a repetition, and whether it is marked as lazy. -/
structure Bounds where
  /-- How often at least. -/
  min : Nat
  /-- How often at most, if there is such a bound. -/
  max : Option Nat
  /-- Whether few times are preferred. -/
  isLazy : Bool

/-- Reads the mark of a lazy repetition, if it is there, behind the given bounds. -/
def lazyMark (min : Nat) (max : Option Nat) : Reader Bounds := do
  return ⟨min, max, ← skipIf ['?']⟩

/-- Reads the bounds of a counted repetition up to its closing brace. -/
def bounds (verbose : Bool) : Reader (Nat × Option Nat) := do
  let lo ← decimal verbose
  match ← look with
  | none => fail .unclosedCount
  | some ',' =>
    skipSpaced verbose
    match ← look with
    | none => fail .unclosedCount
    -- A fault of the lower bound is told only once the repetition cannot end early.
    | some '\x7d' => return (← lift lo, none)
    | some _ =>
      let lo ← lift lo
      let hi ← lift (← decimal verbose)
      return (lo, some hi)
  | some _ =>
    let n ← lift lo
    return (n, some n)

/-- Whether the lower bound of a repetition is at most its upper bound. -/
def inOrder (lo : Nat) : Option Nat → Bool
  | none => true
  | some hi => lo ≤ hi

/-- Reads a counted repetition; its opening brace has been passed. -/
def counted (verbose : Bool) : Reader Bounds := do
  space verbose
  if (← look).isNone then fail .unclosedCount
  else
    let (lo, hi) ← bounds verbose
    if (← look) ≠ some '\x7d' then fail .unclosedCount
    else
      skipSpaced verbose
      let b ← lazyMark lo hi
      if inOrder lo hi then return b else fail .countOrder

/-- Reads a repetition; its first character `c` has been passed. -/
def repetition (verbose : Bool) (c : Char) : Reader Bounds :=
  match c with
  | '?' => lazyMark 0 (some 1)
  | '*' => lazyMark 0 none
  | '+' => lazyMark 1 none
  | _ => counted verbose

/-- Whether `c` starts a repetition. -/
def isRepetition (c : Char) : Bool := c == '?' || c == '*' || c == '+' || c == '\x7b'

end LabelSelector.Pattern.Reader
