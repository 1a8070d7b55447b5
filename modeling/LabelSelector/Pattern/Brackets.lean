import LabelSelector.Pattern.Escapes

/-! # Character classes

  Reads what stands between brackets. Brackets nest and hold operations, which
  all bind alike and to the left; a stack keeps what is still open.
-/

namespace LabelSelector.Pattern.Reader

open TextReader

/-! ### Items -/

/-- A character or an escape of a class; the character `c` has been passed. -/
def classAtom (verbose : Bool) (c : Char) : Reader Atom :=
  if c = '\\' then escape verbose else return .plain c

/-- An atom as an item of a class. -/
def classItem : Atom → Reader ClassSet
  | .dot | .assertion _ => fail .classEscape
  | a => return .atom a

/-- An atom as the end of a range. -/
def rangeEnd : Atom → Reader Literal
  | .literal l => return l
  | _ => fail .classRangeEnd

/-- The first character that is not skipped, seen from a hyphen: blanks and one
    number sign are. -/
def glance (verbose : Bool) (cs : List Char) : Option Char :=
  if verbose then
    match cs.dropWhile isSpace with
    | '#' :: rest => (rest.dropWhile isSpace).head?
    | rest => rest.head?
  else cs.head?

/-- Reads an item or a range; the character `c` that starts it has been passed. -/
def classRange (verbose : Bool) (c : Char) : Reader ClassSet := do
  let first ← classAtom verbose c
  space verbose
  match ← ahead with
  | [] => fail .unclosedClass
  | '-' :: rest =>
    let next := glance verbose rest
    if next = some ']' ∨ next = some '-' then classItem first
    else
      skipSpaced verbose
      match ← look with
      | none => fail .unclosedClass
      | some d =>
        skip
        let second ← classAtom verbose d
        let lo ← rangeEnd first
        let hi ← rangeEnd second
        if lo.char ≤ hi.char then return .range lo hi else fail .classRangeOrder
  | _ :: _ => classItem first

/-- A class with a name; the opening bracket has been passed. Anything else is
    left alone. -/
def namedClass? (cs : List Char) : Option (ClassSet × List Char) :=
  match cs with
  | ':' :: cs =>
    let (negated, cs) := match cs with
      | '^' :: rest => (true, rest)
      | _ => (false, cs)
    let name := cs.takeWhile (· ≠ ':')
    match cs.dropWhile (· ≠ ':') with
    | ':' :: ']' :: rest =>
      (Named.ofName? (String.ofList name)).map fun n => (.named n negated, rest)
    | _ => none
  | _ => none

theorem length_namedClass {cs rest : List Char} {item : ClassSet}
    (h : namedClass? cs = some (item, rest)) : rest.length ≤ cs.length := by
  unfold namedClass? at h
  split at h
  · next cs =>
    simp only at h
    split at h
    · next r heq =>
      obtain ⟨_, _, he⟩ := Option.map_eq_some_iff.1 h
      cases he
      have hle : (':' :: ']' :: rest).length ≤ cs.length := by
        rw [← heq]
        split
        · exact Nat.le_trans (List.dropWhile_suffix _).length_le (by simp)
        · exact (List.dropWhile_suffix _).length_le
      simp only [List.length_cons] at hle ⊢
      omega
    · simp at h
  · simp at h

/-! ### Brackets -/

/-- Reads hyphens that stand for themselves. -/
def hyphens (verbose : Bool) : Reader (List ClassSet) := do
  let found ← takeSpaced verbose (· == '-')
  return found.map fun c => .atom (.plain c)

/-- Reads the start of a class; its opening bracket has been passed. The answer
    tells whether the class is a complement, and the hyphens or the closing
    bracket that stand for themselves at its start. -/
def openClass (verbose : Bool) : Reader (Bool × List ClassSet) := do
  space verbose
  let negated := (← look) = some '^'
  if negated then skipSpaced verbose
  let items ← hyphens verbose
  let next ← look
  if next.isNone then fail .unclosedClass
  else if items.isEmpty ∧ next = some ']' then
    skipSpaced verbose
    if (← look).isNone then fail .unclosedClass
    else return (negated, [.atom (.plain ']')])
  else return (negated, items)

/-- What is open while a class is read. -/
inductive Opened where
  /-- Brackets, and the items before them, last first. -/
  | bracket (negated : Bool) (before : List ClassSet)
  /-- An operation whose second part is being read. -/
  | op (op : SetOp) (lhs : ClassSet)

/-- Completes the operation that waits for `rhs`, if one does. -/
def completeOp (rhs : ClassSet) : List Opened → ClassSet × List Opened
  | .op o lhs :: stack => (.op o lhs rhs, stack)
  | stack => (rhs, stack)

/-- What closing a bracket leads to. -/
inductive Closed where
  /-- The outermost brackets are closed. -/
  | whole (negated : Bool) (body : ClassSet)
  /-- Inner brackets are closed; these are the items so far, last first. -/
  | inner (items : List ClassSet) (stack : List Opened)

/-- Closes the innermost brackets; `items` are the items read last, last first. -/
def closeClass (stack : List Opened) (items : List ClassSet) : Closed :=
  match completeOp (.ofItems items.reverse) stack with
  | (body, .bracket negated before :: rest) =>
    if rest.isEmpty then .whole negated body else .inner (.bracket negated body :: before) rest
  | (body, _) => .whole false body

/-- The operation that two equal characters stand for. -/
def setOp? (c : Char) (rest : List Char) : Option SetOp :=
  match c, rest with
  | '&', '&' :: _ => some .inter
  | '-', '-' :: _ => some .diff
  | '~', '~' :: _ => some .symmDiff
  | _, _ => none

/-- Reads a class to its end: `stack` is what is open, innermost first, and
    `items` are the items of the innermost brackets, last first. -/
def classBody (verbose : Bool) (stack : List Opened) (items : List ClassSet) :
    Reader (Bool × ClassSet) := fun cs =>
  match h : spaced verbose cs with
  | [] => .error .unclosedClass
  | c :: rest =>
    have hrest : rest.length < cs.length := by
      have := length_spaced verbose cs
      rw [h] at this
      exact this
    if c = ']' then
      match closeClass stack items with
      | .whole negated body => .ok ((negated, body), ⟨rest, Nat.le_of_lt hrest⟩)
      | .inner items stack => shorten hrest (classBody verbose stack items rest)
    else if c = '[' then
      match hn : namedClass? rest with
      | some (item, rest') =>
        have hrest' : rest'.length < cs.length := Nat.lt_of_le_of_lt (length_namedClass hn) hrest
        shorten hrest' (classBody verbose stack (item :: items) rest')
      | none =>
        match openClass verbose rest with
        | .error e => .error e
        | .ok ((negated, first), ⟨rest', h'⟩) =>
          have hrest' : rest'.length < cs.length := Nat.lt_of_le_of_lt h' hrest
          shorten hrest'
            (classBody verbose (.bracket negated items :: stack) first.reverse rest')
    else
      match setOp? c rest with
      | some o =>
        -- What was read so far is the left side of the new operation.
        let (lhs, stack) := completeOp (.ofItems items.reverse) stack
        have hrest' : (rest.drop 1).length < cs.length := by
          simp only [List.length_drop]
          omega
        shorten hrest' (classBody verbose (.op o lhs :: stack) [] (rest.drop 1))
      | none =>
        match classRange verbose c rest with
        | .error e => .error e
        | .ok (item, ⟨rest', h'⟩) =>
          have hrest' : rest'.length < cs.length := Nat.lt_of_le_of_lt h' hrest
          shorten hrest' (classBody verbose stack (item :: items) rest')
termination_by cs => cs.length

/-- Reads a class; its opening bracket has been passed. -/
def bracket (verbose : Bool) : Reader (Bool × ClassSet) := do
  let (negated, first) ← openClass verbose
  classBody verbose [.bracket negated []] first.reverse

end LabelSelector.Pattern.Reader
