import LabelSelector.Token.Scanner

/-! # Reading heads

  A head goes over a text one character at a time, and can give the last one back. It keeps
  two cursors, one where the token starts and one where it reads, and the width of the
  character read last.

  - `next`, `backup`, `accept` and `emit` are the moves of a head; every move leaves an entry
    in its trail,
  - to read where no character starts, and to step back before the start of the text, are
    faults,
  - `Head.scan` and `Head.peek` hand out tokens as a `Scanner` does.
-/

namespace LabelSelector

namespace Head

/-- Where a head stands. -/
structure Place where
  /-- Where the token starts. -/
  start : Cursor
  /-- Where the next character is read. -/
  pos : Cursor
  /-- The bytes of the character read last, or zero if it cannot be given back. -/
  width : Nat
  deriving DecidableEq, Repr

/-- What a head does. -/
inductive Move where
  /-- It reads a character, unless it stands at the end. -/
  | next (found : Option Char)
  /-- It gives the last character back. -/
  | backup
  /-- It takes a character if that is one of a set. -/
  | accept (valid : String) (taken : Bool)
  /-- It hands out a token. -/
  | emit (t : Token)
  /-- It finds that a token does not start as that token has to. -/
  | astray
  deriving DecidableEq, Repr

/-- A move, and where it led. -/
structure Entry where
  /-- The move. -/
  move : Move
  /-- Where the head stood. -/
  before : Place
  /-- Where it stands since. -/
  after : Place
  deriving DecidableEq, Repr

/-- Why a head cannot go on. -/
inductive Fault where
  /-- It reads inside a character or behind the end of the text. -/
  | torn
  /-- It gives back more than there is. -/
  | retreat (fault : LabelSelector.Fault)
  deriving DecidableEq, Repr

end Head

/-- A text under a reading head. -/
structure Head where
  /-- The whole text. -/
  input : String
  /-- Where the head stands. -/
  place : Head.Place
  /-- The error that stopped the head. -/
  failure : Option LexicalError
  /-- The moves so far, last first. -/
  trail : List Head.Entry
  deriving DecidableEq, Repr

namespace Head

/-- A head at the start of a text. -/
def ofText (text : String) : Head := ⟨text, ⟨.origin, .origin, 0⟩, none, []⟩

/-- The characters to be read, if one of them or the end stands where the head reads. -/
def ahead (h : Head) : Option (List Char) :=
  (Text.splitAtByte? h.place.pos.offset h.input.toList).map Prod.snd

/-- The head after a move that began at `before` and ends at `after`. -/
def moved (h : Head) (move : Move) (before after : Place) : Head :=
  { h with place := after, trail := ⟨move, before, after⟩ :: h.trail }

/-! ### Actions -/

/-- What can be done with a head, unless a fault comes up. -/
def Action (α : Type) : Type := Head → Except Fault (α × Head)

namespace Action

/-- Answers without a move. -/
protected def pure {α : Type} (a : α) : Action α := fun h => .ok (a, h)

/-- Goes on with what has been answered. -/
protected def bind {α β : Type} (m : Action α) (f : α → Action β) : Action β := fun h =>
  match m h with
  | .ok (a, h) => f a h
  | .error fault => .error fault

instance : Monad Action where
  pure := Action.pure
  bind := Action.bind

end Action

/-! ### Moves -/

/-- Reads a character and keeps its width. At the end there is none, and no width. -/
def next : Action (Option Char) := fun h =>
  match h.ahead with
  | none => .error .torn
  | some [] => .ok (none, h.moved (.next none) h.place { h.place with width := 0 })
  | some (c :: _) =>
    let after := { h.place with pos := h.place.pos.advance c, width := c.utf8Size }
    .ok (some c, h.moved (.next (some c)) h.place after)

/-- Gives the last character back. This can be done once. -/
def backup : Action Unit := fun h =>
  match h.place.pos.retreat h.place.width with
  | .error fault => .error (.retreat fault)
  | .ok pos => .ok ((), h.moved .backup h.place { h.place with pos := pos, width := 0 })

/-- Where the head stands. -/
def stand : Action Place := fun h => .ok (h.place, h)

/-- Notes a move that began at `before`. -/
def note (move : Move) (before : Place) : Action Unit := fun h =>
  .ok ((), h.moved move before h.place)

/-- Reads a character, and gives it back unless it is one of `valid`. -/
def take (valid : String) : Action Bool := do
  match ← next with
  | some c =>
    if c ∈ valid.toList then return true
    else
      backup
      return false
  | none => return false

/-- Takes a character if it is one of `valid`, and answers whether it is. -/
def accept (valid : String) : Action Bool := do
  let before ← stand
  let taken ← take valid
  note (.accept valid taken) before
  return taken

/-- Hands out the token between the cursors. The next one starts where it ends. -/
def emit (kind : Token.Kind) : Action Token := fun h =>
  let span := Span.between h.place.start h.place.pos
  let t : Token := ⟨kind, span.slice h.input, span⟩
  .ok (t, h.moved (.emit t) h.place { h.place with start := h.place.pos })

/-- Notes that a token does not start as it has to. -/
def astray : Action Unit := fun h => .ok ((), h.moved .astray h.place h.place)

/-- The error between the cursors. -/
def errorAt (cause : LexicalError.Cause) : Action LexicalError := fun h =>
  .ok (.located cause (.between h.place.start h.place.pos) h.input, h)

/-- The error that none of `valid` is read next. It is at the next character, if there is
    one. -/
def expected (valid : String) : Action LexicalError := fun h =>
  match h.ahead with
  | none => .error .torn
  | some cs =>
    .ok (.located (.expected valid) (.covering h.place.pos (cs.take 1)) h.input, h)

/-! ### Reading shortens the text -/

/-- How many characters are to be read. -/
def left (h : Head) : Nat := (h.ahead.getD []).length

/-- A cut behind the first character cuts the text behind it. -/
theorem splitAtByte?_cons (n : Nat) (c : Char) (cs : List Char) :
    Text.splitAtByte? (n + c.utf8Size) (c :: cs) =
      (Text.splitAtByte? n cs).map fun (front, back) => (c :: front, back) := by
  have hpos : 0 < c.utf8Size := c.utf8Size_pos
  obtain ⟨k, hk⟩ : ∃ k, n + c.utf8Size = k + 1 := ⟨n + c.utf8Size - 1, by omega⟩
  have hback : k + 1 - c.utf8Size = n := by omega
  rw [hk, Text.splitAtByte?, if_pos (by omega), hback]

/-- Where a character follows a cut, the text can be cut behind that character. -/
theorem splitAtByte?_advance {n : Nat} {cs front back : List Char} {c : Char}
    (h : Text.splitAtByte? n cs = some (front, c :: back)) :
    Text.splitAtByte? (n + c.utf8Size) cs = some (front ++ [c], back) := by
  induction cs generalizing n front with
  | nil => cases n <;> cases h
  | cons d cs ih =>
    cases n with
    | zero =>
      cases h
      rw [splitAtByte?_cons, Text.splitAtByte?]
      rfl
    | succ n =>
      rw [Text.splitAtByte?] at h
      split at h
      · next hle =>
        obtain ⟨⟨front', back'⟩, hcut, heq⟩ := Option.map_eq_some_iff.mp h
        cases heq
        have hshift : n + 1 + c.utf8Size = n + 1 - d.utf8Size + c.utf8Size + d.utf8Size := by
          omega
        rw [hshift, splitAtByte?_cons, ih hcut]
        rfl
      · cases h

/-- Reading a character leaves fewer. -/
theorem left_next {h after : Head} {c : Char} (hnext : next h = .ok (some c, after)) :
    after.left < h.left := by
  unfold next at hnext
  split at hnext
  · cases hnext
  · cases hnext
  · next d cs hahead =>
    cases hnext
    obtain ⟨⟨front, back⟩, hcut, hback⟩ := Option.map_eq_some_iff.mp hahead
    obtain rfl : back = c :: cs := hback
    have hadvance := splitAtByte?_advance hcut
    rw [left, left, hahead, ahead]
    show (((Text.splitAtByte? (h.place.pos.offset + c.utf8Size) h.input.toList).map
      Prod.snd).getD []).length < (c :: cs).length
    rw [hadvance]
    exact Nat.lt_succ_self cs.length

/-! ### Loops -/

/-- Passes over characters that have a property. The one behind them is given back. -/
def passWhile (p : Char → Bool) (h : Head) : Except Fault (Unit × Head) :=
  match _hnext : next h with
  | .error fault => .error fault
  | .ok (none, h) => .ok ((), h)
  | .ok (some c, after) => if p c then passWhile p after else backup after
termination_by h.left
decreasing_by exact left_next _hnext

/-- Passes over the inside of a quoted text and its closing quote, and answers whether there
    is one. The character behind a backslash is `escaped`. -/
def passQuoted (escaped : Bool) (h : Head) : Except Fault (Bool × Head) :=
  match _hnext : next h with
  | .error fault => .error fault
  | .ok (none, h) => .ok (false, h)
  | .ok (some c, after) =>
    if c = '\\' ∧ !escaped then passQuoted true after
    else if c = '"' ∧ !escaped then .ok (true, after)
    else passQuoted false after
termination_by h.left
decreasing_by all_goals exact left_next _hnext

/-! ### Tokens -/

/-- Passes over blanks. The token starts behind them. -/
def skipBlanks : Action Unit := do
  (passWhile isBlank : Action Unit)
  fun h => .ok ((), { h with place := { h.place with start := h.place.pos } })

/-- Reads an operator. -/
def scanOperator : Action (Except LexicalError Token) := do
  if ← accept "!" then
    if ← accept "=~" then return .ok (← emit .operator)
    else return .error (← expected "=~")
  else if ← accept "=" then
    let _ ← accept "~"
    return .ok (← emit .operator)
  else
    astray
    return .error (← expected "!=")

/-- Reads a name. -/
def scanName : Action (Except LexicalError Token) := do
  let found ← next
  if found.any isNameStart then
    (passWhile isNameChar : Action Unit)
    return .ok (← emit .identifier)
  else
    astray
    return .error (← errorAt .invalidInput)

/-- Reads a quoted text. -/
def scanQuoted : Action (Except LexicalError Token) := do
  if ← accept "\"" then
    if ← (passQuoted false : Action Bool) then return .ok (← emit .quoted)
    else return .error (← errorAt (.unterminated '"'))
  else
    astray
    return .error (← expected "\"")

/-- Reads what a token of its own starts with the character `c`. -/
def scanFrom (c : Char) : Action (Except LexicalError Token) := do
  if c = '\x7b' then return .ok (← emit .openBrace)
  else if c = '\x7d' then return .ok (← emit .closeBrace)
  else if c = ',' then return .ok (← emit .comma)
  else if c = '=' ∨ c = '!' then
    backup
    scanOperator
  else if c = '"' then
    backup
    scanQuoted
  else if isNameStart c then
    backup
    scanName
  else return .error (← errorAt .invalidInput)

/-- Reads a token, or the end. -/
def scanToken : Action Answer := do
  skipBlanks
  match ← next with
  | none => return .ok none
  | some c => return (← scanFrom c).map some

/-! ### Calls -/

/-- Takes the next token. An error stops the head: it is answered to every later call. -/
def scan : Action Answer := fun h =>
  match h.failure with
  | some e => .ok (.error e, h)
  | none =>
    match scanToken h with
    | .error fault => .error fault
    | .ok (.ok found, after) => .ok (.ok found, after)
    | .ok (.error e, after) => .ok (.error e, { after with failure := some e })

/-- Shows the next token: the head goes back to where it stood. -/
def peek : Action Answer := fun h =>
  match scan h with
  | .error fault => .error fault
  | .ok (answer, after) => .ok (answer, { after with place := h.place })

end Head

end LabelSelector
