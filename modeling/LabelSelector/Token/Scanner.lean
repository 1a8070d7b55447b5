import LabelSelector.Token.Stream

/-! # Scanners

  A scanner hands out the tokens of a text one call at a time. The first error
  stops it: every later call answers that error again.

  - `scan` takes the next token,
  - `peek` shows what `scan` would answer; an error it meets stops the scanner.
-/

namespace LabelSelector

/-- What a call for a token answers: a token, nothing at the end, or an error. -/
abbrev Answer := Except LexicalError (Option Token)

/-- A text that is being read. -/
structure Scanner where
  /-- The whole text. -/
  input : String
  /-- The place of the next character. -/
  cursor : Cursor
  /-- The text that is left. -/
  rest : List Char
  /-- The error that stopped the scanner. -/
  failure : Option LexicalError
  deriving DecidableEq, Repr

namespace Scanner

/-- A scanner at the start of a text. -/
def ofText (text : String) : Scanner := ⟨text, .origin, text.toList, none⟩

/-- Takes the next token. -/
def scan (s : Scanner) : Answer × Scanner :=
  match s.failure with
  | some e => (.error e, s)
  | none =>
    match Token.read s.cursor s.rest with
    | .finish stop => (.ok none, { s with cursor := stop, rest := [] })
    | .token t stop rest => (.ok (some t), { s with cursor := stop, rest := rest })
    | .error e => (.error e, { s with failure := some e })

/-- Shows the next token without taking it. -/
def peek (s : Scanner) : Answer × Scanner :=
  let (answer, after) := s.scan
  (answer, { s with failure := after.failure })

/-- The error that stopped the scanner, if one did. -/
def error (s : Scanner) : Option LexicalError := s.failure

/-- The place behind the last character of the text. -/
def stop (s : Scanner) : Span := .point (Cursor.origin.advanceAll s.input.toList)

/-! ### Scanning shortens the text -/

/-- Scanning never lengthens the text that is left. -/
theorem scan_rest_le (s : Scanner) : s.scan.2.rest.length ≤ s.rest.length := by
  unfold scan
  split
  · simp
  · split
    · simp
    · next h => exact Nat.le_of_lt (Token.read_length h)
    · simp

/-- Scanning a token shortens the text that is left. -/
theorem scan_rest_lt {s after : Scanner} {t : Token} (h : s.scan = (.ok (some t), after)) :
    after.rest.length < s.rest.length := by
  unfold scan at h
  split at h
  · simp at h
  · split at h
    · simp at h
    · next hread =>
      simp only [Prod.mk.injEq] at h
      obtain ⟨-, rfl⟩ := h
      exact Token.read_length hread
    · simp at h

end Scanner

end LabelSelector
