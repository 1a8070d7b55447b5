import LabelSelector.Token.Scanner

/-! # One token of lookahead

  A lookahead keeps at most one token that has been seen and not taken. Ends and
  errors are not kept: the scanner answers them again by itself.
-/

namespace LabelSelector

/-- A scanner with at most one token set aside. -/
structure Lookahead where
  /-- The scanner behind the token set aside. -/
  scanner : Scanner
  /-- The token that has been seen and not taken. -/
  buffered : Option Token
  deriving DecidableEq, Repr

namespace Lookahead

/-- A lookahead at the start of a text. -/
def ofText (text : String) : Lookahead := ⟨.ofText text, none⟩

/-- Takes the next token. -/
def next (l : Lookahead) : Answer × Lookahead :=
  match l.buffered with
  | some t => (.ok (some t), { l with buffered := none })
  | none =>
    let (answer, scanner) := l.scanner.scan
    (answer, ⟨scanner, none⟩)

/-- Shows the next token. -/
def peek (l : Lookahead) : Answer × Lookahead :=
  match l.buffered with
  | some t => (.ok (some t), l)
  | none =>
    match l.scanner.scan with
    | (.ok found, scanner) => (.ok found, ⟨scanner, found⟩)
    | (.error e, scanner) => (.error e, ⟨scanner, none⟩)

/-- The whole text. -/
def input (l : Lookahead) : String := l.scanner.input

/-- The place behind the last character of the text. -/
def stop (l : Lookahead) : Span := l.scanner.stop

/-! ### A bound on the tokens to come -/

/-- No more tokens than this are left. -/
def remaining (l : Lookahead) : Nat := l.scanner.rest.length + l.buffered.toList.length

/-- Taking a token uses up the bound. -/
theorem remaining_next_lt {l after : Lookahead} {t : Token}
    (h : l.next = (.ok (some t), after)) : after.remaining < l.remaining := by
  unfold next at h
  split at h
  · next hb =>
    simp only [Prod.mk.injEq] at h
    obtain ⟨-, rfl⟩ := h
    simp [remaining, hb]
  · next hb =>
    simp only [Prod.mk.injEq] at h
    obtain ⟨hans, rfl⟩ := h
    have := Scanner.scan_rest_lt (show l.scanner.scan = (.ok (some t), l.scanner.scan.2) by
      rw [← hans])
    simp only [remaining, hb, Option.toList_none, List.length_nil]
    omega

/-- Taking never raises the bound. -/
theorem remaining_next_le (l : Lookahead) : l.next.2.remaining ≤ l.remaining := by
  unfold next
  split
  · next hb => simp [remaining]
  · next hb =>
    have := l.scanner.scan_rest_le
    simp only [remaining, hb, Option.toList_none, List.length_nil]
    omega

/-- Looking never raises the bound. -/
theorem remaining_peek_le (l : Lookahead) : l.peek.2.remaining ≤ l.remaining := by
  unfold peek
  split
  · simp
  · next hb =>
    split
    · next found scanner h =>
      cases found with
      | none =>
        have := l.scanner.scan_rest_le
        rw [h] at this
        simp only [remaining, hb, Option.toList_none, List.length_nil]
        exact this
      | some t =>
        -- The token set aside counts for one, and scanning it took at least one character.
        have := Scanner.scan_rest_lt h
        simp only [remaining, hb, Option.toList_none, Option.toList_some, List.length_nil,
          List.length_cons]
        omega
    · next e scanner h =>
      have := l.scanner.scan_rest_le
      rw [h] at this
      simp only [remaining, hb, Option.toList_none, List.length_nil]
      exact this

end Lookahead

end LabelSelector
