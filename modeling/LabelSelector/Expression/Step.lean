import LabelSelector.Log.Event
import LabelSelector.Token.Lookahead

/-! # Steps of a parser

  A parser is a lookahead over a text together with what is known so far. A
  `Step` answers something or fails, and in both cases says where the parser
  stands then: a parser that failed can be asked again.

  Every step keeps `Parser.remaining` or lowers it; the loops of the grammar end
  by that.
-/

namespace LabelSelector

open Log (Event)

/-- A clause for which a matcher is to be made. -/
structure Request where
  /-- The operator. -/
  operator : Operator
  /-- The name of the label. -/
  name : String
  /-- The value as written, without its quotes. -/
  raw : String
  deriving DecidableEq, Repr

/-- Where reading a selector stands. -/
structure Parser where
  /-- The tokens to come. -/
  lookahead : Lookahead
  /-- Whether an opening brace has been read. -/
  opened : Bool
  /-- The matchers asked for so far, last first. -/
  asked : List Request
  /-- What has been reported so far, last first. -/
  journal : List Event
  deriving DecidableEq, Repr

/-! ### Reports of scanning -/

/-- What the next call of a scanner reports. A scanner that has stopped is silent. -/
def Scanner.report (s : Scanner) : List Event :=
  match s.failure with
  | some _ => []
  | none =>
    match s.scan.1 with
    | .ok (some t) => [.tokenRead t]
    | .ok none => [.inputEnded]
    | .error e => [.scanFailed e]

/-- What the next call of a lookahead reports. A token set aside is not reported again. -/
def Lookahead.report (l : Lookahead) : List Event :=
  match l.buffered with
  | some _ => []
  | none => l.scanner.report

namespace Parser

/-- A parser at the start of a text. -/
def ofText (text : String) : Parser :=
  ⟨.ofText text, false, [], [.scannerMade text.utf8ByteSize]⟩

/-- A bound on the tokens to come. -/
def remaining (p : Parser) : Nat := p.lookahead.remaining

/-- The matchers asked for so far. -/
def requests (p : Parser) : List Request := p.asked.reverse

/-- What has been reported so far. -/
def events (p : Parser) : List Event := p.journal.reverse

/-- The parser after a report. -/
def note (p : Parser) (events : List Event) : Parser :=
  { p with journal := events.reverse ++ p.journal }

@[simp] theorem events_note (p : Parser) (events : List Event) :
    (p.note events).events = p.events ++ events := by
  simp [note, Parser.events]

end Parser

/-! ### Steps -/

/-- A step of a parser. -/
def Step (α : Type) : Type := Parser → Except ParseError α × Parser

namespace Step

/-- Answers without a step. -/
protected def pure {α : Type} (a : α) : Step α := fun p => (.ok a, p)

/-- Goes on with the answer of a step, unless it failed. -/
protected def bind {α β : Type} (m : Step α) (f : α → Step β) : Step β := fun p =>
  match m p with
  | (.ok a, p) => f a p
  | (.error e, p) => (.error e, p)

instance : Monad Step where
  pure := Step.pure
  bind := Step.bind

/-- Fails. -/
def fail {α : Type} (e : ParseError) : Step α := fun p => (.error e, p)

/-- Reports an event. -/
def emit (e : Event) : Step Unit := fun p => (.ok (), p.note [e])

/-- Asks a question about the parser. -/
def ask {α : Type} (f : Parser → α) : Step α := fun p => (.ok (f p), p)

/-- Takes a note of the opening brace. -/
def setOpened : Step Unit := fun p => (.ok (), { p with opened := true })

/-- Takes a note of a matcher that is asked for. -/
def request (r : Request) : Step Unit := fun p => (.ok (), { p with asked := r :: p.asked })

/-- The answer of a lookahead as the answer of a parser. -/
def answer : Answer → Except ParseError (Option Token)
  | .ok found => .ok found
  | .error e => .error (.lexical e none)

/-- Takes the next token. -/
def next : Step (Option Token) := fun p =>
  (answer p.lookahead.next.1, { p.note p.lookahead.report with lookahead := p.lookahead.next.2 })

/-- Shows the next token. -/
def peek : Step (Option Token) := fun p =>
  (answer p.lookahead.peek.1, { p.note p.lookahead.report with lookahead := p.lookahead.peek.2 })

/-- A step whose lexical error tells what the grammar asked for. -/
def expecting {α : Type} (x : Expectation) (m : Step α) : Step α := fun p =>
  match m p with
  | (.ok a, p) => (.ok a, p)
  | (.error e, p) => (.error (e.expecting x), p)

/-- Reports a token that does not fit, or the end where more has to follow, and fails. -/
def unexpected {α : Type} (x : Expectation) (found : Option Token) : Step α := do
  emit (.unexpected (Token.describe found) x)
  match found with
  | some t => fail (.grammar ⟨x, .token t.span t.text⟩)
  | none =>
    let stop ← ask fun p => p.lookahead.stop
    fail (.grammar ⟨x, .endOfInput stop⟩)

/-- Takes a token of the given kind. -/
def expect (kind : Token.Kind) (x : Expectation) : Step Token := do
  match ← expecting x next with
  | some t => if t.kind = kind then return t else unexpected x (some t)
  | none => unexpected x none

/-! ### Steps and the tokens to come -/

/-- A step after which there are no more tokens to come than before. -/
def Shrinks {α : Type} (m : Step α) : Prop := ∀ p, (m p).2.remaining ≤ p.remaining

theorem shrinks_pure {α : Type} (a : α) : Shrinks (pure a : Step α) := fun _ => Nat.le_refl _

theorem shrinks_bind {α β : Type} {m : Step α} {f : α → Step β} (hm : Shrinks m)
    (hf : ∀ a, Shrinks (f a)) : Shrinks (m >>= f) := by
  intro p
  change (Step.bind m f p).2.remaining ≤ _
  unfold Step.bind
  -- `f` starts where `m` stops, and neither raises the bound.
  have h := hm p
  split
  · next a p' heq =>
    rw [heq] at h
    exact Nat.le_trans (hf a p') h
  · next e p' heq =>
    rw [heq] at h
    exact h

theorem shrinks_fail {α : Type} (e : ParseError) : Shrinks (fail e : Step α) :=
  fun _ => Nat.le_refl _

theorem shrinks_emit (e : Event) : Shrinks (emit e) := fun _ => Nat.le_refl _

theorem shrinks_ask {α : Type} (f : Parser → α) : Shrinks (ask f) := fun _ => Nat.le_refl _

theorem shrinks_request (r : Request) : Shrinks (request r) := fun _ => Nat.le_refl _

theorem shrinks_next : Shrinks next := fun p => p.lookahead.remaining_next_le

theorem shrinks_peek : Shrinks peek := fun p => p.lookahead.remaining_peek_le

theorem shrinks_expecting {α : Type} (x : Expectation) {m : Step α} (hm : Shrinks m) :
    Shrinks (expecting x m) := by
  intro p
  have h := hm p
  unfold expecting
  split <;> simp_all

theorem shrinks_unexpected {α : Type} (x : Expectation) (found : Option Token) :
    Shrinks (unexpected x found : Step α) := by
  refine shrinks_bind (shrinks_emit _) fun _ => ?_
  cases found with
  | some t => exact shrinks_fail _
  | none => exact shrinks_bind (shrinks_ask _) fun _ => shrinks_fail _

theorem shrinks_expect (kind : Token.Kind) (x : Expectation) : Shrinks (expect kind x) := by
  refine shrinks_bind (shrinks_expecting x shrinks_next) fun found => ?_
  cases found with
  | none => exact shrinks_unexpected _ _
  | some t =>
    dsimp only
    split
    · exact shrinks_pure t
    · exact shrinks_unexpected _ _

/-- Taking a token lowers the bound. -/
theorem remaining_next {p p' : Parser} {t : Token} (h : next p = (.ok (some t), p')) :
    p'.remaining < p.remaining := by
  simp only [next, Prod.mk.injEq] at h
  obtain ⟨hans, rfl⟩ := h
  -- Only a token taken off the lookahead is answered as a token.
  have hnext : p.lookahead.next = (.ok (some t), p.lookahead.next.2) := by
    cases hn : p.lookahead.next.1 with
    | error e => simp [hn, answer] at hans
    | ok found =>
      simp only [hn, answer, Except.ok.injEq] at hans
      rw [← hans, ← hn]
  exact Lookahead.remaining_next_lt hnext

/-- An unexpected token is never answered with success. -/
theorem unexpected_ne_ok {α : Type} {x : Expectation} {found : Option Token} {p p' : Parser}
    {a : α} : unexpected x found p ≠ (.ok a, p') := by
  cases found <;> simp [unexpected, bind, Step.bind, emit, ask, fail]

/-- Taking a token of a kind lowers the bound. -/
theorem remaining_expect {kind : Token.Kind} {x : Expectation} {p p' : Parser} {t : Token}
    (h : expect kind x p = (.ok t, p')) : p'.remaining < p.remaining := by
  change Step.bind (expecting x next) _ p = _ at h
  unfold Step.bind expecting at h
  cases hn : next p with
  | mk ans q =>
    cases ans with
    | error e => simp [hn] at h
    | ok found =>
      simp only [hn] at h
      cases found with
      | none => exact absurd h unexpected_ne_ok
      | some s =>
        have hlt := remaining_next hn
        dsimp only at h
        split at h
        · cases h
          exact hlt
        · exact absurd h unexpected_ne_ok

end Step

end LabelSelector
