import LabelSelector.Expression.Parser
import LabelSelector.Proofs.Layout

/-! # What a parser has ahead

  Scanners, lookaheads and parsers differ in what they keep, and not in what they
  have ahead of them: tokens, and behind them the end of the text or an error.

  - taking a token takes the first one off, at the end and at an error it changes
    nothing,
  - looking changes nothing at all,
  - a step of a parser is described by what it makes of an outlook (`Step.Gives`).
-/

namespace LabelSelector

/-! ### Scanners and lookaheads -/

/-- Tokens to come, and the error behind them if there is one. -/
abbrev Ahead := List Token × Option LexicalError

/-- What a call for a token answers. -/
def Ahead.first : Ahead → Answer
  | (t :: _, _) => .ok (some t)
  | ([], none) => .ok none
  | ([], some e) => .error e

/-- What is ahead after a token has been taken. -/
def Ahead.rest (a : Ahead) : Ahead := (a.1.tail, a.2)

/-- What has been answered and what is left make up what was ahead. -/
theorem Ahead.append_rest {a : Ahead} {found : Option Token} (h : a.first = .ok found) :
    (found.toList ++ a.rest.1, a.rest.2) = a := by
  match a with
  | (t :: ts, e) => cases h; rfl
  | ([], none) => cases h; rfl
  | ([], some e) => cases h

/-- At an error nothing is taken. -/
theorem Ahead.rest_of_error {a : Ahead} {e : LexicalError} (h : a.first = .error e) :
    a.rest = a := by
  match a with
  | (t :: ts, e') => cases h
  | ([], none) => cases h
  | ([], some e') => rfl

namespace Scanner

/-- What a scanner has ahead. -/
def ahead (s : Scanner) : Ahead :=
  match s.failure with
  | some e => ([], some e)
  | none => Token.stream s.cursor s.rest

/-- Scanning answers the first token and leaves the others. -/
theorem scan_eq (s : Scanner) :
    s.scan.1 = s.ahead.first ∧ s.scan.2.ahead = s.ahead.rest ∧ s.scan.2.input = s.input := by
  unfold scan
  split
  · next e hf =>
    refine ⟨?_, ?_, rfl⟩ <;> simp [ahead, hf, Ahead.first, Ahead.rest]
  · next hf =>
    split
    · next stop hread =>
      have hnil : Token.stream stop [] = ([], none) := Token.stream_of_finish rfl
      refine ⟨?_, ?_, rfl⟩ <;>
        simp [ahead, hf, Token.stream_of_finish hread, hnil, Ahead.first, Ahead.rest]
    · next t stop rest hread =>
      refine ⟨?_, ?_, rfl⟩ <;>
        simp [ahead, hf, Token.stream_of_token hread, Ahead.first, Ahead.rest]
    · next e hread =>
      refine ⟨?_, ?_, rfl⟩ <;>
        simp [ahead, hf, Token.stream_of_error hread, Ahead.first, Ahead.rest]

end Scanner

namespace Lookahead

/-- What a lookahead has ahead: the token set aside, and what its scanner has. -/
def ahead (l : Lookahead) : Ahead :=
  (l.buffered.toList ++ l.scanner.ahead.1, l.scanner.ahead.2)

/-- Taking answers the first token and leaves the others. -/
theorem next_eq (l : Lookahead) :
    l.next.1 = l.ahead.first ∧ l.next.2.ahead = l.ahead.rest ∧ l.next.2.input = l.input := by
  obtain ⟨hscan, hahead, hinput⟩ := l.scanner.scan_eq
  unfold next
  split
  · next t hb => simp [ahead, hb, Ahead.first, Ahead.rest, input]
  · next hb => simp [ahead, hb, hscan, hahead, Ahead.rest, input, hinput]

/-- Looking answers the first token and leaves everything. -/
theorem peek_eq (l : Lookahead) :
    l.peek.1 = l.ahead.first ∧ l.peek.2.ahead = l.ahead ∧ l.peek.2.input = l.input := by
  obtain ⟨hscan, hahead, hinput⟩ := l.scanner.scan_eq
  unfold peek
  split
  · next t hb => simp [ahead, hb, Ahead.first]
  · next hb =>
    have hal : l.ahead = l.scanner.ahead := by simp [ahead, hb]
    rw [hal]
    split
    · next found scanner h =>
      rw [h] at hscan hahead hinput
      refine ⟨hscan, ?_, hinput⟩
      -- The token scanned is set aside, so that it is still ahead.
      have hnew : scanner.ahead = l.scanner.ahead.rest := hahead
      simp only [ahead, hnew]
      exact Ahead.append_rest hscan.symm
    · next e scanner h =>
      rw [h] at hscan hahead hinput
      refine ⟨hscan, ?_, hinput⟩
      have hnew : scanner.ahead = l.scanner.ahead.rest := hahead
      simp [ahead, hnew, Ahead.rest_of_error hscan.symm]

end Lookahead

/-! ### Parsers -/

/-- What the answers of a parser depend on. -/
structure Outlook where
  /-- The whole text. -/
  input : String
  /-- The tokens to come. -/
  ahead : List Token
  /-- The error behind them. -/
  failure : Option LexicalError
  /-- Whether an opening brace has been read. -/
  opened : Bool
  /-- The matchers asked for so far, last first. -/
  asked : List Request

/-- The place behind the last character of a text. -/
def Location.behind (text : String) : Location :=
  .endOfInput (.point (Cursor.origin.advanceAll text.toList))

/-- What the answers of this parser depend on. -/
def Parser.outlook (p : Parser) : Outlook :=
  ⟨p.lookahead.input, p.lookahead.ahead.1, p.lookahead.ahead.2, p.opened, p.asked⟩

namespace Step

variable {α β : Type} {m : Step α} {f : α → Step β} {v v₁ v₂ : Outlook} {a : α}
  {r : Except ParseError β} {e : ParseError}

/-- Whoever has the outlook `v` answers `r` at this step and has the outlook `v'` then. -/
def Gives (m : Step α) (v : Outlook) (r : Except ParseError α) (v' : Outlook) : Prop :=
  ∀ p : Parser, p.outlook = v → (m p).1 = r ∧ (m p).2.outlook = v'

theorem gives_pure (a : α) (v : Outlook) : Gives (pure a : Step α) v (.ok a) v :=
  fun _ hp => ⟨rfl, hp⟩

theorem Gives.bind (hm : Gives m v (.ok a) v₁) (hf : Gives (f a) v₁ r v₂) :
    Gives (m >>= f) v r v₂ := by
  intro p hp
  obtain ⟨hans, hout⟩ := hm p hp
  change (Step.bind m f p).1 = r ∧ (Step.bind m f p).2.outlook = v₂
  have hmp : m p = (.ok a, (m p).2) := by rw [← hans]
  unfold Step.bind
  rw [hmp]
  exact hf (m p).2 hout

theorem Gives.bind_error (hm : Gives m v (.error e) v₁) : Gives (m >>= f) v (.error e) v₁ := by
  intro p hp
  obtain ⟨hans, hout⟩ := hm p hp
  change (Step.bind m f p).1 = _ ∧ (Step.bind m f p).2.outlook = v₁
  have hmp : m p = (.error e, (m p).2) := by rw [← hans]
  unfold Step.bind
  rw [hmp]
  exact ⟨rfl, hout⟩

theorem gives_fail (e : ParseError) (v : Outlook) : Gives (fail e : Step α) v (.error e) v :=
  fun _ hp => ⟨rfl, hp⟩

theorem gives_emit (event : Log.Event) (v : Outlook) : Gives (emit event) v (.ok ()) v :=
  fun _ hp => ⟨rfl, hp⟩

theorem gives_ask_opened (v : Outlook) : Gives (ask Parser.opened) v (.ok v.opened) v := by
  rintro p rfl
  exact ⟨rfl, rfl⟩

theorem gives_ask_input (f : String → α) (v : Outlook) :
    Gives (ask fun p => f p.lookahead.input) v (.ok (f v.input)) v := by
  rintro p rfl
  exact ⟨rfl, rfl⟩

theorem gives_setOpened (v : Outlook) : Gives setOpened v (.ok ()) { v with opened := true } := by
  rintro p rfl
  exact ⟨rfl, rfl⟩

theorem gives_request (q : Request) (v : Outlook) :
    Gives (request q) v (.ok ()) { v with asked := q :: v.asked } := by
  rintro p rfl
  exact ⟨rfl, rfl⟩

/-- What `next` and `peek` answer. -/
def found (v : Outlook) : Except ParseError (Option Token) :=
  answer (Ahead.first (v.ahead, v.failure))

theorem gives_next (v : Outlook) : Gives next v (found v) { v with ahead := v.ahead.tail } := by
  rintro p rfl
  obtain ⟨hans, hahead, hinput⟩ := p.lookahead.next_eq
  refine ⟨congrArg answer hans, ?_⟩
  simp only [next, Parser.outlook, Parser.note, hahead, hinput, Ahead.rest]

theorem gives_peek (v : Outlook) : Gives peek v (found v) v := by
  rintro p rfl
  obtain ⟨hans, hahead, hinput⟩ := p.lookahead.peek_eq
  refine ⟨congrArg answer hans, ?_⟩
  simp only [peek, Parser.outlook, Parser.note, hahead, hinput]

theorem Gives.expecting {b : Except ParseError α} (x : Expectation) (hm : Gives m v b v₁) :
    Gives (expecting x m) v (b.mapError (·.expecting x)) v₁ := by
  intro p hp
  obtain ⟨rfl, hout⟩ := hm p hp
  unfold Step.expecting
  cases hmp : m p with
  | mk ans q =>
    rw [hmp] at hout
    cases ans with
    | ok a => exact ⟨rfl, hout⟩
    | error e => exact ⟨rfl, hout⟩

theorem gives_unexpected_token (x : Expectation) (t : Token) (v : Outlook) :
    Gives (unexpected x (some t) : Step α) v (.error (.grammar ⟨x, .token t.span t.text⟩)) v :=
  (gives_emit _ v).bind (gives_fail _ v)

theorem gives_unexpected_end (x : Expectation) (v : Outlook) :
    Gives (unexpected x none : Step α) v (.error (.grammar ⟨x, .behind v.input⟩)) v := by
  refine (gives_emit _ v).bind ?_
  rintro p rfl
  exact ⟨rfl, rfl⟩

end Step

end LabelSelector
