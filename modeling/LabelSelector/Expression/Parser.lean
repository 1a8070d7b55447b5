import LabelSelector.Expression.Settings
import LabelSelector.Expression.Step

/-! # The grammar of selectors

  A selector is a list of clauses with commas between them. It may stand between
  braces, and one comma may follow its last clause:

      selector := '{' clauses '}' | clauses
      clauses  := nothing | clause (',' clause)* ','?
      clause   := name operator value

  Matchers are made by whoever asks for the selector: the grammar hands out each
  clause as soon as it is read, and takes a refusal as an error at that clause.
  Whoever makes the matchers keeps nothing in mind from one clause to the next.
-/

namespace LabelSelector

open Log (Event)

/-- Makes a matcher for a clause, or says why not.

  A factory is a function of the request and nothing else: it gives equal requests equal
  answers, whatever it has been asked before. Makers that count, or that remember what they
  have made, are none, and no statement about factories speaks of them. -/
abbrev Factory (μ : Type) : Type := Request → Except String μ

namespace Step

variable {μ : Type}

/-! ### Clauses -/

/-- The characters of a quoted text without its quotes. -/
def stripQuotes (cs : List Char) : List Char :=
  let inner := match cs with
    | '"' :: rest => rest
    | _ => cs
  if inner.getLast? = some '"' then inner.dropLast else inner

/-- The value that a token stands for, as written. -/
def rawValue (t : Token) : String :=
  if t.kind = .quoted then String.ofList (stripQuotes t.text.toList) else t.text

/-- Takes a value. -/
def value : Step Token := do
  match ← expecting .labelValue next with
  | some t =>
    if t.kind = .quoted ∨ t.kind = .identifier then return t
    else unexpected .labelValue (some t)
  | none => unexpected .labelValue none

/-- Takes an operator. -/
def operator : Step Operator := do
  let t ← expect .operator .operator
  match Operator.ofText? t.text with
  | some op => return op
  | none => unexpected .operator (some t)

/-- Asks for the matcher of a clause that stands at a span. -/
def create (make : Factory μ) (r : Request) (span : Span) : Step μ := do
  emit (.clauseRead r.name r.operator r.raw)
  request r
  match make r with
  | .ok m => return m
  | .error cause =>
    let text ← ask fun p => span.slice p.lookahead.input
    fail (.grammar ⟨.matcher cause, .token span text⟩)

/-- Reads the rest of a clause whose name has been read. -/
def clauseAfter (make : Factory μ) (name : Token) : Step μ := do
  let op ← operator
  let v ← value
  create make ⟨op, name.text, rawValue v⟩ (name.span.merge v.span)

/-- Reads a clause. -/
def clause (make : Factory μ) : Step μ := do
  let name ← expect .identifier .labelName
  clauseAfter make name

/-- Reads what follows a comma: a name, the closing brace or the end has to come next. -/
def afterComma : Step Unit := do
  match ← expecting .labelNameAfterComma peek with
  | none => return
  | some t =>
    if t.kind = .identifier ∨ t.kind = .closeBrace then return
    else unexpected .labelNameAfterComma (some t)

/-- Reads what follows a clause: a comma, the closing brace or the end. -/
def separator : Step Unit := do
  match ← expecting .commaOrCloseBrace peek with
  | none =>
    if ← ask Parser.opened then unexpected .closeBrace none else return
  | some t =>
    if t.kind = .closeBrace then return
    else if t.kind = .comma then do
      let _ ← next
      afterComma
    else unexpected .commaOrCloseBrace (some t)

/-! ### Clauses use up tokens -/

theorem shrinks_value : Shrinks value := by
  refine shrinks_bind (shrinks_expecting _ shrinks_next) fun found => ?_
  cases found with
  | none => exact shrinks_unexpected _ _
  | some t =>
    dsimp only
    split
    · exact shrinks_pure t
    · exact shrinks_unexpected _ _

theorem shrinks_operator : Shrinks operator := by
  refine shrinks_bind (shrinks_expect _ _) fun t => ?_
  split
  · exact shrinks_pure _
  · exact shrinks_unexpected _ _

theorem shrinks_create (make : Factory μ) (r : Request) (span : Span) :
    Shrinks (create make r span) := by
  refine shrinks_bind (shrinks_emit _) fun _ => shrinks_bind (shrinks_request _) fun _ => ?_
  split
  · exact shrinks_pure _
  · exact shrinks_bind (shrinks_ask _) fun _ => shrinks_fail _

theorem shrinks_clauseAfter (make : Factory μ) (name : Token) :
    Shrinks (clauseAfter make name) :=
  shrinks_bind shrinks_operator fun _ => shrinks_bind shrinks_value fun _ => shrinks_create _ _ _

theorem remaining_clause {make : Factory μ} {p p' : Parser} {m : μ}
    (h : clause make p = (.ok m, p')) : p'.remaining < p.remaining := by
  change Step.bind (expect .identifier .labelName) (clauseAfter make) p = _ at h
  unfold Step.bind at h
  split at h
  · next name q hq =>
    have hlt := remaining_expect hq
    have hle := shrinks_clauseAfter make name q
    rw [h] at hle
    exact Nat.lt_of_le_of_lt hle hlt
  · cases h

theorem shrinks_afterComma : Shrinks afterComma := by
  refine shrinks_bind (shrinks_expecting _ shrinks_peek) fun found => ?_
  cases found with
  | none => exact shrinks_pure _
  | some t =>
    dsimp only
    split
    · exact shrinks_pure _
    · exact shrinks_unexpected _ _

theorem shrinks_separator : Shrinks separator := by
  refine shrinks_bind (shrinks_expecting _ shrinks_peek) fun found => ?_
  cases found with
  | none =>
    refine shrinks_bind (shrinks_ask _) fun opened => ?_
    split
    · exact shrinks_unexpected _ _
    · exact shrinks_pure _
  | some t =>
    dsimp only
    split
    · exact shrinks_pure _
    · split
      · exact shrinks_bind shrinks_next fun _ => shrinks_afterComma
      · exact shrinks_unexpected _ _

/-! ### Selectors -/

/-- Whether a list of clauses is over. -/
def isListEnd : Option Token → Bool
  | none => true
  | some t => t.kind = .closeBrace

/-- Reads clauses up to the closing brace or the end of the text. -/
def clauses (make : Factory μ) (p : Parser) : Except ParseError (List μ) × Parser :=
  match _hpeek : peek p with
  | (.error e, p₁) => (.error e, p₁)
  | (.ok found, p₁) =>
    if isListEnd found then (.ok [], p₁)
    else
      match _hclause : clause make p₁ with
      | (.error e, p₂) => (.error e, p₂)
      | (.ok m, p₂) =>
        match _hsep : separator p₂ with
        | (.error e, p₃) => (.error e, p₃)
        | (.ok _, p₃) =>
          match clauses make p₃ with
          | (.error e, p₄) => (.error e, p₄)
          | (.ok ms, p₄) => (.ok (m :: ms), p₄)
termination_by p.remaining
decreasing_by
  -- Looking and the separator keep the bound; the clause between them lowers it.
  have h₁ := shrinks_peek p
  have h₂ := remaining_clause _hclause
  have h₃ := shrinks_separator p₂
  rw [_hpeek] at h₁
  rw [_hsep] at h₃
  exact Nat.lt_of_le_of_lt h₃ (Nat.lt_of_lt_of_le h₂ h₁)

/-- Reads the opening brace, if it is there. -/
def openBrace (settings : ParserSettings) : Step Unit := do
  let found ← peek
  if found.any (·.kind = .openBrace) then do
    let _ ← next
    setOpened
  else if settings.requireBraces then do
    -- The second look is seen in the log: at the end of the text it reports the end again.
    let found ← peek
    unexpected .openBrace found
  else return

/-- Reads the closing brace, if there was an opening one. -/
def closeBrace : Step Unit := do
  if ← ask Parser.opened then
    let found ← next
    if found.any (·.kind = .closeBrace) then return else unexpected .closeBrace found
  else return

/-- Makes sure that nothing follows. -/
def endOfInput : Step Unit := do
  match ← next with
  | none => return
  | some t =>
    -- A closing brace here has lost its partner.
    if t.kind = .closeBrace ∧ !(← ask Parser.opened) then unexpected .openBrace (some t)
    else unexpected .endOfInput (some t)

/-- Reads a whole selector. -/
def selector (settings : ParserSettings) (make : Factory μ) : Step (List μ) := do
  openBrace settings
  let ms ← (clauses make : Step (List μ))
  closeBrace
  endOfInput
  emit (.listRead ms.length (← ask Parser.opened))
  return ms

/-- Reads a whole selector and reports a failure. -/
def parse (settings : ParserSettings) (make : Factory μ) : Step (List μ) := fun p =>
  match selector settings make p with
  | (.ok ms, p) => (.ok ms, p)
  | (.error e, p) => (.error e, p.note [.parseFailed e])

end Step

/-! ### Parsers -/

namespace Parser

variable {μ : Type}

/-- Reads a whole selector from where the parser stands. -/
def parse (p : Parser) (settings : ParserSettings) (make : Factory μ) :
    Except ParseError (List μ) × Parser := Step.parse settings make p

end Parser

/-- Reads the selector `text`, making matchers with `make`. -/
def parseWith {μ : Type} (text : String) (make : Factory μ) (settings : ParserSettings) :
    Except ParseError (List μ) :=
  ((Parser.ofText text).parse settings make).1

end LabelSelector
