import LabelSelector.Proofs.Journal

/-! # What a log shows of events

  An event is shown by its stage, its level, its message and its fields: its report. Here is
  said, apart from the events themselves, what the reports of a call have to look like.

  - The report of a token tells its kind, its text and its offsets. The report of a clause
    tells its name, its operator and its raw value. No two of them can be mistaken for each
    other unless they agree in all of this.
  - Events that are told one for each thing are reported one for each thing.
-/

namespace LabelSelector

namespace Log

/-- What a log can show of an event. -/
structure Report where
  /-- The stage it comes from. -/
  phase : Phase
  /-- How important it is. -/
  level : Level
  /-- Its message. -/
  message : String
  /-- Its fields, in order. -/
  fields : List Field
  deriving DecidableEq, Repr

/-- What can be shown of an event. -/
def Event.report (e : Event) : Report := ⟨e.phase, e.level, e.message, e.fields⟩

namespace Report

/-! ### The reports of a call -/

/-- A token: its kind, its text, and the bytes where the text starts and ends. -/
def token (t : Token) : Report :=
  ⟨.lexer, .trace, "Produced token",
    [("kind", .shown t.kind.name), ("value", .shown t.text),
      ("offset_start", .number t.span.offsetStart), ("offset_end", .number t.span.offsetEnd)]⟩

/-- A clause. The raw value stands in quotes. -/
def clause (r : Request) : Report :=
  ⟨.parser, .trace, "Parsed matcher",
    [("name", .shown r.name), ("op", .shown r.operator.text), ("value", .text r.raw)]⟩

/-- An error of the scanner. -/
def lexical (e : LexicalError) : Report :=
  ⟨.lexer, .debug, "Lex error encountered", [("error", .shown e.message)]⟩

/-- Something that does not fit: what stands at a location, and what is missed there. -/
def misfit (l : Location) (x : Expectation) : Report :=
  ⟨.parser, .debug, "Unexpected token",
    [("found", .shown l.describe), ("expected", .shown x.message)]⟩

/-- A call that fails. -/
def failure (e : ParseError) : Report :=
  ⟨.parser, .debug, "Parse failed", [("error", .shown e.message)]⟩

/-- A list that is read to its end: how long it is, and whether it stands between braces. -/
def list (count : Nat) (braces : Bool) : Report :=
  ⟨.parser, .trace, "Parsed matcher list", [("count", .number count), ("braces", .flag braces)]⟩

/-- A call that ends with so many matchers. -/
def completion (count : Nat) : Report :=
  ⟨.parser, .debug, "parse completed", [("count", .number count)]⟩

/-! ### What reports tell -/

/-- The report of a token tells its kind, its text and its offsets. -/
theorem eq_of_token_eq {t t' : Token} (h : token t = token t') :
    t.kind = t'.kind ∧ t.text = t'.text ∧ t.span.offsetStart = t'.span.offsetStart ∧
      t.span.offsetEnd = t'.span.offsetEnd := by
  -- No two kinds are shown under one name.
  have hkinds : t.kind.name = t'.kind.name → t.kind = t'.kind := by
    cases t.kind <;> cases t'.kind <;> decide
  simp only [token, mk.injEq, List.cons.injEq, Prod.mk.injEq, FieldValue.shown.injEq,
    FieldValue.number.injEq, true_and, and_true] at h
  obtain ⟨hname, htext, hstart, hend⟩ := h
  exact ⟨hkinds hname, htext, hstart, hend⟩

/-- The report of a clause tells its name, its operator and its raw value. -/
theorem clause_injective : Function.Injective clause := by
  intro r r' h
  obtain ⟨operator, name, raw⟩ := r
  obtain ⟨operator', name', raw'⟩ := r'
  simp only [clause, mk.injEq, List.cons.injEq, Prod.mk.injEq, FieldValue.shown.injEq,
    FieldValue.text.injEq, true_and, and_true] at h
  obtain ⟨rfl, hsign, rfl⟩ := h
  -- Each operator can be read back from its text.
  have hread := congrArg Operator.ofText? hsign
  rw [Operator.ofText?_text, Operator.ofText?_text, Option.some.injEq] at hread
  rw [hread]

end Report

end Log

open Log (Event Report)

/-! ### What is reported -/

/-- The reports with a message. -/
def reported (message : String) (es : List Event) : List Report :=
  (told message es).map Event.report

/-- Events that are told one for each thing are reported one for each thing. -/
theorem reported_eq_map {α : Type} {message : String} {es : List Event} {xs : List α}
    {event : α → Event} {report : α → Report} (h : told message es = xs.map event)
    (hreport : ∀ x, (event x).report = report x) : reported message es = xs.map report := by
  rw [reported, h, List.map_map]
  exact List.map_congr_left fun x _ => hreport x

end LabelSelector
