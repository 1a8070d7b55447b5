import LabelSelector.Proofs.Flaw
import LabelSelector.Proofs.Relayout

/-! # Spans of errors

  However an error of a text comes up, it stands in that text: its span is the stretch of
  some characters there, in bytes and in code points, and these are what it reports.

  - A parser that has been asked any number of times is still among the tokens of its text,
    so that its errors are told by these tokens and by what is behind them.
  - Tokens, clauses and lexical errors stand where the text before them says.
-/

namespace LabelSelector

open Automaton

/-! ### Errors of a text -/

/-- A parser for a text that has been asked any number of times. Each time the settings and
    the factory may be others. -/
inductive Parser.Serves (text : String) : Parser → Prop where
  | new : Serves text (.ofText text)
  | asked {μ : Type} {p : Parser} (settings : ParserSettings) (make : Factory μ) :
      Serves text p → Serves text (p.parse settings make).2

/-- The errors that a text can give: for its tokens, or from any call of a parser for it. -/
inductive ErrorOf (text : String) : ParseError → Prop where
  | tokens {e : LexicalError} : tokenize text = .error e → ErrorOf text (.lexical e none)
  | call {μ : Type} {p : Parser} {err : ParseError} (settings : ParserSettings)
      (make : Factory μ) :
      p.Serves text → (p.parse settings make).1 = .error err → ErrorOf text err

namespace Parser

variable {μ : Type} {text : String} {p : Parser} {settings : ParserSettings} {make : Factory μ}

/-- The parser is somewhere among the tokens of a text. -/
structure Within (text : String) (p : Parser) : Prop where
  input : p.lookahead.input = text
  failure : p.failure = (Token.streamOf text).2
  left : p.left <:+ (Token.streamOf text).1

theorem Within.genuine (h : p.Within text) : p.Genuine :=
  fun _ ht => Token.spelled_of_mem_streamOf (h.left.mem ht)

theorem Within.parse (h : p.Within text) : (p.parse settings make).2.Within text where
  input := (congrArg Outlook.input (parse_eq_call h.genuine).2).trans h.input
  failure := (failure_parse h.genuine).trans h.failure
  left := by
    obtain ⟨taken, hleft, -⟩ := exists_taken settings make h.genuine
    exact List.IsSuffix.trans ⟨taken, hleft.symm⟩ h.left

theorem Serves.within (h : p.Serves text) : p.Within text := by
  induction h with
  | new => exact ⟨rfl, rfl, List.suffix_rfl⟩
  | asked settings make _ ih => exact ih.parse

/-- The error of a call is told by the tokens to come and by what is behind them. -/
theorem Within.exists_tells (h : p.Within text) {err : ParseError}
    (herr : (p.parse settings make).1 = .error err) :
    ∃ b : Blame, b.Tells text (p.left, (Token.streamOf text).2) err := by
  rw [(parse_eq_call h.genuine).1, call, h.input, h.failure] at herr
  -- The run agrees with itself, so that there is a telling of its error.
  obtain ⟨-, hagree⟩ : _ ∧ Agree text (p.left, (Token.streamOf text).2) text
      (p.left, (Token.streamOf text).2) _ _ :=
    drive_agree ⟨.start, p.opened⟩ rfl rfl
  rw [herr] at hagree
  cases hagree with
  | blame b hb _ => exact ⟨b, hb⟩

end Parser

/-! ### Standing in a text -/

/-- The text that an error reports. There is none at the end of the text. -/
def ParseError.reported : ParseError → Option String
  | .lexical e _ => some e.fragment
  | .grammar ⟨_, .token _ shown⟩ => some shown
  | .grammar ⟨_, .endOfInput _⟩ => none

/-- The error stands in a text as the characters `inside` between `before` and `after`. -/
structure ParseError.StandsAs (err : ParseError) (text : String)
    (before inside after : List Char) : Prop where
  whole : text.toList = before ++ (inside ++ after)
  span_eq : err.span = .behind before inside
  reported : ∀ shown ∈ err.reported, shown = String.ofList inside
  token : ∀ x span shown, err = .grammar ⟨x, .token span shown⟩ → inside ≠ []
  atEnd : ∀ x span, err = .grammar ⟨x, .endOfInput span⟩ → inside = [] ∧ after = []

section

variable {text : String}

/-- An error at a token or a clause stands where that does. -/
theorem ParseError.standsAs_token {x : Expectation} {span : Span} {shown : String}
    {before inside after : List Char} (hwhole : text.toList = before ++ (inside ++ after))
    (hspan : span = .behind before inside) (hshown : shown = String.ofList inside)
    (hne : inside ≠ []) :
    (ParseError.grammar ⟨x, .token span shown⟩).StandsAs text before inside after where
  whole := hwhole
  span_eq := hspan
  reported := by
    intro shown' hshown'
    exact (Option.some.inj hshown').symm.trans hshown
  token := fun _ _ _ _ => hne
  atEnd := by
    intro y span' h
    cases h

/-- The end of a text stands behind all of it. -/
theorem ParseError.standsAs_behind (x : Expectation) :
    (ParseError.grammar ⟨x, .behind text⟩).StandsAs text text.toList [] [] where
  whole := by simp
  span_eq := by
    show Span.point (Cursor.origin.advanceAll text.toList) = .behind text.toList []
    rw [Cursor.advanceAll_origin, Span.behind, List.append_nil, Span.point]
  reported := by
    intro shown h
    cases h
  token := by
    intro y span shown h
    cases h
  atEnd := fun _ _ _ => ⟨rfl, rfl⟩

/-- A token of a text stands in that text. -/
theorem Token.exists_stands {t : Token} (h : t ∈ (streamOf text).1) :
    ∃ before after, text.toList = before ++ (t.text.toList ++ after) ∧
      t.span = .behind before t.text.toList := by
  have hmem : t ∈ (stream (.behind []) text.toList).1 := h
  obtain ⟨before, after, hsplit, hspan, -⟩ := exists_ends hmem
  rw [List.nil_append, List.append_assoc] at hsplit
  exact ⟨before, after, hsplit, hspan⟩

theorem Token.Spelled.text_ne_nil {t : Token} (h : t.Spelled) : t.text.toList ≠ [] := by
  obtain ⟨c, cs, hchars, -⟩ := Lexeme.Spells.head h
  rw [hchars]
  exact List.cons_ne_nil c cs

/-- A lexical error behind the tokens of a text stands in that text. -/
theorem LexicalError.exists_standsAs {e : LexicalError} (h : (Token.streamOf text).2 = some e)
    (x : Option Expectation) :
    ∃ before inside after, (ParseError.lexical e x).StandsAs text before inside after := by
  obtain ⟨before, rest, hleaves, -, htells⟩ := Token.exists_leaves text
  obtain ⟨passed, fragment, hflawed, hspan, hfragment⟩ := (htells e).mp h
  obtain ⟨after, rfl⟩ := hflawed.exists_append
  refine ⟨before ++ passed, fragment, after, ?_, hspan, ?_, ?_, ?_⟩
  · rw [hleaves.whole, List.append_assoc]
  · intro shown hshown
    exact (Option.some.inj hshown).symm.trans hfragment
  · intro y span shown hlocation
    cases hlocation
  · intro y span hlocation
    cases hlocation

/-- An error that is told by the tokens of a text stands in that text. -/
theorem Blame.Tells.exists_standsAs {b : Blame} {ts : List Token} {err : ParseError}
    (h : b.Tells text (ts, (Token.streamOf text).2) err) (hts : ts <:+ (Token.streamOf text).1) :
    ∃ before inside after, err.StandsAs text before inside after := by
  cases h with
  | @token k t x ht _ =>
    have hmem : t ∈ (Token.streamOf text).1 := hts.mem (List.mem_of_getElem? ht)
    obtain ⟨before, after, hwhole, hspan⟩ := Token.exists_stands hmem
    exact ⟨before, t.text.toList, after, ParseError.standsAs_token hwhole hspan
      String.ofList_toList.symm (Token.spelled_of_mem_streamOf hmem).text_ne_nil⟩
  | @clause k c cause hc =>
    obtain ⟨gone, hgone⟩ := hts
    have hstream : (Token.streamOf text).1 =
        gone ++ ts.take k ++ (c.tokens ++ (ts.drop k).drop 3) := by
      rw [← hc, List.take_append_drop, List.append_assoc, List.take_append_drop, hgone]
    obtain ⟨before, inside, after, hstands⟩ := Clause.exists_standsAs hstream
    have hshown : c.span.slice text = String.ofList inside := by
      rw [hstands.span_eq, Span.slice_behind hstands.whole]
    have hname : c.name ∈ (Token.streamOf text).1 := by
      rw [hstream]
      simp [Clause.tokens]
    -- The name stands at the start of the clause, and names are not empty.
    have hne : inside ≠ [] := by
      rintro rfl
      exact (Token.spelled_of_mem_streamOf hname).text_ne_nil (List.prefix_nil.mp hstands.name.1)
    exact ⟨before, inside, after,
      ParseError.standsAs_token hstands.whole hstands.span_eq hshown hne⟩
  | @missing x _ => exact ⟨text.toList, [], [], ParseError.standsAs_behind x⟩
  | @lexical e x he => exact LexicalError.exists_standsAs he x

/-- Every error of a text stands in that text. -/
theorem ErrorOf.exists_standsAs {err : ParseError} (h : ErrorOf text err) :
    ∃ before inside after, err.StandsAs text before inside after := by
  cases h with
  | @tokens e htokens =>
    refine LexicalError.exists_standsAs ?_ none
    unfold tokenize at htokens
    split at htokens
    · cases htokens
    · next heq =>
      cases htokens
      rw [heq]
  | call settings make hserves herr =>
    obtain ⟨b, hb⟩ := hserves.within.exists_tells herr
    exact hb.exists_standsAs hserves.within.left

end

/-! ### True spans -/

/-- The byte offset is a character boundary of the text, and the column is the number of code
    points before it. -/
def Marks (text : String) (offset column : Nat) : Prop :=
  ∃ front back : String, text = front ++ back ∧ offset = front.utf8ByteSize ∧
    column = front.length

/-- What the error says about its place is true of the text. -/
structure ParseError.TrueOf (err : ParseError) (text : String) : Prop where
  ordered : err.span.offsetStart ≤ err.span.offsetEnd
  bounded : err.span.offsetEnd ≤ text.utf8ByteSize
  /-- Both ends are character boundaries, with their code points counted right. -/
  start : Marks text err.span.offsetStart err.span.columnStart
  stop : Marks text err.span.offsetEnd err.span.columnEnd
  /-- The widths are those of the part of the text under the span. -/
  length : err.span.length = .ok (err.span.slice text).utf8ByteSize
  columns : err.span.columns = .ok (err.span.slice text).length
  /-- What is reported stands under the span. -/
  reported : ∀ shown ∈ err.reported, shown = err.span.slice text
  /-- Tokens and clauses are not empty. -/
  token : ∀ x span shown, err = .grammar ⟨x, .token span shown⟩ →
    shown ≠ "" ∧ span.isEmpty = false
  /-- The end of the text has no width, and is behind all of it. -/
  atEnd : ∀ x span, err = .grammar ⟨x, .endOfInput span⟩ →
    span = ⟨text.utf8ByteSize, text.utf8ByteSize, text.length, text.length⟩

theorem Span.length_behind (before inside : List Char) :
    (behind before inside).length = .ok (String.ofList inside).utf8ByteSize := by
  simp [length, behind, between, Cursor.behind, difference]

theorem Span.columns_behind (before inside : List Char) :
    (behind before inside).columns = .ok inside.length := by
  simp [columns, behind, between, Cursor.behind, difference]

theorem marks_behind {text : String} {front back : List Char} (h : text.toList = front ++ back) :
    Marks text (Cursor.behind front).offset (Cursor.behind front).column := by
  refine ⟨String.ofList front, String.ofList back, ?_, rfl, String.length_ofList.symm⟩
  rw [← String.ofList_append, ← h, String.ofList_toList]

/-- For every error of a text, whatever the settings and the factories are and however often
    the parser has been asked before, what the error says about its place is true. -/
theorem error_spans_true {text : String} {err : ParseError} (h : ErrorOf text err) :
    err.TrueOf text := by
  obtain ⟨before, inside, after, hstands⟩ := h.exists_standsAs
  have hslice : err.span.slice text = String.ofList inside := by
    rw [hstands.span_eq, Span.slice_behind hstands.whole]
  have htext : text = String.ofList before ++ (String.ofList inside ++ String.ofList after) := by
    rw [← String.ofList_append, ← String.ofList_append, ← hstands.whole, String.ofList_toList]
  refine ⟨?_, ?_, ?_, ?_, ?_, ?_, ?_, ?_, ?_⟩
  · simp [hstands.span_eq, Span.behind, Span.between, Cursor.behind]
  · rw [hstands.span_eq, htext]
    simp [Span.behind, Span.between, Cursor.behind]
  · rw [hstands.span_eq]
    exact marks_behind hstands.whole
  · rw [hstands.span_eq]
    exact marks_behind (by rw [hstands.whole, List.append_assoc])
  · rw [hslice, hstands.span_eq, Span.length_behind]
  · rw [hslice, hstands.span_eq, Span.columns_behind, String.length_ofList]
  · rw [hslice]
    exact hstands.reported
  · rintro x span shown rfl
    have hne := hstands.token x span shown rfl
    have hspan : span = .behind before inside := hstands.span_eq
    have hshown : shown = String.ofList inside := hstands.reported shown rfl
    constructor
    · rw [hshown]
      simpa using hne
    · rw [hspan]
      simpa [Span.isEmpty, Span.behind, Span.between, Cursor.behind] using hne
  · rintro x span rfl
    obtain ⟨rfl, rfl⟩ := hstands.atEnd x span rfl
    have hspan : span = .behind before [] := hstands.span_eq
    have hbefore : before = text.toList := by simp [hstands.whole]
    rw [hspan, hbefore]
    simp [Span.behind, Span.between, Cursor.behind, String.length_toList]

/-- At a token behind characters of more than one byte, offsets and columns differ. -/
theorem error_spans_true_wide :
    ErrorOf "a=\"é\" b" (.grammar ⟨.commaOrCloseBrace, .token ⟨7, 8, 6, 7⟩ "b"⟩) ∧
      (ParseError.grammar ⟨.commaOrCloseBrace, .token ⟨7, 8, 6, 7⟩ "b"⟩).TrueOf "a=\"é\" b" := by
  have herr : ErrorOf "a=\"é\" b" (.grammar ⟨.commaOrCloseBrace, .token ⟨7, 8, 6, 7⟩ "b"⟩) := by
    refine .call ⟨false⟩ (Except.ok : Factory Request) .new ?_
    show parseWith _ _ _ = _
    rw [parseWith_eq_play]
    decide +kernel
  exact ⟨herr, error_spans_true herr⟩

end LabelSelector
