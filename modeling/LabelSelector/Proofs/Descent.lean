import LabelSelector.Proofs.Outlook

/-! # The recursive descent in parts

  Each part of the grammar is described by what it gives with a given outlook: one
  lemma for every way it can end.

  - a part that takes a single token is an instance of `take`,
  - braces, commas and the end are looked at or taken, and nothing else is touched,
  - the loop over clauses is cut open: what is left of a selector (`remainder`) is its
    end, or a clause, a separator and what is left then.
-/

namespace LabelSelector

namespace Step

/-! ### Binding -/

section

variable {α β γ : Type}

theorem bind_assoc (m : Step α) (f : α → Step β) (g : β → Step γ) :
    (m >>= f) >>= g = m >>= fun a => f a >>= g := by
  funext p
  change Step.bind (Step.bind m f) g p = Step.bind m (fun a => Step.bind (f a) g) p
  unfold Step.bind
  cases m p with
  | mk ans q => cases ans <;> rfl

theorem bind_of_ok {m : Step α} {f : α → Step β} {p q : Parser} {a : α} (h : m p = (.ok a, q)) :
    (m >>= f) p = f a q := by
  change Step.bind m f p = _
  rw [Step.bind, h]

theorem bind_of_error {m : Step α} {f : α → Step β} {p q : Parser} {e : ParseError}
    (h : m p = (.error e, q)) : (m >>= f) p = (.error e, q) := by
  change Step.bind m f p = _
  rw [Step.bind, h]

theorem pure_bind (a : α) (f : α → Step β) : (pure a : Step α) >>= f = f a := rfl

theorem unexpected_bind (x : Expectation) (found : Option Token) (f : α → Step β) :
    (unexpected x found : Step α) >>= f = unexpected x found := by
  cases found <;> rfl

end

/-! ### Taking one token -/

section

variable {α : Type}

/-- Takes a token that is wanted. -/
def take (x : Expectation) (want : Token → Option α) : Step α := do
  match ← expecting x next with
  | some t =>
    match want t with
    | some a => return a
    | none => unexpected x (some t)
  | none => unexpected x none

variable {x : Expectation} {want : Token → Option α} {text : String} {t : Token}
  {ts : List Token} {failure : Option LexicalError} {o : Bool} {asked : List Request}

theorem gives_take_of_some {a : α} (h : want t = some a) :
    Gives (take x want) ⟨text, t :: ts, failure, o, asked⟩ (.ok a)
      ⟨text, ts, failure, o, asked⟩ := by
  refine ((gives_next _).expecting x).bind (a := some t) ?_
  simp only [h]
  exact gives_pure a _

theorem gives_take_of_none (h : want t = none) :
    Gives (take x want) ⟨text, t :: ts, failure, o, asked⟩
      (.error (.grammar ⟨x, .token t.span t.text⟩)) ⟨text, ts, failure, o, asked⟩ := by
  refine ((gives_next _).expecting x).bind (a := some t) ?_
  simp only [h]
  exact gives_unexpected_token x t _

theorem gives_take_end :
    Gives (take x want) ⟨text, [], none, o, asked⟩
      (.error (.grammar ⟨x, .behind text⟩)) ⟨text, [], none, o, asked⟩ := by
  refine ((gives_next _).expecting x).bind (a := none) ?_
  exact gives_unexpected_end x _

theorem gives_take_lexical (e : LexicalError) :
    Gives (take x want) ⟨text, [], some e, o, asked⟩ (.error (.lexical e (some x)))
      ⟨text, [], some e, o, asked⟩ :=
  ((gives_next _).expecting x).bind_error

end

theorem expect_eq_take (kind : Token.Kind) (x : Expectation) :
    expect kind x = take x fun t => if t.kind = kind then some t else none := by
  unfold expect take
  congr 1
  funext found
  cases found with
  | none => rfl
  | some t => by_cases h : t.kind = kind <;> simp [h]

theorem value_eq_take :
    value = take .labelValue fun t =>
      if t.kind = .quoted ∨ t.kind = .identifier then some t else none := by
  unfold value take
  congr 1
  funext found
  cases found with
  | none => rfl
  | some t => by_cases h : t.kind = .quoted ∨ t.kind = .identifier <;> simp [h]

theorem operator_eq_take :
    operator = take .operator fun t =>
      if t.kind = .operator then Operator.ofText? t.text else none := by
  unfold operator
  rw [expect_eq_take]
  unfold take
  rw [bind_assoc]
  congr 1
  funext found
  cases found with
  | none => exact unexpected_bind _ _ _
  | some t =>
    -- A token of another kind fails before its text is looked at.
    by_cases h : t.kind = .operator
    · simp only [h, if_true]
      refine (pure_bind t _).trans ?_
      cases Operator.ofText? t.text <;> rfl
    · simp only [h, if_false]
      exact unexpected_bind _ _ _

section

variable {settings : ParserSettings} {text : String} {t : Token} {ts : List Token}
  {failure : Option LexicalError} {o : Bool} {asked : List Request}

/-! ### Braces and the end -/

theorem gives_openBrace (ht : t.kind = .openBrace) :
    Gives (openBrace settings) ⟨text, t :: ts, failure, o, asked⟩ (.ok ())
      ⟨text, ts, failure, true, asked⟩ := by
  refine (gives_peek _).bind (a := some t) ?_
  simp only [Option.any_some, ht, decide_true, if_true]
  exact (gives_next _).bind (a := some t) (gives_setOpened _)

theorem gives_openBrace_lexical (e : LexicalError) :
    Gives (openBrace settings) ⟨text, [], some e, o, asked⟩ (.error (.lexical e none))
      ⟨text, [], some e, o, asked⟩ :=
  (gives_peek _).bind_error

theorem gives_openBrace_missing (hr : settings.requireBraces = true) :
    Gives (openBrace settings) ⟨text, [], none, o, asked⟩
      (.error (.grammar ⟨.openBrace, .behind text⟩)) ⟨text, [], none, o, asked⟩ := by
  refine (gives_peek _).bind (a := none) ?_
  simp only [Option.any_none, hr, if_true]
  -- The second look finds what the first has found.
  refine (gives_peek _).bind (a := none) ?_
  exact gives_unexpected_end .openBrace _

theorem gives_openBrace_other (hr : settings.requireBraces = true) (ht : t.kind ≠ .openBrace) :
    Gives (openBrace settings) ⟨text, t :: ts, failure, o, asked⟩
      (.error (.grammar ⟨.openBrace, .token t.span t.text⟩))
      ⟨text, t :: ts, failure, o, asked⟩ := by
  refine (gives_peek _).bind (a := some t) ?_
  simp only [Option.any_some, ht, decide_false, hr, if_true]
  refine (gives_peek _).bind (a := some t) ?_
  exact gives_unexpected_token .openBrace t _

theorem gives_openBrace_bare (hr : settings.requireBraces = false)
    (hts : ∀ t ∈ ts.head?, t.kind ≠ .openBrace) (hfailure : ts = [] → failure = none) :
    Gives (openBrace settings) ⟨text, ts, failure, o, asked⟩ (.ok ())
      ⟨text, ts, failure, o, asked⟩ := by
  cases ts with
  | nil =>
    obtain rfl := hfailure rfl
    refine (gives_peek _).bind (a := none) ?_
    simp only [Option.any_none, hr]
    exact gives_pure () _
  | cons t ts =>
    refine (gives_peek _).bind (a := some t) ?_
    simp only [Option.any_some, hts t rfl, decide_false, hr]
    exact gives_pure () _

/-- Without an opening brace there is no closing one to read. -/
theorem gives_closeBrace_bare :
    Gives closeBrace ⟨text, ts, failure, false, asked⟩ (.ok ()) ⟨text, ts, failure, false, asked⟩ :=
  (gives_ask_opened _).bind (gives_pure () _)

theorem gives_closeBrace_end :
    Gives closeBrace ⟨text, [], none, true, asked⟩
      (.error (.grammar ⟨.closeBrace, .behind text⟩)) ⟨text, [], none, true, asked⟩ := by
  refine (gives_ask_opened _).bind ((gives_next _).bind (a := none) ?_)
  exact gives_unexpected_end .closeBrace _

theorem gives_closeBrace (ht : t.kind = .closeBrace) :
    Gives closeBrace ⟨text, t :: ts, failure, true, asked⟩ (.ok ())
      ⟨text, ts, failure, true, asked⟩ := by
  refine (gives_ask_opened _).bind ((gives_next _).bind (a := some t) ?_)
  simp only [Option.any_some, ht]
  exact gives_pure () _

theorem gives_endOfInput_end :
    Gives endOfInput ⟨text, [], none, o, asked⟩ (.ok ()) ⟨text, [], none, o, asked⟩ :=
  (gives_next _).bind (a := none) (gives_pure () _)

theorem gives_endOfInput_lexical (e : LexicalError) :
    Gives endOfInput ⟨text, [], some e, o, asked⟩ (.error (.lexical e none))
      ⟨text, [], some e, o, asked⟩ :=
  (gives_next _).bind_error

theorem gives_endOfInput_token :
    Gives endOfInput ⟨text, t :: ts, failure, true, asked⟩
      (.error (.grammar ⟨.endOfInput, .token t.span t.text⟩)) ⟨text, ts, failure, true, asked⟩ := by
  refine (gives_next _).bind (a := some t) ((gives_ask_opened _).bind ?_)
  rw [if_neg (by simp)]
  exact gives_unexpected_token .endOfInput t _

/-- A closing brace that has lost its partner. -/
theorem gives_endOfInput_lost (ht : t.kind = .closeBrace) :
    Gives endOfInput ⟨text, t :: ts, failure, false, asked⟩
      (.error (.grammar ⟨.openBrace, .token t.span t.text⟩)) ⟨text, ts, failure, false, asked⟩ := by
  refine (gives_next _).bind (a := some t) ((gives_ask_opened _).bind ?_)
  rw [if_pos ⟨ht, rfl⟩]
  exact gives_unexpected_token .openBrace t _

/-! ### Commas -/

theorem gives_separator_lexical (e : LexicalError) :
    Gives separator ⟨text, [], some e, o, asked⟩
      (.error (.lexical e (some .commaOrCloseBrace))) ⟨text, [], some e, o, asked⟩ :=
  ((gives_peek _).expecting _).bind_error

theorem gives_separator_bare :
    Gives separator ⟨text, [], none, false, asked⟩ (.ok ()) ⟨text, [], none, false, asked⟩ := by
  refine ((gives_peek _).expecting _).bind (a := none) ((gives_ask_opened _).bind ?_)
  exact gives_pure () _

theorem gives_separator_missing :
    Gives separator ⟨text, [], none, true, asked⟩
      (.error (.grammar ⟨.closeBrace, .behind text⟩)) ⟨text, [], none, true, asked⟩ := by
  refine ((gives_peek _).expecting _).bind (a := none) ((gives_ask_opened _).bind ?_)
  exact gives_unexpected_end .closeBrace _

theorem gives_separator_brace (ht : t.kind = .closeBrace) :
    Gives separator ⟨text, t :: ts, failure, o, asked⟩ (.ok ())
      ⟨text, t :: ts, failure, o, asked⟩ := by
  refine ((gives_peek _).expecting _).bind (a := some t) ?_
  simp only [ht, if_true]
  exact gives_pure () _

theorem gives_separator_other (hclose : t.kind ≠ .closeBrace) (hcomma : t.kind ≠ .comma) :
    Gives separator ⟨text, t :: ts, failure, o, asked⟩
      (.error (.grammar ⟨.commaOrCloseBrace, .token t.span t.text⟩))
      ⟨text, t :: ts, failure, o, asked⟩ := by
  refine ((gives_peek _).expecting _).bind (a := some t) ?_
  simp only [hclose, hcomma, if_false]
  exact gives_unexpected_token _ t _

theorem gives_afterComma_end :
    Gives afterComma ⟨text, [], none, o, asked⟩ (.ok ()) ⟨text, [], none, o, asked⟩ :=
  ((gives_peek _).expecting _).bind (a := none) (gives_pure () _)

theorem gives_afterComma_lexical (e : LexicalError) :
    Gives afterComma ⟨text, [], some e, o, asked⟩
      (.error (.lexical e (some .labelNameAfterComma))) ⟨text, [], some e, o, asked⟩ :=
  ((gives_peek _).expecting _).bind_error

theorem gives_afterComma_fits (ht : t.kind = .identifier ∨ t.kind = .closeBrace) :
    Gives afterComma ⟨text, t :: ts, failure, o, asked⟩ (.ok ())
      ⟨text, t :: ts, failure, o, asked⟩ := by
  refine ((gives_peek _).expecting _).bind (a := some t) ?_
  simp only [ht, if_true]
  exact gives_pure () _

theorem gives_afterComma_other (ht : ¬ (t.kind = .identifier ∨ t.kind = .closeBrace)) :
    Gives afterComma ⟨text, t :: ts, failure, o, asked⟩
      (.error (.grammar ⟨.labelNameAfterComma, .token t.span t.text⟩))
      ⟨text, t :: ts, failure, o, asked⟩ := by
  refine ((gives_peek _).expecting _).bind (a := some t) ?_
  simp only [ht, if_false]
  exact gives_unexpected_token _ t _

end

/-! ### Matchers -/

section

variable {μ : Type} {make : Factory μ} {r : Request} {span : Span} {text : String}
  {ts : List Token} {failure : Option LexicalError} {o : Bool} {asked : List Request}

theorem gives_create_of_ok {m : μ} (h : make r = .ok m) :
    Gives (create make r span) ⟨text, ts, failure, o, asked⟩ (.ok m)
      ⟨text, ts, failure, o, r :: asked⟩ := by
  refine (gives_emit _ _).bind ((gives_request _ _).bind ?_)
  rw [h]
  exact gives_pure m _

theorem gives_create_of_error {cause : String} (h : make r = .error cause) :
    Gives (create make r span) ⟨text, ts, failure, o, asked⟩
      (.error (.grammar ⟨.matcher cause, .token span (span.slice text)⟩))
      ⟨text, ts, failure, o, r :: asked⟩ := by
  refine (gives_emit _ _).bind ((gives_request _ _).bind ?_)
  rw [h]
  exact (gives_ask_input _ _).bind (gives_fail _ _)

end

/-! ### What is left of a selector -/

variable {μ : Type}

/-- Makes sure that nothing follows, and answers matchers. -/
def finale (ms : List μ) : Step (List μ) := do
  endOfInput
  emit (.listRead ms.length (← ask Parser.opened))
  return ms

/-- What is read where a clause or the end of the list may stand, when matchers have
    been made before. -/
def remainder (make : Factory μ) (made : List μ) : Step (List μ) := do
  let ms ← (clauses make : Step (List μ))
  closeBrace
  finale (made ++ ms)

theorem selector_eq (settings : ParserSettings) (make : Factory μ) :
    selector settings make = openBrace settings >>= fun _ => remainder make [] := rfl

theorem clauses_eq (make : Factory μ) :
    (clauses make : Step (List μ)) = peek >>= fun found =>
      if isListEnd found then pure []
      else clause make >>= fun m => separator >>= fun _ =>
        (clauses make : Step (List μ)) >>= fun ms => pure (m :: ms) := by
  funext p
  rw [clauses]
  -- The loop goes through the same steps; it names their results for its measure only.
  split
  · next e q hpeek => rw [bind_of_error hpeek]
  · next found q hpeek =>
    rw [bind_of_ok hpeek]
    split
    · rfl
    · split
      · next e q₂ hclause => rw [bind_of_error hclause]
      · next m q₂ hclause =>
        rw [bind_of_ok hclause]
        split
        · next e q₃ hsep => rw [bind_of_error hsep]
        · next q₃ hsep =>
          rw [bind_of_ok hsep]
          split
          · next e q₄ hclauses => rw [bind_of_error hclauses]
          · next ms q₄ hclauses =>
            rw [bind_of_ok hclauses]
            rfl

/-- The end of the list, or a clause with what follows it. -/
theorem remainder_eq (make : Factory μ) (made : List μ) :
    remainder make made = peek >>= fun found =>
      if isListEnd found then closeBrace >>= fun _ => finale made
      else clause make >>= fun m => separator >>= fun _ => remainder make (made ++ [m]) := by
  unfold remainder
  -- Open the loop once, and move the end of the selector behind each of its branches.
  conv_lhs => rw [clauses_eq, bind_assoc]
  congr 1
  funext found
  split
  · rw [pure_bind, List.append_nil]
  · rw [bind_assoc]
    congr 1
    funext m
    rw [bind_assoc]
    congr 1
    funext u
    refine (bind_assoc (clauses make : Step (List μ)) _ _).trans ?_
    simp only [pure_bind, List.append_assoc, List.singleton_append]

end Step

end LabelSelector
