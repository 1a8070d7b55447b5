import LabelSelector.Proofs.Descent
import LabelSelector.Proofs.Run

/-! # The parser is the automaton

  The parser reads by recursive descent, with one token of lookahead and a note of
  the opening brace. Here it is shown to do what a run of the automaton does: same
  answer, same tokens left, same matchers asked for.

  A step `m` plays a run if it answers what the run does, put behind the matchers
  that have been made before. Each part of the grammar plays the run from the state
  it is called in, if what is called behind it plays the rest.
-/

namespace LabelSelector

namespace Step

open Automaton

/-! ### Tokens that have been read -/

/-- The text of an operator that has been read is one of the four. -/
theorem known_of_spelled {t : Token} (h : t.Spelled) : Known t := by
  obtain ⟨kind, text, span⟩ := t
  rintro rfl
  have htext : text = String.ofList text.toList := String.ofList_toList.symm
  have hspells : Lexeme.Spells .operator text.toList := h
  generalize text.toList = chars at hspells htext
  subst htext
  cases hspells with
  | equal => exact ⟨.equal, rfl⟩
  | notEqual => exact ⟨.notEqual, rfl⟩
  | regexp => exact ⟨.regexp, rfl⟩
  | notRegexp => exact ⟨.notRegexp, rfl⟩

/-- Without its quotes, a quoted text has lost its first and its last character. -/
theorem rawValue_eq_raw (c : Clause) (h : c.value.Spelled) : rawValue c.value = c.raw := by
  unfold rawValue Clause.raw
  split
  · next hquoted =>
    have hspells : Lexeme.Spells .quoted c.value.text.toList := hquoted ▸ h
    generalize c.value.text.toList = chars at hspells
    cases hspells with
    | quoted hbody => simp [stripQuotes]
  · rfl

/-! ### Playing a run -/

variable {μ : Type}

/-- With the outlook `v`, a step answers what a run does, the matchers of the run put
    behind those made before. -/
def Plays (m : Step (List μ)) (made : List μ) (v : Outlook) (out : Outcome μ) : Prop :=
  Gives m v (out.result.map (made ++ ·)) (out.after v)

section

variable {α : Type} {m : Step α} {f : α → Step (List μ)} {made : List μ} {v v₁ : Outlook}

theorem Gives.plays {a : α} {out : Outcome μ} (hm : Gives m v (.ok a) v₁)
    (hv : out.after v₁ = out.after v) (hf : Plays (f a) made v₁ out) :
    Plays (m >>= f) made v out :=
  hm.bind (hv ▸ hf)

theorem Gives.plays_error {e : ParseError} {left : List Token}
    (hm : Gives m v (.error e) { v with ahead := left }) :
    Plays (m >>= f) made v ⟨.error e, left, v.opened, []⟩ :=
  hm.bind_error

end

variable {settings : ParserSettings} {make : Factory μ} {text : String}
  {failure : Option LexicalError} {s : State} {t : Token} {ts held : List Token}
  {made : List μ} {o : Bool} {asked : List Request}

/-! ### The end of a selector -/

theorem plays_finale_end :
    Plays (finale made) made ⟨text, [], none, o, asked⟩ ⟨.ok [], [], o, []⟩ := by
  refine gives_endOfInput_end.plays rfl ?_
  refine (gives_ask_opened _).plays rfl ((gives_emit _ _).plays rfl ?_)
  change Gives (pure made : Step (List μ)) _ (.ok (made ++ [])) _
  rw [List.append_nil]
  exact gives_pure made _

/-- Behind the closing brace the text has to end. -/
theorem plays_finale :
    Plays (finale made) made ⟨text, ts, failure, true, asked⟩
      (drive settings make text failure ⟨.afterClose, true⟩ held ts) := by
  cases ts with
  | cons t ts =>
    rw [drive_of_error rfl]
    exact gives_endOfInput_token.plays_error
  | nil =>
    cases failure with
    | none => exact plays_finale_end
    | some e => exact (gives_endOfInput_lexical e).plays_error

/-- The list of clauses may end in a state. -/
structure MayEnd (settings : ParserSettings) (s : State) : Prop where
  /-- The closing brace is taken if one has been opened. -/
  close : Automaton.step settings s .closeBrace = Automaton.close s.opened
  /-- A closing brace that is not taken is not left either. -/
  taken : leaves settings s .closeBrace = false
  /-- At the end of the text nothing else than the closing brace can be missing. -/
  finish : Automaton.finish settings s = if s.opened then some .closeBrace else none

theorem plays_closing_end (h : MayEnd settings s) :
    Plays (closeBrace >>= fun _ => finale made) made ⟨text, [], none, s.opened, asked⟩
      (drive settings make text none s held []) := by
  obtain ⟨stage, o⟩ := s
  have hfinish := h.finish
  cases o with
  | false =>
    rw [drive_end hfinish]
    exact gives_closeBrace_bare.plays rfl plays_finale_end
  | true =>
    rw [drive_end_missing hfinish]
    exact gives_closeBrace_end.plays_error

theorem plays_closing_brace (h : MayEnd settings s) (ht : t.kind = .closeBrace) :
    Plays (closeBrace >>= fun _ => finale made) made ⟨text, t :: ts, failure, s.opened, asked⟩
      (drive settings make text failure s held (t :: ts)) := by
  obtain ⟨stage, o⟩ := s
  have hclose : Automaton.step settings ⟨stage, o⟩ t.kind = Automaton.close o := ht ▸ h.close
  cases o with
  | false =>
    -- The lost brace is only found where the text should end, and it is taken there.
    have htaken : leaves settings ⟨stage, false⟩ t.kind = false := ht ▸ h.taken
    rw [drive_of_error hclose, htaken]
    exact gives_closeBrace_bare.plays rfl (gives_endOfInput_lost ht).plays_error
  | true =>
    rw [drive_of_mark hclose (by rw [ht]; rfl)]
    exact (gives_closeBrace ht).plays rfl plays_finale

/-! ### Clauses -/

/-- Where a token has to be taken, nothing else than that token is missing. -/
theorem plays_take {α : Type} {x : Expectation} {want : Token → Option α}
    {f : α → Step (List μ)} (hfinish : finish settings s = some x) (hhint : hint s = some x)
    (hleaves : ∀ k, leaves settings s k = false)
    (hts : ∀ t rest, ts = t :: rest →
      (want t = none ∧ Automaton.step settings s t.kind = .error x) ∨
        ∃ a, want t = some a ∧ Plays (f a) made ⟨text, rest, failure, s.opened, asked⟩
          (drive settings make text failure s held ts)) :
    Plays (take x want >>= f) made ⟨text, ts, failure, s.opened, asked⟩
      (drive settings make text failure s held ts) := by
  cases ts with
  | nil =>
    cases failure with
    | none =>
      rw [drive_end_missing hfinish]
      exact gives_take_end.plays_error
    | some e =>
      rw [drive_end_lexical, hhint]
      exact (gives_take_lexical e).plays_error
  | cons t ts =>
    rcases hts t ts rfl with ⟨hwant, hstep⟩ | ⟨a, hwant, hplays⟩
    · rw [drive_of_error hstep, hleaves]
      exact (gives_take_of_none hwant).plays_error
    · exact (gives_take_of_some hwant).plays rfl hplays

/-- A matcher is asked for once, and what follows goes on with it. -/
theorem plays_create {c : Clause} {K : μ → Step (List μ)} {out : Outcome μ}
    (hK : ∀ m, Plays (K m) (made ++ [m]) ⟨text, ts, failure, o, c.request :: asked⟩ out) :
    Plays (create make c.request c.span >>= K) made ⟨text, ts, failure, o, asked⟩
      (match make c.request with
      | .error cause => ⟨.error (refusal text c cause), ts, o, [c.request]⟩
      | .ok m => out.prepend [c.request] [m]) := by
  cases hmake : make c.request with
  | error cause =>
    exact (gives_create_of_error hmake).bind_error
  | ok m =>
    -- The matcher joins those made before, and its clause those asked for.
    unfold Plays
    rw [Outcome.prepend_result, Outcome.prepend_after]
    exact (gives_create_of_ok hmake).bind (hK m)

/-- Wherever a clause ends in `ts`, the rest is played from its matcher on. -/
def PlaysBehind (settings : ParserSettings) (make : Factory μ) (text : String)
    (failure : Option LexicalError) (o : Bool) (K : μ → Step (List μ)) (made : List μ)
    (ts : List Token) : Prop :=
  ∀ (c : Clause) (rest : List Token) (m : μ) (asked : List Request), ts = c.tokens ++ rest →
    Plays (K m) (made ++ [m]) ⟨text, rest, failure, o, asked⟩
      (drive settings make text failure ⟨.afterValue, o⟩ c.tokens rest)

section

variable {K : μ → Step (List μ)} {name sign : Token} {op : Operator}

/-- Behind an operator, the value completes a clause. -/
theorem plays_value (hname : name.kind = .identifier) (hsign : sign.kind = .operator)
    (hop : Operator.ofText? sign.text = some op) (hspelled : ∀ t ∈ ts, t.Spelled)
    (hK : PlaysBehind settings make text failure o K made (name :: sign :: ts)) :
    Plays (value >>= fun v =>
        create make ⟨op, name.text, rawValue v⟩ (name.span.merge v.span) >>= K) made
      ⟨text, ts, failure, o, asked⟩
      (drive settings make text failure ⟨.afterOperator, o⟩ [name, sign] ts) := by
  rw [value_eq_take]
  refine plays_take (s := ⟨.afterOperator, o⟩) rfl rfl (fun _ => rfl) ?_
  rintro v rest rfl
  by_cases hvalue : v.kind = .quoted ∨ v.kind = .identifier
  · refine .inr ⟨v, if_pos hvalue, ?_⟩
    -- Three tokens are held now: a clause is there, and its matcher is asked for.
    let c : Clause := ⟨name, sign, v, op, hname, hsign, hvalue, hop⟩
    have hextend : Grammar.extend [name, sign] v = c.tokens :=
      Grammar.extend_of_not_isMark (by rcases hvalue with h | h <;> rw [h] <;> rfl) _
    have hraw : rawValue c.value = c.raw := rawValue_eq_raw c (hspelled v (by simp))
    rw [drive_of_clause (step_afterOperator_iff.mpr ⟨hvalue, rfl⟩)
      (by rw [hextend, Clause.ofTokens?_tokens]), hextend]
    change Plays (create make ⟨c.operator, c.name.text, rawValue c.value⟩ c.span >>= K) _ _ _
    rw [hraw]
    exact plays_create fun m => hK c rest m _ rfl
  · exact .inl ⟨if_neg hvalue, step_afterOperator_of_ne hvalue⟩

/-- Behind a name, the operator is known. -/
theorem plays_clauseAfter (hname : name.kind = .identifier) (hspelled : ∀ t ∈ ts, t.Spelled)
    (hK : PlaysBehind settings make text failure o K made (name :: ts)) :
    Plays (clauseAfter make name >>= K) made ⟨text, ts, failure, o, asked⟩
      (drive settings make text failure ⟨.afterName, o⟩ [name] ts) := by
  unfold clauseAfter
  simp only [bind_assoc]
  rw [operator_eq_take]
  refine plays_take (s := ⟨.afterName, o⟩) rfl rfl (fun _ => rfl) ?_
  rintro sign rest rfl
  by_cases hsign : sign.kind = .operator
  · obtain ⟨op, hop⟩ := known_of_spelled (hspelled sign (by simp)) hsign
    have hextend : Grammar.extend [name] sign = [name, sign] :=
      Grammar.extend_of_not_isMark (by rw [hsign]; rfl) _
    refine .inr ⟨op, by rw [if_pos hsign, hop], ?_⟩
    rw [drive_of_none (step_afterName_iff.mpr ⟨hsign, rfl⟩) (by rw [hextend]; rfl), hextend]
    exact plays_value hname hsign hop (List.forall_mem_cons.mp hspelled).2 hK
  · exact .inl ⟨if_neg hsign, step_afterName_of_ne hsign⟩

/-- A clause is played if what follows it is. -/
theorem plays_clause (hname : name.kind = .identifier)
    (hs : Automaton.step settings s .identifier = .ok ⟨.afterName, s.opened⟩)
    (hspelled : ∀ t ∈ ts, t.Spelled)
    (hK : PlaysBehind settings make text failure s.opened K made (name :: ts)) :
    Plays (clause make >>= K) made ⟨text, name :: ts, failure, s.opened, asked⟩
      (drive settings make text failure s [] (name :: ts)) := by
  have hextend : Grammar.extend [] name = [name] :=
    Grammar.extend_of_not_isMark (by rw [hname]; rfl) []
  rw [drive_of_none (hname ▸ hs) (by rw [hextend]; rfl), hextend]
  unfold clause
  rw [bind_assoc, expect_eq_take]
  exact (gives_take_of_some (if_pos hname)).plays rfl (plays_clauseAfter hname hspelled hK)

end

/-! ### Lists of clauses -/

theorem mayEnd_afterOpen : MayEnd settings ⟨.afterOpen, o⟩ := ⟨rfl, rfl, rfl⟩

theorem mayEnd_afterValue : MayEnd settings ⟨.afterValue, o⟩ := ⟨rfl, rfl, rfl⟩

theorem mayEnd_afterComma : MayEnd settings ⟨.afterComma, o⟩ := ⟨rfl, rfl, rfl⟩

theorem plays_remainder_end (h : MayEnd settings s) :
    Plays (remainder make made) made ⟨text, [], none, s.opened, asked⟩
      (drive settings make text none s held []) := by
  rw [remainder_eq]
  exact (gives_peek _).plays (a := none) rfl (plays_closing_end h)

theorem plays_remainder_brace (h : MayEnd settings s) (ht : t.kind = .closeBrace) :
    Plays (remainder make made) made ⟨text, t :: ts, failure, s.opened, asked⟩
      (drive settings make text failure s held (t :: ts)) := by
  rw [remainder_eq]
  refine (gives_peek _).plays (a := some t) rfl ?_
  rw [if_pos (by simp [isListEnd, ht])]
  exact plays_closing_brace h ht

theorem plays_remainder_clause {out : Outcome μ} (ht : t.kind ≠ .closeBrace)
    (h : Plays (clause make >>= fun m => separator >>= fun _ => remainder make (made ++ [m])) made
      ⟨text, t :: ts, failure, o, asked⟩ out) :
    Plays (remainder make made) made ⟨text, t :: ts, failure, o, asked⟩ out := by
  rw [remainder_eq]
  refine (gives_peek _).plays (a := some t) rfl ?_
  rw [if_neg (by simp [isListEnd, ht])]
  exact h

/-- A comma is taken, and then what follows a comma is read. -/
theorem plays_separator_comma {f : Unit → Step (List μ)} {out : Outcome μ}
    (ht : t.kind = .comma)
    (h : Plays (afterComma >>= f) made ⟨text, ts, failure, o, asked⟩ out) :
    Plays (separator >>= f) made ⟨text, t :: ts, failure, o, asked⟩ out := by
  unfold separator
  rw [bind_assoc]
  refine ((gives_peek _).expecting _).plays (a := some t) rfl ?_
  simp only [ht, if_true, reduceCtorEq, if_false, bind_assoc]
  have hnext : Gives next ⟨text, t :: ts, failure, o, asked⟩ (.ok (some t))
      ⟨text, ts, failure, o, asked⟩ := gives_next _
  exact hnext.plays rfl h

/-- Behind a comma, the list ends or a clause follows. -/
theorem plays_afterComma (hspelled : ∀ t ∈ ts, t.Spelled)
    (hK : PlaysBehind settings make text failure o
      (fun m => separator >>= fun _ => remainder make (made ++ [m])) made ts) :
    Plays (afterComma >>= fun _ => remainder make made) made ⟨text, ts, failure, o, asked⟩
      (drive settings make text failure ⟨.afterComma, o⟩ [] ts) := by
  cases ts with
  | nil =>
    cases failure with
    | none => exact gives_afterComma_end.plays rfl (plays_remainder_end mayEnd_afterComma)
    | some e => exact (gives_afterComma_lexical e).plays_error
  | cons t ts =>
    by_cases hclose : t.kind = .closeBrace
    · exact (gives_afterComma_fits (.inr hclose)).plays rfl
        (plays_remainder_brace mayEnd_afterComma hclose)
    · by_cases hname : t.kind = .identifier
      · refine (gives_afterComma_fits (.inl hname)).plays rfl (plays_remainder_clause hclose ?_)
        exact plays_clause (s := ⟨.afterComma, o⟩) hname rfl
          (List.forall_mem_cons.mp hspelled).2 hK
      · -- The token has been looked at and not taken.
        have hleaves : leaves settings ⟨.afterComma, o⟩ t.kind = true := by simp [leaves, hclose]
        rw [drive_of_error (step_afterComma_of_ne hname hclose), hleaves]
        exact (gives_afterComma_other (not_or.mpr ⟨hname, hclose⟩)).plays_error

/-- Behind a clause, the list ends or a comma follows. -/
theorem plays_separator (ts : List Token) (made : List μ) (held : List Token)
    (asked : List Request) (hspelled : ∀ t ∈ ts, t.Spelled) :
    Plays (separator >>= fun _ => remainder make made) made ⟨text, ts, failure, o, asked⟩
      (drive settings make text failure ⟨.afterValue, o⟩ held ts) := by
  match ts with
  | [] =>
    cases failure with
    | some e => exact (gives_separator_lexical e).plays_error
    | none =>
      -- The end of the text ends the list, but it does not close a brace.
      cases o with
      | false => exact gives_separator_bare.plays rfl (plays_remainder_end mayEnd_afterValue)
      | true => exact gives_separator_missing.plays_error
  | t :: ts =>
    by_cases hclose : t.kind = .closeBrace
    · exact (gives_separator_brace hclose).plays rfl
        (plays_remainder_brace mayEnd_afterValue hclose)
    · by_cases hcomma : t.kind = .comma
      · rw [drive_of_mark (step_afterValue_iff.mpr (.inl ⟨hcomma, rfl⟩)) (by rw [hcomma]; rfl)]
        refine plays_separator_comma hcomma
          (plays_afterComma (List.forall_mem_cons.mp hspelled).2 ?_)
        -- Induction: the next clause ends in front of fewer tokens.
        intro c rest m asked heq
        exact plays_separator rest (made ++ [m]) c.tokens asked fun t ht =>
          hspelled t (by simp [heq, ht])
      · have hleaves : leaves settings ⟨.afterValue, o⟩ t.kind = true := by simp [leaves, hclose]
        rw [drive_of_error (step_afterValue_of_ne hcomma hclose), hleaves]
        exact (gives_separator_other hclose hcomma).plays_error
termination_by ts.length
decreasing_by
  have := congrArg List.length heq
  simp only [List.length_cons, List.length_append] at this ⊢
  omega

/-- The inside of a selector plays the run from behind the opening brace. -/
theorem plays_remainder (hspelled : ∀ t ∈ ts, t.Spelled) :
    Plays (remainder make made) made ⟨text, ts, failure, o, asked⟩
      (drive settings make text failure ⟨.afterOpen, o⟩ [] ts) := by
  cases ts with
  | nil =>
    cases failure with
    | none => exact plays_remainder_end mayEnd_afterOpen
    | some e =>
      rw [remainder_eq]
      exact (gives_peek _).plays_error
  | cons t ts =>
    by_cases hclose : t.kind = .closeBrace
    · exact plays_remainder_brace mayEnd_afterOpen hclose
    · refine plays_remainder_clause hclose ?_
      by_cases hname : t.kind = .identifier
      · refine plays_clause (s := ⟨.afterOpen, o⟩) hname rfl
          (List.forall_mem_cons.mp hspelled).2 ?_
        intro c rest m asked heq
        exact plays_separator rest (made ++ [m]) c.tokens asked fun t ht =>
          hspelled t (by simp [heq, ht])
      · -- Only after it has been taken is the token found to be no name.
        rw [drive_of_error (step_afterOpen_of_ne hname hclose)]
        unfold clause
        rw [bind_assoc, expect_eq_take]
        exact (gives_take_of_none (if_neg hname)).plays_error

/-! ### Selectors -/

/-- The parser plays the run over all its tokens. -/
theorem plays_selector (hspelled : ∀ t ∈ ts, t.Spelled) :
    Plays (selector settings make) [] ⟨text, ts, failure, o, asked⟩
      (drive settings make text failure ⟨.start, o⟩ [] ts) := by
  rw [selector_eq]
  -- Braces may be left out only if the first token is no opening brace.
  have hbare (hr : settings.requireBraces = false) (hts : ∀ t ∈ ts.head?, t.kind ≠ .openBrace)
      (hfailure : ts = [] → failure = none) :
      Plays (openBrace settings >>= fun _ => remainder make []) []
        ⟨text, ts, failure, o, asked⟩ (drive settings make text failure ⟨.start, o⟩ [] ts) := by
    rw [drive_start_bare hr hts]
    exact (gives_openBrace_bare hr hts hfailure).plays rfl (plays_remainder hspelled)
  cases ts with
  | nil =>
    cases failure with
    | some e => exact (gives_openBrace_lexical e).plays_error
    | none =>
      cases hr : settings.requireBraces with
      | false => exact hbare hr (by simp) (by simp)
      | true =>
        rw [drive_end_missing (x := .openBrace) (by simp [finish, hr])]
        exact (gives_openBrace_missing hr).plays_error
  | cons t ts =>
    by_cases hopen : t.kind = .openBrace
    · rw [drive_of_mark (step_start_iff.mpr (.inl ⟨hopen, rfl⟩)) (by rw [hopen]; rfl)]
      exact (gives_openBrace hopen).plays rfl
        (plays_remainder (List.forall_mem_cons.mp hspelled).2)
    · cases hr : settings.requireBraces with
      | false => exact hbare hr (by simpa using hopen) (by simp)
      | true =>
        have hstep : Automaton.step settings ⟨.start, o⟩ t.kind = .error .openBrace := by
          simp [Automaton.step, hopen, hr]
        have hleaves : leaves settings ⟨.start, o⟩ t.kind = true := hr
        rw [drive_of_error hstep, hleaves]
        exact (gives_openBrace_other hr hopen).plays_error

end Step

/-! ### Whole texts -/

namespace Automaton

/-- The run over the tokens of a text. -/
def play {μ : Type} (settings : ParserSettings) (make : Factory μ) (text : String) : Outcome μ :=
  drive settings make text (Token.streamOf text).2 initial [] (Token.streamOf text).1

end Automaton

section

variable {μ : Type} (settings : ParserSettings) (make : Factory μ) (text : String)

/-- The report of a failure changes neither the answer nor the outlook. -/
theorem Step.Gives.parse {v v' : Outlook} {r : Except ParseError (List μ)}
    (h : Gives (selector settings make) v r v') : Gives (Step.parse settings make) v r v' := by
  intro p hp
  obtain ⟨rfl, rfl⟩ := h p hp
  unfold Step.parse
  split
  · next heq => rw [heq]; exact ⟨rfl, rfl⟩
  · next heq => rw [heq]; exact ⟨rfl, rfl⟩

/-- From wherever it stands, the parser answers what a run over the tokens to come does. -/
theorem Step.gives_parse {v : Outlook} (hspelled : ∀ t ∈ v.ahead, t.Spelled) :
    Gives (Step.parse settings make) v
      (Automaton.drive settings make v.input v.failure ⟨.start, v.opened⟩ [] v.ahead).result
      ((Automaton.drive settings make v.input v.failure ⟨.start, v.opened⟩ [] v.ahead).after v) := by
  obtain ⟨text, ts, failure, o, asked⟩ := v
  generalize hout : Automaton.drive settings make text failure ⟨.start, o⟩ [] ts = out
  have hplays : Plays (selector settings make) [] ⟨text, ts, failure, o, asked⟩ out := by
    rw [← hout]
    exact plays_selector hspelled
  have hresult : out.result.map (([] : List μ) ++ ·) = out.result := by
    cases out.result <;> rfl
  rw [Plays, hresult] at hplays
  exact hplays.parse

theorem Step.gives_parse_ofText :
    Gives (Step.parse settings make) (Parser.ofText text).outlook
      (Automaton.play settings make text).result
      ((Automaton.play settings make text).after (Parser.ofText text).outlook) :=
  gives_parse settings make fun _ ht => Token.spelled_of_mem_streamOf ht

/-- The parser answers what the run over the tokens does. -/
theorem parseWith_eq_play :
    parseWith text make settings = (Automaton.play settings make text).result :=
  (Step.gives_parse_ofText settings make text (Parser.ofText text) rfl).1

/-- The parser asks for the matchers that the run over the tokens asks for. -/
theorem requests_parse_eq_play :
    ((Parser.ofText text).parse settings make).2.requests =
      (Automaton.play settings make text).asked := by
  have houtlook := (Step.gives_parse_ofText settings make text (Parser.ofText text) rfl).2
  have hasked : ((Parser.ofText text).parse settings make).2.asked =
      (Automaton.play settings make text).asked.reverse ++ [] := congrArg Outlook.asked houtlook
  rw [Parser.requests, hasked, List.append_nil, List.reverse_reverse]

end

end LabelSelector
