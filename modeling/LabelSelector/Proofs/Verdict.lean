import LabelSelector.Proofs.Simulation

/-! # What the parser answers

  The parser plays the run of the automaton, so its answer can be told from where
  that run stops:

  - it answers matchers exactly for the selectors, clause by clause,
  - its errors are those of the automaton, at the first token that does not fit,
    at the end where something is missing, or at the lexical error behind a prefix
    that could have been continued.
-/

namespace LabelSelector

namespace Automaton

variable {μ : Type} {settings : ParserSettings} {make : Factory μ} {text : String}

/-! ### Verdicts of the automaton -/

/-- The matchers of a text, as the automaton tells them. -/
structure Passes (settings : ParserSettings) (make : Factory μ) (text : String)
    (ms : List μ) : Prop where
  /-- There is no lexical error. -/
  scanned : (Token.streamOf text).2 = none
  /-- The kinds of the tokens are accepted. -/
  accepts : Accepts settings initial ((Token.streamOf text).1.map Token.kind)
  /-- The matchers are made for the clauses. -/
  made : Makes make (Grammar.clausesIn [] (Token.streamOf text).1) ms

/-- The errors of a text, as the automaton tells them. All matchers of the clauses
    before the error are made. -/
inductive Reports (settings : ParserSettings) (make : Factory μ) (text : String) :
    ParseError → Prop where
  /-- At a token that is not taken. -/
  | token {front back : List Token} {t : Token} {s : State} {x : Expectation} {ms : List μ} :
      (Token.streamOf text).1 = front ++ t :: back →
      run settings initial (front.map Token.kind) = .ok s →
      Makes make (Grammar.clausesIn [] front) ms →
      step settings s t.kind = .error x →
      Reports settings make text (.grammar ⟨x, .token t.span t.text⟩)
  /-- At a clause that is refused. -/
  | clause {front back : List Token} {t : Token} {s : State} {c : Clause} {cause : String}
      {ms : List μ} :
      (Token.streamOf text).1 = front ++ t :: back →
      run settings initial ((front ++ [t]).map Token.kind) = .ok s →
      Makes make (Grammar.clausesIn [] front) ms →
      Grammar.clausesIn [] (front ++ [t]) = Grammar.clausesIn [] front ++ [c] →
      make c.request = .error cause →
      Reports settings make text (refusal text c cause)
  /-- At the end of the text. -/
  | missing {s : State} {x : Expectation} {ms : List μ} :
      (Token.streamOf text).2 = none →
      run settings initial ((Token.streamOf text).1.map Token.kind) = .ok s →
      Makes make (Grammar.clausesIn [] (Token.streamOf text).1) ms →
      finish settings s = some x →
      Reports settings make text (.grammar ⟨x, .behind text⟩)
  /-- At a lexical error. -/
  | lexical {s : State} {e : LexicalError} {ms : List μ} :
      (Token.streamOf text).2 = some e →
      run settings initial ((Token.streamOf text).1.map Token.kind) = .ok s →
      Makes make (Grammar.clausesIn [] (Token.streamOf text).1) ms →
      Reports settings make text (.lexical e (hint s))

/-! ### Completed clauses -/

/-- A token completes a clause if that clause comes to those before it. -/
theorem clausesIn_append_singleton_iff {front : List Token} {t : Token} {c : Clause} :
    Grammar.clausesIn [] (front ++ [t]) = Grammar.clausesIn [] front ++ [c] ↔
      Clause.ofTokens? (Grammar.extend (front.foldl Grammar.extend []) t) = some c := by
  rw [Grammar.clausesIn_append, List.append_cancel_left_eq]
  simp [Grammar.clausesIn, Option.toList_eq_singleton_iff]

/-! ### The run gives the verdict -/

/-- A run over a text passes over what it takes. -/
theorem play_of_run {front back : List Token} {s : State} {ms : List μ}
    (hts : (Token.streamOf text).1 = front ++ back)
    (hrun : run settings initial (front.map Token.kind) = .ok s)
    (hmade : Makes make (Grammar.clausesIn [] front) ms) :
    play settings make text =
      (drive settings make text (Token.streamOf text).2 s (front.foldl Grammar.extend [])
        back).prepend ((Grammar.clausesIn [] front).map Clause.request) ms := by
  rw [play, hts, drive_append hrun hmade]

theorem play_of_passes {ms : List μ} (h : Passes settings make text ms) :
    (play settings make text).result = .ok ms := by
  obtain ⟨s, hrun, hfinish⟩ := h.accepts
  rw [play_of_run (List.append_nil _).symm hrun h.made, h.scanned, drive_end hfinish]
  exact congrArg Except.ok (List.append_nil ms)

/-- A clause that is refused has been asked for, and the run ends with it. -/
theorem play_of_refused {front back : List Token} {t : Token} {s : State} {c : Clause}
    {cause : String} {ms : List μ} (hts : (Token.streamOf text).1 = front ++ t :: back)
    (hrun : run settings initial ((front ++ [t]).map Token.kind) = .ok s)
    (hmade : Makes make (Grammar.clausesIn [] front) ms)
    (hclauses : Grammar.clausesIn [] (front ++ [t]) = Grammar.clausesIn [] front ++ [c])
    (hmake : make c.request = .error cause) :
    play settings make text =
      Outcome.prepend ((Grammar.clausesIn [] front).map Clause.request) ms
        ⟨.error (refusal text c cause), back, s.opened, [c.request]⟩ := by
  rw [List.map_append] at hrun
  obtain ⟨s₁, hfront, hlast⟩ := run_of_append hrun
  obtain ⟨s', hstep, hs⟩ := run_cons_eq_ok_iff.mp hlast
  obtain rfl := Except.ok.inj hs
  rw [play_of_run hts hfront hmade,
    drive_of_clause hstep (clausesIn_append_singleton_iff.mp hclauses), hmake]

theorem play_of_reports {err : ParseError} (h : Reports settings make text err) :
    (play settings make text).result = .error err := by
  cases h with
  | token hts hrun hmade hstep =>
    rw [play_of_run hts hrun hmade, drive_of_error hstep]
    rfl
  | clause hts hrun hmade hclauses hmake =>
    rw [play_of_refused hts hrun hmade hclauses hmake]
    rfl
  | missing hfailure hrun hmade hfinish =>
    rw [play_of_run (List.append_nil _).symm hrun hmade, hfailure, drive_end_missing hfinish]
    rfl
  | lexical hfailure hrun hmade =>
    rw [play_of_run (List.append_nil _).symm hrun hmade, hfailure, drive_end_lexical]
    rfl

/-- There is a verdict on every text. -/
theorem exists_verdict (settings : ParserSettings) (make : Factory μ) (text : String) :
    (∃ ms, Passes settings make text ms) ∨ ∃ err, Reports settings make text err := by
  obtain ⟨front, back, s, ms, hts, hrun, hmade, hstops⟩ :=
    exists_stops settings make initial [] (Token.streamOf text).1
  cases hstops with
  | token hstep => exact .inr ⟨_, .token hts hrun hmade hstep⟩
  | @clause s' c cause t ts hstep hc hmake =>
    have hlast : run settings initial ((front ++ [t]).map Token.kind) = .ok s' := by
      rw [List.map_append, run_append_of_ok hrun]
      exact run_cons_of_ok hstep
    exact .inr ⟨_, .clause hts hlast hmade (clausesIn_append_singleton_iff.mpr hc) hmake⟩
  | done =>
    -- All tokens are taken: what is behind them decides.
    rw [List.append_nil] at hts
    subst hts
    cases hfailure : (Token.streamOf text).2 with
    | some e => exact .inr ⟨_, .lexical hfailure hrun hmade⟩
    | none =>
      cases hfinish : finish settings s with
      | some x => exact .inr ⟨_, .missing hfailure hrun hmade hfinish⟩
      | none => exact .inl ⟨ms, hfailure, ⟨s, hrun, hfinish⟩, hmade⟩

theorem play_eq_ok_iff {ms : List μ} :
    (play settings make text).result = .ok ms ↔ Passes settings make text ms := by
  refine ⟨fun h => ?_, play_of_passes⟩
  -- There is some verdict, and the run answers only one.
  rcases exists_verdict settings make text with ⟨ms', hpasses⟩ | ⟨err, hreports⟩
  · obtain rfl := Except.ok.inj ((play_of_passes hpasses).symm.trans h)
    exact hpasses
  · cases (play_of_reports hreports).symm.trans h

theorem play_eq_error_iff {err : ParseError} :
    (play settings make text).result = .error err ↔ Reports settings make text err := by
  refine ⟨fun h => ?_, play_of_reports⟩
  rcases exists_verdict settings make text with ⟨ms, hpasses⟩ | ⟨err', hreports⟩
  · cases (play_of_passes hpasses).symm.trans h
  · obtain rfl := Except.error.inj ((play_of_reports hreports).symm.trans h)
    exact hreports

/-! ### Verdicts on selectors -/

/-- Each of the clauses has its matcher. -/
theorem exists_made_of_mem {cs : List Clause} {ms : List μ} (h : Makes make cs ms) {c : Clause}
    (hc : c ∈ cs) : ∃ m, make c.request = .ok m := by
  induction h with
  | nil => cases hc
  | @cons d m cs ms hm _ ih =>
    rcases List.mem_cons.mp hc with rfl | hc
    · exact ⟨m, hm⟩
    · exact ih hc

/-- Each of the matchers has its clause. -/
theorem exists_clause_of_mem {cs : List Clause} {ms : List μ} (h : Makes make cs ms) {m : μ}
    (hm : m ∈ ms) : ∃ c ∈ cs, make c.request = .ok m := by
  induction h with
  | nil => cases hm
  | @cons c m' cs ms hc _ ih =>
    rcases List.mem_cons.mp hm with rfl | hm
    · exact ⟨c, List.mem_cons_self, hc⟩
    · obtain ⟨d, hd, hmake⟩ := ih hm
      exact ⟨d, List.mem_cons_of_mem c hd, hmake⟩

/-- A text that passes is a selector, and its matchers are made for the clauses of it. -/
theorem Passes.exists_selector {ms : List μ} (h : Passes settings make text ms) :
    ∃ cs, Grammar.Selector settings (Token.streamOf text).1 cs ∧ Makes make cs ms := by
  have hknown : ∀ t ∈ (Token.streamOf text).1, Known t :=
    fun t ht => Step.known_of_spelled (Token.spelled_of_mem_streamOf ht)
  obtain ⟨cs, hcs⟩ := Automaton.exists_selector hknown h.accepts
  exact ⟨cs, hcs, hcs.clausesIn_eq ▸ h.made⟩

/-- Only one clause of a list is the first that is refused. -/
theorem first_refused_unique {front front' back back' : List Clause} {c c' : Clause}
    {ms ms' : List μ} {cause cause' : String} (heq : front ++ c :: back = front' ++ c' :: back')
    (hmade : Makes make front ms) (hrefused : make c.request = .error cause)
    (hmade' : Makes make front' ms') (hrefused' : make c'.request = .error cause') : c = c' := by
  induction hmade generalizing front' ms' with
  | nil =>
    cases hmade' with
    | nil => exact (List.cons.inj heq).1
    | cons hm =>
      obtain ⟨rfl, -⟩ := List.cons.inj heq
      cases hrefused.symm.trans hm
  | cons hm _ ih =>
    cases hmade' with
    | nil =>
      obtain ⟨rfl, -⟩ := List.cons.inj heq
      cases hrefused'.symm.trans hm
    | cons _ htail => exact ih (List.cons.inj heq).2 htail

theorem passes_of_selector {ts : List Token} {cs : List Clause} {ms : List μ}
    (hts : Token.streamOf text = (ts, none)) (hcs : Grammar.Selector settings ts cs)
    (hmade : Makes make cs ms) : Passes settings make text ms where
  scanned := by rw [hts]
  accepts := by
    rw [hts]
    exact accepts_of_selector hcs
  made := by
    rw [hts, hcs.clausesIn_eq]
    exact hmade

/-- The error of a selector is at the first clause that is refused. -/
theorem reports_of_selector {ts : List Token} {front back : List Clause} {c : Clause}
    {ms : List μ} {cause : String} (hts : Token.streamOf text = (ts, none))
    (hcs : Grammar.Selector settings ts (front ++ c :: back)) (hmade : Makes make front ms)
    (hrefused : make c.request = .error cause) :
    Reports settings make text (refusal text c cause) := by
  obtain ⟨send, hrun, hfinish⟩ := accepts_of_selector hcs
  rcases exists_verdict settings make text with ⟨ms', hpasses⟩ | ⟨err, hreports⟩
  · have hall := hpasses.made
    rw [hts, hcs.clausesIn_eq] at hall
    obtain ⟨m, hm⟩ := exists_made_of_mem hall (List.mem_append_right front List.mem_cons_self)
    cases hrefused.symm.trans hm
  · -- No error but that of a clause is possible, and of the clauses only `c` is refused first.
    cases hreports with
    | @token front' back' t s x ms' hts' hrun' hmade' hstep =>
      rw [hts] at hts'
      obtain rfl : ts = front' ++ t :: back' := hts'
      rw [List.map_append] at hrun
      obtain ⟨s₁, hfront, hback⟩ := run_of_append hrun
      obtain ⟨s₂, hstep', -⟩ := run_cons_eq_ok_iff.mp hback
      obtain rfl := Except.ok.inj (hrun'.symm.trans hfront)
      cases hstep.symm.trans hstep'
    | missing hfailure hrun' hmade' hfinish' =>
      rw [hts] at hrun'
      obtain rfl := Except.ok.inj (hrun.symm.trans hrun')
      cases hfinish.symm.trans hfinish'
    | lexical hfailure =>
      rw [hts] at hfailure
      cases hfailure
    | @clause front' back' t s c' cause' ms' hts' hrun' hmade' hclauses hrefused' =>
      have hall := hcs.clausesIn_eq
      obtain rfl : ts = front' ++ t :: back' := by rw [hts] at hts'; exact hts'
      rw [List.append_cons, Grammar.clausesIn_append, hclauses, List.append_assoc] at hall
      obtain rfl := first_refused_unique hall.symm hmade hrefused hmade' hrefused'
      obtain rfl := Except.error.inj (hrefused.symm.trans hrefused')
      exact .clause hts' hrun' hmade' hclauses hrefused

/-- Where braces are required, a selector starts with one. -/
theorem Passes.head_eq_openBrace {ms : List μ} (h : Passes settings make text ms)
    (hrequired : settings.requireBraces = true) :
    ∃ t ∈ (Token.streamOf text).1.head?, t.kind = .openBrace := by
  have haccepts := h.accepts
  cases hts : (Token.streamOf text).1 with
  | nil =>
    rw [hts] at haccepts
    have hfinish := accepts_nil_iff.mp haccepts
    simp [finish, initial, hrequired] at hfinish
  | cons t ts =>
    rw [hts] at haccepts
    obtain ⟨s, hstep, -⟩ := accepts_cons_iff.mp haccepts
    refine ⟨t, rfl, ?_⟩
    by_contra hne
    simp [step, initial, hne, hrequired] at hstep

/-! ### Violations -/

/-- A clause is not refused if all matchers that are asked for are made. -/
theorem not_refused (hmake : ∀ r ∈ (play settings make text).asked, ∃ m, make r = .ok m)
    {front back : List Token} {t : Token} {s : State} {c : Clause} {ms : List μ}
    (hts : (Token.streamOf text).1 = front ++ t :: back)
    (hrun : run settings initial ((front ++ [t]).map Token.kind) = .ok s)
    (hmade : Makes make (Grammar.clausesIn [] front) ms)
    (hclauses : Grammar.clausesIn [] (front ++ [t]) = Grammar.clausesIn [] front ++ [c])
    (cause : String) : make c.request ≠ .error cause := by
  intro hrefused
  have hasked : c.request ∈ (play settings make text).asked := by
    rw [play_of_refused hts hrun hmade hclauses hrefused]
    simp [Outcome.prepend]
  obtain ⟨m, hm⟩ := hmake c.request hasked
  cases hrefused.symm.trans hm

/-- An error at a token is at the first token that cannot be continued from. -/
theorem Reports.at_token {x : Expectation} {span : Span} {shown : String}
    (hmake : ∀ r ∈ (play settings make text).asked, ∃ m, make r = .ok m)
    (h : Reports settings make text (.grammar ⟨x, .token span shown⟩)) :
    ∃ front t back, (Token.streamOf text).1 = front ++ t :: back ∧
      t.span = span ∧ t.text = shown ∧ Grammar.Viable settings (front.map Token.kind) ∧
      ¬ Grammar.Viable settings ((front ++ [t]).map Token.kind) := by
  generalize herr : ParseError.grammar ⟨x, .token span shown⟩ = err at h
  cases h with
  | @token front back t s x' ms hts hrun _ hstep =>
    cases herr
    refine ⟨front, t, back, hts, rfl, rfl, viable_iff_run.mpr ⟨s, hrun⟩, ?_⟩
    rw [List.map_append]
    exact not_viable_append hrun hstep
  | clause hts hrun hmade hclauses hrefused =>
    exact absurd hrefused (not_refused hmake hts hrun hmade hclauses _)
  | missing => cases herr
  | lexical => cases herr

/-- An error at the end is behind what is not finished. -/
theorem Reports.at_end {x : Expectation} {span : Span}
    (h : Reports settings make text (.grammar ⟨x, .endOfInput span⟩)) :
    (Token.streamOf text).2 = none ∧
      Grammar.Viable settings ((Token.streamOf text).1.map Token.kind) ∧
      ¬ Grammar.Accepted settings ((Token.streamOf text).1.map Token.kind) ∧
      span = .point (.behind text.toList) := by
  generalize herr : ParseError.grammar ⟨x, .endOfInput span⟩ = err at h
  cases h with
  | missing hfailure hrun _ hfinish =>
    obtain rfl : span = .point (Cursor.origin.advanceAll text.toList) := by
      cases herr
      rfl
    rw [Cursor.advanceAll_origin]
    exact ⟨hfailure, viable_iff_run.mpr ⟨_, hrun⟩, not_accepted_of_finish hrun hfinish, rfl⟩
  | token => cases herr
  | clause => cases herr
  | lexical => cases herr

/-- A lexical error counts exactly if all tokens before it fit. -/
theorem reports_lexical_iff {e : LexicalError}
    (hmake : ∀ r ∈ (play settings make text).asked, ∃ m, make r = .ok m) :
    (∃ x, Reports settings make text (.lexical e x)) ↔
      (Token.streamOf text).2 = some e ∧
        Grammar.Viable settings ((Token.streamOf text).1.map Token.kind) := by
  constructor
  · rintro ⟨x, h⟩
    generalize herr : ParseError.lexical e x = err at h
    cases h with
    | lexical hfailure hrun _ =>
      cases herr
      exact ⟨hfailure, viable_iff_run.mpr ⟨_, hrun⟩⟩
    | token => cases herr
    | clause => cases herr
    | missing => cases herr
  · rintro ⟨hfailure, hviable⟩
    rcases exists_verdict settings make text with ⟨ms, hpasses⟩ | ⟨err, hreports⟩
    · cases hfailure.symm.trans hpasses.scanned
    · cases hreports with
      | lexical hfailure' hrun hmade =>
        obtain rfl := Option.some.inj (hfailure.symm.trans hfailure')
        exact ⟨_, .lexical hfailure hrun hmade⟩
      | missing hnone => cases hfailure.symm.trans hnone
      | clause hts hrun hmade hclauses hrefused =>
        exact absurd hrefused (not_refused hmake hts hrun hmade hclauses _)
      | @token front back t s x ms hts hrun hmade hstep =>
        -- A viable sequence goes on behind every token of it.
        rw [hts, List.append_cons, List.map_append, List.map_append] at hviable
        exact absurd hviable.of_append (not_viable_append hrun hstep)

end Automaton

variable {μ : Type}

/-- The parser accepts exactly the selectors, and answers the matchers made for their
    clauses. A comma without a clause is no selector. -/
theorem parseWith_eq_ok_iff_selector (text : String) (make : Factory μ)
    (settings : ParserSettings) :
    (∀ ms, parseWith text make settings = .ok ms ↔
      ∃ ts cs, tokenize text = .ok ts ∧ Grammar.Selector settings ts cs ∧
        List.Forall₂ (fun c m => make c.request = .ok m) cs ms) ∧
    ∀ ts, tokenize text = .ok ts →
      ts.map Token.kind = [.comma] ∨
        ts.map Token.kind = [.openBrace, .comma, .closeBrace] →
      ∀ ms, parseWith text make settings ≠ .ok ms := by
  simp only [parseWith_eq_play, Automaton.play_eq_ok_iff, tokenize_eq_ok_iff]
  refine ⟨fun ms => ⟨fun h => ?_, ?_⟩, fun ts hts hkinds ms h => ?_⟩
  · have hknown : ∀ t ∈ (Token.streamOf text).1, Automaton.Known t :=
      fun t ht => Step.known_of_spelled (Token.spelled_of_mem_streamOf ht)
    obtain ⟨cs, hcs⟩ := Automaton.exists_selector hknown h.accepts
    exact ⟨_, cs, Prod.ext rfl h.scanned, hcs, hcs.clausesIn_eq ▸ h.made⟩
  · rintro ⟨ts, cs, hts, hcs, hmade⟩
    refine ⟨by rw [hts], ?_, ?_⟩
    · rw [hts]
      exact Automaton.accepts_of_selector hcs
    · rw [hts, hcs.clausesIn_eq]
      exact hmade
  · have haccepts := (Automaton.play_eq_ok_iff.mp h).accepts
    rw [hts] at haccepts
    rcases hkinds with hkinds | hkinds <;> rw [hkinds] at haccepts
    · exact Automaton.not_accepts_initial_comma haccepts
    · exact Automaton.not_accepts_initial_brace_comma haccepts

example : parseWith "a=b," (Except.ok : Factory Request) ⟨false⟩ =
    .ok [⟨.equal, "a", "b"⟩] := by
  decide +kernel

/-- The errors of the parser are those of the automaton. -/
theorem parseWith_eq_error_iff_reports (text : String) (make : Factory μ)
    (settings : ParserSettings) (err : ParseError) :
    parseWith text make settings = .error err ↔
      Automaton.Reports settings make text err := by
  rw [parseWith_eq_play]
  exact Automaton.play_eq_error_iff

/-- Errors are reported at the first violation, if no clause is refused.

  - An error at a token is at the first token with which the kinds cannot be continued
    to a selector.
  - An error at the end is behind kinds that can be continued and are no selector yet.
  - A lexical error is reported exactly if it stands behind kinds that can be continued. -/
theorem parseWith_first_violation (text : String) (make : Factory μ) (settings : ParserSettings)
    (hmake : ∀ r ∈ ((Parser.ofText text).parse settings make).2.requests,
      ∃ m, make r = .ok m) :
    (∀ x span shown,
      parseWith text make settings = .error (.grammar ⟨x, .token span shown⟩) →
        ∃ front t back, (Token.streamOf text).1 = front ++ t :: back ∧
          t.span = span ∧ t.text = shown ∧
          Grammar.Viable settings (front.map Token.kind) ∧
          ¬ Grammar.Viable settings ((front ++ [t]).map Token.kind)) ∧
    (∀ x span,
      parseWith text make settings = .error (.grammar ⟨x, .endOfInput span⟩) →
        (Token.streamOf text).2 = none ∧
          Grammar.Viable settings ((Token.streamOf text).1.map Token.kind) ∧
          ¬ Grammar.Accepted settings ((Token.streamOf text).1.map Token.kind) ∧
          span = .point (.behind text.toList)) ∧
    ∀ e, (∃ x, parseWith text make settings = .error (.lexical e x)) ↔
      (Token.streamOf text).2 = some e ∧
        Grammar.Viable settings ((Token.streamOf text).1.map Token.kind) := by
  rw [requests_parse_eq_play] at hmake
  simp only [parseWith_eq_play, Automaton.play_eq_error_iff]
  exact ⟨fun _ _ _ => Automaton.Reports.at_token hmake, fun _ _ => Automaton.Reports.at_end,
    fun _ => Automaton.reports_lexical_iff hmake⟩

/-- The comma in `a=,"` is reported, and not the quote behind it. -/
theorem first_violation_before_lexical_error :
    (∀ r ∈ ((Parser.ofText "a=,\"").parse ⟨false⟩ (Except.ok : Factory Request)).2.requests,
      ∃ m, (Except.ok : Factory Request) r = .ok m) ∧
    (∃ front t back, (Token.streamOf "a=,\"").1 = front ++ t :: back ∧
      t.span = ⟨2, 3, 2, 3⟩ ∧ t.text = "," ∧
      Grammar.Viable ⟨false⟩ (front.map Token.kind) ∧
      ¬ Grammar.Viable ⟨false⟩ ((front ++ [t]).map Token.kind)) := by
  have hmake : ∀ r ∈ ((Parser.ofText "a=,\"").parse ⟨false⟩
      (Except.ok : Factory Request)).2.requests,
      ∃ m, (Except.ok : Factory Request) r = .ok m := fun r _ => ⟨r, rfl⟩
  have herror : parseWith "a=,\"" (Except.ok : Factory Request) ⟨false⟩ =
      .error (.grammar ⟨.labelValue, .token ⟨2, 3, 2, 3⟩ ","⟩) := by decide +kernel
  exact ⟨hmake, (parseWith_first_violation _ _ _ hmake).1 _ _ _ herror⟩

end LabelSelector
