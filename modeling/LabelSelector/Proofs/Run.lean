import LabelSelector.Proofs.Automaton
import LabelSelector.Proofs.Outlook

/-! # Runs of the automaton over tokens

  A run goes over the tokens of a text as the automaton does, and asks for a matcher
  whenever a token completes a clause. It ends in one of four ways:

  - at a token that the automaton does not take,
  - at a clause for which no matcher is made,
  - at a lexical error,
  - at the end of the text, where something may be missing.
-/

namespace LabelSelector

namespace Automaton

/-! ### Outcomes -/

/-- How a run ends. -/
structure Outcome (μ : Type) where
  /-- The matchers, or the error. -/
  result : Except ParseError (List μ)
  /-- The tokens that have not been taken. -/
  left : List Token
  /-- Whether a brace has been opened. -/
  opened : Bool
  /-- The matchers asked for, in order. -/
  asked : List Request

variable {μ : Type}

/-- The outcome after some matchers have been asked for and made. -/
def Outcome.prepend (rs : List Request) (ms : List μ) (out : Outcome μ) : Outcome μ :=
  { out with result := out.result.map (ms ++ ·), asked := rs ++ out.asked }

/-- What is known after a run. -/
def Outcome.after (out : Outcome μ) (v : Outlook) : Outlook :=
  { v with ahead := out.left, opened := out.opened, asked := out.asked.reverse ++ v.asked }

theorem Outcome.prepend_result (rs : List Request) (made ms : List μ) (out : Outcome μ) :
    (out.prepend rs ms).result.map (made ++ ·) = out.result.map (made ++ ms ++ ·) := by
  unfold Outcome.prepend
  cases out.result with
  | error e => rfl
  | ok ms' => simp [Except.map]

theorem Outcome.prepend_after (r : Request) (ms : List μ) (out : Outcome μ) (v : Outlook) :
    (out.prepend [r] ms).after v = out.after { v with asked := r :: v.asked } := by
  simp [Outcome.prepend, Outcome.after]

theorem Outcome.prepend_nil (out : Outcome μ) : out.prepend [] [] = out := by
  obtain ⟨result, left, opened, asked⟩ := out
  cases result <;> rfl

theorem Outcome.prepend_prepend (rs rs' : List Request) (ms ms' : List μ) (out : Outcome μ) :
    (out.prepend rs' ms').prepend rs ms = out.prepend (rs ++ rs') (ms ++ ms') := by
  obtain ⟨result, left, opened, asked⟩ := out
  cases result <;> simp [Outcome.prepend, Except.map]

/-! ### Runs -/

/-- Whether a token that is not taken is left for the next run. -/
def leaves (settings : ParserSettings) (s : State) (kind : Token.Kind) : Bool :=
  match s.stage with
  | .start => settings.requireBraces
  | .afterValue | .afterComma => kind ≠ .closeBrace
  | .afterOpen | .afterName | .afterOperator | .afterClose => false

section

variable (settings : ParserSettings) (make : Factory μ) (text : String)
  (failure : Option LexicalError)

/-- The error at a clause for which no matcher is made. -/
def refusal (c : Clause) (cause : String) : ParseError :=
  .grammar ⟨.matcher cause, .token c.span (c.span.slice text)⟩

/-- The outcome behind the last token. -/
def atEnd (s : State) : Outcome μ :=
  match failure, finish settings s with
  | some e, _ => ⟨.error (.lexical e (hint s)), [], s.opened, []⟩
  | none, some x => ⟨.error (.grammar ⟨x, .behind text⟩), [], s.opened, []⟩
  | none, none => ⟨.ok [], [], s.opened, []⟩

/-- The run over some tokens, when the tokens `held` stand between them and the last
    brace or comma. -/
def drive (s : State) (held : List Token) : List Token → Outcome μ
  | [] => atEnd settings text failure s
  | t :: ts =>
    match step settings s t.kind with
    | .error x =>
      ⟨.error (.grammar ⟨x, .token t.span t.text⟩),
        if leaves settings s t.kind then t :: ts else ts, s.opened, []⟩
    | .ok s' =>
      match Clause.ofTokens? (Grammar.extend held t) with
      | none => drive s' (Grammar.extend held t) ts
      | some c =>
        match make c.request with
        | .error cause => ⟨.error (refusal text c cause), ts, s'.opened, [c.request]⟩
        | .ok m => (drive s' (Grammar.extend held t) ts).prepend [c.request] [m]

end

variable {settings : ParserSettings} {make : Factory μ} {text : String}
  {failure : Option LexicalError} {s s' : State} {t : Token} {ts held : List Token}

theorem drive_end (h : finish settings s = none) :
    drive settings make text none s held [] = ⟨.ok [], [], s.opened, []⟩ := by
  simp only [drive, atEnd, h]

theorem drive_end_missing {x : Expectation} (h : finish settings s = some x) :
    drive settings make text none s held [] =
      ⟨.error (.grammar ⟨x, .behind text⟩), [], s.opened, []⟩ := by
  simp only [drive, atEnd, h]

theorem drive_end_lexical (e : LexicalError) :
    drive settings make text (some e) s held [] =
      ⟨.error (.lexical e (hint s)), [], s.opened, []⟩ := rfl

theorem drive_of_error {x : Expectation} (h : step settings s t.kind = .error x) :
    drive settings make text failure s held (t :: ts) =
      ⟨.error (.grammar ⟨x, .token t.span t.text⟩),
        if leaves settings s t.kind then t :: ts else ts, s.opened, []⟩ := by
  simp only [drive, h]

theorem drive_of_none (h : step settings s t.kind = .ok s')
    (hc : Clause.ofTokens? (Grammar.extend held t) = none) :
    drive settings make text failure s held (t :: ts) =
      drive settings make text failure s' (Grammar.extend held t) ts := by
  simp only [drive, h, hc]

theorem drive_of_clause {c : Clause} (h : step settings s t.kind = .ok s')
    (hc : Clause.ofTokens? (Grammar.extend held t) = some c) :
    drive settings make text failure s held (t :: ts) =
      match make c.request with
      | .error cause => ⟨.error (refusal text c cause), ts, s'.opened, [c.request]⟩
      | .ok m =>
        (drive settings make text failure s' (Grammar.extend held t) ts).prepend [c.request] [m] := by
  simp only [drive, h, hc]

/-- Braces and commas complete no clause. -/
theorem drive_of_mark (h : step settings s t.kind = .ok s') (ht : Grammar.isMark t.kind = true) :
    drive settings make text failure s held (t :: ts) =
      drive settings make text failure s' [] ts := by
  have hextend := Grammar.extend_of_isMark ht held
  rw [drive_of_none h (by rw [hextend]; rfl), hextend]

/-- Where braces may be left out, a selector without them starts as its inside does. -/
theorem drive_start_bare {o : Bool} (hr : settings.requireBraces = false)
    (hts : ∀ t ∈ ts.head?, t.kind ≠ .openBrace) :
    drive settings make text failure ⟨.start, o⟩ held ts =
      drive settings make text failure ⟨.afterOpen, o⟩ held ts := by
  cases ts with
  | nil => simp [drive, atEnd, finish, hint, hr]
  | cons t ts => simp [drive, step, leaves, hr, hts t rfl]

/-! ### Where a run stops -/

/-- The matchers that are made for some clauses, in order. -/
abbrev Makes (make : Factory μ) : List Clause → List μ → Prop :=
  List.Forall₂ fun c m => make c.request = .ok m

/-- A prefix that is taken, and whose matchers are made, is passed over. -/
theorem drive_append {front back : List Token} {ms : List μ}
    (hrun : run settings s (front.map Token.kind) = .ok s')
    (hmade : Makes make (Grammar.clausesIn held front) ms) :
    drive settings make text failure s held (front ++ back) =
      (drive settings make text failure s' (front.foldl Grammar.extend held) back).prepend
        ((Grammar.clausesIn held front).map Clause.request) ms := by
  induction front generalizing s held ms with
  | nil =>
    cases hrun
    cases hmade
    exact (Outcome.prepend_nil _).symm
  | cons t front ih =>
    obtain ⟨s₁, hstep, hrun⟩ := run_cons_eq_ok_iff.mp hrun
    rw [Grammar.clausesIn] at hmade
    cases hc : Clause.ofTokens? (Grammar.extend held t) with
    | none =>
      rw [hc] at hmade
      rw [List.cons_append, drive_of_none hstep hc, ih hrun hmade]
      simp [Grammar.clausesIn, hc]
    | some c =>
      -- The matcher of `c` comes before those of the other clauses.
      rw [hc] at hmade
      cases hmade with
      | cons hm hmade =>
        rw [List.cons_append, drive_of_clause hstep hc, hm]
        simp [ih hrun hmade, Outcome.prepend_prepend, Grammar.clausesIn, hc]

/-- What a run cannot go beyond: the end, a token that is not taken, or a clause for
    which no matcher is made. -/
inductive Stops (settings : ParserSettings) (make : Factory μ) (s : State) (held : List Token) :
    List Token → Prop where
  /-- No tokens are left. -/
  | done : Stops settings make s held []
  /-- The next token is not taken. -/
  | token {x : Expectation} {t : Token} {ts : List Token} :
      step settings s t.kind = .error x → Stops settings make s held (t :: ts)
  /-- The next token completes a clause that is refused. -/
  | clause {s' : State} {c : Clause} {cause : String} {t : Token} {ts : List Token} :
      step settings s t.kind = .ok s' → Clause.ofTokens? (Grammar.extend held t) = some c →
        make c.request = .error cause → Stops settings make s held (t :: ts)

/-- Every run takes some of the tokens, makes their matchers, and stops. -/
theorem exists_stops (settings : ParserSettings) (make : Factory μ) (s : State)
    (held ts : List Token) :
    ∃ front back s' ms, ts = front ++ back ∧ run settings s (front.map Token.kind) = .ok s' ∧
      Makes make (Grammar.clausesIn held front) ms ∧
      Stops settings make s' (front.foldl Grammar.extend held) back := by
  induction ts generalizing s held with
  | nil => exact ⟨[], [], s, [], rfl, rfl, .nil, .done⟩
  | cons t ts ih =>
    cases hstep : step settings s t.kind with
    | error x => exact ⟨[], t :: ts, s, [], rfl, rfl, .nil, .token hstep⟩
    | ok s₁ =>
      -- Behind `t` the run stops somewhere, unless `t` completes a clause that is refused.
      obtain ⟨front, back, s', ms, rfl, hrun, hmade, hstops⟩ := ih s₁ (Grammar.extend held t)
      have hrun' := run_cons_eq_ok_iff.mpr ⟨s₁, hstep, hrun⟩
      cases hc : Clause.ofTokens? (Grammar.extend held t) with
      | none =>
        refine ⟨t :: front, back, s', ms, rfl, hrun', ?_, hstops⟩
        simpa [Grammar.clausesIn, hc] using hmade
      | some c =>
        cases hmake : make c.request with
        | error cause =>
          exact ⟨[], t :: (front ++ back), s, [], rfl, rfl, .nil, .clause hstep hc hmake⟩
        | ok m =>
          refine ⟨t :: front, back, s', m :: ms, rfl, hrun', ?_, hstops⟩
          simpa [Grammar.clausesIn, hc] using ⟨hmake, hmade⟩

end Automaton

end LabelSelector
