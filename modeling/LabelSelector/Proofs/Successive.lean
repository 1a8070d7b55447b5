import LabelSelector.Proofs.Consumption

/-! # Asking one parser again and again

  A parser that has answered can be asked again. It goes on with the tokens that the
  call before has left, and still knows whether a brace has been opened.

  - A call takes at least one token, unless there is none or a brace is required and does
    not come next. In these cases the parser is settled: the call changes nothing.
  - So a parser is settled after as many calls as its text has tokens, and from then on
    it gives one answer.
-/

namespace LabelSelector

open Automaton

variable {μ : Type}

namespace Automaton

variable {settings : ParserSettings} {make : Factory μ} {text : String}
  {failure : Option LexicalError} {s s' : State} {k : Token.Kind}

/-- Behind the first token, no brace is opened any more. -/
theorem step_not_start (hstage : s.stage ≠ .start) (hstep : step settings s k = .ok s') :
    s'.stage ≠ .start ∧ s'.opened = s.opened := by
  obtain ⟨stage, o⟩ := s
  cases stage <;> cases k <;> cases o <;> simp [step, enter, close] at hstage hstep <;>
    subst hstep <;> simp

/-- Behind its first token, a run does not change whether a brace has been opened. -/
theorem opened_drive (hstage : s.stage ≠ .start) (held ts : List Token) :
    (drive settings make text failure s held ts).opened = s.opened := by
  induction ts generalizing s held with
  | nil =>
    rw [drive]
    unfold atEnd
    split <;> rfl
  | cons t ts ih =>
    cases hstep : step settings s t.kind with
    | error x => rw [drive_of_error hstep]
    | ok s' =>
      obtain ⟨hstage', hopened⟩ := step_not_start hstage hstep
      cases hc : Clause.ofTokens? (Grammar.extend held t) with
      | none => rw [drive_of_none hstep hc, ih hstage', hopened]
      | some c =>
        rw [drive_of_clause hstep hc]
        cases make c.request with
        | error cause => exact hopened
        | ok m => exact (ih hstage' _).trans hopened

/-- A run that the grammar lets pass takes all tokens. If it fails then, it fails with the
    lexical error behind them. -/
theorem drive_exhausted {held ts : List Token}
    (h : ∀ e, (drive settings make text failure s held ts).result ≠ .error (.grammar e)) :
    (drive settings make text failure s held ts).left = [] ∧
      ∀ e x, (drive settings make text failure s held ts).result = .error (.lexical e x) →
        failure = some e := by
  induction ts generalizing s held with
  | nil =>
    rw [drive] at h ⊢
    unfold atEnd at h ⊢
    split at h
    · refine ⟨rfl, ?_⟩
      intro e x he
      cases he
      rfl
    · exact absurd rfl (h _)
    · refine ⟨rfl, ?_⟩
      intro e x he
      cases he
  | cons t ts ih =>
    cases hstep : step settings s t.kind with
    | error y =>
      rw [drive_of_error hstep] at h
      exact absurd rfl (h _)
    | ok s' =>
      cases hc : Clause.ofTokens? (Grammar.extend held t) with
      | none =>
        rw [drive_of_none hstep hc] at h ⊢
        exact ih h
      | some c =>
        rw [drive_of_clause hstep hc] at h ⊢
        cases hmake : make c.request with
        | error cause =>
          rw [hmake] at h
          exact absurd rfl (h _)
        | ok m =>
          -- Matchers that are made do not touch the error.
          rw [hmake] at h
          obtain ⟨hleft, hfailure⟩ :=
            ih fun e he => h e (Outcome.result_prepend_eq_error_iff.mpr he)
          exact ⟨hleft, fun e x he => hfailure e x (Outcome.result_prepend_eq_error_iff.mp he)⟩

end Automaton

namespace Parser

/-! ### Calls -/

/-- The parser after some calls. -/
def after (settings : ParserSettings) (make : Factory μ) (p : Parser) : Nat → Parser
  | 0 => p
  | k + 1 => ((p.after settings make k).parse settings make).2

/-- The answer to the call that comes after `k` others. -/
def answer (settings : ParserSettings) (make : Factory μ) (p : Parser) (k : Nat) :
    Except ParseError (List μ) := ((p.after settings make k).parse settings make).1

/-- The tokens that have not been taken. -/
def left (p : Parser) : List Token := p.lookahead.ahead.1

/-- The error behind these tokens. -/
def failure (p : Parser) : Option LexicalError := p.lookahead.ahead.2

/-- The next token opens a brace. -/
def Opens (p : Parser) : Prop := ∃ t ∈ p.left.head?, t.kind = .openBrace

/-- The run that a call plays. -/
def call (settings : ParserSettings) (make : Factory μ) (p : Parser) : Outcome μ :=
  drive settings make p.lookahead.input p.failure ⟨.start, p.opened⟩ [] p.left

/-- The tokens to come have been read off a text. -/
def Genuine (p : Parser) : Prop := ∀ t ∈ p.left, t.Spelled

/-- There is no token to take, or a brace is required and does not come next. -/
def Settled (settings : ParserSettings) (p : Parser) : Prop :=
  p.left = [] ∨ (settings.requireBraces = true ∧ ∀ t ∈ p.left.head?, t.kind ≠ .openBrace)

variable {settings : ParserSettings} {make : Factory μ} {p : Parser}

theorem genuine_ofText (text : String) : (ofText text).Genuine :=
  fun _ ht => Token.spelled_of_mem_streamOf ht

/-! ### One call -/

theorem parse_eq_call (h : p.Genuine) :
    (p.parse settings make).1 = (p.call settings make).result ∧
      (p.parse settings make).2.outlook = (p.call settings make).after p.outlook :=
  Step.gives_parse settings make (v := p.outlook) h p rfl

theorem left_parse (h : p.Genuine) :
    (p.parse settings make).2.left = (p.call settings make).left :=
  congrArg Outlook.ahead (parse_eq_call h).2

theorem failure_parse (h : p.Genuine) : (p.parse settings make).2.failure = p.failure :=
  congrArg Outlook.failure (parse_eq_call h).2

theorem opened_parse (h : p.Genuine) :
    (p.parse settings make).2.opened = (p.call settings make).opened :=
  congrArg Outlook.opened (parse_eq_call h).2

theorem requests_parse (h : p.Genuine) :
    (p.parse settings make).2.requests = p.requests ++ (p.call settings make).asked := by
  have hasked : (p.parse settings make).2.asked = (p.call settings make).asked.reverse ++ p.asked :=
    congrArg Outlook.asked (parse_eq_call h).2
  rw [requests, hasked, List.reverse_append, List.reverse_reverse]
  rfl

/-- A call takes some of the tokens, and asks for the clauses among them. -/
theorem exists_taken (settings : ParserSettings) (make : Factory μ) (h : p.Genuine) :
    ∃ taken, p.left = taken ++ (p.parse settings make).2.left ∧
      Taken settings ⟨.start, p.opened⟩ taken ∧
      (p.parse settings make).2.requests =
        p.requests ++ (Grammar.clausesIn [] taken).map Clause.request := by
  have hheld : ([] : List Token).length = (State.mk .start p.opened).stage.held := rfl
  obtain ⟨taken, hleft, htaken, hasked⟩ :=
    drive_taken settings make p.lookahead.input p.failure hheld p.left
  refine ⟨taken, ?_, htaken, ?_⟩
  · rw [left_parse h]
    exact hleft
  · rw [requests_parse h]
    exact congrArg (p.requests ++ ·) hasked

theorem Genuine.parse (h : p.Genuine) : (p.parse settings make).2.Genuine := by
  intro t ht
  obtain ⟨taken, hleft, -⟩ := exists_taken settings make h
  exact h t (by rw [hleft]; exact List.mem_append_right taken ht)

/-! ### Calls that change nothing -/

/-- What a settled parser answers. It takes no token and asks for no matcher. -/
theorem Settled.exists_call (h : p.Settled settings) (make : Factory μ) :
    ∃ result : Except ParseError (List μ),
      p.call settings make = ⟨result, p.left, p.opened, []⟩ := by
  rcases h with hnil | ⟨hrequired, hhead⟩
  · unfold call
    rw [hnil, drive]
    unfold atEnd
    split <;> exact ⟨_, rfl⟩
  · cases hleft : p.left with
    | nil =>
      unfold call
      rw [hleft, drive]
      unfold atEnd
      split <;> exact ⟨_, rfl⟩
    | cons t ts =>
      have hkind : t.kind ≠ .openBrace := hhead t (by rw [hleft]; rfl)
      have hstep : step settings ⟨.start, p.opened⟩ t.kind = .error .openBrace := by
        simp [step, hkind, hrequired]
      have hleaves : leaves settings ⟨.start, p.opened⟩ t.kind = true := hrequired
      unfold call
      rw [hleft, drive_of_error hstep, hleaves]
      exact ⟨_, rfl⟩

/-- A call of a settled parser changes nothing that answers depend on. -/
theorem Settled.outlook_parse (h : p.Settled settings) (hp : p.Genuine) :
    (p.parse settings make).2.outlook = p.outlook := by
  obtain ⟨result, hcall⟩ := h.exists_call make
  rw [(parse_eq_call hp).2, hcall]
  rfl

/-- What answers depend on decides whether a parser is settled. -/
theorem Settled.of_outlook {q : Parser} (h : p.Settled settings) (hq : q.outlook = p.outlook) :
    q.Settled settings := by
  have hleft : q.left = p.left := congrArg Outlook.ahead hq
  unfold Settled
  rw [hleft]
  exact h

/-- A parser that is not settled takes a token. -/
theorem length_left_parse_lt (h : ¬ p.Settled settings) (make : Factory μ) (hp : p.Genuine) :
    (p.parse settings make).2.left.length < p.left.length := by
  rw [left_parse hp]
  unfold call
  cases hleft : p.left with
  | nil => exact absurd (.inl hleft) h
  | cons t ts =>
    -- If braces are required, the token opens one: otherwise the parser were settled.
    have hopen : settings.requireBraces = true → t.kind = .openBrace := by
      intro hrequired
      by_contra hkind
      apply h
      right
      refine ⟨hrequired, fun u hu => ?_⟩
      rw [hleft] at hu
      obtain rfl : t = u := Option.some.inj hu
      exact hkind
    cases hstep : step settings ⟨.start, p.opened⟩ t.kind with
    | error x =>
      have hleaves : leaves settings ⟨.start, p.opened⟩ t.kind = false := by
        cases hr : settings.requireBraces with
        | false => exact hr
        | true => simp [step, hopen hr] at hstep
      rw [drive_of_error hstep, hleaves]
      exact Nat.lt_succ_self _
    | ok s' =>
      -- The run goes on behind `t`, and leaves no more than what stands there.
      have hheld : (Grammar.extend [] t).length = s'.stage.held := length_extend hstep rfl
      obtain ⟨taken, hts, -⟩ := drive_taken settings make p.lookahead.input p.failure hheld ts
      rw [drive_of_none hstep (Clause.ofTokens?_extend_nil t)]
      have hlength := congrArg List.length hts
      rw [List.length_append] at hlength
      rw [List.length_cons]
      omega

/-! ### The brace that has been opened -/

/-- A brace has been opened after a call if it was before, or if the call starts with one. -/
theorem opened_parse_iff (hp : p.Genuine) :
    (p.parse settings make).2.opened = true ↔ p.opened = true ∨ p.Opens := by
  rw [opened_parse hp]
  unfold call Opens
  cases hleft : p.left with
  | nil =>
    rw [drive]
    unfold atEnd
    split <;> simp
  | cons t ts =>
    by_cases hopen : t.kind = .openBrace
    · have hstep : step settings ⟨.start, p.opened⟩ t.kind = .ok ⟨.afterOpen, true⟩ := by
        simp [step, hopen]
      rw [drive_of_mark hstep (by rw [hopen]; rfl), opened_drive (by simp)]
      simp [hopen]
    · have hnot : ¬ ∃ u ∈ (t :: ts).head?, u.kind = .openBrace := by simpa using hopen
      rw [or_iff_left hnot]
      cases hstep : step settings ⟨.start, p.opened⟩ t.kind with
      | error x => rw [drive_of_error hstep]
      | ok s' =>
        -- Another token than the brace leads on without a brace being opened.
        obtain ⟨hk, -⟩ | ⟨-, -, hstep'⟩ := step_start_iff.mp hstep
        · exact absurd hk hopen
        · obtain ⟨hstage', hopened⟩ := step_not_start (s := ⟨.afterOpen, p.opened⟩) (by simp) hstep'
          rw [drive_of_none hstep (Clause.ofTokens?_extend_nil t), opened_drive hstage', hopened]

/-! ### Many calls -/

theorem Genuine.after (h : p.Genuine) (k : Nat) : (p.after settings make k).Genuine := by
  induction k with
  | zero => exact h
  | succ k ih => exact ih.parse

theorem failure_after (h : p.Genuine) (k : Nat) :
    (p.after settings make k).failure = p.failure := by
  induction k with
  | zero => rfl
  | succ k ih => exact (failure_parse (h.after k)).trans ih

theorem input_after (h : p.Genuine) (k : Nat) :
    (p.after settings make k).lookahead.input = p.lookahead.input := by
  induction k with
  | zero => rfl
  | succ k ih => exact (congrArg Outlook.input (parse_eq_call (h.after k)).2).trans ih

theorem answer_eq_call (h : p.Genuine) (k : Nat) :
    p.answer settings make k = ((p.after settings make k).call settings make).result :=
  (parse_eq_call (h.after k)).1

/-- A settled parser stays as it is. -/
theorem Settled.outlook_after (h : p.Genuine) {k : Nat}
    (hsettled : (p.after settings make k).Settled settings) (j : Nat) (hle : k ≤ j) :
    (p.after settings make j).outlook = (p.after settings make k).outlook := by
  induction j, hle using Nat.le_induction with
  | base => rfl
  | succ j hle ih =>
    have hsettled' : (p.after settings make j).Settled settings := hsettled.of_outlook ih
    exact (hsettled'.outlook_parse (h.after j)).trans ih

/-- The answer depends on the outlook only. -/
theorem call_eq_of_outlook {q : Parser} (h : q.outlook = p.outlook) :
    q.call settings make = p.call settings make := by
  have hleft : q.left = p.left := congrArg Outlook.ahead h
  have hinput : q.lookahead.input = p.lookahead.input := congrArg Outlook.input h
  have hfailure : q.failure = p.failure := congrArg Outlook.failure h
  have hopened : q.opened = p.opened := congrArg Outlook.opened h
  unfold call
  rw [hleft, hinput, hfailure, hopened]

/-- A settled parser gives one answer. -/
theorem Settled.answer_eq (h : p.Genuine) {k : Nat}
    (hsettled : (p.after settings make k).Settled settings) (j : Nat) (hle : k ≤ j) :
    p.answer settings make j = p.answer settings make k := by
  rw [answer_eq_call h, answer_eq_call h, call_eq_of_outlook (hsettled.outlook_after h j hle)]

/-- A settled parser asks for no matcher. -/
theorem Settled.requests_eq (h : p.Genuine) {k : Nat}
    (hsettled : (p.after settings make k).Settled settings) (j : Nat) (hle : k ≤ j) :
    (p.after settings make j).requests = (p.after settings make k).requests :=
  congrArg List.reverse (congrArg Outlook.asked (hsettled.outlook_after h j hle))

/-- Each call settles the parser or takes a token, so there are no more calls than tokens
    before it is settled. -/
theorem settled_or_length_le (settings : ParserSettings) (make : Factory μ) (h : p.Genuine)
    (k : Nat) :
    (p.after settings make k).Settled settings ∨
      (p.after settings make k).left.length + k ≤ p.left.length := by
  induction k with
  | zero => exact .inr (Nat.le_refl _)
  | succ k ih =>
    by_cases hsettled : (p.after settings make k).Settled settings
    · left
      exact hsettled.of_outlook (hsettled.outlook_parse (h.after k))
    · have hle := ih.resolve_left hsettled
      have hlt : (p.after settings make (k + 1)).left.length <
          (p.after settings make k).left.length := length_left_parse_lt hsettled make (h.after k)
      right
      omega

/-- After as many calls as there are tokens, the parser is settled. -/
theorem settled_after (h : p.Genuine) {k : Nat} (hk : p.left.length ≤ k) :
    (p.after settings make k).Settled settings := by
  rcases settled_or_length_le settings make h k with hsettled | hle
  · exact hsettled
  · left
    apply List.eq_nil_of_length_eq_zero
    omega

/-- All calls together take the tokens from the left, and ask for clauses among them that
    share no token and come in order. -/
theorem exists_picks (settings : ParserSettings) (make : Factory μ) (h : p.Genuine) (k : Nat) :
    ∃ taken cs, p.left = taken ++ (p.after settings make k).left ∧ Grammar.Picks taken cs ∧
      (p.after settings make k).requests = p.requests ++ cs.map Clause.request := by
  induction k with
  | zero => exact ⟨[], [], rfl, .nil, by simp [after]⟩
  | succ k ih =>
    obtain ⟨front, cs, hfront, hpicks, hrequests⟩ := ih
    obtain ⟨taken, hleft, -, hasked⟩ := exists_taken settings make (h.after k)
    refine ⟨front ++ taken, cs ++ Grammar.clausesIn [] taken, ?_, hpicks.append ?_, ?_⟩
    · rw [hfront, hleft, List.append_assoc]
      rfl
    · exact (Grammar.picks_clausesIn [] taken).1 (by simp)
    · rw [List.map_append, ← List.append_assoc, ← hrequests]
      exact hasked

/-- Once a brace has been opened, it stays so; and it is opened only by a call that starts
    with one. -/
theorem opened_after_iff (h : p.Genuine) (k : Nat) :
    (p.after settings make k).opened = true ↔
      p.opened = true ∨ ∃ j < k, (p.after settings make j).Opens := by
  induction k with
  | zero => simp [after]
  | succ k ih =>
    have hstep : (p.after settings make (k + 1)).opened = true ↔ _ :=
      opened_parse_iff (h.after k)
    rw [hstep, ih, or_assoc]
    simp only [Nat.lt_succ_iff_lt_or_eq, or_and_right, exists_or, exists_eq_left]

/-! ### The last answer -/

/-- A brace that is required is missed at the next token. -/
theorem call_of_stuck {t : Token} (hrequired : settings.requireBraces = true)
    (ht : t ∈ p.left.head?) (hkind : t.kind ≠ .openBrace) :
    (p.call settings make).result = .error (.grammar ⟨.openBrace, .token t.span t.text⟩) := by
  obtain ⟨ts, hleft⟩ := List.head?_eq_some_iff.mp ht
  have hstep : step settings ⟨.start, p.opened⟩ t.kind = .error .openBrace := by
    simp [step, hkind, hrequired]
  unfold call
  rw [hleft, drive_of_error hstep]

/-- Behind the last token, a parser answers the error there, with nothing asked for. -/
theorem call_of_failure {e : LexicalError} (hleft : p.left = []) (hfailure : p.failure = some e) :
    p.call settings make = ⟨.error (.lexical e none), [], p.opened, []⟩ := by
  unfold call
  rw [hleft, hfailure]
  rfl

/-- At the end of the text, only the closing brace can be missing where braces may be left
    out. -/
theorem call_of_end (hr : settings.requireBraces = false) (hleft : p.left = [])
    (hfailure : p.failure = none) :
    (p.call settings make).result =
      if p.opened then .error (.grammar ⟨.closeBrace, .behind p.lookahead.input⟩) else .ok [] := by
  unfold call
  rw [hleft, hfailure]
  cases hopened : p.opened <;> simp [drive, atEnd, finish, hr]

/-- A call that succeeds leaves no token. -/
theorem left_of_ok {ms : List μ} (hp : p.Genuine) (h : (p.parse settings make).1 = .ok ms) :
    (p.parse settings make).2.left = [] := by
  rw [(parse_eq_call hp).1] at h
  rw [left_parse hp]
  exact (drive_exhausted fun e he => by cases h.symm.trans he).1

/-- A lexical error is answered only when all tokens have been taken. -/
theorem left_of_lexical {e : LexicalError} {x : Option Expectation} (hp : p.Genuine)
    (h : (p.parse settings make).1 = .error (.lexical e x)) :
    (p.parse settings make).2.left = [] ∧ p.failure = some e := by
  rw [(parse_eq_call hp).1] at h
  rw [left_parse hp]
  obtain ⟨hleft, hfailure⟩ := drive_exhausted fun e' he => by cases h.symm.trans he
  exact ⟨hleft, hfailure e x h⟩

end Parser

/-! ### Settling down -/

/-- How the calls of one parser for the selector `text` go, counted from zero.

  The parser after `k` calls is `(Parser.ofText text).after settings make k`, and the call
  that comes next gets the answer `(Parser.ofText text).answer settings make k`. -/
structure SettlesDown (text : String) (settings : ParserSettings) (make : Factory μ) : Prop where
  /-- After as many calls as there are tokens, all answers are equal. -/
  constant : ∀ j k, (Token.streamOf text).1.length ≤ j → (Token.streamOf text).1.length ≤ k →
    (Parser.ofText text).answer settings make j = (Parser.ofText text).answer settings make k
  /-- A call with tokens to come takes at least one of them, unless a brace is required and
      does not come next. -/
  progress : ∀ k, ((Parser.ofText text).after settings make k).left ≠ [] →
    (settings.requireBraces = true → ((Parser.ofText text).after settings make k).Opens) →
    ∃ taken, taken ≠ [] ∧ ((Parser.ofText text).after settings make k).left =
      taken ++ ((Parser.ofText text).after settings make (k + 1)).left
  /-- If a brace is required and another token comes next, a call takes nothing, and all
      calls from then on miss the brace at that token. -/
  stuck : ∀ k t, settings.requireBraces = true →
    t ∈ ((Parser.ofText text).after settings make k).left.head? → t.kind ≠ .openBrace →
    ((Parser.ofText text).after settings make (k + 1)).left =
        ((Parser.ofText text).after settings make k).left ∧
      ∀ j, k ≤ j → (Parser.ofText text).answer settings make j =
        .error (.grammar ⟨.openBrace, .token t.span t.text⟩)
  /-- After a lexical error, all calls answer that error and ask for no matcher. -/
  lexical : ∀ k e x, (Parser.ofText text).answer settings make k = .error (.lexical e x) →
    ∀ j, k < j → (Parser.ofText text).answer settings make j = .error (.lexical e none) ∧
      ((Parser.ofText text).after settings make (j + 1)).requests =
        ((Parser.ofText text).after settings make (k + 1)).requests
  /-- All calls together take tokens from the left. The matchers they ask for are those of
      clauses that share no token and come in the order of the text. -/
  requests : ∀ k, ∃ taken cs, (Token.streamOf text).1 =
      taken ++ ((Parser.ofText text).after settings make k).left ∧
    Grammar.Picks taken cs ∧
    ((Parser.ofText text).after settings make k).requests = cs.map Clause.request
  /-- Where braces may be left out and there is no lexical error, the last answer is no
      matcher at all if no call starts with an opening brace. -/
  bare : settings = .lenient → (Token.streamOf text).2 = none →
    (∀ k, ¬ ((Parser.ofText text).after settings make k).Opens) →
    ∀ j, (Token.streamOf text).1.length ≤ j →
      (Parser.ofText text).answer settings make j = .ok []
  /-- If some call does, the closing brace is missing at the end of the text. -/
  unclosed : settings = .lenient → (Token.streamOf text).2 = none →
    (∃ k, ((Parser.ofText text).after settings make k).Opens) →
    ∀ j, (Token.streamOf text).1.length ≤ j →
      (Parser.ofText text).answer settings make j =
        .error (.grammar ⟨.closeBrace, .behind text⟩)

section

variable {settings : ParserSettings} {make : Factory μ} {text : String}

/-- The last answer, where braces may be left out and there is no lexical error. -/
theorem last_answer (hsettings : settings = .lenient) (hfailure : (Token.streamOf text).2 = none)
    {j : Nat} (hj : (Token.streamOf text).1.length ≤ j) :
    (Parser.ofText text).answer settings make j =
      if ((Parser.ofText text).after settings make j).opened then
        .error (.grammar ⟨.closeBrace, .behind text⟩) else .ok [] := by
  have hgenuine := Parser.genuine_ofText text
  have hr : settings.requireBraces = false := by rw [hsettings]; rfl
  have hsettled : ((Parser.ofText text).after settings make j).Settled settings :=
    Parser.settled_after hgenuine hj
  have hleft : ((Parser.ofText text).after settings make j).left = [] := by
    rcases hsettled with hnil | ⟨hrequired, -⟩
    · exact hnil
    · rw [hr] at hrequired
      cases hrequired
  have hnone : ((Parser.ofText text).after settings make j).failure = none :=
    (Parser.failure_after hgenuine j).trans hfailure
  rw [Parser.answer_eq_call hgenuine, Parser.call_of_end hr hleft hnone,
    Parser.input_after hgenuine]
  rfl

/-- A parser that starts with no more tokens opens no brace. -/
theorem Parser.not_opens_of_left {p : Parser} (h : p.left = []) : ¬ p.Opens := by
  rintro ⟨t, ht, -⟩
  rw [h] at ht
  cases ht

/-- For every text, settings and factory, the calls of one parser settle down: they never
    take a token twice, and from some call on there is only one answer. -/
theorem successive_calls_settle (text : String) (settings : ParserSettings) (make : Factory μ) :
    SettlesDown text settings make := by
  have hgenuine := Parser.genuine_ofText text
  refine ⟨?_, ?_, ?_, ?_, ?_, ?_, ?_⟩
  · intro j k hj hk
    have hsettled : ((Parser.ofText text).after settings make _).Settled settings :=
      Parser.settled_after hgenuine (Nat.le_refl _)
    rw [hsettled.answer_eq hgenuine j hj, hsettled.answer_eq hgenuine k hk]
  · intro k hleft hopens
    have hnot : ¬ ((Parser.ofText text).after settings make k).Settled settings := by
      rintro (hnil | ⟨hrequired, hhead⟩)
      · exact hleft hnil
      · obtain ⟨t, ht, hkind⟩ := hopens hrequired
        exact hhead t ht hkind
    have hlt := Parser.length_left_parse_lt hnot make (hgenuine.after k)
    obtain ⟨taken, htaken, -⟩ := Parser.exists_taken settings make (hgenuine.after k)
    refine ⟨taken, ?_, htaken⟩
    rintro rfl
    rw [List.nil_append] at htaken
    rw [← htaken] at hlt
    exact Nat.lt_irrefl _ hlt
  · intro k t hrequired ht hkind
    have hsettled : ((Parser.ofText text).after settings make k).Settled settings := by
      right
      refine ⟨hrequired, fun u hu => ?_⟩
      obtain rfl : t = u := Option.some.inj (ht.symm.trans hu)
      exact hkind
    refine ⟨congrArg Outlook.ahead (hsettled.outlook_parse (hgenuine.after k)), fun j hj => ?_⟩
    rw [hsettled.answer_eq hgenuine j hj, Parser.answer_eq_call hgenuine,
      Parser.call_of_stuck hrequired ht hkind]
  · intro k e x hanswer j hj
    -- Behind the call with the error there are no tokens, so the parser is settled.
    obtain ⟨hnil, hfailure⟩ := Parser.left_of_lexical (hgenuine.after k) hanswer
    have hleft : ((Parser.ofText text).after settings make (k + 1)).left = [] := hnil
    have hsettled : ((Parser.ofText text).after settings make (k + 1)).Settled settings :=
      .inl hleft
    have hfailure' : ((Parser.ofText text).after settings make (k + 1)).failure = some e :=
      (Parser.failure_parse (hgenuine.after k)).trans hfailure
    constructor
    · rw [hsettled.answer_eq hgenuine j hj, Parser.answer_eq_call hgenuine,
        Parser.call_of_failure hleft hfailure']
    · exact hsettled.requests_eq hgenuine (j + 1) (Nat.le_succ_of_le hj)
  · intro k
    exact Parser.exists_picks settings make hgenuine k
  · intro hsettings hfailure hopens j hj
    have hnot : ((Parser.ofText text).after settings make j).opened ≠ true := by
      rw [ne_eq, Parser.opened_after_iff hgenuine]
      rintro (hopened | ⟨k, -, hk⟩)
      · cases hopened
      · exact hopens k hk
    rw [last_answer hsettings hfailure hj, if_neg hnot]
  · rintro hsettings hfailure ⟨k, hk⟩ j hj
    have hr : settings.requireBraces = false := by rw [hsettings]; rfl
    -- The call that starts with a brace comes before the tokens are used up.
    have hlt : k < j := by
      by_contra hle
      have hle' : (Token.streamOf text).1.length ≤ k := by omega
      have hsettled : ((Parser.ofText text).after settings make k).Settled settings :=
        Parser.settled_after hgenuine hle'
      exact Parser.not_opens_of_left (hsettled.resolve_right (by simp [hr])) hk
    have hopened : ((Parser.ofText text).after settings make j).opened = true :=
      (Parser.opened_after_iff hgenuine j).mpr (.inr ⟨k, hlt, hk⟩)
    rw [last_answer hsettings hfailure hj, if_pos hopened]

end

end LabelSelector
