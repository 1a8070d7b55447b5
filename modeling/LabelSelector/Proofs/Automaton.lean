import LabelSelector.Proofs.Grammar

/-! # The automaton of selectors

  Seven stages are enough to tell, token by token, whether what has been read can
  become a selector. Only the kinds of the tokens count, and whether a brace has
  been opened.

  - `step` takes one kind, or tells what was asked for in its place,
  - `finish` tells what is missing at the end of the text,
  - `hint` is what the grammar asks for where no token can be read.

  The automaton accepts exactly the kinds of selectors, and no stage is a dead end:
  what it has taken can always be continued to a selector.
-/

namespace LabelSelector

namespace Automaton

/-! ### States and steps -/

/-- What has been read last. -/
inductive Stage where
  /-- Nothing yet. -/
  | start
  /-- The opening brace. -/
  | afterOpen
  /-- The name of a clause. -/
  | afterName
  /-- The operator of a clause. -/
  | afterOperator
  /-- The value of a clause. -/
  | afterValue
  /-- The comma behind a clause. -/
  | afterComma
  /-- The closing brace. -/
  | afterClose
  deriving DecidableEq, Repr

/-- A stage, and whether a brace has been opened. -/
structure State where
  /-- What has been read last. -/
  stage : Stage
  /-- Whether a brace has been opened. -/
  opened : Bool
  deriving DecidableEq, Repr

/-- Nothing has been read. -/
def initial : State := ⟨.start, false⟩

/-- Takes a closing brace, which needs an open one. -/
def close (opened : Bool) : Except Expectation State :=
  if opened then .ok ⟨.afterClose, true⟩ else .error .openBrace

/-- Takes the first token of the inside of a selector. -/
def enter (opened : Bool) (kind : Token.Kind) : Except Expectation State :=
  if kind = .identifier then .ok ⟨.afterName, opened⟩
  else if kind = .closeBrace then close opened
  else .error .labelName

/-- Takes a token of the given kind, or tells what was asked for. -/
def step (settings : ParserSettings) (s : State) (kind : Token.Kind) :
    Except Expectation State :=
  match s.stage with
  | .start =>
    if kind = .openBrace then .ok ⟨.afterOpen, true⟩
    else if settings.requireBraces then .error .openBrace
    else enter s.opened kind
  | .afterOpen => enter s.opened kind
  | .afterName => if kind = .operator then .ok ⟨.afterOperator, s.opened⟩ else .error .operator
  | .afterOperator =>
    if kind = .quoted ∨ kind = .identifier then .ok ⟨.afterValue, s.opened⟩
    else .error .labelValue
  | .afterValue =>
    if kind = .comma then .ok ⟨.afterComma, s.opened⟩
    else if kind = .closeBrace then close s.opened
    else .error .commaOrCloseBrace
  | .afterComma =>
    if kind = .identifier then .ok ⟨.afterName, s.opened⟩
    else if kind = .closeBrace then close s.opened
    else .error .labelNameAfterComma
  | .afterClose => .error .endOfInput

/-- What is missing at the end of the text, if anything is. -/
def finish (settings : ParserSettings) (s : State) : Option Expectation :=
  match s.stage with
  | .start =>
    if settings.requireBraces then some .openBrace
    else if s.opened then some .closeBrace else none
  | .afterOpen | .afterValue | .afterComma => if s.opened then some .closeBrace else none
  | .afterName => some .operator
  | .afterOperator => some .labelValue
  | .afterClose => none

/-- What a lexical error says that the grammar asked for. -/
def hint (s : State) : Option Expectation :=
  match s.stage with
  | .start | .afterOpen | .afterClose => none
  | .afterName => some .operator
  | .afterOperator => some .labelValue
  | .afterValue => some .commaOrCloseBrace
  | .afterComma => some .labelNameAfterComma

/-- Takes several tokens. -/
def run (settings : ParserSettings) (s : State) (ks : List Token.Kind) :
    Except Expectation State := ks.foldlM (step settings) s

/-- Takes several tokens, behind which the text may end. -/
def Accepts (settings : ParserSettings) (s : State) (ks : List Token.Kind) : Prop :=
  ∃ s', run settings s ks = .ok s' ∧ finish settings s' = none

variable {settings : ParserSettings} {s s' : State} {k : Token.Kind} {ks ks' : List Token.Kind}

@[simp] theorem run_nil : run settings s [] = .ok s := rfl

theorem run_cons : run settings s (k :: ks) = (step settings s k >>= fun s => run settings s ks) :=
  rfl

theorem run_cons_of_ok (h : step settings s k = .ok s') :
    run settings s (k :: ks) = run settings s' ks := by
  rw [run_cons, h]
  rfl

theorem run_cons_eq_ok_iff :
    run settings s (k :: ks) = .ok s' ↔
      ∃ s₁, step settings s k = .ok s₁ ∧ run settings s₁ ks = .ok s' := by
  cases h : step settings s k <;> simp [run_cons, h, bind, Except.bind]

theorem run_append_of_ok (h : run settings s ks = .ok s') :
    run settings s (ks ++ ks') = run settings s' ks' := by
  rw [run, List.foldlM_append, ← run, h]
  rfl

/-- What has been taken of a longer sequence has been taken. -/
theorem run_of_append (h : run settings s (ks ++ ks') = .ok s') :
    ∃ s₁, run settings s ks = .ok s₁ ∧ run settings s₁ ks' = .ok s' := by
  rw [run, List.foldlM_append, ← run] at h
  cases hks : run settings s ks with
  | error x => rw [hks] at h; cases h
  | ok s₁ => rw [hks] at h; exact ⟨s₁, rfl, h⟩

theorem accepts_nil_iff : Accepts settings s [] ↔ finish settings s = none := by
  simp [Accepts]

theorem accepts_cons_iff :
    Accepts settings s (k :: ks) ↔ ∃ s', step settings s k = .ok s' ∧ Accepts settings s' ks := by
  cases h : step settings s k with
  | error x => simp [Accepts, run_cons, h, bind, Except.bind]
  | ok s' => simp [Accepts, run_cons, h, bind, Except.bind]

theorem accepts_append_of_ok (h : run settings s ks = .ok s') :
    Accepts settings s (ks ++ ks') ↔ Accepts settings s' ks' := by
  simp only [Accepts, run_append_of_ok h]

/-! ### What each stage takes -/

theorem step_start_iff {o : Bool} :
    step settings ⟨.start, o⟩ k = .ok s' ↔
      (k = .openBrace ∧ s' = ⟨.afterOpen, true⟩) ∨
        (settings.requireBraces = false ∧ k ≠ .openBrace ∧
          step settings ⟨.afterOpen, o⟩ k = .ok s') := by
  cases hr : settings.requireBraces <;> cases k <;> simp [step, hr, eq_comm]

theorem step_afterOpen_iff {o : Bool} :
    step settings ⟨.afterOpen, o⟩ k = .ok s' ↔
      (k = .identifier ∧ s' = ⟨.afterName, o⟩) ∨ (k = .closeBrace ∧ close o = .ok s') := by
  cases k <;> simp [step, enter, eq_comm]

theorem step_afterName_iff {o : Bool} :
    step settings ⟨.afterName, o⟩ k = .ok s' ↔ k = .operator ∧ s' = ⟨.afterOperator, o⟩ := by
  cases k <;> simp [step, eq_comm]

theorem step_afterOperator_iff {o : Bool} :
    step settings ⟨.afterOperator, o⟩ k = .ok s' ↔
      (k = .quoted ∨ k = .identifier) ∧ s' = ⟨.afterValue, o⟩ := by
  cases k <;> simp [step, eq_comm]

theorem step_afterValue_iff {o : Bool} :
    step settings ⟨.afterValue, o⟩ k = .ok s' ↔
      (k = .comma ∧ s' = ⟨.afterComma, o⟩) ∨ (k = .closeBrace ∧ close o = .ok s') := by
  cases k <;> simp [step, eq_comm]

theorem step_afterComma_iff {o : Bool} :
    step settings ⟨.afterComma, o⟩ k = .ok s' ↔
      (k = .identifier ∧ s' = ⟨.afterName, o⟩) ∨ (k = .closeBrace ∧ close o = .ok s') := by
  cases k <;> simp [step, eq_comm]

theorem close_eq_ok_iff {o : Bool} : close o = .ok s' ↔ o = true ∧ s' = ⟨.afterClose, true⟩ := by
  cases o <;> simp [close, eq_comm]

theorem step_afterOpen_of_ne {o : Bool} (hname : k ≠ .identifier) (hclose : k ≠ .closeBrace) :
    step settings ⟨.afterOpen, o⟩ k = .error .labelName := by
  simp [step, enter, hname, hclose]

theorem step_afterName_of_ne {o : Bool} (h : k ≠ .operator) :
    step settings ⟨.afterName, o⟩ k = .error .operator := by
  simp [step, h]

theorem step_afterOperator_of_ne {o : Bool} (h : ¬ (k = .quoted ∨ k = .identifier)) :
    step settings ⟨.afterOperator, o⟩ k = .error .labelValue := by
  simp [step, h]

theorem step_afterValue_of_ne {o : Bool} (hcomma : k ≠ .comma) (hclose : k ≠ .closeBrace) :
    step settings ⟨.afterValue, o⟩ k = .error .commaOrCloseBrace := by
  simp [step, hcomma, hclose]

theorem step_afterComma_of_ne {o : Bool} (hname : k ≠ .identifier) (hclose : k ≠ .closeBrace) :
    step settings ⟨.afterComma, o⟩ k = .error .labelNameAfterComma := by
  simp [step, hname, hclose]

/-- Nothing follows the closing brace. -/
theorem accepts_afterClose_iff {o : Bool} : Accepts settings ⟨.afterClose, o⟩ ks ↔ ks = [] := by
  cases ks with
  | nil => simp [accepts_nil_iff, finish]
  | cons k ks => simp [accepts_cons_iff, step]

/-- Behind the opening brace, a comma comes too early. -/
theorem not_accepts_comma {o : Bool} : ¬ Accepts settings ⟨.afterOpen, o⟩ (.comma :: ks) := by
  rw [accepts_cons_iff]
  rintro ⟨s', hstep, -⟩
  rcases step_afterOpen_iff.mp hstep with ⟨h, -⟩ | ⟨h, -⟩ <;> cases h

/-- A selector does not start with a comma. -/
theorem not_accepts_initial_comma : ¬ Accepts settings initial (.comma :: ks) := by
  intro h
  obtain ⟨s', hstep, hks⟩ := accepts_cons_iff.mp h
  rcases step_start_iff.mp hstep with ⟨hk, -⟩ | ⟨-, -, hstep⟩
  · cases hk
  · exact not_accepts_comma (accepts_cons_iff.mpr ⟨s', hstep, hks⟩)

/-- Nor does it start with a brace and a comma. -/
theorem not_accepts_initial_brace_comma :
    ¬ Accepts settings initial (.openBrace :: .comma :: ks) := by
  intro h
  obtain ⟨s', hstep, hks⟩ := accepts_cons_iff.mp h
  obtain rfl : State.mk .afterOpen true = s' := Except.ok.inj hstep
  exact not_accepts_comma hks

/-! ### Selectors are accepted -/

theorem run_clause {o : Bool} (hs : step settings s .identifier = .ok ⟨.afterName, o⟩)
    (c : Clause) : run settings s (c.tokens.map Token.kind) = .ok ⟨.afterValue, o⟩ := by
  simp only [Clause.tokens, List.map_cons, List.map_nil, c.name_kind, c.sign_kind]
  rw [run_cons_of_ok hs, run_cons_of_ok (step_afterName_iff.mpr ⟨rfl, rfl⟩),
    run_cons_of_ok (step_afterOperator_iff.mpr ⟨c.value_kind, rfl⟩), run_nil]

theorem run_clauses {o : Bool} {ts : List Token} {cs : List Clause}
    (h : Grammar.Clauses ts cs) (hs : step settings s .identifier = .ok ⟨.afterName, o⟩) :
    run settings s (ts.map Token.kind) = .ok ⟨.afterValue, o⟩ := by
  induction h generalizing s with
  | one c => exact run_clause hs c
  | more c hcomma _ ih =>
    rw [List.map_append, run_append_of_ok (run_clause hs c), List.map_cons, hcomma,
      run_cons_of_ok (step_afterValue_iff.mpr (.inl ⟨rfl, rfl⟩))]
    exact ih (step_afterComma_iff.mpr (.inl ⟨rfl, rfl⟩))

/-- The inside of a selector leads from where it may start to where it may end. -/
theorem run_inside {o : Bool} {ts : List Token} {cs : List Clause} (h : Grammar.Inside ts cs)
    (hs : step settings s .identifier = .ok ⟨.afterName, o⟩) :
    ∃ s', run settings s (ts.map Token.kind) = .ok s' ∧
      (s' = s ∨ s' = ⟨.afterValue, o⟩ ∨ s' = ⟨.afterComma, o⟩) := by
  cases h with
  | empty => exact ⟨s, rfl, .inl rfl⟩
  | plain h => exact ⟨_, run_clauses h hs, .inr (.inl rfl)⟩
  | trailing h hcomma =>
    refine ⟨⟨.afterComma, o⟩, ?_, .inr (.inr rfl)⟩
    rw [List.map_append, run_append_of_ok (run_clauses h hs), List.map_singleton, hcomma,
      run_cons_of_ok (step_afterValue_iff.mpr (.inl ⟨rfl, rfl⟩)), run_nil]

/-- The kinds of a selector are accepted. -/
theorem accepts_of_selector {ts : List Token} {cs : List Clause}
    (h : Grammar.Selector settings ts cs) :
    Accepts settings initial (ts.map Token.kind) := by
  cases h with
  | bare hr h =>
    have hs : step settings initial .identifier = .ok ⟨.afterName, false⟩ := by
      simp [step, enter, initial, hr]
    obtain ⟨s', hrun, hs'⟩ := run_inside h hs
    refine ⟨s', hrun, ?_⟩
    rcases hs' with rfl | rfl | rfl
    · simp [finish, initial, hr]
    · rfl
    · rfl
  | @braced opening closing ts cs hopening hclosing h =>
    -- From all three states in which the inside may end, the closing brace is taken.
    have hs : step settings ⟨.afterOpen, true⟩ .identifier = .ok ⟨.afterName, true⟩ := rfl
    obtain ⟨s', hrun, hs'⟩ := run_inside h hs
    have hclose : step settings s' .closeBrace = .ok ⟨.afterClose, true⟩ := by
      rcases hs' with rfl | rfl | rfl <;> rfl
    rw [List.map_cons, hopening, accepts_cons_iff]
    refine ⟨⟨.afterOpen, true⟩, rfl, ?_⟩
    rw [List.map_append, accepts_append_of_ok hrun, List.map_singleton, hclosing,
      accepts_cons_iff]
    exact ⟨_, hclose, accepts_afterClose_iff.mpr rfl⟩

/-! ### What is accepted is a selector -/

/-- Operators are written as one of the four. -/
def Known (t : Token) : Prop := t.kind = .operator → ∃ op, Operator.ofText? t.text = some op

/-- Behind a name there is the rest of a clause. -/
theorem exists_clause {o : Bool} {name : Token} (hname : name.kind = .identifier)
    {ts : List Token} (hknown : ∀ t ∈ ts, Known t)
    (h : Accepts settings ⟨.afterName, o⟩ (ts.map Token.kind)) :
    ∃ (c : Clause) (rest : List Token), name :: ts = c.tokens ++ rest ∧
      Accepts settings ⟨.afterValue, o⟩ (rest.map Token.kind) := by
  match ts with
  | [] => exact absurd (accepts_nil_iff.mp h) (by simp [finish])
  | [sign] =>
    obtain ⟨s', hstep, h⟩ := accepts_cons_iff.mp h
    obtain ⟨-, rfl⟩ := step_afterName_iff.mp hstep
    exact absurd (accepts_nil_iff.mp h) (by simp [finish])
  | sign :: value :: rest =>
    obtain ⟨s₁, hstep₁, h⟩ := accepts_cons_iff.mp h
    obtain ⟨hsign, rfl⟩ := step_afterName_iff.mp hstep₁
    obtain ⟨s₂, hstep₂, h⟩ := accepts_cons_iff.mp h
    obtain ⟨hvalue, rfl⟩ := step_afterOperator_iff.mp hstep₂
    obtain ⟨op, hop⟩ := hknown sign (by simp) hsign
    exact ⟨⟨name, sign, value, op, hname, hsign, hvalue, hop⟩, rest, rfl, h⟩

/-- The tokens that end a selector: the closing brace if one has been opened. -/
def Closing (o : Bool) (ts : List Token) : Prop :=
  if o then ∃ closing, closing.kind = .closeBrace ∧ ts = [closing] else ts = []

/-- What may end the text ends the selector. -/
theorem closing_nil {o : Bool} (h : (if o then some Expectation.closeBrace else none) = none) :
    Closing o [] := by
  cases o with
  | false => rfl
  | true => cases h

/-- A closing brace that is accepted ends the selector. -/
theorem closing_cons {o : Bool} {t : Token} {ts : List Token} (ht : t.kind = .closeBrace)
    (hclose : close o = .ok s') (h : Accepts settings s' (ts.map Token.kind)) :
    Closing o (t :: ts) := by
  obtain ⟨rfl, rfl⟩ := close_eq_ok_iff.mp hclose
  have hts : ts = [] := by simpa using accepts_afterClose_iff.mp h
  exact ⟨t, ht, by rw [hts]⟩

/-- Behind a value there are further clauses and the end of the selector. -/
theorem exists_following {o : Bool} {ts : List Token} (hknown : ∀ t ∈ ts, Known t)
    (h : Accepts settings ⟨.afterValue, o⟩ (ts.map Token.kind)) :
    ∃ body tail cs, ts = body ++ tail ∧ Grammar.Following body cs ∧ Closing o tail := by
  match ts with
  | [] => exact ⟨[], [], [], rfl, .nothing, closing_nil (accepts_nil_iff.mp h)⟩
  | t :: ts =>
    obtain ⟨s', hstep, h⟩ := accepts_cons_iff.mp h
    rcases step_afterValue_iff.mp hstep with ⟨ht, rfl⟩ | ⟨ht, hclose⟩
    · -- Behind a comma the text ends, the selector ends, or another clause follows.
      match ts with
      | [] => exact ⟨[t], [], [], rfl, .comma ht, closing_nil (accepts_nil_iff.mp h)⟩
      | u :: ts =>
        obtain ⟨s', hstep, h⟩ := accepts_cons_iff.mp h
        rcases step_afterComma_iff.mp hstep with ⟨hu, rfl⟩ | ⟨hu, hclose⟩
        · obtain ⟨c, rest, heq, h⟩ :=
            exists_clause hu (fun t ht => hknown t (by simp [ht])) h
          have hmem : ∀ x ∈ rest, x ∈ u :: ts := fun x hx => by simp [heq, hx]
          obtain ⟨body, tail, cs, rfl, hbody, htail⟩ :=
            exists_following (fun x hx => hknown x (List.mem_cons_of_mem t (hmem x hx))) h
          exact ⟨t :: (c.tokens ++ body), tail, c :: cs, by simp [heq], .clause c ht hbody, htail⟩
        · exact ⟨[t], u :: ts, [], rfl, .comma ht, closing_cons hu hclose h⟩
    · exact ⟨[], t :: ts, [], rfl, .nothing, closing_cons ht hclose h⟩
termination_by ts.length
decreasing_by
  -- The comma and a whole clause have been taken in between.
  have := congrArg List.length heq
  simp only [Clause.tokens, List.length_append, List.length_cons] at this ⊢
  omega

/-- What is accepted where the inside of a selector starts is such an inside, and the
    end of the selector. -/
theorem exists_inside {o : Bool} {ts : List Token} (hknown : ∀ t ∈ ts, Known t)
    (h : Accepts settings ⟨.afterOpen, o⟩ (ts.map Token.kind)) :
    ∃ body tail cs, ts = body ++ tail ∧ Grammar.Inside body cs ∧ Closing o tail := by
  cases ts with
  | nil => exact ⟨[], [], [], rfl, .empty, closing_nil (accepts_nil_iff.mp h)⟩
  | cons t ts =>
    obtain ⟨s', hstep, h⟩ := accepts_cons_iff.mp h
    rcases step_afterOpen_iff.mp hstep with ⟨ht, rfl⟩ | ⟨ht, hclose⟩
    · obtain ⟨c, rest, heq, h⟩ := exists_clause ht (fun t ht => hknown t (by simp [ht])) h
      have hmem : ∀ x ∈ rest, x ∈ t :: ts := fun x hx => by simp [heq, hx]
      obtain ⟨body, tail, cs, rfl, hbody, htail⟩ :=
        exists_following (fun x hx => hknown x (hmem x hx)) h
      exact ⟨c.tokens ++ body, tail, c :: cs, by simp [heq], hbody.inside c, htail⟩
    · exact ⟨[], t :: ts, [], rfl, .empty, closing_cons ht hclose h⟩

/-- Tokens whose kinds are accepted are a selector. -/
theorem exists_selector {ts : List Token} (hknown : ∀ t ∈ ts, Known t)
    (h : Accepts settings initial (ts.map Token.kind)) :
    ∃ cs, Grammar.Selector settings ts cs := by
  cases ts with
  | nil =>
    have hfinish := accepts_nil_iff.mp h
    cases hr : settings.requireBraces with
    | true => simp [finish, initial, hr] at hfinish
    | false => exact ⟨[], .bare hr .empty⟩
  | cons t ts =>
    obtain ⟨s', hstep, htail⟩ := accepts_cons_iff.mp h
    rcases step_start_iff.mp hstep with ⟨ht, rfl⟩ | ⟨hr, -, hstep⟩
    · obtain ⟨body, tail, cs, rfl, hbody, closing, hclosing, rfl⟩ :=
        exists_inside (fun x hx => hknown x (by simp [hx])) htail
      exact ⟨cs, .braced ht hclosing hbody⟩
    · obtain ⟨body, tail, cs, heq, hbody, rfl⟩ :=
        exists_inside hknown (accepts_cons_iff.mpr ⟨s', hstep, htail⟩)
      rw [List.append_nil] at heq
      exact ⟨cs, .bare hr (heq ▸ hbody)⟩

/-! ### The kinds of selectors, and how they start -/

/-- A token of the given kind that could be read. -/
def sample (kind : Token.Kind) : Token := ⟨kind, Operator.equal.text, .point .origin⟩

theorem map_kind_map_sample (ks : List Token.Kind) : (ks.map sample).map Token.kind = ks := by
  rw [List.map_map]
  exact List.map_id ks

/-- Exactly the kinds of selectors are accepted. -/
theorem accepted_iff_accepts : Grammar.Accepted settings ks ↔ Accepts settings initial ks := by
  constructor
  · rintro ⟨ts, cs, h, rfl⟩
    exact accepts_of_selector h
  · intro h
    -- Kinds say nothing about texts: take tokens that are written like the operator `=`.
    have hknown : ∀ t ∈ ks.map sample, Known t := by
      intro t ht _
      obtain ⟨kind, -, rfl⟩ := List.mem_map.mp ht
      exact ⟨.equal, Operator.ofText?_text .equal⟩
    rw [← map_kind_map_sample ks] at h
    obtain ⟨cs, hcs⟩ := exists_selector hknown h
    exact ⟨ks.map sample, cs, hcs, map_kind_map_sample ks⟩

/-- The shortest way from a state to the end of a selector. -/
def completion (settings : ParserSettings) (s : State) : List Token.Kind :=
  let closing := if s.opened then [Token.Kind.closeBrace] else []
  match s.stage with
  | .start => if settings.requireBraces then [.openBrace, .closeBrace] else closing
  | .afterOpen | .afterValue | .afterComma => closing
  | .afterName => .operator :: .identifier :: closing
  | .afterOperator => .identifier :: closing
  | .afterClose => []

/-- That way is accepted. -/
theorem accepts_completion (settings : ParserSettings) (s : State) :
    Accepts settings s (completion settings s) := by
  obtain ⟨requireBraces⟩ := settings
  obtain ⟨stage, opened⟩ := s
  cases stage <;> cases opened <;> cases requireBraces <;> exact ⟨_, rfl, rfl⟩

/-- A sequence of kinds is viable exactly if the automaton takes all of it. -/
theorem viable_iff_run : Grammar.Viable settings ks ↔ ∃ s, run settings initial ks = .ok s := by
  constructor
  · rintro ⟨more, h⟩
    obtain ⟨s', hrun, -⟩ := accepted_iff_accepts.mp h
    obtain ⟨s, hs, -⟩ := run_of_append hrun
    exact ⟨s, hs⟩
  · -- No state is a dead end, so the shortest way out of it is a continuation.
    rintro ⟨s, hs⟩
    refine ⟨completion settings s, accepted_iff_accepts.mpr ?_⟩
    exact (accepts_append_of_ok hs).mpr (accepts_completion settings s)

/-- What has been taken cannot be continued with a token that is not taken. -/
theorem not_viable_append {x : Expectation} (hrun : run settings initial ks = .ok s)
    (hstep : step settings s k = .error x) : ¬ Grammar.Viable settings (ks ++ [k]) := by
  rw [viable_iff_run, run_append_of_ok hrun]
  rintro ⟨s₂, hs⟩
  obtain ⟨s₁, hstep', -⟩ := run_cons_eq_ok_iff.mp hs
  cases hstep.symm.trans hstep'

/-- What has been taken is no selector as long as something is missing. -/
theorem not_accepted_of_finish {x : Expectation} (hrun : run settings initial ks = .ok s)
    (hfinish : finish settings s = some x) : ¬ Grammar.Accepted settings ks := by
  rw [accepted_iff_accepts]
  rintro ⟨s', hrun', hfinish'⟩
  obtain rfl := Except.ok.inj (hrun.symm.trans hrun')
  cases hfinish.symm.trans hfinish'

end Automaton

end LabelSelector
