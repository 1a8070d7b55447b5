import LabelSelector.Proofs.WholeValue

/-! # Matchers that are edited

  A matcher holds what was compiled when it was made, and no change touches that. Here a
  matcher is followed through any history of changes.

  - Each field is what was assigned to it last, or what the matcher was made with.
  - Equality operators compare with the value as it is now. Pattern operators test the
    value that the matcher was made with, and nothing meets them if it was made without a
    pattern.
  - So two equal matchers can disagree, but only if the operator or the value of one of
    them was assigned after it was made.
-/

namespace LabelSelector

namespace Matcher

/-! ### Histories -/

/-- The matcher after a history of changes, first change first. -/
def after (m : Matcher) (history : List Edit) : Matcher := history.foldl edit m

namespace Edit

/-- The operator that a change assigns. -/
def operator? : Edit → Option Operator
  | .operator op => some op
  | .name _ | .value _ | .copy => none

/-- The name that a change assigns. -/
def name? : Edit → Option String
  | .name s => some s
  | .operator _ | .value _ | .copy => none

/-- The value that a change assigns. -/
def value? : Edit → Option String
  | .value s => some s
  | .operator _ | .name _ | .copy => none

/-- Whether a change leaves operator and value alone. -/
def spares : Edit → Bool
  | .name _ | .copy => true
  | .operator _ | .value _ => false

end Edit

/-- What a history assigns last, of what its changes assign. -/
def lastAssigned {α : Type} (assigned : Edit → Option α) : List Edit → Option α
  | [] => none
  | e :: history => (lastAssigned assigned history).or (assigned e)

variable {m m₁ : Matcher} {history history₁ : List Edit}

theorem after_cons (m : Matcher) (e : Edit) (history : List Edit) :
    m.after (e :: history) = (m.edit e).after history := rfl

theorem after_append_singleton (m : Matcher) (history : List Edit) (e : Edit) :
    m.after (history ++ [e]) = (m.after history).edit e := by
  rw [after, List.foldl_append]
  rfl

/-- What every change either assigns or leaves alone is, after a history, what was assigned
    last. -/
theorem project_after {α : Type} {project : Matcher → α} {assigned : Edit → Option α}
    (hedit : ∀ m e, project (edit m e) = (assigned e).getD (project m)) (m : Matcher)
    (history : List Edit) :
    project (m.after history) = (lastAssigned assigned history).getD (project m) := by
  induction history generalizing m with
  | nil => rfl
  | cons e history ih =>
    have hrest := ih (m.edit e)
    rw [after_cons, hrest, hedit, lastAssigned]
    cases lastAssigned assigned history with
    | none => rfl
    | some a => rfl

theorem lastAssigned_none {α : Type} (history : List Edit) :
    lastAssigned (fun _ => (none : Option α)) history = none := by
  induction history with
  | nil => rfl
  | cons e history ih => rw [lastAssigned, ih, Option.none_or]

theorem operator_after (m : Matcher) (history : List Edit) :
    (m.after history).operator = (lastAssigned Edit.operator? history).getD m.operator := by
  apply project_after
  intro m e
  cases e <;> rfl

theorem name_after (m : Matcher) (history : List Edit) :
    (m.after history).name = (lastAssigned Edit.name? history).getD m.name := by
  apply project_after
  intro m e
  cases e <;> rfl

theorem value_after (m : Matcher) (history : List Edit) :
    (m.after history).value = (lastAssigned Edit.value? history).getD m.value := by
  apply project_after
  intro m e
  cases e <;> rfl

/-- What was compiled stays, whatever is assigned. -/
theorem pattern_after (m : Matcher) (history : List Edit) :
    (m.after history).pattern = m.pattern := by
  have h : (m.after history).pattern = (lastAssigned (fun _ => none) history).getD m.pattern := by
    apply project_after
    intro m e
    cases e <;> rfl
  rw [h, lastAssigned_none, Option.getD_none]

/-- Changes that assign nothing may be left out of a history. -/
theorem lastAssigned_filter {α : Type} {assigned : Edit → Option α}
    (hspares : ∀ e, e.spares = true → assigned e = none) (history : List Edit) :
    lastAssigned assigned (history.filter fun e => !e.spares) = lastAssigned assigned history := by
  induction history with
  | nil => rfl
  | cons e history ih =>
    by_cases he : e.spares = true
    · rw [List.filter_cons_of_neg (by simp [he]), ih, lastAssigned, hspares e he, Option.or_none]
    · rw [List.filter_cons_of_pos (by simp [he]), lastAssigned, lastAssigned, ih]

/-- A history without assignments of operators or values leaves both as they were. -/
theorem lastAssigned_of_spares {α : Type} {assigned : Edit → Option α}
    (hassigned : ∀ e, e.spares = true → assigned e = none)
    (hspares : ∀ e ∈ history, e.spares = true) : lastAssigned assigned history = none := by
  rw [← lastAssigned_filter hassigned, List.filter_eq_nil_iff.mpr]
  · rfl
  · intro e he
    simp [hspares e he]

theorem operator?_of_spares (e : Edit) (he : e.spares = true) : e.operator? = none := by
  cases e <;> first | rfl | cases he

theorem value?_of_spares (e : Edit) (he : e.spares = true) : e.value? = none := by
  cases e <;> first | rfl | cases he

/-! ### Verdicts -/

/-- The verdict depends on nothing but operator, value and what was compiled. -/
theorem accepts_congr (hoperator : m.operator = m₁.operator) (hvalue : m.value = m₁.value)
    (hpattern : m.pattern = m₁.pattern) (s : String) : m.accepts s = m₁.accepts s := by
  unfold accepts
  rw [hoperator, hvalue, hpattern]

/-- Two histories that assign the same operators and values in the same order lead from
    matchers that are alike but for their names to the same verdicts. -/
theorem accepts_after_congr (hoperator : m.operator = m₁.operator) (hvalue : m.value = m₁.value)
    (hpattern : m.pattern = m₁.pattern)
    (hsame : history.filter (fun e => !e.spares) = history₁.filter fun e => !e.spares)
    (s : String) : (m.after history).accepts s = (m₁.after history₁).accepts s := by
  have hop : lastAssigned Edit.operator? history = lastAssigned Edit.operator? history₁ := by
    rw [← lastAssigned_filter operator?_of_spares, hsame, lastAssigned_filter operator?_of_spares]
  have hval : lastAssigned Edit.value? history = lastAssigned Edit.value? history₁ := by
    rw [← lastAssigned_filter value?_of_spares, hsame, lastAssigned_filter value?_of_spares]
  apply accepts_congr
  · rw [operator_after, operator_after, hop, hoperator]
  · rw [value_after, value_after, hval, hvalue]
  · rw [pattern_after, pattern_after, hpattern]

/-- What a matcher is made with: its fields, and what is compiled from its value if its
    operator takes a pattern. -/
theorem fields_of_made {op : Operator} {name value : String} (h : make op name value = .ok m) :
    m.operator = op ∧ m.name = name ∧ m.value = value ∧
      m.pattern = if op.isRegex then (Pattern.anchored value).toOption else none := by
  cases hop : op.isRegex with
  | true =>
    obtain ⟨p, hp, rfl⟩ := (make_eq_ok_iff hop).mp h
    exact ⟨rfl, rfl, rfl, by rw [hp]; rfl⟩
  | false =>
    rw [make, hop] at h
    obtain rfl := Except.ok.inj h
    exact ⟨rfl, rfl, rfl, rfl⟩

/-- What was compiled, if the operator takes a pattern. -/
theorem pattern_of_made {op : Operator} {name value : String} (h : make op name value = .ok m)
    (hop : op.isRegex = true) : ∃ p, Pattern.anchored value = .ok p ∧ m.pattern = some p := by
  obtain ⟨p, hp, rfl⟩ := (make_eq_ok_iff hop).mp h
  exact ⟨p, hp, rfl⟩

/-- The two pattern operators say the opposite of each other exactly if there is a pattern. -/
theorem pattern_operators_complement_iff (m : Matcher) :
    (∀ s, (m.edit (.operator .notRegexp)).accepts s = !(m.edit (.operator .regexp)).accepts s) ↔
      m.pattern.isSome = true := by
  obtain ⟨name, operator, value, pattern⟩ := m
  cases pattern with
  | none =>
    -- Without a pattern both refuse every text, the empty one for instance.
    constructor
    · intro h
      exact h ""
    · intro h
      cases h
  | some p =>
    constructor
    · intro _
      rfl
    · intro _ s
      rfl

theorem equality_operators_complement (m : Matcher) (s : String) :
    (m.edit (.operator .notEqual)).accepts s = !(m.edit (.operator .equal)).accepts s := rfl

/-- Equal matchers have equal fields. -/
theorem beq_iff : (m == m₁) = true ↔
    m.name = m₁.name ∧ m.operator = m₁.operator ∧ m.value = m₁.value := by
  show (m.name == m₁.name && m.operator == m₁.operator && m.value == m₁.value) = true ↔ _
  rw [Bool.and_eq_true, Bool.and_eq_true, beq_iff_eq, beq_iff_eq, beq_iff_eq, and_assoc]

/-- What a matcher that was made with an operator, a name and a value says after a history
    of changes. -/
structure Remembers (op : Operator) (name value : String) (made : Matcher) (history : List Edit) :
    Prop where
  /-- Each field is what was assigned to it last. -/
  fields : (made.after history).operator = (lastAssigned Edit.operator? history).getD op ∧
    (made.after history).name = (lastAssigned Edit.name? history).getD name ∧
    (made.after history).value = (lastAssigned Edit.value? history).getD value
  /-- The equality operators compare with the value as it is now. -/
  equality : ∀ s,
    ((made.after history).operator = .equal →
      (made.after history).accepts s = (s == (made.after history).value)) ∧
    ((made.after history).operator = .notEqual →
      (made.after history).accepts s = (s != (made.after history).value))
  /-- The pattern operators test the value that the matcher was made with. -/
  compiled : op.isRegex = true → ∃ p, Pattern.anchored value = .ok p ∧ ∀ s,
    ((made.after history).operator = .regexp → (made.after history).accepts s = p.isMatch s) ∧
    ((made.after history).operator = .notRegexp → (made.after history).accepts s = !p.isMatch s)
  /-- They are met by nothing if it was made with another operator. -/
  uncompiled : op.isRegex = false → (made.after history).operator.isRegex = true →
    ∀ s, (made.after history).accepts s = false
  /-- Whatever the history, the two pattern operators say the opposite of each other exactly
      if the matcher was made with one of them. -/
  patternComplement :
    (∀ s, (made.after (history ++ [.operator .notRegexp])).accepts s =
      !(made.after (history ++ [.operator .regexp])).accepts s) ↔ op.isRegex = true
  /-- The two equality operators always do. -/
  equalityComplement : ∀ s, (made.after (history ++ [.operator .notEqual])).accepts s =
    !(made.after (history ++ [.operator .equal])).accepts s
  /-- Names have no bearing on the verdict: neither the first one nor those assigned. -/
  anyName : ∀ name₁ made₁ history₁, make op name₁ value = .ok made₁ →
    history.filter (fun e => !e.spares) = history₁.filter (fun e => !e.spares) →
    ∀ s, (made.after history).accepts s = (made₁.after history₁).accepts s
  /-- Equal matchers agree if operator and value of both are those they were made with. -/
  agree : ∀ op₁ name₁ value₁ made₁ history₁, make op₁ name₁ value₁ = .ok made₁ →
    (∀ e ∈ history, e.spares = true) → (∀ e ∈ history₁, e.spares = true) →
    (made.after history == made₁.after history₁) = true →
    ∀ s, (made.after history).accepts s = (made₁.after history₁).accepts s

/-- A matcher remembers what it was made with through every history of changes. -/
theorem verdict_after_history {op : Operator} {name value : String} {made : Matcher}
    (h : make op name value = .ok made) (history : List Edit) :
    Remembers op name value made history := by
  obtain ⟨hoperator, hname, hvalue, hpattern⟩ := fields_of_made h
  have hafter : (made.after history).pattern = made.pattern := pattern_after made history
  refine ⟨⟨?_, ?_, ?_⟩, ?_, ?_, ?_, ?_, ?_, ?_, ?_⟩
  · rw [operator_after, hoperator]
  · rw [name_after, hname]
  · rw [value_after, hvalue]
  · intro s
    unfold accepts
    constructor
    · intro hop
      rw [hop]
    · intro hop
      rw [hop]
  · intro hregex
    obtain ⟨p, hp, hsome⟩ := pattern_of_made h hregex
    refine ⟨p, hp, ?_⟩
    intro s
    unfold accepts
    rw [hafter, hsome]
    constructor
    · intro hop
      rw [hop]
    · intro hop
      rw [hop]
  · intro hplain hregex s
    rw [hplain] at hpattern
    unfold accepts
    rw [hafter, hpattern]
    cases hop : (made.after history).operator with
    | equal => rw [hop] at hregex; cases hregex
    | notEqual => rw [hop] at hregex; cases hregex
    | regexp => rfl
    | notRegexp => rfl
  · have hsome : made.pattern.isSome = true ↔ op.isRegex = true := by
      cases hop : op.isRegex with
      | true =>
        obtain ⟨p, -, hp⟩ := pattern_of_made h hop
        simp [hp]
      | false =>
        rw [hop] at hpattern
        simp [hpattern]
    rw [after_append_singleton, after_append_singleton, pattern_operators_complement_iff, hafter,
      hsome]
  · intro s
    rw [after_append_singleton, after_append_singleton]
    exact equality_operators_complement _ s
  · intro name₁ made₁ history₁ h₁ hsame s
    obtain ⟨hoperator₁, -, hvalue₁, hpattern₁⟩ := fields_of_made h₁
    apply accepts_after_congr _ _ _ hsame
    · rw [hoperator, hoperator₁]
    · rw [hvalue, hvalue₁]
    · rw [hpattern, hpattern₁]
  · intro op₁ name₁ value₁ made₁ history₁ h₁ hspares hspares₁ hequal s
    obtain ⟨hoperator₁, -, hvalue₁, hpattern₁⟩ := fields_of_made h₁
    obtain ⟨-, hop, hval⟩ := beq_iff.mp hequal
    -- With operator and value as they were made, equal fields were compiled to the same.
    have hop' : op = op₁ := by
      rw [operator_after, operator_after, lastAssigned_of_spares operator?_of_spares hspares,
        lastAssigned_of_spares operator?_of_spares hspares₁] at hop
      rw [← hoperator, ← hoperator₁]
      exact hop
    have hval' : value = value₁ := by
      rw [value_after, value_after, lastAssigned_of_spares value?_of_spares hspares,
        lastAssigned_of_spares value?_of_spares hspares₁] at hval
      rw [← hvalue, ← hvalue₁]
      exact hval
    apply accepts_congr hop hval
    rw [pattern_after, pattern_after, hpattern, hpattern₁, hop', hval']

/-- The value `"cd"` is assigned and shown, but what is tested is still `"ab"`. -/
theorem assigned_value_not_compiled :
    ∃ made, make .regexp "n" "ab" = .ok made ∧
      Remembers .regexp "n" "ab" made [.value "cd", .copy, .name "k"] ∧
      (made.after [.value "cd", .copy, .name "k"]).value = "cd" ∧
      (made.after [.value "cd", .copy, .name "k"]).accepts "ab" = true := by
  obtain ⟨made, hmade, haccepts⟩ : ∃ made, make .regexp "n" "ab" = .ok made ∧
      made.accepts "ab" = true := exists_accepting (by decide +kernel)
  have hremembers := verdict_after_history hmade [.value "cd", .copy, .name "k"]
  refine ⟨made, hmade, hremembers, hremembers.fields.2.2, ?_⟩
  have hmatch := verdict_after_history hmade []
  obtain ⟨p, hp, htest⟩ := hremembers.compiled rfl
  obtain ⟨p', hp', hmatchTest⟩ := hmatch.compiled rfl
  obtain rfl := Except.ok.inj (hp.symm.trans hp')
  rw [(htest "ab").1 hremembers.fields.1, ← (hmatchTest "ab").1 hmatch.fields.1]
  exact haccepts

end Matcher

end LabelSelector
