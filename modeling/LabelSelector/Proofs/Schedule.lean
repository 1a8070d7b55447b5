import LabelSelector.Proofs.Outlook

/-! # Schedules of calls

  Tokens are handed out by scanners and by lookaheads. Both can be asked in two ways:
  a call takes the next token, or it only looks at it. A schedule is any sequence of
  such calls.

  - what is ahead decides every answer, and only taking changes it, so that the
    answer to a call depends on the number of tokens taken before it and on nothing
    else,
  - an error that has been answered once, be it to a look, is answered for ever, and
    a scanner knows of an error exactly if it has answered one.
-/

namespace LabelSelector

/-! ### Calls -/

/-- A call for a token. -/
inductive Call where
  /-- The token is taken. -/
  | take
  /-- The token is only looked at. -/
  | look
  deriving DecidableEq, Repr

/-- The tokens that a schedule takes are those of its first call and of the others. -/
theorem Call.count_take_cons (c : Call) (calls : List Call) :
    (c :: calls).count Call.take = [c].count Call.take + calls.count Call.take := by
  rw [← List.count_append, List.singleton_append]

/-- Something that hands out tokens. -/
structure Dispenser (σ : Type) where
  /-- Answers the next token and goes on behind it. -/
  take : σ → Answer × σ
  /-- Answers the next token. -/
  look : σ → Answer × σ

namespace Dispenser

variable {σ : Type} (d : Dispenser σ)

/-- Answers one call. -/
def call (s : σ) : Call → Answer × σ
  | .take => d.take s
  | .look => d.look s

/-- The answers to a schedule, one for each call. -/
def answers (s : σ) : List Call → List Answer
  | [] => []
  | c :: calls => (d.call s c).1 :: answers (d.call s c).2 calls

/-- What a schedule leaves behind. -/
def after (s : σ) : List Call → σ
  | [] => s
  | c :: calls => after (d.call s c).2 calls

end Dispenser

/-- Tokens from a scanner. -/
def Scanner.dispenser : Dispenser Scanner := ⟨Scanner.scan, Scanner.peek⟩

/-- Tokens from a lookahead. -/
def Lookahead.dispenser : Dispenser Lookahead := ⟨Lookahead.next, Lookahead.peek⟩

namespace Scanner

/-- The scanner after some scans and nothing else. -/
def past (s : Scanner) : Nat → Scanner
  | 0 => s
  | k + 1 => s.scan.2.past k

/-- The entry of a scanner's stream at a number: what is answered there if nothing is
    called but scans. -/
def entry (s : Scanner) (k : Nat) : Answer := (s.past k).scan.1

end Scanner

/-! ### What is ahead decides -/

namespace Ahead

/-- What is ahead after some tokens have been taken. -/
def drop (a : Ahead) (k : Nat) : Ahead := (a.1.drop k, a.2)

theorem drop_zero (a : Ahead) : a.drop 0 = a := rfl

theorem drop_drop (a : Ahead) (j k : Nat) : (a.drop j).drop k = a.drop (j + k) := by
  simp [drop, List.drop_drop]

theorem drop_rest (a : Ahead) (k : Nat) : a.rest.drop k = a.drop (k + 1) := by
  simp [rest, drop, List.drop_tail]

/-- Tokens come first. -/
theorem first_drop_of_getElem? {a : Ahead} {k : Nat} {t : Token} (h : a.1[k]? = some t) :
    (a.drop k).first = .ok (some t) := by
  obtain ⟨hlt, rfl⟩ := List.getElem?_eq_some_iff.mp h
  rw [drop, List.drop_eq_getElem_cons hlt, first]

/-- Behind the tokens the answer does not change any more. -/
theorem first_drop_of_length_le {a : Ahead} {k : Nat} (h : a.1.length ≤ k) :
    (a.drop k).first = first ([], a.2) := by
  rw [drop, List.drop_eq_nil_of_le h]

/-- An error is met only behind the tokens. -/
theorem length_le_of_first_drop {a : Ahead} {k : Nat} {e : LexicalError}
    (h : (a.drop k).first = .error e) : a.1.length ≤ k := by
  by_contra hlt
  have htoken := first_drop_of_getElem? (List.getElem?_eq_getElem (Nat.lt_of_not_le hlt))
  cases h.symm.trans htoken

/-- An error stays. -/
theorem first_drop_of_error {a : Ahead} {k k' : Nat} {e : LexicalError}
    (h : (a.drop k).first = .error e) (hle : k ≤ k') : (a.drop k').first = .error e := by
  have hlen := length_le_of_first_drop h
  rw [first_drop_of_length_le hlen] at h
  rw [first_drop_of_length_le (hlen.trans hle), h]

end Ahead

namespace Dispenser

variable {σ : Type} {d : Dispenser σ}

/-- A dispenser hands out what is ahead: both calls answer the first token, and only
    taking changes what is ahead. -/
structure Serves (d : Dispenser σ) (ahead : σ → Ahead) : Prop where
  take_answer : ∀ s, (d.take s).1 = (ahead s).first
  take_ahead : ∀ s, ahead (d.take s).2 = (ahead s).rest
  look_answer : ∀ s, (d.look s).1 = (ahead s).first
  look_ahead : ∀ s, ahead (d.look s).2 = ahead s

namespace Serves

variable {ahead : σ → Ahead} (h : d.Serves ahead)
include h

theorem call_answer (s : σ) (c : Call) : (d.call s c).1 = (ahead s).first := by
  cases c with
  | take => exact h.take_answer s
  | look => exact h.look_answer s

theorem call_ahead (s : σ) (c : Call) :
    ahead (d.call s c).2 = (ahead s).drop ([c].count .take) := by
  cases c with
  | take => exact (h.take_ahead s).trans ((ahead s).drop_rest 0)
  | look => exact h.look_ahead s

/-- After a schedule, what has been taken is gone. -/
theorem ahead_after (s : σ) (calls : List Call) :
    ahead (d.after s calls) = (ahead s).drop (calls.count .take) := by
  induction calls generalizing s with
  | nil => rfl
  | cons c calls ih =>
    rw [after, ih, h.call_ahead, Ahead.drop_drop, Call.count_take_cons c calls]

/-- A call is answered by the first token behind those taken before it. -/
theorem answers_getElem? (s : σ) {calls : List Call} {i : Nat} (hi : i < calls.length) :
    (d.answers s calls)[i]? = some ((ahead s).drop ((calls.take i).count .take)).first := by
  induction calls generalizing s i with
  | nil => cases hi
  | cons c calls ih =>
    cases i with
    | zero => simp [answers, h.call_answer, Ahead.drop_zero]
    | succ i =>
      -- The first call decides what is ahead of the others.
      have hrest := ih (d.call s c).2 (Nat.lt_of_succ_lt_succ hi)
      rw [h.call_ahead] at hrest
      rw [answers, List.getElem?_cons_succ, hrest, Ahead.drop_drop, List.take_succ_cons,
        Call.count_take_cons c (calls.take i)]

end Serves

end Dispenser

/-! ### Scanners and lookaheads serve what they have ahead -/

namespace Scanner

/-- Looking answers the first token and leaves everything. -/
theorem peek_eq (s : Scanner) : s.peek.1 = s.ahead.first ∧ s.peek.2.ahead = s.ahead := by
  refine ⟨s.scan_eq.1, ?_⟩
  -- Of the scan that a look makes, only a failure is kept.
  change ahead { s with failure := s.scan.2.failure } = s.ahead
  unfold scan
  split
  · next e hf => simp [ahead, hf]
  · next hf =>
    split
    · simp [ahead, hf]
    · simp [ahead, hf]
    · next e hread => simp [ahead, hf, Token.stream_of_error hread]

theorem dispenser_serves : dispenser.Serves ahead where
  take_answer s := s.scan_eq.1
  take_ahead s := s.scan_eq.2.1
  look_answer s := s.peek_eq.1
  look_ahead s := s.peek_eq.2

theorem ahead_past (s : Scanner) (k : Nat) : (s.past k).ahead = s.ahead.drop k := by
  induction k generalizing s with
  | zero => rfl
  | succ k ih => rw [past, ih, s.scan_eq.2.1, Ahead.drop_rest]

/-- The entries of the stream are what is ahead, one after the other. -/
theorem entry_eq (s : Scanner) (k : Nat) : s.entry k = (s.ahead.drop k).first := by
  rw [entry, (s.past k).scan_eq.1, ahead_past]

theorem ahead_ofText (text : String) : (ofText text).ahead = Token.streamOf text := rfl

end Scanner

namespace Lookahead

theorem dispenser_serves : dispenser.Serves ahead where
  take_answer l := l.next_eq.1
  take_ahead l := l.next_eq.2.1
  look_answer l := l.peek_eq.1
  look_ahead l := l.peek_eq.2.1

theorem ahead_ofText (text : String) : (ofText text).ahead = Token.streamOf text := rfl

end Lookahead

/-! ### Errors that are known -/

namespace Scanner

/-- One call: an error is known if it was known before or is the answer. -/
theorem error_call (s : Scanner) (c : Call) (e : LexicalError) :
    (dispenser.call s c).2.error = some e ↔
      s.error = some e ∨ (dispenser.call s c).1 = .error e := by
  have hscan : s.scan.2.failure = some e ↔ s.failure = some e ∨ s.scan.1 = .error e := by
    unfold scan
    split
    · next e' hf => simp [hf]
    · next hf => split <;> simp [hf]
  -- A look scans too, and keeps the failure of that scan.
  cases c with
  | take => exact hscan
  | look => exact hscan

/-- A whole schedule: an error is known if it was known before or has been answered. -/
theorem error_after (s : Scanner) (calls : List Call) (e : LexicalError) :
    (dispenser.after s calls).error = some e ↔
      s.error = some e ∨ .error e ∈ dispenser.answers s calls := by
  induction calls generalizing s with
  | nil => simp [Dispenser.after, Dispenser.answers]
  | cons c calls ih =>
    rw [Dispenser.after, ih, error_call, Dispenser.answers, List.mem_cons, or_assoc,
      eq_comm (a := Except.error e)]

end Scanner

/-! ### Transparency -/

/-- Looking ahead does not show: whatever the schedule, answers are the entries of one
    stream, in order. -/
structure Dispenser.Transparent {σ : Type} (d : Dispenser σ) (s : σ) (entry : Nat → Answer) :
    Prop where
  /-- A call answers the entry whose number is that of the tokens taken before it. -/
  entries : ∀ (calls : List Call) (i : Nat), i < calls.length →
    (d.answers s calls)[i]? = some (entry ((calls.take i).count .take))
  /-- A look answers what taking would answer, then or after more looks. -/
  looks : ∀ (calls : List Call) (n : Nat),
    (d.take (d.after s (calls ++ List.replicate n .look))).1 = (d.look (d.after s calls)).1
  /-- After an error, all calls answer that error. -/
  sticky : ∀ (calls : List Call) (i j : Nat) (e : LexicalError), i ≤ j → j < calls.length →
    (d.answers s calls)[i]? = some (.error e) → (d.answers s calls)[j]? = some (.error e)

theorem Dispenser.Serves.transparent {σ : Type} {d : Dispenser σ} {ahead : σ → Ahead}
    (h : d.Serves ahead) (s : σ) : d.Transparent s fun k => ((ahead s).drop k).first where
  entries _ _ hi := h.answers_getElem? s hi
  looks calls n := by
    rw [h.take_answer, h.look_answer, h.ahead_after, h.ahead_after, List.count_append,
      List.count_replicate]
    rfl
  sticky calls i j e hij hj herror := by
    rw [h.answers_getElem? s (Nat.lt_of_le_of_lt hij hj), Option.some.injEq] at herror
    rw [h.answers_getElem? s hj, Option.some.injEq]
    have hcount : (calls.take i).count Call.take ≤ (calls.take j).count Call.take :=
      (List.take_sublist_take_left hij).count_le Call.take
    exact Ahead.first_drop_of_error herror hcount

/-- For every text, scanners and lookaheads are transparent to looking: they answer the
    entries of the stream that scans alone give.

  - That stream has the tokens of the text, one after the other, and then the same answer
    for ever: the end, or the error that the tokens of the text end with.
  - A scanner knows of an error exactly if it has answered it to some call. -/
theorem schedules_transparent (text : String) :
    Scanner.dispenser.Transparent (.ofText text) (Scanner.ofText text).entry ∧
    Lookahead.dispenser.Transparent (.ofText text) (Scanner.ofText text).entry ∧
    ((∀ k t, (Token.streamOf text).1[k]? = some t →
        (Scanner.ofText text).entry k = .ok (some t)) ∧
      (∀ k, (Token.streamOf text).1.length ≤ k → (Token.streamOf text).2 = none →
        (Scanner.ofText text).entry k = .ok none) ∧
      ∀ k e, (Token.streamOf text).1.length ≤ k → (Token.streamOf text).2 = some e →
        (Scanner.ofText text).entry k = .error e) ∧
    ∀ calls e, (Scanner.dispenser.after (.ofText text) calls).error = some e ↔
      .error e ∈ Scanner.dispenser.answers (.ofText text) calls := by
  have hentry : (Scanner.ofText text).entry = fun k =>
      (Ahead.drop (Token.streamOf text) k).first := funext (Scanner.ofText text).entry_eq
  rw [hentry]
  refine ⟨Scanner.dispenser_serves.transparent _, Lookahead.dispenser_serves.transparent _, ?_, ?_⟩
  · refine ⟨?_, ?_, ?_⟩
    · intro k t ht
      exact Ahead.first_drop_of_getElem? ht
    · intro k hk hend
      dsimp only
      rw [Ahead.first_drop_of_length_le hk, hend]
      rfl
    · intro k e hk hfailure
      dsimp only
      rw [Ahead.first_drop_of_length_le hk, hfailure]
      rfl
  · intro calls e
    have hnone : (Scanner.ofText text).error ≠ some e := nofun
    rw [Scanner.error_after, or_iff_right hnone]

end LabelSelector
