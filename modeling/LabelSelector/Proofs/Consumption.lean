import LabelSelector.Proofs.Simulation

/-! # What a call of the parser takes

  A call goes over some of the tokens to come, asks for the matchers of the clauses
  among them, and leaves the other tokens for the next call.

  - the tokens that are taken are those the automaton takes, and at most one more, with
    which the call fails (`Automaton.Taken`),
  - among them every name, operator and value in a row is a clause that has been asked
    for, and nothing else has (`Automaton.Taken.windows_eq`),
  - the clauses that are found share no token and stand in the order of the text
    (`Grammar.Picks`).
-/

namespace LabelSelector

/-! ### Clauses among tokens -/

/-- The clauses that stand somewhere among some tokens: wherever three tokens in a row
    make up a clause, it counts. -/
def Clause.windows : List Token → List Clause
  | [] => []
  | t :: ts => (ofTokens? ((t :: ts).take 3)).toList ++ windows ts

namespace Clause

/-- Three tokens make up a clause, and no other number. -/
theorem eq_tokens_of_ofTokens? {ts : List Token} {c : Clause} (h : ofTokens? ts = some c) :
    ts = c.tokens := by
  unfold ofTokens? at h
  split at h
  · next name sign value =>
    split at h
    · cases h
    · split at h
      · cases h
        rfl
      · cases h
  · cases h

theorem ofTokens?_of_length_ne {ts : List Token} (h : ts.length ≠ 3) : ofTokens? ts = none := by
  cases hc : ofTokens? ts with
  | none => rfl
  | some c =>
    have hts := eq_tokens_of_ofTokens? hc
    exact absurd (by rw [hts]; rfl) h

/-- One token alone is no clause. -/
theorem ofTokens?_extend_nil (t : Token) : ofTokens? (Grammar.extend [] t) = none := by
  apply ofTokens?_of_length_ne
  unfold Grammar.extend
  split <;> simp

/-- No token of a clause is a brace or a comma. -/
theorem not_isMark_of_mem {c : Clause} {t : Token} (h : t ∈ c.tokens) :
    Grammar.isMark t.kind = false := by
  simp only [tokens, List.mem_cons, List.not_mem_nil, or_false] at h
  rcases h with rfl | rfl | rfl
  · rw [c.name_kind]
    rfl
  · rw [c.sign_kind]
    rfl
  · rcases c.value_kind with h | h <;> rw [h] <;> rfl

theorem ofTokens?_of_isMark {ts : List Token} {t : Token} (ht : Grammar.isMark t.kind = true)
    (hmem : t ∈ ts) : ofTokens? ts = none := by
  cases hc : ofTokens? ts with
  | none => rfl
  | some c =>
    have hts := eq_tokens_of_ofTokens? hc
    have hfalse := not_isMark_of_mem (hts ▸ hmem)
    rw [ht] at hfalse
    cases hfalse

/-- Too few tokens hold no clause. -/
theorem windows_of_length_le {ts : List Token} (h : ts.length ≤ 2) : windows ts = [] := by
  induction ts with
  | nil => rfl
  | cons t ts ih =>
    have hshort : ((t :: ts).take 3).length ≠ 3 := by
      rw [List.length_take]
      omega
    have hts : ts.length ≤ 2 := by
      rw [List.length_cons] at h
      omega
    rw [windows, ofTokens?_of_length_ne hshort, ih hts]
    rfl

/-- A brace or a comma stands between clauses, not in them. -/
theorem windows_append_mark {t : Token} (ht : Grammar.isMark t.kind = true)
    (front back : List Token) :
    windows (front ++ t :: back) = windows front ++ windows back := by
  induction front with
  | nil =>
    have hnone : ofTokens? ((t :: back).take 3) = none := by
      apply ofTokens?_of_isMark ht
      rw [List.take_succ_cons]
      exact List.mem_cons_self
    show (ofTokens? ((t :: back).take 3)).toList ++ windows back = [] ++ windows back
    rw [hnone]
    rfl
  | cons u front ih =>
    -- A window over `t` holds no clause, and neither does the part of it before `t`.
    have hwindow : ofTokens? ((u :: (front ++ t :: back)).take 3) =
        ofTokens? ((u :: front).take 3) := by
      by_cases hlen : 2 ≤ front.length
      · rw [List.take_succ_cons, List.take_succ_cons, List.take_append_of_le_length hlen]
      · have hshort : ((u :: front).take 3).length ≠ 3 := by
          rw [List.length_take, List.length_cons]
          omega
        rw [ofTokens?_of_length_ne hshort]
        apply ofTokens?_of_isMark ht
        rw [List.take_succ_cons, List.take_append]
        obtain ⟨n, hn⟩ : ∃ n, 2 - front.length = n + 1 := ⟨1 - front.length, by omega⟩
        rw [hn, List.take_succ_cons]
        simp
    rw [List.cons_append, windows, windows, hwindow, ih, List.append_assoc]

/-- With one more token there is one more clause at most: the one that all of them
    make up. -/
theorem windows_append_singleton {ts : List Token} (h : ts.length ≤ 2) (t : Token) :
    windows (ts ++ [t]) = windows ts ++ (ofTokens? (ts ++ [t])).toList := by
  rw [windows_of_length_le h, List.nil_append]
  by_cases hlen : ts.length = 2
  · obtain ⟨a, b, rfl⟩ := List.length_eq_two.mp hlen
    have htail : windows [b, t] = [] := windows_of_length_le (by simp)
    change (ofTokens? [a, b, t]).toList ++ windows [b, t] = _
    rw [htail, List.append_nil]
    rfl
  · have hshort : (ts ++ [t]).length ≤ 2 := by
      rw [List.length_append, List.length_singleton]
      omega
    rw [windows_of_length_le hshort, ofTokens?_of_length_ne (by omega)]
    rfl

end Clause

namespace Grammar

/-- Clauses picked out of a list of tokens: each stands there as three tokens in a row,
    they share no token, and they come in the order of the tokens. -/
inductive Picks : List Token → List Clause → Prop where
  /-- No tokens, no clauses. -/
  | nil : Picks [] []
  /-- A token that belongs to no clause. -/
  | skip (t : Token) {ts : List Token} {cs : List Clause} : Picks ts cs → Picks (t :: ts) cs
  /-- The tokens of a clause. -/
  | clause (c : Clause) {ts : List Token} {cs : List Clause} :
      Picks ts cs → Picks (c.tokens ++ ts) (c :: cs)

theorem Picks.append {ts ts' : List Token} {cs cs' : List Clause} (h : Picks ts cs)
    (h' : Picks ts' cs') : Picks (ts ++ ts') (cs ++ cs') := by
  induction h with
  | nil => exact h'
  | skip t _ ih => exact .skip t ih
  | clause c _ ih =>
    rw [List.append_assoc, List.cons_append]
    exact .clause c ih

/-- Tokens that belong to no clause may stand in front. -/
theorem Picks.skips {ts : List Token} {cs : List Clause} (h : Picks ts cs) (front : List Token) :
    Picks (front ++ ts) cs := by
  induction front with
  | nil => exact h
  | cons t front ih => exact .skip t ih

/-- Clauses that are picked one after the other are found between braces and commas. -/
theorem picks_clausesIn (held ts : List Token) :
    (held.length ≤ 2 → Picks (held ++ ts) (clausesIn held ts)) ∧
      (3 ≤ held.length → Picks ts (clausesIn held ts)) := by
  induction ts generalizing held with
  | nil =>
    refine ⟨fun _ => ?_, fun _ => .nil⟩
    exact Picks.nil.skips held
  | cons t ts ih =>
    cases hmark : isMark t.kind with
    | true =>
      -- Behind a brace or a comma nothing is held any more.
      have hrest : Picks (t :: ts) (clausesIn held (t :: ts)) := by
        rw [clausesIn_mark hmark]
        exact .skip t ((ih []).1 (by simp))
      exact ⟨fun _ => hrest.skips held, fun _ => hrest⟩
    | false =>
      have hextend := extend_of_not_isMark hmark held
      obtain ⟨hshort, hlong⟩ := ih (held ++ [t])
      rw [List.length_append, List.length_singleton] at hshort hlong
      rw [clausesIn, hextend]
      constructor
      · intro hlen
        by_cases htwo : held.length = 2
        · -- With `t` three tokens are held: they are a clause or they belong to none.
          have hrest := hlong (by omega)
          cases hc : Clause.ofTokens? (held ++ [t]) with
          | none =>
            rw [Option.toList_none, List.nil_append, List.append_cons]
            exact hrest.skips (held ++ [t])
          | some c =>
            have htokens := Clause.eq_tokens_of_ofTokens? hc
            rw [List.append_cons, htokens]
            rw [htokens] at hrest
            exact .clause c hrest
        · have hnone : Clause.ofTokens? (held ++ [t]) = none := by
            apply Clause.ofTokens?_of_length_ne
            rw [List.length_append, List.length_singleton]
            omega
          rw [hnone, Option.toList_none, List.nil_append, List.append_cons]
          exact hshort (by omega)
      · intro hlen
        have hnone : Clause.ofTokens? (held ++ [t]) = none := by
          apply Clause.ofTokens?_of_length_ne
          rw [List.length_append, List.length_singleton]
          omega
        rw [hnone, Option.toList_none, List.nil_append]
        exact .skip t (hlong (by omega))

end Grammar

namespace Automaton

/-! ### Tokens that are held -/

/-- How many tokens stand behind the last brace or comma. -/
def Stage.held : Stage → Nat
  | .start | .afterOpen | .afterComma | .afterClose => 0
  | .afterName => 1
  | .afterOperator => 2
  | .afterValue => 3

variable {μ : Type} {settings : ParserSettings} {s s' : State} {t : Token} {ts held : List Token}

/-- Matchers that are made before do not touch an error. -/
theorem Outcome.result_prepend_eq_error_iff {rs : List Request} {ms : List μ} {out : Outcome μ}
    {e : ParseError} : (out.prepend rs ms).result = .error e ↔ out.result = .error e := by
  obtain ⟨result, left, opened, asked⟩ := out
  cases result <;> simp [Outcome.prepend, Except.map]

/-- Each step holds as many tokens as its stage tells. -/
theorem length_extend (hstep : step settings s t.kind = .ok s')
    (hheld : held.length = s.stage.held) :
    (Grammar.extend held t).length = s'.stage.held := by
  obtain ⟨kind, shown, span⟩ := t
  obtain ⟨stage, o⟩ := s
  obtain ⟨requireBraces⟩ := settings
  have hlen : (Grammar.extend held ⟨kind, shown, span⟩).length =
      if Grammar.isMark kind then 0 else stage.held + 1 := by
    rw [Grammar.extend]
    split <;> simp [hheld]
  rw [hlen]
  -- Every kind that is taken, at every stage.
  cases stage <;> cases kind <;> cases requireBraces <;> cases o <;>
    simp [step, enter, close] at hstep <;> subst hstep <;> rfl

/-- A value that completes a clause is always taken. -/
theorem ofTokens?_of_error {x : Expectation} (hstep : step settings s t.kind = .error x)
    (hheld : held.length = s.stage.held) :
    Clause.ofTokens? (Grammar.extend held t) = none := by
  cases hc : Clause.ofTokens? (Grammar.extend held t) with
  | none => rfl
  | some c =>
    have htokens := Clause.eq_tokens_of_ofTokens? hc
    cases hmark : Grammar.isMark t.kind with
    | true =>
      rw [Grammar.extend_of_isMark hmark] at htokens
      cases htokens
    | false =>
      rw [Grammar.extend_of_not_isMark hmark] at htokens
      -- Two tokens are held, so an operator has been read last, and a value is due.
      obtain ⟨hfront, hlast⟩ : held = [c.name, c.sign] ∧ t = c.value :=
        List.append_inj' (htokens.trans (by rfl : c.tokens = [c.name, c.sign] ++ [c.value])) rfl
          |>.imp_right fun h => (List.cons.inj h).1
      have hstage : s.stage = .afterOperator := by
        rw [hfront] at hheld
        cases hs : s.stage <;> rw [hs] at hheld <;> first | rfl | cases hheld
      rw [hlast] at hstep
      obtain ⟨stage, o⟩ := s
      obtain rfl : stage = .afterOperator := hstage
      rw [step_afterOperator_iff.mpr ⟨c.value_kind, rfl⟩] at hstep
      cases hstep

/-! ### Tokens that are taken -/

/-- The tokens that a call takes from a state on. -/
inductive Taken (settings : ParserSettings) : State → List Token → Prop where
  /-- The call ends before the next token. -/
  | stop {s : State} : Taken settings s []
  /-- The call fails with a token that is not left for the next call. -/
  | fail {s : State} {t : Token} {x : Expectation} : step settings s t.kind = .error x →
      leaves settings s t.kind = false → Taken settings s [t]
  /-- A token is taken. -/
  | next {s s' : State} {t : Token} {ts : List Token} : step settings s t.kind = .ok s' →
      Taken settings s' ts → Taken settings s (t :: ts)

/-- A run takes some tokens, asks for the clauses among them and leaves the others. -/
theorem drive_taken (settings : ParserSettings) (make : Factory μ) (text : String)
    (failure : Option LexicalError) (hheld : held.length = s.stage.held) (ts : List Token) :
    ∃ taken, ts = taken ++ (drive settings make text failure s held ts).left ∧
      Taken settings s taken ∧
      (drive settings make text failure s held ts).asked =
        (Grammar.clausesIn held taken).map Clause.request := by
  induction ts generalizing s held with
  | nil =>
    have hnothing : (drive settings make text failure s held []).left = [] ∧
        (drive settings make text failure s held []).asked = [] := by
      rw [drive]
      unfold atEnd
      split <;> exact ⟨rfl, rfl⟩
    exact ⟨[], by rw [hnothing.1]; rfl, .stop, hnothing.2⟩
  | cons t ts ih =>
    cases hstep : step settings s t.kind with
    | error x =>
      rw [drive_of_error hstep]
      cases hleaves : leaves settings s t.kind with
      | true => exact ⟨[], rfl, .stop, rfl⟩
      | false =>
        refine ⟨[t], rfl, .fail hstep hleaves, ?_⟩
        simp [Grammar.clausesIn, ofTokens?_of_error hstep hheld]
    | ok s' =>
      obtain ⟨taken, hts, htaken, hasked⟩ := ih (length_extend hstep hheld)
      cases hc : Clause.ofTokens? (Grammar.extend held t) with
      | none =>
        rw [drive_of_none hstep hc]
        refine ⟨t :: taken, by rw [List.cons_append, ← hts], .next hstep htaken, ?_⟩
        simp [Grammar.clausesIn, hc, hasked]
      | some c =>
        rw [drive_of_clause hstep hc]
        cases hmake : make c.request with
        | error cause =>
          -- The run ends right behind the clause that is refused.
          refine ⟨[t], rfl, .next hstep .stop, ?_⟩
          simp [Grammar.clausesIn, hc]
        | ok m =>
          refine ⟨t :: taken, ?_, .next hstep htaken, ?_⟩
          · rw [List.cons_append]
            exact congrArg (t :: ·) hts
          · simp [Outcome.prepend, Grammar.clausesIn, hc, hasked]

/-- Behind a value, only a brace or a comma is taken, so that no token comes to three that
    are held. -/
theorem Taken.length_held_le (h : Taken settings s (t :: ts))
    (hmark : Grammar.isMark t.kind = false) (hheld : held.length = s.stage.held) :
    held.length ≤ 2 := by
  have hstage : s.stage ≠ .afterValue := by
    obtain ⟨stage, o⟩ := s
    rintro rfl
    have htrue : Grammar.isMark t.kind = true := by
      cases h with
      | fail _ hleaves =>
        have hclose : t.kind = .closeBrace := by simpa [leaves] using hleaves
        rw [hclose]
        rfl
      | next hstep =>
        rcases step_afterValue_iff.mp hstep with ⟨hk, -⟩ | ⟨hk, -⟩ <;> rw [hk] <;> rfl
    rw [hmark] at htrue
    cases htrue
  rw [hheld]
  cases hs : s.stage <;> first | exact absurd hs hstage | decide

/-- The clauses that stand among the tokens taken are those found between braces and
    commas. -/
theorem Taken.windows_append (h : Taken settings s ts) (hheld : held.length = s.stage.held) :
    Clause.windows (held ++ ts) = Clause.windows held ++ Grammar.clausesIn held ts := by
  induction h generalizing held with
  | stop => simp [Grammar.clausesIn]
  | @fail s t x hstep hleaves =>
    cases hmark : Grammar.isMark t.kind with
    | true =>
      rw [Clause.windows_append_mark hmark, Grammar.clausesIn_mark hmark]
      rfl
    | false =>
      have hshort := (Taken.fail hstep hleaves).length_held_le hmark hheld
      rw [Clause.windows_append_singleton hshort, Grammar.clausesIn,
        Grammar.extend_of_not_isMark hmark, Grammar.clausesIn, List.append_nil]
  | @next s s' t ts hstep htaken ih =>
    have hnext := ih (length_extend hstep hheld)
    cases hmark : Grammar.isMark t.kind with
    | true =>
      rw [Grammar.extend_of_isMark hmark] at hnext
      rw [Clause.windows_append_mark hmark, Grammar.clausesIn_mark hmark]
      exact congrArg (Clause.windows held ++ ·) hnext
    | false =>
      have hshort := (Taken.next hstep htaken).length_held_le hmark hheld
      rw [Grammar.extend_of_not_isMark hmark, Clause.windows_append_singleton hshort] at hnext
      rw [List.append_cons, hnext, Grammar.clausesIn, Grammar.extend_of_not_isMark hmark,
        List.append_assoc]

theorem Taken.windows_eq {o : Bool} (h : Taken settings ⟨.start, o⟩ ts) :
    Clause.windows ts = Grammar.clausesIn [] ts := by
  have hheld : ([] : List Token).length = (State.mk .start o).stage.held := rfl
  exact h.windows_append hheld

end Automaton

end LabelSelector
