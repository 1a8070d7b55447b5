import LabelSelector.Proofs.Successive
import LabelSelector.Proofs.Verdict

/-! # What a parser asks its factory for

  A call asks for the matchers of the clauses whose tokens it takes. What the factory
  answers is seen in two ways only: its matchers make up the result, and the first refusal
  ends the call.

  - The clauses asked for are all clauses among the tokens taken, in order and once each. A
    call that succeeds takes all tokens.
  - A refusal is the last request. It is reported with the stretch of text from the name of
    the clause to its value.
  - Two factories that refuse nothing are asked the same, and get the same error or as many
    matchers.
  - A factory is asked what one that refuses nothing is asked, up to its first refusal.
-/

namespace LabelSelector

open Automaton

variable {μ ν : Type}

/-! ### Requests and answers -/

/-- A factory refuses none of some requests. -/
def AcceptsAll (make : Factory μ) (rs : List Request) : Prop := ∀ r ∈ rs, ∃ m, make r = .ok m

/-- The requests up to the first one that is refused. -/
def untilRefused (make : Factory μ) : List Request → List Request
  | [] => []
  | r :: rs =>
    match make r with
    | .ok _ => r :: untilRefused make rs
    | .error _ => [r]

/-- The same error, or as many matchers. -/
def Alike : Except ParseError (List μ) → Except ParseError (List ν) → Prop
  | .error e, .error e' => e = e'
  | .ok ms, .ok ns => ms.length = ns.length
  | _, _ => False

/-- One more matcher on both sides keeps results alike. -/
theorem Alike.prepend {out : Outcome μ} {out' : Outcome ν} (h : Alike out.result out'.result)
    (r : Request) (m : μ) (n : ν) :
    Alike (out.prepend [r] [m]).result (out'.prepend [r] [n]).result := by
  obtain ⟨result, left, opened, asked⟩ := out
  obtain ⟨result', left', opened', asked'⟩ := out'
  cases result <;> cases result' <;> simp_all [Alike, Outcome.prepend, Except.map]

/-! ### Places of clauses -/

/-- The clause stands in a text as the characters `inside` between `before` and `after`:
    from the first character of its name to the last one of its value. -/
structure Clause.StandsAs (c : Clause) (text : String) (before inside after : List Char) :
    Prop where
  whole : text.toList = before ++ (inside ++ after)
  name : c.name.text.toList <+: inside ∧ c.name.span = .behind before c.name.text.toList
  value : ∃ front, inside = front ++ c.value.text.toList ∧
    c.value.span = .behind (before ++ front) c.value.text.toList

namespace Clause

/-- The span of a clause covers it. -/
theorem StandsAs.span_eq {c : Clause} {text : String} {before inside after : List Char}
    (h : c.StandsAs text before inside after) : c.span = .behind before inside := by
  obtain ⟨front, hinside, hvalue⟩ := h.value
  rw [span, h.name.2, hvalue, hinside]
  simp only [Span.behind, Span.between, Span.merge, List.append_assoc]

/-- A clause among the tokens of a text stands in that text. -/
theorem exists_standsAs {text : String} {c : Clause} {front back : List Token}
    (h : (Token.streamOf text).1 = front ++ (c.tokens ++ back)) :
    ∃ before inside after, c.StandsAs text before inside after := by
  obtain ⟨d, shown, rest, htext, hfits, htokens, -⟩ := Layout.exists_fits [] text.toList
  rw [Cursor.behind_nil, ← Token.streamOf, h] at htokens
  -- The tokens of the clause are pieces of the layout, with gaps behind them.
  obtain ⟨pieces, behind, hpieces, -, hbehind⟩ := List.map_eq_append_iff.mp htokens
  obtain ⟨⟨name, gap₁⟩, behind₁, rfl, hname, hbehind₁⟩ := List.map_eq_cons_iff.mp hbehind
  obtain ⟨⟨sign, gap₂⟩, behind₂, rfl, hsign, hbehind₂⟩ := List.map_eq_cons_iff.mp hbehind₁
  obtain ⟨⟨value, gap₃⟩, behind₃, rfl, hvalue, -⟩ := List.map_eq_cons_iff.mp hbehind₂
  have hplacedName := hfits.placed pieces hpieces
  have hplacedValue := hfits.placed (pieces ++ [(name, gap₁), (sign, gap₂)])
    (by rw [hpieces, List.append_assoc]; rfl)
  have hwhole := hfits.whole
  rw [hpieces] at hwhole
  dsimp only at hname hsign hvalue
  subst hname hsign hvalue
  refine ⟨d.lead ++ Layout.spread pieces, c.name.text.toList ++ (gap₁ ++ (c.sign.text.toList ++
    (gap₂ ++ c.value.text.toList))), gap₃ ++ (Layout.spread behind₃ ++ rest), ?_, ⟨?_, ?_⟩, ?_⟩
  · rw [htext, ← hwhole]
    simp [Layout.spread]
  · exact List.prefix_append _ _
  · simpa using hplacedName
  · refine ⟨c.name.text.toList ++ (gap₁ ++ (c.sign.text.toList ++ gap₂)), by simp, ?_⟩
    rw [hplacedValue]
    simp [Layout.spread]

/-- A clause among some tokens stands there as three tokens in a row. -/
theorem exists_of_mem_windows {c : Clause} {ts : List Token} (h : c ∈ windows ts) :
    ∃ front back, ts = front ++ (c.tokens ++ back) := by
  induction ts with
  | nil => cases h
  | cons t ts ih =>
    rw [windows, List.mem_append, Option.mem_toList] at h
    rcases h with h | h
    · have htokens := eq_tokens_of_ofTokens? h
      refine ⟨[], (t :: ts).drop 3, ?_⟩
      rw [List.nil_append, ← htokens, List.take_append_drop]
    · obtain ⟨front, back, rfl⟩ := ih h
      exact ⟨t :: front, back, rfl⟩

end Clause

/-! ### Runs with different factories -/

namespace Automaton

variable {settings : ParserSettings} {make : Factory μ} {other : Factory ν} {text : String}
  {failure : Option LexicalError} {s : State} {held ts : List Token}

/-- A run that is refused a matcher ends there. All matchers before have been made. -/
theorem drive_of_refused {r : Request} {cause : String}
    (hmem : r ∈ (drive settings make text failure s held ts).asked)
    (hrefused : make r = .error cause) :
    ∃ front t c, ts = front ++ t :: (drive settings make text failure s held ts).left ∧
      Grammar.clausesIn held (front ++ [t]) = Grammar.clausesIn held front ++ [c] ∧
      c.request = r ∧ (∀ d ∈ Grammar.clausesIn held front, ∃ m, make d.request = .ok m) ∧
      (drive settings make text failure s held ts).result = .error (refusal text c cause) := by
  obtain ⟨front, back, s', ms, rfl, hrun, hmade, hstops⟩ := exists_stops settings make s held ts
  have hfront : ∀ d ∈ Grammar.clausesIn held front, ∃ m, make d.request = .ok m :=
    fun _ hd => exists_made_of_mem hmade hd
  rw [drive_append hrun hmade] at hmem ⊢
  -- The matchers of the clauses in `front` are made, so that `r` is asked for behind them.
  have hback : r ∈ (drive settings make text failure s' (front.foldl Grammar.extend held)
      back).asked := by
    rcases List.mem_append.mp hmem with h | h
    · obtain ⟨d, hd, rfl⟩ := List.mem_map.mp h
      obtain ⟨m, hm⟩ := hfront d hd
      rw [hm] at hrefused
      cases hrefused
    · exact h
  cases hstops with
  | done =>
    rw [drive] at hback
    unfold atEnd at hback
    split at hback <;> cases hback
  | token hstep =>
    rw [drive_of_error hstep] at hback
    cases hback
  | @clause s₁ c cause' t ts hstep hc hmake =>
    rw [drive_of_clause hstep hc, hmake] at hback ⊢
    obtain rfl : r = c.request := List.mem_singleton.mp hback
    obtain rfl : cause' = cause := Except.error.inj (hmake.symm.trans hrefused)
    refine ⟨front, t, c, rfl, ?_, rfl, hfront, rfl⟩
    rw [Grammar.clausesIn_append]
    simp [Grammar.clausesIn, hc]

/-- Factories that refuse nothing of what one of them is asked cannot be told apart. -/
theorem drive_alike (hmake : AcceptsAll make (drive settings make text failure s held ts).asked)
    (hother : AcceptsAll other (drive settings make text failure s held ts).asked) :
    (drive settings other text failure s held ts).asked =
        (drive settings make text failure s held ts).asked ∧
      (drive settings other text failure s held ts).left =
        (drive settings make text failure s held ts).left ∧
      Alike (drive settings make text failure s held ts).result
        (drive settings other text failure s held ts).result := by
  induction ts generalizing s held with
  | nil =>
    simp only [drive, atEnd]
    split <;> exact ⟨rfl, rfl, rfl⟩
  | cons t ts ih =>
    cases hstep : step settings s t.kind with
    | error x =>
      rw [drive_of_error hstep, drive_of_error hstep]
      exact ⟨rfl, rfl, rfl⟩
    | ok s' =>
      cases hc : Clause.ofTokens? (Grammar.extend held t) with
      | none =>
        rw [drive_of_none hstep hc] at hmake hother
        rw [drive_of_none hstep hc, drive_of_none hstep hc]
        exact ih hmake hother
      | some c =>
        rw [drive_of_clause hstep hc] at hmake hother
        rw [drive_of_clause hstep hc, drive_of_clause hstep hc]
        cases hm : make c.request with
        | error cause =>
          -- A refusal would have been asked for.
          rw [hm] at hmake
          obtain ⟨m, hm'⟩ := hmake c.request (List.mem_singleton_self _)
          rw [hm] at hm'
          cases hm'
        | ok m =>
          rw [hm] at hmake hother
          obtain ⟨n, hn⟩ := hother c.request List.mem_cons_self
          obtain ⟨hasked, hleft, halike⟩ :=
            ih (fun r hr => hmake r (List.mem_cons_of_mem _ hr))
              (fun r hr => hother r (List.mem_cons_of_mem _ hr))
          rw [hn]
          exact ⟨congrArg (c.request :: ·) hasked, hleft, halike.prepend c.request m n⟩

/-- A factory is asked what one that refuses nothing is asked, up to the first refusal. -/
theorem asked_drive_eq_untilRefused (hother : ∀ r, ∃ n, other r = .ok n) :
    (drive settings make text failure s held ts).asked =
      untilRefused make (drive settings other text failure s held ts).asked := by
  induction ts generalizing s held with
  | nil =>
    simp only [drive, atEnd]
    split <;> rfl
  | cons t ts ih =>
    cases hstep : step settings s t.kind with
    | error x =>
      rw [drive_of_error hstep, drive_of_error hstep]
      rfl
    | ok s' =>
      cases hc : Clause.ofTokens? (Grammar.extend held t) with
      | none =>
        rw [drive_of_none hstep hc, drive_of_none hstep hc]
        exact ih
      | some c =>
        obtain ⟨n, hn⟩ := hother c.request
        rw [drive_of_clause hstep hc, drive_of_clause hstep hc, hn]
        cases hm : make c.request with
        | error cause => simp [Outcome.prepend, untilRefused, hm]
        | ok m => simp [Outcome.prepend, untilRefused, hm, ih]

end Automaton

/-! ### Calls with different factories -/

/-- What one call for the selector `text` asks the factory `make` for, and how little its
    answers show. -/
structure AsksInOrder (text : String) (settings : ParserSettings) (make : Factory μ) : Prop where
  /-- The matchers asked for are those of all clauses among the tokens that are taken. -/
  clauses : ∃ taken,
    (Token.streamOf text).1 = taken ++ ((Parser.ofText text).parse settings make).2.left ∧
    ((Parser.ofText text).parse settings make).2.requests =
      (Clause.windows taken).map Clause.request
  /-- If the call succeeds, all tokens have been taken. -/
  finished : ∀ ms, parseWith text make settings = .ok ms →
    ((Parser.ofText text).parse settings make).2.left = []
  /-- The first clause that is refused is the last one asked for, and the error tells its
      place, whatever follows it. -/
  refused : ∀ r cause, r ∈ ((Parser.ofText text).parse settings make).2.requests →
    make r = .error cause →
    ∃ taken cs c before inside after,
      (Token.streamOf text).1 = taken ++ ((Parser.ofText text).parse settings make).2.left ∧
      Clause.windows taken = cs ++ [c] ∧ (∀ d ∈ cs, ∃ m, make d.request = .ok m) ∧
      c.request = r ∧
      ((Parser.ofText text).parse settings make).2.requests = cs.map Clause.request ++ [r] ∧
      c.StandsAs text before inside after ∧
      parseWith text make settings = .error (.grammar
        ⟨.matcher cause, .token (.behind before inside) (String.ofList inside)⟩)
  /-- If nothing is refused, every other factory that refuses nothing of it is asked the
      same, with the same error or as many matchers. -/
  agree : AcceptsAll make ((Parser.ofText text).parse settings make).2.requests →
    ∀ (ν : Type) (other : Factory ν),
      AcceptsAll other ((Parser.ofText text).parse settings make).2.requests →
      ((Parser.ofText text).parse settings other).2.requests =
          ((Parser.ofText text).parse settings make).2.requests ∧
        Alike (parseWith text make settings) (parseWith text other settings)
  /-- A factory that refuses nothing at all is asked the same up to the first refusal. -/
  cut : ∀ (ν : Type) (other : Factory ν), (∀ r, ∃ n, other r = .ok n) →
    ((Parser.ofText text).parse settings make).2.requests =
      untilRefused make ((Parser.ofText text).parse settings other).2.requests

/-- For every text, settings and factory, a call asks for each clause that it takes, in
    order and once, and is the same for all factories up to the first refusal. -/
theorem requests_in_order (text : String) (settings : ParserSettings) (make : Factory μ) :
    AsksInOrder text settings make := by
  have hgenuine := Parser.genuine_ofText text
  have hleft : ((Parser.ofText text).parse settings make).2.left =
      (play settings make text).left := Parser.left_parse hgenuine
  obtain ⟨taken, hstream, htaken, hrequests⟩ := Parser.exists_taken settings make hgenuine
  have hwindows : Clause.windows taken = Grammar.clausesIn [] taken := htaken.windows_eq
  have hasked : ((Parser.ofText text).parse settings make).2.requests =
      (Clause.windows taken).map Clause.request := by
    rw [hrequests, hwindows]
    rfl
  refine ⟨⟨taken, hstream, hasked⟩, ?_, ?_, ?_, ?_⟩
  · intro ms hok
    exact Parser.left_of_ok hgenuine hok
  · intro r cause hmem hrefused
    rw [requests_parse_eq_play] at hmem
    obtain ⟨front, t, c, hts, hlast, hrequest, hmade, hresult⟩ := drive_of_refused hmem hrefused
    -- The tokens taken are those up to the value of the clause that is refused.
    have heq : taken = front ++ [t] := by
      have hts' : (Token.streamOf text).1 =
          front ++ [t] ++ ((Parser.ofText text).parse settings make).2.left := by
        rw [hleft, ← List.append_cons]
        exact hts
      exact List.append_cancel_right (hstream.symm.trans hts')
    rw [← heq, ← hwindows] at hlast
    have hc : c ∈ Clause.windows taken := by
      rw [hlast]
      exact List.mem_append_right _ (List.mem_singleton_self c)
    obtain ⟨ahead, behind, hsplit⟩ := Clause.exists_of_mem_windows hc
    have hstream' : (Token.streamOf text).1 = ahead ++ (c.tokens ++
        (behind ++ ((Parser.ofText text).parse settings make).2.left)) := by
      rw [← List.append_assoc c.tokens, ← List.append_assoc ahead, ← hsplit]
      exact hstream
    obtain ⟨before, inside, after, hstands⟩ := Clause.exists_standsAs hstream'
    refine ⟨taken, _, c, before, inside, after, hstream, hlast, hmade, hrequest, ?_, hstands, ?_⟩
    · rw [hasked, hlast, List.map_append, List.map_singleton, hrequest]
    · rw [parseWith_eq_play, play, hresult, refusal, hstands.span_eq,
        Span.slice_behind hstands.whole]
  · intro hmake ν other hother
    rw [requests_parse_eq_play] at hmake hother
    obtain ⟨hsame, -, halike⟩ := drive_alike hmake hother
    rw [requests_parse_eq_play, requests_parse_eq_play, parseWith_eq_play, parseWith_eq_play]
    exact ⟨hsame, halike⟩
  · intro ν other hother
    rw [requests_parse_eq_play, requests_parse_eq_play]
    exact asked_drive_eq_untilRefused hother

end LabelSelector
