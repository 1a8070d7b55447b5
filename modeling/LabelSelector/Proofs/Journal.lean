import LabelSelector.Proofs.Descent
import LabelSelector.Proofs.Schedule

/-! # The log of a call

  Reading a selector reports tokens, clauses and errors from many places: the scanner
  reports what it scans, the grammar what it reads and misses, and the call how it ended.
  Tokens are looked at, set aside and asked for again in between. Here the reports of a call
  are shown to agree with what happened.

  - An `Account` says what a step has to report: the tokens it scanned, the clauses it asked
    matchers for, and the error it failed with. A step that reports this, from wherever it
    starts, is `Truthful`.
  - Steps put together are truthful if their parts are, and so is the whole grammar.
-/

namespace LabelSelector

open Log (Event)

/-! ### Events and errors -/

/-- The events with a message. -/
def told (message : String) (es : List Event) : List Event :=
  es.filter fun e => e.message == message

theorem told_append (message : String) (es es' : List Event) :
    told message (es ++ es') = told message es ++ told message es' := List.filter_append es es'

/-- What is reported of a clause when its matcher is asked for. -/
def Request.event (r : Request) : Event := .clauseRead r.name r.operator r.raw

namespace ParseError

variable {α β : Type}

/-- The lexical error that a call failed with. -/
def lexical? : Except ParseError α → Option LexicalError
  | .error (.lexical e _) => some e
  | .error (.grammar _) | .ok _ => none

/-- What is reported of the token, or of the end, that a call failed at because the grammar
    asks for something else. A matcher that is refused is no such failure. -/
def misfit? : Except ParseError α → Option Event
  | .error (.grammar ⟨.matcher _, _⟩) => none
  | .error (.grammar ⟨x, l⟩) => some (.unexpected l.describe x)
  | .error (.lexical _ _) | .ok _ => none

/-- Failures with the same error have the same lexical error, whatever was asked for. -/
theorem lexical?_error (e : ParseError) :
    lexical? (.error e : Except ParseError β) = lexical? (.error e : Except ParseError α) := by
  cases e <;> rfl

/-- Failures with the same error have the same misfit, whatever was asked for. -/
theorem misfit?_error (e : ParseError) :
    misfit? (.error e : Except ParseError β) = misfit? (.error e : Except ParseError α) := by
  cases e with
  | lexical e expected => rfl
  | grammar e =>
    obtain ⟨x, l⟩ := e
    cases x <;> rfl

theorem lexical?_expecting (x : Expectation) (e : ParseError) :
    lexical? (.error (e.expecting x) : Except ParseError β) =
      lexical? (.error e : Except ParseError α) := by
  cases e with
  | lexical e expected => cases expected <;> rfl
  | grammar e => rfl

theorem misfit?_expecting (x : Expectation) (e : ParseError) :
    misfit? (.error (e.expecting x) : Except ParseError β) =
      misfit? (.error e : Except ParseError α) := by
  cases e with
  | lexical e expected => cases expected <;> rfl
  | grammar e => exact misfit?_error _

theorem misfit?_of_ne_matcher {x : Expectation} (hx : ∀ cause, x ≠ .matcher cause)
    (l : Location) :
    misfit? (.error (.grammar ⟨x, l⟩) : Except ParseError α) =
      some (.unexpected l.describe x) := by
  cases x with
  | matcher cause => exact absurd rfl (hx cause)
  | _ => rfl

end ParseError

open ParseError (lexical? misfit?)

/-! ### Accounts -/

/-- The tokens that the scanner of a parser has not handed out. -/
def Parser.unscanned (p : Parser) : List Token := p.lookahead.scanner.ahead.1

/-- What has to be reported when a step leads from one parser to another with a result. -/
structure Account {α : Type} (p : Parser) (es : List Event) (r : Except ParseError α)
    (q : Parser) : Prop where
  /-- Each token that was scanned, once and in order. -/
  tokens : ∃ ts, told "Produced token" es = ts.map Event.tokenRead ∧
    p.unscanned = ts ++ q.unscanned
  /-- Each clause for which a matcher was asked, once and in order. -/
  clauses : ∃ rs, told "Parsed matcher" es = rs.map Request.event ∧
    q.requests = p.requests ++ rs
  /-- The lexical error, if the step failed with one, -/
  lexical : told "Lex error encountered" es = (lexical? r).toList.map Event.scanFailed
  /-- which has stopped the scanner. -/
  stopped : q.lookahead.scanner.failure = lexical? r
  /-- What did not fit, if the step failed for that. -/
  misfit : told "Unexpected token" es = (misfit? r).toList
  /-- The end of the call is no matter of a step. -/
  silent : told "Parse failed" es = [] ∧ told "Parsed matcher list" es = [] ∧
    told "parse completed" es = []

namespace Account

variable {α β : Type} {p q q' : Parser} {es es' : List Event} {a : α} {r : Except ParseError β}

/-- Where nothing is scanned, asked for or wrong, there is nothing to report. -/
theorem nothing (hp : p.lookahead.scanner.failure = none)
    (hscanner : q.lookahead.scanner = p.lookahead.scanner) (hrequests : q.requests = p.requests)
    (a : α) : Account p [] (.ok a) q := by
  refine ⟨⟨[], rfl, ?_⟩, ⟨[], rfl, ?_⟩, rfl, ?_, rfl, ⟨rfl, rfl, rfl⟩⟩
  · show p.unscanned = q.unscanned
    rw [Parser.unscanned, Parser.unscanned, hscanner]
  · rw [hrequests, List.append_nil]
  · show q.lookahead.scanner.failure = none
    rw [hscanner, hp]

/-- Accounts of steps in a row make up the account of both. -/
theorem append (h : Account p es (.ok a) q) (h' : Account q es' r q') :
    Account p (es ++ es') r q' := by
  obtain ⟨ts, hts, hunscanned⟩ := h.tokens
  obtain ⟨ts', hts', hunscanned'⟩ := h'.tokens
  obtain ⟨rs, hrs, hrequests⟩ := h.clauses
  obtain ⟨rs', hrs', hrequests'⟩ := h'.clauses
  obtain ⟨hfailed, hlist, hcompleted⟩ := h.silent
  obtain ⟨hfailed', hlist', hcompleted'⟩ := h'.silent
  have hlexical : told "Lex error encountered" es = [] := h.lexical
  have hmisfit : told "Unexpected token" es = [] := h.misfit
  refine ⟨⟨ts ++ ts', ?_, ?_⟩, ⟨rs ++ rs', ?_, ?_⟩, ?_, h'.stopped, ?_, ?_, ?_, ?_⟩
  · rw [told_append, hts, hts', List.map_append]
  · rw [hunscanned, hunscanned', List.append_assoc]
  · rw [told_append, hrs, hrs', List.map_append]
  · rw [hrequests', hrequests, List.append_assoc]
  · rw [told_append, hlexical, List.nil_append, h'.lexical]
  · rw [told_append, hmisfit, List.nil_append, h'.misfit]
  · rw [told_append, hfailed, hfailed', List.append_nil]
  · rw [told_append, hlist, hlist', List.append_nil]
  · rw [told_append, hcompleted, hcompleted', List.append_nil]

/-- What is asked of an account depends on the result only by the error in it. -/
theorem congr_result {r' : Except ParseError α} (h : Account p es r q)
    (hlexical : lexical? r' = lexical? r) (hmisfit : misfit? r' = misfit? r) :
    Account p es r' q := by
  refine ⟨h.tokens, h.clauses, ?_, ?_, ?_, h.silent⟩
  · rw [hlexical, h.lexical]
  · rw [hlexical, h.stopped]
  · rw [hmisfit, h.misfit]

end Account

/-! ### Calls for tokens -/

/-- What a scan reports is what it finds, as long as the scanner has not been stopped. -/
theorem Scanner.report_eq (s : Scanner) (hs : s.failure = none) :
    (∃ t, s.scan.1 = .ok (some t) ∧ s.report = [.tokenRead t] ∧ s.scan.2.failure = none ∧
      s.ahead.1 = t :: s.scan.2.ahead.1) ∨
    (s.scan.1 = .ok none ∧ s.report = [.inputEnded] ∧ s.scan.2.failure = none ∧
      s.ahead.1 = s.scan.2.ahead.1) ∨
    (∃ e, s.scan.1 = .error e ∧ s.report = [.scanFailed e] ∧ s.scan.2.failure = some e ∧
      s.ahead.1 = s.scan.2.ahead.1) := by
  obtain ⟨hfirst, hrest, -⟩ := s.scan_eq
  have htokens : s.scan.2.ahead.1 = s.ahead.1.tail := congrArg Prod.fst hrest
  -- No error was known before, so one that is known now has been answered.
  have hstopped : ∀ e, s.scan.2.failure = some e ↔ s.scan.1 = .error e := by
    intro e
    have hcall : s.scan.2.failure = some e ↔ s.failure = some e ∨ s.scan.1 = .error e :=
      s.error_call .take e
    have hnone : s.failure ≠ some e := by
      rw [hs]
      nofun
    rw [hcall, or_iff_right hnone]
  have hgoes : ∀ found, s.scan.1 = .ok found → s.scan.2.failure = none := by
    intro found hfound
    cases hfailure : s.scan.2.failure with
    | none => rfl
    | some e => cases hfound.symm.trans ((hstopped e).mp hfailure)
  rcases hahead : s.ahead with ⟨ts, failure⟩
  rw [hahead] at hfirst htokens
  cases ts with
  | cons t ts =>
    have hreport : s.report = [.tokenRead t] := by
      simp only [Scanner.report, hs, hfirst, Ahead.first]
    exact .inl ⟨t, hfirst, hreport, hgoes _ hfirst, by rw [htokens]; rfl⟩
  | nil =>
    cases failure with
    | none =>
      have hreport : s.report = [.inputEnded] := by
        simp only [Scanner.report, hs, hfirst, Ahead.first]
      exact .inr (.inl ⟨hfirst, hreport, hgoes _ hfirst, htokens.symm⟩)
    | some e =>
      have hreport : s.report = [.scanFailed e] := by
        simp only [Scanner.report, hs, hfirst, Ahead.first]
      exact .inr (.inr ⟨e, hfirst, hreport, (hstopped e).mpr hfirst, htokens.symm⟩)

/-- A call for a token is answered by the token set aside, or by a scan. -/
def Lookahead.Asks (l : Lookahead) (found : Answer) (l' : Lookahead) : Prop :=
  (∃ t, found = .ok (some t) ∧ l.report = [] ∧ l'.scanner = l.scanner) ∨
    (found = l.scanner.scan.1 ∧ l.report = l.scanner.report ∧ l'.scanner = l.scanner.scan.2)

namespace Lookahead

theorem asks_next (l : Lookahead) : l.Asks l.next.1 l.next.2 := by
  unfold Asks next report
  cases l.buffered with
  | some t => exact .inl ⟨t, rfl, rfl, rfl⟩
  | none => exact .inr ⟨rfl, rfl, rfl⟩

theorem asks_peek (l : Lookahead) : l.Asks l.peek.1 l.peek.2 := by
  unfold Asks peek report
  cases l.buffered with
  | some t => exact .inl ⟨t, rfl, rfl, rfl⟩
  | none =>
    right
    dsimp only
    split
    · next found scanner hscan =>
      rw [hscan]
      exact ⟨rfl, rfl, rfl⟩
    · next e scanner hscan =>
      rw [hscan]
      exact ⟨rfl, rfl, rfl⟩

end Lookahead

/-- A call for a token reports what it scans. -/
theorem Account.call {p q : Parser} {found : Answer} (hp : p.lookahead.scanner.failure = none)
    (h : p.lookahead.Asks found q.lookahead) (hrequests : q.requests = p.requests) :
    Account p p.lookahead.report (Step.answer found) q := by
  have hnoRequests : q.requests = p.requests ++ [] := by rw [hrequests, List.append_nil]
  rcases h with ⟨t, rfl, hreport, hscanner⟩ | ⟨rfl, hreport, hscanner⟩
  · rw [hreport]
    exact Account.nothing hp hscanner hrequests (some t)
  · rw [hreport]
    have htokens : q.unscanned = p.lookahead.scanner.scan.2.ahead.1 := by
      rw [Parser.unscanned, hscanner]
    have hstopped : q.lookahead.scanner.failure = p.lookahead.scanner.scan.2.failure := by
      rw [hscanner]
    rcases p.lookahead.scanner.report_eq hp with ⟨t, hscan, hsaid, hfailure, hahead⟩ |
      ⟨hscan, hsaid, hfailure, hahead⟩ | ⟨e, hscan, hsaid, hfailure, hahead⟩
    · have hscanned : p.unscanned = [t] ++ q.unscanned := by
        rw [htokens]
        exact hahead
      rw [hscan, hsaid]
      exact ⟨⟨[t], rfl, hscanned⟩, ⟨[], rfl, hnoRequests⟩, rfl, hstopped.trans hfailure, rfl,
        rfl, rfl, rfl⟩
    · have hscanned : p.unscanned = q.unscanned := by
        rw [htokens]
        exact hahead
      rw [hscan, hsaid]
      exact ⟨⟨[], rfl, hscanned⟩, ⟨[], rfl, hnoRequests⟩, rfl, hstopped.trans hfailure, rfl,
        rfl, rfl, rfl⟩
    · have hscanned : p.unscanned = q.unscanned := by
        rw [htokens]
        exact hahead
      rw [hscan, hsaid]
      exact ⟨⟨[], rfl, hscanned⟩, ⟨[], rfl, hnoRequests⟩, rfl, hstopped.trans hfailure, rfl,
        rfl, rfl, rfl⟩

/-! ### Truthful steps -/

namespace Step

variable {α β μ : Type} {m : Step α} {f : α → Step β} {p : Parser}

/-- From a parser that has not met a lexical error, a step reports what it has to. -/
def Truthful (m : Step α) (p : Parser) : Prop :=
  p.lookahead.scanner.failure = none →
    ∃ es, (m p).2.events = p.events ++ es ∧ Account p es (m p).1 (m p).2

theorem truthful_of_nothing {a : α} (hresult : (m p).1 = .ok a)
    (hscanner : (m p).2.lookahead.scanner = p.lookahead.scanner)
    (hrequests : (m p).2.requests = p.requests) (hevents : (m p).2.events = p.events) :
    Truthful m p := by
  intro hp
  refine ⟨[], ?_, ?_⟩
  · rw [hevents, List.append_nil]
  · rw [hresult]
    exact Account.nothing hp hscanner hrequests a

theorem truthful_pure (a : α) (p : Parser) : Truthful (pure a : Step α) p :=
  truthful_of_nothing (a := a) rfl rfl rfl rfl

theorem truthful_ask (g : Parser → α) (p : Parser) : Truthful (ask g) p :=
  truthful_of_nothing (a := g p) rfl rfl rfl rfl

theorem truthful_setOpened (p : Parser) : Truthful setOpened p :=
  truthful_of_nothing (a := ()) rfl rfl rfl rfl

/-- A step that goes on with another is truthful if both are. -/
theorem Truthful.bind (hm : Truthful m p) (hf : ∀ a q, m p = (.ok a, q) → Truthful (f a) q) :
    Truthful (m >>= f) p := by
  intro hp
  obtain ⟨es, hevents, haccount⟩ := hm hp
  cases hmp : m p with
  | mk r q =>
    rw [hmp] at hevents haccount
    cases r with
    | error e =>
      rw [bind_of_error hmp]
      exact ⟨es, hevents, haccount.congr_result (ParseError.lexical?_error e)
        (ParseError.misfit?_error e)⟩
    | ok a =>
      rw [bind_of_ok hmp]
      obtain ⟨es', hevents', haccount'⟩ := hf a q hmp haccount.stopped
      refine ⟨es ++ es', ?_, haccount.append haccount'⟩
      rw [hevents', hevents, List.append_assoc]

theorem truthful_next (p : Parser) : Truthful next p := by
  intro hp
  exact ⟨p.lookahead.report, Parser.events_note p _,
    Account.call hp p.lookahead.asks_next rfl⟩

theorem truthful_peek (p : Parser) : Truthful peek p := by
  intro hp
  exact ⟨p.lookahead.report, Parser.events_note p _,
    Account.call hp p.lookahead.asks_peek rfl⟩

theorem Truthful.expecting (x : Expectation) (hm : Truthful m p) : Truthful (expecting x m) p := by
  intro hp
  obtain ⟨es, hevents, haccount⟩ := hm hp
  unfold Step.expecting
  cases hmp : m p with
  | mk r q =>
    rw [hmp] at hevents haccount
    cases r with
    | ok a => exact ⟨es, hevents, haccount⟩
    | error e =>
      refine ⟨es, hevents, ?_⟩
      exact haccount.congr_result (ParseError.lexical?_expecting x e)
        (ParseError.misfit?_expecting x e)

/-- What does not fit is reported before the step fails. -/
theorem truthful_unexpected {x : Expectation} (hx : ∀ cause, x ≠ .matcher cause)
    (found : Option Token) (p : Parser) : Truthful (unexpected x found : Step α) p := by
  intro hp
  have haccount : ∀ l : Location, l.describe = Token.describe found →
      Account p [.unexpected (Token.describe found) x]
        (.error (.grammar ⟨x, l⟩) : Except ParseError α)
        (p.note [.unexpected (Token.describe found) x]) := by
    intro l hl
    refine ⟨⟨[], rfl, rfl⟩, ⟨[], rfl, (List.append_nil _).symm⟩, rfl, hp, ?_, rfl, rfl, rfl⟩
    rw [ParseError.misfit?_of_ne_matcher hx, hl]
    rfl
  refine ⟨[.unexpected (Token.describe found) x], ?_, ?_⟩
  · cases found <;> exact Parser.events_note p _
  · cases found with
    | some t => exact haccount (.token t.span t.text) rfl
    | none => exact haccount (.endOfInput p.lookahead.stop) rfl

/-! ### The grammar is truthful -/

theorem truthful_take {x : Expectation} (hx : ∀ cause, x ≠ .matcher cause)
    (want : Token → Option α) (p : Parser) : Truthful (take x want) p := by
  unfold take
  refine ((truthful_next p).expecting x).bind ?_
  intro found q _
  cases found with
  | none => exact truthful_unexpected hx none q
  | some t =>
    dsimp only
    cases want t with
    | some a => exact truthful_pure a q
    | none => exact truthful_unexpected hx (some t) q

/-- A clause is reported when its matcher is asked for, whether it can be made or not. -/
theorem truthful_create (make : Factory μ) (r : Request) (span : Span) (p : Parser) :
    Truthful (create make r span) p := by
  intro hp
  have hrequests : ∀ q : Parser, q.asked = r :: p.asked → q.requests = p.requests ++ [r] := by
    intro q hq
    rw [Parser.requests, hq, List.reverse_cons]
    rfl
  cases hmake : make r with
  | ok m =>
    have hcreate : create make r span p =
        (.ok m, { p.note [r.event] with asked := r :: p.asked }) := by
      rw [create, hmake]
      rfl
    rw [hcreate]
    exact ⟨[r.event], Parser.events_note p [r.event],
      ⟨[], rfl, rfl⟩, ⟨[r], rfl, hrequests _ rfl⟩, rfl, hp, rfl, rfl, rfl, rfl⟩
  | error cause =>
    have hcreate : create make r span p =
        (.error (.grammar ⟨.matcher cause, .token span (span.slice p.lookahead.input)⟩),
          { p.note [r.event] with asked := r :: p.asked }) := by
      rw [create, hmake]
      rfl
    rw [hcreate]
    exact ⟨[r.event], Parser.events_note p [r.event],
      ⟨[], rfl, rfl⟩, ⟨[r], rfl, hrequests _ rfl⟩, rfl, hp, rfl, rfl, rfl, rfl⟩

theorem truthful_clause (make : Factory μ) (p : Parser) : Truthful (clause make) p := by
  unfold clause clauseAfter
  rw [expect_eq_take, operator_eq_take, value_eq_take]
  refine (truthful_take (by nofun) _ p).bind ?_
  intro name q _
  refine (truthful_take (by nofun) _ q).bind ?_
  intro op q _
  refine (truthful_take (by nofun) _ q).bind ?_
  intro v q _
  exact truthful_create make _ _ q

theorem truthful_afterComma (p : Parser) : Truthful afterComma p := by
  unfold afterComma
  refine ((truthful_peek p).expecting _).bind ?_
  intro found q _
  cases found with
  | none => exact truthful_pure () q
  | some t =>
    dsimp only
    split
    · exact truthful_pure () q
    · exact truthful_unexpected (by nofun) (some t) q

theorem truthful_separator (p : Parser) : Truthful separator p := by
  unfold separator
  refine ((truthful_peek p).expecting _).bind ?_
  intro found q _
  cases found with
  | none =>
    refine (truthful_ask _ q).bind ?_
    intro opened q' _
    cases opened with
    | true => exact truthful_unexpected (by nofun) none q'
    | false => exact truthful_pure () q'
  | some t =>
    dsimp only
    split
    · exact truthful_pure () q
    · split
      · refine (truthful_next q).bind ?_
        intro _ q' _
        exact truthful_afterComma q'
      · exact truthful_unexpected (by nofun) (some t) q

/-- By induction on the tokens to come: each round of the loop leaves fewer. -/
theorem truthful_clauses (make : Factory μ) (p : Parser) :
    Truthful (clauses make : Step (List μ)) p := by
  induction hn : p.remaining using Nat.strongRecOn generalizing p with
  | _ n ih =>
    rw [clauses_eq]
    refine (truthful_peek p).bind ?_
    intro found q hpeek
    split
    · exact truthful_pure [] q
    · refine (truthful_clause make q).bind ?_
      intro m q₂ hclause
      refine (truthful_separator q₂).bind ?_
      intro u q₃ hseparator
      have hlooked := shrinks_peek p
      have hread := remaining_clause hclause
      have hseparated := shrinks_separator q₂
      rw [hpeek] at hlooked
      rw [hseparator] at hseparated
      have hlt : q₃.remaining < n := by
        rw [← hn]
        exact Nat.lt_of_le_of_lt hseparated (Nat.lt_of_lt_of_le hread hlooked)
      refine (ih q₃.remaining hlt q₃ rfl).bind ?_
      intro ms q₄ _
      exact truthful_pure (m :: ms) q₄

theorem truthful_openBrace (settings : ParserSettings) (p : Parser) :
    Truthful (openBrace settings) p := by
  unfold openBrace
  refine (truthful_peek p).bind ?_
  intro found q _
  split
  · refine (truthful_next q).bind ?_
    intro _ q' _
    exact truthful_setOpened q'
  · split
    · refine (truthful_peek q).bind ?_
      intro found' q' _
      exact truthful_unexpected (by nofun) found' q'
    · exact truthful_pure () q

theorem truthful_closeBrace (p : Parser) : Truthful closeBrace p := by
  unfold closeBrace
  refine (truthful_ask _ p).bind ?_
  intro opened q _
  cases opened with
  | false => exact truthful_pure () q
  | true =>
    refine (truthful_next q).bind ?_
    intro found q' _
    split
    · exact truthful_pure () q'
    · exact truthful_unexpected (by nofun) found q'

theorem truthful_endOfInput (p : Parser) : Truthful endOfInput p := by
  unfold endOfInput
  refine (truthful_next p).bind ?_
  intro found q _
  cases found with
  | none => exact truthful_pure () q
  | some t =>
    refine (truthful_ask _ q).bind ?_
    intro opened q' _
    split
    · exact truthful_unexpected (by nofun) (some t) q'
    · exact truthful_unexpected (by nofun) (some t) q'

/-- A selector, without the report that it has been read. -/
def unreported (settings : ParserSettings) (make : Factory μ) : Step (List μ) := do
  openBrace settings
  let ms ← (clauses make : Step (List μ))
  closeBrace
  endOfInput
  return ms

theorem truthful_unreported (settings : ParserSettings) (make : Factory μ) (p : Parser) :
    Truthful (unreported settings make) p := by
  unfold unreported
  refine (truthful_openBrace settings p).bind ?_
  intro _ q _
  refine (truthful_clauses make q).bind ?_
  intro ms q _
  refine (truthful_closeBrace q).bind ?_
  intro _ q _
  refine (truthful_endOfInput q).bind ?_
  intro _ q _
  exact truthful_pure ms q

/-- Reports that the list has been read, and answers it. -/
def reportList (ms : List μ) : Step (List μ) := do
  emit (.listRead ms.length (← ask Parser.opened))
  return ms

theorem selector_eq_unreported (settings : ParserSettings) (make : Factory μ) :
    selector settings make = unreported settings make >>= reportList := by
  unfold unreported
  rw [bind_assoc]
  show openBrace settings >>= _ = openBrace settings >>= _
  congr 1
  funext _
  refine Eq.trans ?_ (bind_assoc (clauses make : Step (List μ)) _ _).symm
  congr 1
  funext ms
  rw [bind_assoc]
  congr 1
  funext _
  rw [bind_assoc]
  rfl

end Step

end LabelSelector
