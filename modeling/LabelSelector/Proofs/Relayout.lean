import LabelSelector.Proofs.Pairing

/-! # Layout does not count

  Blanks between the tokens of a text move these tokens to other places. They change
  nothing else: what a parser does depends on the words that the tokens are.

  - Clauses with the same words are the same requests, and are found between the same
    tokens.
  - An error can be told without any place, by the number of the token or of the clause
    that it is at (`Blame`).
  - Runs over the same words ask for the same matchers, and end with these matchers or with
    errors that are told in the same way.
-/

namespace LabelSelector

open Automaton

variable {μ : Type}

/-! ### Words -/

theorem Token.kind_eq_of_word {t t' : Token} (h : t.word = t'.word) : t.kind = t'.kind :=
  (Prod.mk.inj h).1

theorem Token.text_eq_of_word {t t' : Token} (h : t.word = t'.word) : t.text = t'.text :=
  String.toList_inj.mp (Prod.mk.inj h).2

/-- The same words in the same order, wherever they stand. -/
def SameWords (ts ts' : List Token) : Prop := ts.map Token.word = ts'.map Token.word

namespace SameWords

variable {ts ts' held held' : List Token} {t t' : Token}

theorem cons_iff : SameWords (t :: ts) (t' :: ts') ↔ t.word = t'.word ∧ SameWords ts ts' :=
  List.cons_eq_cons

theorem append (hheld : SameWords held held') (h : SameWords ts ts') :
    SameWords (held ++ ts) (held' ++ ts') := by
  unfold SameWords
  rw [List.map_append, List.map_append, hheld, h]

theorem length_eq (h : SameWords ts ts') : ts.length = ts'.length := by
  simpa using congrArg List.length h

theorem map_kind (h : SameWords ts ts') : ts.map Token.kind = ts'.map Token.kind := by
  simpa [Token.word, Function.comp_def] using congrArg (List.map Prod.fst) h

/-- Where one list can be cut, the other can be too. -/
theorem exists_append {front back : List Token} (h : SameWords (front ++ back) ts') :
    ∃ front' back', ts' = front' ++ back' ∧ SameWords front front' ∧ SameWords back back' := by
  unfold SameWords at h
  rw [List.map_append] at h
  obtain ⟨front', back', rfl, hfront, hback⟩ := List.map_eq_append_iff.mp h.symm
  exact ⟨front', back', rfl, hfront.symm, hback.symm⟩

theorem exists_cons (h : SameWords (t :: ts) ts') :
    ∃ u us, ts' = u :: us ∧ t.word = u.word ∧ SameWords ts us := by
  obtain ⟨u, us, rfl, hword, hwords⟩ := List.map_eq_cons_iff.mp h.symm
  exact ⟨u, us, rfl, hword.symm, hwords.symm⟩

/-! ### Clauses -/

/-- The words of a clause are those of clauses with the same request only. -/
theorem exists_clause {c : Clause} (h : SameWords c.tokens ts') :
    ∃ c' : Clause, c'.tokens = ts' ∧ c'.request = c.request := by
  obtain ⟨name, ts₁, rfl, hname, h⟩ := h.exists_cons
  obtain ⟨sign, ts₂, rfl, hsign, h⟩ := h.exists_cons
  obtain ⟨value, ts₃, rfl, hvalue, h⟩ := h.exists_cons
  obtain rfl : ts₃ = [] := List.map_eq_nil_iff.mp h.symm
  let c' : Clause :=
    { name, sign, value
      operator := c.operator
      name_kind := (Token.kind_eq_of_word hname).symm.trans c.name_kind
      sign_kind := (Token.kind_eq_of_word hsign).symm.trans c.sign_kind
      value_kind := Token.kind_eq_of_word hvalue ▸ c.value_kind
      operator_eq := Token.text_eq_of_word hsign ▸ c.operator_eq }
  refine ⟨c', rfl, ?_⟩
  have hraw : c'.raw = c.raw := by
    unfold Clause.raw
    rw [Token.kind_eq_of_word hvalue, Token.text_eq_of_word hvalue]
  unfold Clause.request
  rw [hraw, Token.text_eq_of_word hname]

theorem exists_ofTokens? {c : Clause} (h : SameWords ts ts')
    (hc : Clause.ofTokens? ts = some c) :
    ∃ c', Clause.ofTokens? ts' = some c' ∧ c'.request = c.request := by
  rw [Clause.eq_tokens_of_ofTokens? hc] at h
  obtain ⟨c', rfl, hrequest⟩ := h.exists_clause
  exact ⟨c', Clause.ofTokens?_tokens c', hrequest⟩

theorem map_request_ofTokens? (h : SameWords ts ts') :
    (Clause.ofTokens? ts).map Clause.request = (Clause.ofTokens? ts').map Clause.request := by
  cases hc : Clause.ofTokens? ts with
  | some c =>
    obtain ⟨c', hc', hrequest⟩ := h.exists_ofTokens? hc
    rw [hc', Option.map_some, Option.map_some, hrequest]
  | none =>
    cases hc' : Clause.ofTokens? ts' with
    | none => rfl
    | some c' =>
      -- A clause on the other side would be one on this side.
      obtain ⟨c, hsome, -⟩ := SameWords.exists_ofTokens? (Eq.symm h) hc'
      rw [hc] at hsome
      cases hsome

theorem extend (hheld : SameWords held held') (ht : t.word = t'.word) :
    SameWords (Grammar.extend held t) (Grammar.extend held' t') := by
  unfold Grammar.extend
  rw [Token.kind_eq_of_word ht]
  split
  · rfl
  · exact hheld.append (cons_iff.mpr ⟨ht, rfl⟩)

theorem foldl_extend (hheld : SameWords held held') (h : SameWords ts ts') :
    SameWords (ts.foldl Grammar.extend held) (ts'.foldl Grammar.extend held') := by
  induction ts generalizing ts' held held' with
  | nil =>
    obtain rfl : ts' = [] := List.map_eq_nil_iff.mp h.symm
    exact hheld
  | cons t ts ih =>
    obtain ⟨u, us, rfl, hword, hwords⟩ := h.exists_cons
    rw [List.foldl_cons, List.foldl_cons]
    exact ih (hheld.extend hword) hwords

/-- The same words hold clauses with the same requests. -/
theorem map_request_clausesIn (hheld : SameWords held held') (h : SameWords ts ts') :
    (Grammar.clausesIn held ts).map Clause.request =
      (Grammar.clausesIn held' ts').map Clause.request := by
  induction ts generalizing ts' held held' with
  | nil =>
    obtain rfl : ts' = [] := List.map_eq_nil_iff.mp h.symm
    rfl
  | cons t ts ih =>
    obtain ⟨u, us, rfl, hword, hwords⟩ := h.exists_cons
    have hextend := hheld.extend hword
    rw [Grammar.clausesIn, Grammar.clausesIn, List.map_append, List.map_append, ih hextend hwords,
      ← Option.toList_map, ← Option.toList_map, hextend.map_request_ofTokens?]

/-- The matchers made for some clauses are made for all clauses with the same words. -/
theorem makes {make : Factory μ} {ms : List μ} (hheld : SameWords held held')
    (h : SameWords ts ts') (hmade : Makes make (Grammar.clausesIn held ts) ms) :
    Makes make (Grammar.clausesIn held' ts') ms := by
  have hrequests : List.Forall₂ (fun r m => make r = .ok m)
      ((Grammar.clausesIn held ts).map Clause.request) ms := List.forall₂_map_left_iff.mpr hmade
  rw [hheld.map_request_clausesIn h] at hrequests
  exact List.forall₂_map_left_iff.mp hrequests

end SameWords

/-- The tokens since the last brace or comma are the last ones that have been read. -/
theorem Grammar.foldl_extend_suffix (held ts : List Token) :
    ts.foldl extend held <:+ held ++ ts := by
  induction ts generalizing held with
  | nil => rw [List.append_nil]; exact List.suffix_rfl
  | cons t ts ih =>
    refine (ih (extend held t)).trans ?_
    rw [List.append_cons]
    unfold extend
    split
    · exact List.suffix_append_of_suffix List.suffix_rfl
    · exact List.suffix_rfl

/-- A clause that a token completes is made of the last three tokens. -/
theorem Clause.take_drop_eq_tokens {c : Clause} {front back : List Token} {t : Token}
    (hc : ofTokens? (Grammar.extend (front.foldl Grammar.extend []) t) = some c) :
    ((front ++ t :: back).drop (front.length - 2)).take 3 = c.tokens := by
  have htokens := eq_tokens_of_ofTokens? hc
  obtain ⟨gone, hgone⟩ := Grammar.foldl_extend_suffix [] front
  cases hmark : Grammar.isMark t.kind with
  | true =>
    rw [Grammar.extend_of_isMark hmark] at htokens
    cases htokens
  | false =>
    rw [Grammar.extend_of_not_isMark hmark] at htokens
    rw [List.nil_append] at hgone
    have hlength := congrArg List.length htokens
    simp only [List.length_append, tokens, List.length_cons, List.length_nil] at hlength
    have hskip : front.length - 2 = gone.length := by
      rw [← hgone, List.length_append]
      omega
    rw [hskip, List.append_cons, ← hgone, List.append_assoc gone, List.append_assoc, htokens,
      List.drop_left]
    rfl

/-! ### Errors without places -/

/-- An error without its place in the text: tokens are told by their numbers. -/
inductive Blame where
  /-- The token of this number does not fit. -/
  | token (number : Nat) (expected : Expectation)
  /-- The clause that starts with the token of this number is refused. -/
  | clause (number : Nat) (cause : String)
  /-- Something is missing at the end of the text. -/
  | missing (expected : Expectation)
  /-- No token can be read behind the last one, where the grammar asks for something. -/
  | lexical (expected : Option Expectation)
  deriving DecidableEq, Repr

/-- The error is that one, for a text that has some tokens to come and an error or the end
    behind them. Only clauses are refused. -/
inductive Blame.Tells (text : String) (a : Ahead) : Blame → ParseError → Prop where
  | token {k : Nat} {t : Token} {x : Expectation} : a.1[k]? = some t →
      (∀ cause, x ≠ .matcher cause) →
      Tells text a (.token k x) (.grammar ⟨x, .token t.span t.text⟩)
  | clause {k : Nat} {c : Clause} {cause : String} : (a.1.drop k).take 3 = c.tokens →
      Tells text a (.clause k cause)
        (.grammar ⟨.matcher cause, .token c.span (c.span.slice text)⟩)
  | missing {x : Expectation} : a.2 = none →
      Tells text a (.missing x) (.grammar ⟨x, .behind text⟩)
  | lexical {e : LexicalError} {x : Option Expectation} : a.2 = some e →
      Tells text a (.lexical x) (.lexical e x)

/-- Two answers that differ in places only: the same matchers, or errors that are told in
    the same way. -/
inductive Agree (text : String) (a : Ahead) (text' : String) (a' : Ahead) :
    Except ParseError (List μ) → Except ParseError (List μ) → Prop where
  | matchers (ms : List μ) : Agree text a text' a' (.ok ms) (.ok ms)
  | blame (b : Blame) {err err' : ParseError} : b.Tells text a err → b.Tells text' a' err' →
      Agree text a text' a' (.error err) (.error err')

/-- The same matchers in front keep answers in agreement. -/
theorem Agree.prepend {text text' : String} {a a' : Ahead} {out out' : Outcome μ}
    (h : Agree text a text' a' out.result out'.result) (rs rs' : List Request) (ms : List μ) :
    Agree text a text' a' (out.prepend rs ms).result (out'.prepend rs' ms).result := by
  obtain ⟨result, left, opened, asked⟩ := out
  obtain ⟨result', left', opened', asked'⟩ := out'
  cases h with
  | matchers ms' => exact .matchers (ms ++ ms')
  | blame b hb hb' => exact .blame b hb hb'

/-! ### Runs over the same words -/

namespace Automaton

variable {settings : ParserSettings} {make : Factory μ} {text text' : String} {a a' : Ahead}

/-- Behind the last token, only the state counts, and whether an error comes. -/
theorem atEnd_agree (s : State) (hends : a.2.isSome = a'.2.isSome) :
    (atEnd settings text a.2 s : Outcome μ).asked =
        (atEnd settings text' a'.2 s : Outcome μ).asked ∧
      Agree text a text' a' (atEnd settings text a.2 s : Outcome μ).result
        (atEnd settings text' a'.2 s : Outcome μ).result := by
  obtain ⟨ts, failure⟩ := a
  obtain ⟨ts', failure'⟩ := a'
  unfold atEnd
  cases failure with
  | some e =>
    obtain ⟨e', rfl⟩ := Option.isSome_iff_exists.mp hends.symm
    exact ⟨rfl, .blame (.lexical (hint s)) (.lexical rfl) (.lexical rfl)⟩
  | none =>
    obtain rfl : failure' = none := Option.isNone_iff_eq_none.mp (by simpa using hends.symm)
    cases finish settings s with
    | some x => exact ⟨rfl, .blame (.missing x) (.missing rfl) (.missing rfl)⟩
    | none => exact ⟨rfl, .matchers []⟩

/-- Runs over the same words ask for the same matchers and answer the same. -/
theorem drive_agree (s : State) (hwords : SameWords a.1 a'.1)
    (hends : a.2.isSome = a'.2.isSome) :
    (drive settings make text a.2 s [] a.1).asked =
        (drive settings make text' a'.2 s [] a'.1).asked ∧
      Agree text a text' a' (drive settings make text a.2 s [] a.1).result
        (drive settings make text' a'.2 s [] a'.1).result := by
  obtain ⟨front, back, s', ms, hts, hrun, hmade, hstops⟩ := exists_stops settings make s [] a.1
  rw [hts] at hwords
  obtain ⟨front', back', hts', hfront, hback⟩ := hwords.exists_append
  have hheld : SameWords (front.foldl Grammar.extend []) (front'.foldl Grammar.extend []) :=
    SameWords.foldl_extend rfl hfront
  -- What the first run takes, the second takes too, and with the same requests.
  have hdrive : drive settings make text a.2 s [] (front ++ back) = _ := drive_append hrun hmade
  have hdrive' : drive settings make text' a'.2 s [] (front' ++ back') = _ :=
    drive_append (hfront.map_kind ▸ hrun) (SameWords.makes rfl hfront hmade)
  rw [← SameWords.map_request_clausesIn rfl hfront] at hdrive'
  rw [← hts] at hdrive
  rw [← hts'] at hdrive'
  suffices hstop : (drive settings make text a.2 s' (front.foldl Grammar.extend []) back).asked =
        (drive settings make text' a'.2 s' (front'.foldl Grammar.extend []) back').asked ∧
      Agree text a text' a'
        (drive settings make text a.2 s' (front.foldl Grammar.extend []) back).result
        (drive settings make text' a'.2 s' (front'.foldl Grammar.extend []) back').result by
    rw [hdrive, hdrive']
    exact ⟨congrArg (_ ++ ·) hstop.1, hstop.2.prepend _ _ ms⟩
  cases hstops with
  | done =>
    obtain rfl : back' = [] := List.map_eq_nil_iff.mp hback.symm
    exact atEnd_agree s' hends
  | @token x t ts hstep =>
    obtain ⟨t', ts₁, rfl, hword, -⟩ := hback.exists_cons
    rw [drive_of_error hstep, drive_of_error (Token.kind_eq_of_word hword ▸ hstep)]
    have hx : ∀ cause, x ≠ .matcher cause := by
      rintro cause rfl
      exact step_ne_matcher hstep
    refine ⟨rfl, .blame (.token front.length x) (.token ?_ hx) (.token ?_ hx)⟩
    · rw [hts]
      simp
    · rw [hts', hfront.length_eq]
      simp
  | @clause s₁ c cause t ts hstep hc hmake =>
    obtain ⟨t', ts₁, rfl, hword, -⟩ := hback.exists_cons
    obtain ⟨c', hc', hrequest⟩ := (hheld.extend hword).exists_ofTokens? hc
    rw [drive_of_clause hstep hc, drive_of_clause (Token.kind_eq_of_word hword ▸ hstep) hc',
      hrequest, hmake]
    refine ⟨rfl, .blame (.clause (front.length - 2) cause) (.clause ?_) (.clause ?_)⟩
    · rw [hts, Clause.take_drop_eq_tokens hc]
    · rw [hts', hfront.length_eq, Clause.take_drop_eq_tokens hc']

end Automaton

/-! ### Texts with the same words -/

/-- Two texts that differ in layout only: they have the same words, and then both end or
    both have a lexical error. -/
structure SameButLayout (text text' : String) : Prop where
  words : SameWords (Token.streamOf text).1 (Token.streamOf text').1
  ends : (Token.streamOf text).2.isSome = (Token.streamOf text').2.isSome

/-- Layout does not count. For texts that differ in layout only, parsers with the same
    settings and factory ask for the same matchers. They answer the same matchers, or errors
    that differ in nothing but the places of the tokens. -/
theorem parseWith_agree {text text' : String} (h : SameButLayout text text')
    (settings : ParserSettings) (make : Factory μ) :
    ((Parser.ofText text).parse settings make).2.requests =
        ((Parser.ofText text').parse settings make).2.requests ∧
      Agree text (Token.streamOf text) text' (Token.streamOf text')
        (parseWith text make settings) (parseWith text' make settings) := by
  rw [requests_parse_eq_play, requests_parse_eq_play, parseWith_eq_play, parseWith_eq_play]
  exact drive_agree initial h.words h.ends

/-- A clause that is refused in one line is refused in two, where it starts with the token
    of the same number. -/
theorem relaid_clause_refused :
    let make : Factory Request := fun r => if r.name = "c" then .error "no" else .ok r
    SameButLayout "a=\"é\",c=d%" "a = \"é\",\n\tc= d\"" ∧
      parseWith "a=\"é\",c=d%" make ⟨false⟩ =
        .error (.grammar ⟨.matcher "no", .token ⟨7, 10, 6, 9⟩ "c=d"⟩) ∧
      Agree "a=\"é\",c=d%" (Token.streamOf "a=\"é\",c=d%")
        "a = \"é\",\n\tc= d\"" (Token.streamOf "a = \"é\",\n\tc= d\"")
        (parseWith "a=\"é\",c=d%" make ⟨false⟩)
        (parseWith "a = \"é\",\n\tc= d\"" make ⟨false⟩) := by
  intro make
  have hsame : SameButLayout "a=\"é\",c=d%" "a = \"é\",\n\tc= d\"" :=
    ⟨by unfold SameWords; decide +kernel, by decide +kernel⟩
  refine ⟨hsame, ?_, (parseWith_agree hsame ⟨false⟩ make).2⟩
  rw [parseWith_eq_play]
  decide +kernel

end LabelSelector
