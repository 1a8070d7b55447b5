import LabelSelector.Proofs.Juncture
import LabelSelector.Proofs.Relayout

/-! # Insides of selectors

  What stands between the braces of a selector is its inside. An inside is a selector of its
  own where braces may be left out.

  - Behind clauses and a comma, exactly the insides go on.
  - An inside stands for the same requests wherever its words stand in a text.
  - A text without a brace in front has the matchers that it holds as an inside.
-/

namespace LabelSelector

open Automaton

variable {μ : Type}

/-! ### Insides of selectors -/

namespace Clause

/-- The tokens of a clause in front tell the clause. -/
theorem append_inj {c d : Clause} {ts us : List Token} (h : c.tokens ++ ts = d.tokens ++ us) :
    c = d ∧ ts = us := by
  have hlength : c.tokens.length = d.tokens.length := rfl
  obtain ⟨htokens, hrest⟩ := List.append_inj h hlength
  have hsome : some c = some d := by
    rw [← ofTokens?_tokens c, ← ofTokens?_tokens d, htokens]
  exact ⟨Option.some.inj hsome, hrest⟩

end Clause

namespace Grammar

variable {ts us : List Token} {cs ds : List Clause}

/-- The inside of a selector is a selector where braces may be left out, and does not start
    with one. -/
theorem inside_iff_selector :
    Inside ts cs ↔ Selector .lenient ts cs ∧ ∀ t ∈ ts.head?, t.kind ≠ .openBrace := by
  constructor
  · intro h
    exact ⟨.bare rfl h, h.head?_kind_ne⟩
  · rintro ⟨h, hhead⟩
    cases h with
    | bare _ h => exact h
    | braced hopening _ _ => exact absurd hopening (hhead _ rfl)

/-- Between braces, exactly the inside of a selector makes up a selector. -/
theorem selector_braces_iff {settings : ParserSettings} {opening closing : Token}
    (hopening : opening.kind = .openBrace) (hclosing : closing.kind = .closeBrace) :
    Selector settings (opening :: (ts ++ [closing])) cs ↔ Inside ts cs := by
  constructor
  · intro h
    generalize hall : opening :: (ts ++ [closing]) = all at h
    cases h with
    | bare _ h =>
      have hhead : opening ∈ all.head? := by rw [← hall]; rfl
      exact absurd hopening (h.head?_kind_ne opening hhead)
    | braced _ _ h =>
      obtain ⟨-, hts⟩ := List.cons.inj hall
      obtain ⟨rfl, -⟩ := List.append_inj' hts rfl
      exact h
  · intro h
    exact .braced hopening hclosing h

/-- A comma may stand between two insides, if there is a clause before it. -/
theorem Clauses.append_comma (h : Clauses ts cs) {comma : Token} (hcomma : comma.kind = .comma)
    (h' : Inside us ds) : Inside (ts ++ comma :: us) (cs ++ ds) := by
  induction h with
  | one c =>
    cases h' with
    | empty => exact .trailing (.one c) hcomma
    | plain h' => exact .plain (.more c hcomma h')
    | trailing h' hlast =>
      have hall := Inside.trailing (.more c hcomma h') hlast
      rwa [List.append_assoc, List.cons_append] at hall
  | @more c comma' ts cs hcomma' h ih =>
    rw [List.append_assoc, List.cons_append, List.cons_append]
    have hne : cs ++ ds ≠ [] := by
      intro hnil
      obtain ⟨rfl, -⟩ := List.append_eq_nil_iff.mp hnil
      cases h
    exact ih.cons_comma hne c hcomma'

/-- What stands behind a clause and a comma is an inside again. -/
theorem Inside.of_cons_comma {c : Clause} {comma : Token}
    (h : Inside (c.tokens ++ comma :: ts) cs) : ∃ ds, Inside ts ds ∧ cs = c :: ds := by
  generalize hall : c.tokens ++ comma :: ts = all at h
  cases h with
  | empty => cases hall
  | plain h =>
    cases h with
    | one d =>
      rw [← List.append_nil d.tokens] at hall
      cases (Clause.append_inj hall).2
    | more d _ h =>
      obtain ⟨rfl, hrest⟩ := Clause.append_inj hall
      cases hrest
      exact ⟨_, .plain h, rfl⟩
  | trailing h hlast =>
    cases h with
    | one d =>
      obtain ⟨rfl, hrest⟩ := Clause.append_inj hall
      cases hrest
      exact ⟨[], .empty, rfl⟩
    | more d _ h =>
      rw [List.append_assoc, List.cons_append] at hall
      obtain ⟨rfl, hrest⟩ := Clause.append_inj hall
      cases hrest
      exact ⟨_, .trailing h hlast, rfl⟩

/-- Exactly the insides go on behind clauses and a comma. -/
theorem Clauses.append_comma_iff (h : Clauses ts cs) {comma : Token} (hcomma : comma.kind = .comma)
    {all : List Clause} :
    Inside (ts ++ comma :: us) all ↔ ∃ ds, Inside us ds ∧ all = cs ++ ds := by
  constructor
  · intro hall
    induction h generalizing all with
    | one c => exact hall.of_cons_comma
    | more c _ _ ih =>
      rw [List.append_assoc, List.cons_append] at hall
      obtain ⟨rest, hrest, rfl⟩ := hall.of_cons_comma
      obtain ⟨ds, hds, rfl⟩ := ih hrest
      exact ⟨ds, hds, rfl⟩
  · rintro ⟨ds, hds, rfl⟩
    exact h.append_comma hcomma hds

/-- Clauses with a name in front and no comma behind them end with a clause. -/
theorem Inside.clauses (h : Inside ts cs) (hne : ts ≠ [])
    (hlast : ∀ t ∈ ts.getLast?, t.kind ≠ .comma) : Clauses ts cs := by
  cases h with
  | empty => exact absurd rfl hne
  | plain h => exact h
  | trailing _ hcomma => exact absurd hcomma (hlast _ (by simp))

/-! ### The same words elsewhere -/

theorem Clauses.of_sameWords (h : Clauses ts cs) (hwords : SameWords ts us) :
    ∃ ds, Clauses us ds ∧ ds.map Clause.request = cs.map Clause.request := by
  induction h generalizing us with
  | one c =>
    obtain ⟨d, rfl, hrequest⟩ := hwords.exists_clause
    exact ⟨[d], .one d, by rw [List.map_singleton, List.map_singleton, hrequest]⟩
  | more c hcomma _ ih =>
    obtain ⟨front, back, rfl, hfront, hback⟩ := hwords.exists_append
    obtain ⟨comma, rest, rfl, hword, hrest⟩ := hback.exists_cons
    obtain ⟨d, rfl, hrequest⟩ := hfront.exists_clause
    obtain ⟨ds, hds, hrequests⟩ := ih hrest
    have hkind : comma.kind = .comma := (Token.kind_eq_of_word hword).symm.trans hcomma
    exact ⟨d :: ds, .more d hkind hds, by rw [List.map_cons, List.map_cons, hrequest, hrequests]⟩

/-- Insides with the same words stand for the same requests. -/
theorem Inside.of_sameWords (h : Inside ts cs) (hwords : SameWords ts us) :
    ∃ ds, Inside us ds ∧ ds.map Clause.request = cs.map Clause.request := by
  cases h with
  | empty =>
    obtain rfl : us = [] := List.map_eq_nil_iff.mp hwords.symm
    exact ⟨[], .empty, rfl⟩
  | plain h =>
    obtain ⟨ds, hds, hrequests⟩ := h.of_sameWords hwords
    exact ⟨ds, .plain hds, hrequests⟩
  | trailing h hcomma =>
    obtain ⟨front, back, rfl, hfront, hback⟩ := hwords.exists_append
    obtain ⟨comma, rest, rfl, hword, hrest⟩ := hback.exists_cons
    obtain rfl : rest = [] := List.map_eq_nil_iff.mp hrest.symm
    obtain ⟨ds, hds, hrequests⟩ := h.of_sameWords hfront
    exact ⟨ds, .trailing hds ((Token.kind_eq_of_word hword).symm.trans hcomma), hrequests⟩

end Grammar

/-! ### Matchers of insides -/

namespace Automaton

/-- The matchers made for some clauses come before those of the clauses behind them. -/
theorem makes_append_iff {make : Factory μ} {cs ds : List Clause} {made ms : List μ}
    (h : Makes make cs made) :
    Makes make (cs ++ ds) ms ↔ ∃ rest, Makes make ds rest ∧ ms = made ++ rest := by
  constructor
  · intro hall
    induction h generalizing ms with
    | nil => exact ⟨ms, hall, rfl⟩
    | @cons c m cs made hm _ ih =>
      cases hall with
      | @cons _ m' _ ms hm' hrest =>
        obtain rfl : m = m' := Except.ok.inj (hm.symm.trans hm')
        obtain ⟨rest, hmade, rfl⟩ := ih hrest
        exact ⟨rest, hmade, rfl⟩
  · rintro ⟨rest, hrest, rfl⟩
    exact List.rel_append h hrest

end Automaton

namespace Ahead

variable {make : Factory μ} {ms : List μ}

/-- What is ahead is the inside of a selector, and the matchers are made for its clauses. -/
def Holds (make : Factory μ) (a : Ahead) (ms : List μ) : Prop :=
  a.2 = none ∧ ∃ cs, Grammar.Inside a.1 cs ∧ Makes make cs ms

theorem Holds.of_sameWords {a a' : Ahead} (h : a.Holds make ms) (hwords : SameWords a.1 a'.1)
    (hend : a'.2 = none) : a'.Holds make ms := by
  obtain ⟨-, cs, hcs, hmade⟩ := h
  obtain ⟨ds, hds, hrequests⟩ := hcs.of_sameWords hwords
  -- The matchers depend on the requests alone.
  have hasked : List.Forall₂ (fun r m => make r = .ok m) (ds.map Clause.request) ms := by
    rw [hrequests]
    exact List.forall₂_map_left_iff.mpr hmade
  exact ⟨hend, ds, hds, List.forall₂_map_left_iff.mp hasked⟩

/-- It does not count where the inside of a selector stands. -/
theorem holds_shift_iff (k : Cursor) (a : Ahead) : (a.shift k).Holds make ms ↔ a.Holds make ms := by
  have hwords : SameWords a.1 (a.shift k).1 := by
    simp [SameWords, shift, Token.word, Token.shift, Function.comp_def]
  constructor
  · intro h
    refine h.of_sameWords (Eq.symm hwords) ?_
    have hend : a.2.map (LexicalError.shift k) = none := h.1
    exact Option.map_eq_none_iff.mp hend
  · intro h
    refine h.of_sameWords hwords ?_
    show a.2.map (LexicalError.shift k) = none
    rw [h.1]
    rfl

/-- Behind clauses and a comma, the matchers of what follows come behind those of the
    clauses. -/
theorem holds_prepend_comma_iff {ts : List Token} {cs : List Clause} {made : List μ}
    (h : Grammar.Clauses ts cs) (hmade : Makes make cs made) {comma : Token}
    (hcomma : comma.kind = .comma) (a : Ahead) :
    (a.prepend (ts ++ [comma])).Holds make ms ↔ ∃ rest, a.Holds make rest ∧ ms = made ++ rest := by
  have hts : (a.prepend (ts ++ [comma])).1 = ts ++ comma :: a.1 := by simp [prepend]
  unfold Holds
  rw [hts]
  constructor
  · rintro ⟨hend, all, hall, hms⟩
    obtain ⟨ds, hds, rfl⟩ := (h.append_comma_iff hcomma).mp hall
    obtain ⟨rest, hrest, rfl⟩ := (makes_append_iff hmade).mp hms
    exact ⟨rest, ⟨hend, ds, hds, hrest⟩, rfl⟩
  · rintro ⟨rest, ⟨hend, ds, hds, hrest⟩, rfl⟩
    exact ⟨hend, cs ++ ds, h.append_comma hcomma hds,
      (makes_append_iff hmade).mpr ⟨rest, hrest, rfl⟩⟩

end Ahead

/-- A text has matchers if it is a selector for whose clauses they are made. -/
theorem parseWith_eq_ok_iff {text : String} {make : Factory μ} {settings : ParserSettings}
    {ms : List μ} :
    parseWith text make settings = .ok ms ↔ (Token.streamOf text).2 = none ∧
      ∃ cs, Grammar.Selector settings (Token.streamOf text).1 cs ∧ Makes make cs ms := by
  rw [parseWith_eq_play, play_eq_ok_iff]
  constructor
  · intro h
    exact ⟨h.scanned, h.exists_selector⟩
  · rintro ⟨hend, cs, hcs, hmade⟩
    exact passes_of_selector (Prod.ext rfl hend) hcs hmade

/-- The text starts with an opening brace. -/
def StartsBraced (text : String) : Prop :=
  ∃ t ∈ (Token.streamOf text).1.head?, t.kind = .openBrace

instance (text : String) : Decidable (StartsBraced text) :=
  inferInstanceAs (Decidable (∃ t ∈ (Token.streamOf text).1.head?, t.kind = .openBrace))

/-- A text without a brace in front has the matchers that it holds as the inside of a
    selector. -/
theorem holds_streamOf_iff {text : String} {make : Factory μ} {ms : List μ} :
    Ahead.Holds make (Token.streamOf text) ms ↔
      parseWith text make .lenient = .ok ms ∧ ¬ StartsBraced text := by
  have hstart : ¬ StartsBraced text ↔
      ∀ t ∈ (Token.streamOf text).1.head?, t.kind ≠ .openBrace := by
    simp [StartsBraced]
  rw [parseWith_eq_ok_iff, hstart]
  unfold Ahead.Holds
  constructor
  · rintro ⟨hend, cs, hcs, hmade⟩
    obtain ⟨hselector, hhead⟩ := Grammar.inside_iff_selector.mp hcs
    exact ⟨⟨hend, cs, hselector, hmade⟩, hhead⟩
  · rintro ⟨⟨hend, cs, hselector, hmade⟩, hhead⟩
    exact ⟨hend, cs, Grammar.inside_iff_selector.mpr ⟨hselector, hhead⟩, hmade⟩

end LabelSelector
