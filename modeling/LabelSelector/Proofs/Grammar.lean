import LabelSelector.Expression.Parser

/-! # The grammar of selectors over tokens

  What a selector is, said without any reading:

      selector := '{' clauses '}' | clauses
      clauses  := nothing | clause (',' clause)* ','?
      clause   := name operator value

  - a clause carries its three tokens, and from them the request it stands for,
  - without braces a selector is one only where braces may be left out,
  - a sequence of kinds is accepted if it is that of a selector, and viable if it can
    be continued to one that is accepted.
-/

namespace LabelSelector

/-! ### Clauses -/

/-- The tokens of a clause, each of the kind it has to be. -/
structure Clause where
  /-- The name of the label. -/
  name : Token
  /-- The token of the operator. -/
  sign : Token
  /-- The value. -/
  value : Token
  /-- The operator that is written so. -/
  operator : Operator
  name_kind : name.kind = .identifier
  sign_kind : sign.kind = .operator
  value_kind : value.kind = .quoted ∨ value.kind = .identifier
  operator_eq : Operator.ofText? sign.text = some operator

namespace Clause

/-- The tokens in order. -/
def tokens (c : Clause) : List Token := [c.name, c.sign, c.value]

/-- The value as written: a quoted text loses its first and its last character. -/
def raw (c : Clause) : String :=
  if c.value.kind = .quoted then String.ofList c.value.text.toList.tail.dropLast
  else c.value.text

/-- The request that the clause stands for. -/
def request (c : Clause) : Request := ⟨c.operator, c.name.text, c.raw⟩

/-- The stretch of text from the name to the value. -/
def span (c : Clause) : Span := c.name.span.merge c.value.span

/-- The clause that some tokens make up, if they do. -/
def ofTokens? : List Token → Option Clause
  | [name, sign, value] =>
    match hop : Operator.ofText? sign.text with
    | none => none
    | some op =>
      if h : name.kind = .identifier ∧ sign.kind = .operator ∧
          (value.kind = .quoted ∨ value.kind = .identifier) then
        some ⟨name, sign, value, op, h.1, h.2.1, h.2.2, hop⟩
      else none
  | _ => none

/-- The tokens of a clause make up that clause. -/
@[simp] theorem ofTokens?_tokens (c : Clause) : ofTokens? c.tokens = some c := by
  obtain ⟨name, sign, value, op, hname, hsign, hvalue, hop⟩ := c
  simp only [tokens, ofTokens?]
  split
  · next hnone => rw [hop] at hnone; cases hnone
  · next op' hsome =>
    obtain rfl : op = op' := Option.some.inj (hop.symm.trans hsome)
    rw [dif_pos ⟨hname, hsign, hvalue⟩]

end Clause

/-! ### Selectors -/

namespace Grammar

/-- One clause or more with commas between them. -/
inductive Clauses : List Token → List Clause → Prop where
  /-- A single clause. -/
  | one (c : Clause) : Clauses c.tokens [c]
  /-- A clause before others. -/
  | more (c : Clause) {comma : Token} {ts : List Token} {cs : List Clause} :
      comma.kind = .comma → Clauses ts cs → Clauses (c.tokens ++ comma :: ts) (c :: cs)

/-- The inside of a selector. -/
inductive Inside : List Token → List Clause → Prop where
  /-- Nothing at all. -/
  | empty : Inside [] []
  /-- Clauses. -/
  | plain {ts : List Token} {cs : List Clause} : Clauses ts cs → Inside ts cs
  /-- Clauses with a comma behind the last one. -/
  | trailing {comma : Token} {ts : List Token} {cs : List Clause} :
      Clauses ts cs → comma.kind = .comma → Inside (ts ++ [comma]) cs

/-- A whole selector. -/
inductive Selector (settings : ParserSettings) : List Token → List Clause → Prop where
  /-- Without braces. -/
  | bare {ts : List Token} {cs : List Clause} :
      settings.requireBraces = false → Inside ts cs → Selector settings ts cs
  /-- Between braces. -/
  | braced {opening closing : Token} {ts : List Token} {cs : List Clause} :
      opening.kind = .openBrace → closing.kind = .closeBrace → Inside ts cs →
        Selector settings (opening :: (ts ++ [closing])) cs

/-- The sequences of kinds that selectors have. -/
def Accepted (settings : ParserSettings) (ks : List Token.Kind) : Prop :=
  ∃ ts cs, Selector settings ts cs ∧ ts.map Token.kind = ks

/-- The sequences of kinds that can be continued to the kinds of a selector. -/
def Viable (settings : ParserSettings) (ks : List Token.Kind) : Prop :=
  ∃ more, Accepted settings (ks ++ more)

/-- What a viable sequence starts with is viable. -/
theorem Viable.of_append {settings : ParserSettings} {ks ks' : List Token.Kind}
    (h : Viable settings (ks ++ ks')) : Viable settings ks := by
  obtain ⟨more, hmore⟩ := h
  exact ⟨ks' ++ more, by rwa [← List.append_assoc]⟩

/-! ### Clauses from the left

  A reader meets the clauses from the left, and behind each of them the end of the
  list, a last comma, or a comma and another clause. -/

/-- What follows a clause up to the end of the list. -/
inductive Following : List Token → List Clause → Prop where
  | nothing : Following [] []
  | comma {comma : Token} : comma.kind = .comma → Following [comma] []
  | clause {comma : Token} (c : Clause) {ts : List Token} {cs : List Clause} :
      comma.kind = .comma → Following ts cs → Following (comma :: (c.tokens ++ ts)) (c :: cs)

theorem Inside.cons_comma {ts : List Token} {cs : List Clause} (h : Inside ts cs) (hne : cs ≠ [])
    (c : Clause) {comma : Token} (hcomma : comma.kind = .comma) :
    Inside (c.tokens ++ comma :: ts) (c :: cs) := by
  cases h with
  | empty => exact absurd rfl hne
  | plain hts => exact .plain (.more c hcomma hts)
  | @trailing last ts cs hts hlast =>
    have := Inside.trailing (.more c hcomma hts) hlast
    rwa [List.append_assoc, List.cons_append] at this

/-- A clause and what follows it are the inside of a selector. -/
theorem Following.inside {ts : List Token} {cs : List Clause} (h : Following ts cs) (c : Clause) :
    Inside (c.tokens ++ ts) (c :: cs) := by
  induction h generalizing c with
  | nothing => exact .plain (by simpa using Clauses.one c)
  | comma hcomma => exact .trailing (.one c) hcomma
  | clause d hcomma _ ih => exact (ih d).cons_comma (by simp) c hcomma

/-! ### Tokens of clauses -/

/-- Clauses start with a name. -/
theorem Clauses.head?_kind {ts : List Token} {cs : List Clause} (h : Clauses ts cs) :
    ∀ t ∈ ts.head?, t.kind = .identifier := by
  have hname : ∀ (c : Clause) (ts : List Token), ∀ t ∈ (c.tokens ++ ts).head?,
      t.kind = .identifier := by
    rintro c ts t ht
    cases ht
    exact c.name_kind
  cases h with
  | one c => simpa using hname c []
  | more c => exact hname c _

theorem Inside.head?_kind_ne {ts : List Token} {cs : List Clause} (h : Inside ts cs) :
    ∀ t ∈ ts.head?, t.kind ≠ .openBrace := by
  intro t ht
  cases h with
  | empty => cases ht
  | plain hts => simp [hts.head?_kind t ht]
  | @trailing comma ts cs hts hcomma =>
    cases ts with
    | nil =>
      cases ht
      simp [hcomma]
    | cons u ts => simp [hts.head?_kind t ht]

/-- The tokens of a clause are among those of the clauses. -/
theorem Clauses.tokens_subset {ts : List Token} {cs : List Clause} (h : Clauses ts cs) {c : Clause}
    (hc : c ∈ cs) : c.tokens ⊆ ts := by
  induction h with
  | one d =>
    obtain rfl := List.mem_singleton.mp hc
    exact List.Subset.refl _
  | more d hcomma _ ih =>
    rcases List.mem_cons.mp hc with rfl | hc
    · exact List.subset_append_left _ _
    · exact List.subset_append_of_subset_right _ (List.subset_cons_of_subset _ (ih hc))

theorem Inside.tokens_subset {ts : List Token} {cs : List Clause} (h : Inside ts cs) {c : Clause}
    (hc : c ∈ cs) : c.tokens ⊆ ts := by
  cases h with
  | empty => cases hc
  | plain h => exact h.tokens_subset hc
  | trailing h => exact List.subset_append_of_subset_left _ (h.tokens_subset hc)

theorem Selector.tokens_subset {settings : ParserSettings} {ts : List Token} {cs : List Clause}
    (h : Selector settings ts cs) {c : Clause} (hc : c ∈ cs) : c.tokens ⊆ ts := by
  cases h with
  | bare _ h => exact h.tokens_subset hc
  | braced _ _ h =>
    exact List.subset_cons_of_subset _
      (List.subset_append_of_subset_left _ (h.tokens_subset hc))

/-! ### Finding the clauses

  Braces and commas separate clauses, so the clauses of a selector can be found
  without knowing where braces and commas may stand. -/

/-- Whether tokens of a kind stand between clauses. -/
def isMark : Token.Kind → Bool
  | .openBrace | .closeBrace | .comma => true
  | .identifier | .operator | .quoted => false

/-- The tokens since the last brace or comma, after one more token. -/
def extend (held : List Token) (t : Token) : List Token :=
  if isMark t.kind then [] else held ++ [t]

/-- The clauses in a list of tokens, when the tokens `held` stand before it. -/
def clausesIn (held : List Token) : List Token → List Clause
  | [] => []
  | t :: ts => (Clause.ofTokens? (extend held t)).toList ++ clausesIn (extend held t) ts

theorem extend_of_isMark {t : Token} (h : isMark t.kind = true) (held : List Token) :
    extend held t = [] := by
  rw [extend, if_pos h]

theorem extend_of_not_isMark {t : Token} (h : isMark t.kind = false) (held : List Token) :
    extend held t = held ++ [t] := by
  rw [extend, if_neg (by simp [h])]

theorem clausesIn_mark {t : Token} (h : isMark t.kind = true) (held ts : List Token) :
    clausesIn held (t :: ts) = clausesIn [] ts := by
  simp [clausesIn, extend_of_isMark h, Clause.ofTokens?]

/-- The clauses in two lists of tokens, one behind the other. -/
theorem clausesIn_append (held front back : List Token) :
    clausesIn held (front ++ back) =
      clausesIn held front ++ clausesIn (front.foldl extend held) back := by
  induction front generalizing held with
  | nil => rfl
  | cons t front ih => simp [clausesIn, ih]

theorem clausesIn_append_mark {t : Token} (h : isMark t.kind = true) (held ts : List Token) :
    clausesIn held (ts ++ [t]) = clausesIn held ts := by
  rw [clausesIn_append, clausesIn_mark h, clausesIn, List.append_nil]

theorem clausesIn_clause (c : Clause) (ts : List Token) :
    clausesIn [] (c.tokens ++ ts) = c :: clausesIn c.tokens ts := by
  have hname : extend [] c.name = [c.name] :=
    extend_of_not_isMark (by rw [c.name_kind]; rfl) []
  have hsign : extend [c.name] c.sign = [c.name, c.sign] :=
    extend_of_not_isMark (by rw [c.sign_kind]; rfl) [c.name]
  have hvalue : extend [c.name, c.sign] c.value = c.tokens :=
    extend_of_not_isMark (by rcases c.value_kind with h | h <;> rw [h] <;> rfl) [c.name, c.sign]
  -- Only with the third token is there a clause.
  change clausesIn [] (c.name :: c.sign :: c.value :: ts) = _
  simp only [clausesIn, hname, hsign, hvalue, Clause.ofTokens?_tokens, Option.toList_some,
    List.singleton_append]
  rfl

theorem Clauses.clausesIn_eq {ts : List Token} {cs : List Clause} (h : Clauses ts cs) :
    clausesIn [] ts = cs := by
  induction h with
  | one c => simpa [clausesIn] using clausesIn_clause c []
  | more c hcomma _ ih =>
    rw [clausesIn_clause, clausesIn_mark (by rw [hcomma]; rfl), ih]

theorem Inside.clausesIn_eq {ts : List Token} {cs : List Clause} (h : Inside ts cs) :
    clausesIn [] ts = cs := by
  cases h with
  | empty => rfl
  | plain h => exact h.clausesIn_eq
  | trailing h hcomma =>
    rw [clausesIn_append_mark (by rw [hcomma]; rfl), h.clausesIn_eq]

/-- The clauses of a selector are those found in its tokens. -/
theorem Selector.clausesIn_eq {settings : ParserSettings} {ts : List Token} {cs : List Clause}
    (h : Selector settings ts cs) : clausesIn [] ts = cs := by
  cases h with
  | bare _ h => exact h.clausesIn_eq
  | braced hopening hclosing h =>
    rw [clausesIn_mark (by rw [hopening]; rfl), clausesIn_append_mark (by rw [hclosing]; rfl),
      h.clausesIn_eq]

end Grammar

end LabelSelector
