import LabelSelector.Proofs.Verdict

/-! # Writing selectors

  A selector is written as a sequence of words, each of them a lexeme of a kind, with
  blanks wherever one likes:

  - a clause is three words, and clauses have commas between them,
  - one more comma may stand behind the last clause,
  - braces may stand around all of it.

  Whatever the choices, the words are the tokens that are read, and the clauses are
  those that were written.
-/

namespace LabelSelector

/-- A lexeme to be written, and the kind it is of. -/
abbrev Word : Type := Token.Kind × List Char

/-- The word that a token is. -/
def Token.word (t : Token) : Word := (t.kind, t.text.toList)

theorem Token.eq_of_word {t : Token} {kind : Token.Kind} {chars : List Char}
    (h : t.word = (kind, chars)) : t.kind = kind ∧ t.text = String.ofList chars := by
  obtain ⟨hkind, hchars⟩ := Prod.mk.inj h
  exact ⟨hkind, by rw [← hchars, String.ofList_toList]⟩

namespace Word

def comma : Word := (.comma, [','])

def openBrace : Word := (.openBrace, ['\x7b'])

def closeBrace : Word := (.closeBrace, ['\x7d'])

/-- The operator as a word. -/
def ofOperator (op : Operator) : Word := (.operator, op.text.toList)

/-- A name as a word. -/
def ofName (chars : List Char) : Word := (.identifier, chars)

/-- A quoted text as a word; `body` stands between the quotes. -/
def ofBody (body : List Char) : Word := (.quoted, '"' :: (body ++ ['"']))

end Word

namespace Writing

/-! ### Words of selectors -/

/-- Words with blanks before, between and behind them. -/
inductive Spaced : List Word → List Char → Prop where
  | finish {gap : List Char} : Layout.Blank gap → Spaced [] gap
  | word {gap rest : List Char} {w : Word} {ws : List Word} :
      Layout.Blank gap → Spaced ws rest → Spaced (w :: ws) (gap ++ (w.2 ++ rest))

/-- Words can be written without any blanks. -/
theorem spaced_flatMap (ws : List Word) : Spaced ws (ws.flatMap Prod.snd) := by
  induction ws with
  | nil => exact .finish nofun
  | cons w ws ih => exact @Spaced.word [] _ w ws nofun ih

/-- The words of a selector whose clauses are written as the given groups of words. -/
def selectorWords (groups : List (List Word)) (trailing braced : Bool) : List Word :=
  let inside := [Word.comma].intercalate groups ++ if trailing then [.comma] else []
  if braced then .openBrace :: (inside ++ [.closeBrace]) else inside

/-- The characters of clauses with commas between them. -/
theorem flatMap_intercalate_comma (groups : List (List Word)) :
    ([Word.comma].intercalate groups).flatMap Prod.snd =
      [','].intercalate (groups.map (·.flatMap Prod.snd)) := by
  induction groups with
  | nil => rfl
  | cons group groups ih =>
    cases groups with
    | nil => simp [List.intercalate_singleton]
    | cons next groups =>
      rw [List.intercalate_cons_cons, List.map_cons, List.map_cons, List.intercalate_cons_cons,
        ← List.map_cons, ← ih]
      simp [Word.comma]

/-- The words of a clause whose value is written as the word `value`. -/
def clauseWords (name : String) (op : Operator) (value : Word) : List Word :=
  [.ofName name.toList, .ofOperator op, value]

/-- The text is one of those in which some items are written as the clauses of a selector,
    when `words` tells how an item is written. -/
def Writes {α : Type} (words : α → List Word → Prop) (items : List α) (braced : Bool)
    (text : String) : Prop :=
  ∃ groups trailing, List.Forall₂ words items groups ∧ (trailing = true → items ≠ []) ∧
    Spaced (selectorWords groups trailing braced) text.toList

/-- How a raw value is written: between quotes as it is, or bare if it is a name. -/
inductive RawWord (raw : String) : Word → Prop where
  | quoted : Lexeme.Body raw.toList → RawWord raw (.ofBody raw.toList)
  | bare : Lexeme.Spells .identifier raw.toList → RawWord raw (.ofName raw.toList)

/-- How a request is written. -/
inductive RequestWords (r : Request) : List Word → Prop where
  | words {w : Word} : Lexeme.Spells .identifier r.name.toList → RawWord r.raw w →
      RequestWords r (clauseWords r.name r.operator w)

/-- Items that are written like others can take their place. -/
theorem Writes.exists_of_forall {α β : Type} {words : α → List Word → Prop}
    {words' : β → List Word → Prop} {R : α → β → Prop} {items : List α} {braced : Bool}
    {text : String} (h : Writes words items braced text)
    (hwords : ∀ a ws, words a ws → ∃ b, words' b ws ∧ R a b) :
    ∃ items', Writes words' items' braced text ∧ List.Forall₂ R items items' := by
  obtain ⟨groups, trailing, hgroups, htrailing, hspaced⟩ := h
  -- The groups of words stay; the items are exchanged one by one.
  have hitems : ∃ items', List.Forall₂ words' items' groups ∧ List.Forall₂ R items items' := by
    clear htrailing hspaced
    induction hgroups with
    | nil => exact ⟨[], .nil, .nil⟩
    | cons hword _ ih =>
      obtain ⟨b, hb, hR⟩ := hwords _ _ hword
      obtain ⟨items', hitems', hforall⟩ := ih
      exact ⟨b :: items', .cons hb hitems', .cons hR hforall⟩
  obtain ⟨items', hgroups', hforall⟩ := hitems
  refine ⟨items', ⟨groups, trailing, hgroups', fun htrail hnil => ?_, hspaced⟩, hforall⟩
  subst hnil
  cases hforall
  exact htrailing htrail rfl

/-! ### Words do not run together -/

/-- Words that can be written with or without blanks: all are lexemes, and no name follows
    a name. -/
structure Separable (ws : List Word) : Prop where
  spelled : ∀ w ∈ ws, Lexeme.Spells w.1 w.2
  apart : ws.IsChain fun w w' => w.1 = .identifier → w'.1 ≠ .identifier

theorem Separable.nil : Separable [] := ⟨nofun, .nil⟩

/-- A word can stand before others if it is no name, or they start with none. -/
theorem Separable.cons {w : Word} {ws : List Word} (h : Separable ws)
    (hspells : Lexeme.Spells w.1 w.2)
    (hname : w.1 = .identifier → ∀ w' ∈ ws.head?, w'.1 ≠ .identifier) : Separable (w :: ws) where
  spelled := List.forall_mem_cons.mpr ⟨hspells, h.spelled⟩
  apart := List.isChain_cons.mpr ⟨fun w' hw' hw => hname hw w' hw', h.apart⟩

theorem spells_ofOperator (op : Operator) :
    Lexeme.Spells (Word.ofOperator op).1 (Word.ofOperator op).2 := by
  cases op with
  | equal => exact .equal
  | notEqual => exact .notEqual
  | regexp => exact .regexp
  | notRegexp => exact .notRegexp

theorem RawWord.separable {raw : String} {w : Word} {ws : List Word} (h : RawWord raw w)
    (hws : Separable ws) (hhead : ∀ w ∈ ws.head?, w.1 ≠ .identifier) : Separable (w :: ws) := by
  cases h with
  | quoted hbody => exact hws.cons (.quoted hbody) nofun
  | bare hraw => exact hws.cons hraw fun _ => hhead

theorem RequestWords.separable {r : Request} {group ws : List Word} (h : RequestWords r group)
    (hws : Separable ws) (hhead : ∀ w ∈ ws.head?, w.1 ≠ .identifier) :
    Separable (group ++ ws) := by
  cases h with
  | words hname hvalue =>
    have hrest := (hvalue.separable hws hhead).cons (spells_ofOperator r.operator) nofun
    exact hrest.cons hname (by simp [Word.ofOperator])

theorem separable_intercalate {rs : List Request} {groups : List (List Word)} {ws : List Word}
    (h : List.Forall₂ RequestWords rs groups) (hws : Separable ws)
    (hhead : ∀ w ∈ ws.head?, w.1 ≠ .identifier) :
    Separable ([Word.comma].intercalate groups ++ ws) := by
  induction h with
  | nil => exact hws
  | @cons r group rs groups hgroup hgroups ih =>
    cases hgroups with
    | nil =>
      rw [List.intercalate_singleton]
      exact hgroup.separable hws hhead
    | cons hnext hgroups =>
      rw [List.intercalate_cons_cons, List.append_assoc, List.append_assoc]
      exact hgroup.separable (ih.cons .comma nofun) (by simp [Word.comma])

theorem separable_selectorWords {rs : List Request} {groups : List (List Word)}
    (h : List.Forall₂ RequestWords rs groups) (trailing braced : Bool) :
    Separable (selectorWords groups trailing braced) := by
  have hinside : ∀ ws, Separable ws → (∀ w ∈ ws.head?, w.1 ≠ .identifier) →
      Separable (([Word.comma].intercalate groups ++ if trailing then [.comma] else []) ++ ws) := by
    intro ws hws hhead
    rw [List.append_assoc]
    cases trailing with
    | false => exact separable_intercalate h hws hhead
    | true => exact separable_intercalate h (hws.cons .comma nofun) (by simp [Word.comma])
  cases braced with
  | false => simpa [selectorWords] using hinside [] .nil nofun
  | true =>
    have hclose : Separable [Word.closeBrace] := Separable.nil.cons .closeBrace nofun
    exact (hinside _ hclose (by simp [Word.closeBrace])).cons .openBrace nofun

/-! ### Words are read as tokens -/

/-- The tokens of a text are the words in it. -/
theorem Spaced.exists_fits {ws : List Word} {cs : List Char} (h : Spaced ws cs)
    (hws : Separable ws) (before : List Char) :
    ∃ d : Layout, d.Fits before cs ∧ d.tokens.map Token.word = ws := by
  induction h generalizing before with
  | @finish gap hblank => exact ⟨⟨gap, []⟩, Layout.fits_nil_iff.mpr ⟨hblank, rfl⟩, rfl⟩
  | @word gap rest w ws hblank _ ih =>
    obtain ⟨hspells, hspelled⟩ := List.forall_mem_cons.mp hws.spelled
    obtain ⟨hhead, hchain⟩ := List.isChain_cons.mp hws.apart
    obtain ⟨d, hfits, htokens⟩ := ih ⟨hspelled, hchain⟩ (before ++ gap ++ w.2)
    let t : Token := ⟨w.1, String.ofList w.2, .behind (before ++ gap) w.2⟩
    have htext : t.text.toList = w.2 := String.toList_ofList
    have hword : t.word = w := Prod.ext rfl htext
    refine ⟨⟨gap, (t, d.lead) :: d.pieces⟩, Layout.fits_cons_iff.mpr
      ⟨hblank, ?_, by rw [htext], fun next hnext hname hnext' => ?_, rest, by rw [htext], ?_⟩, ?_⟩
    · rw [Token.Spelled, htext]
      exact hspells
    · -- The word behind a name is none, so nothing has to stand between them.
      have hmem : next.1.word ∈ ws.head? := by
        rw [← htokens, List.head?_map, Layout.tokens, List.head?_map, Option.mem_def.mp hnext]
        rfl
      exact absurd hnext' (hhead _ hmem hname)
    · rw [htext]
      exact hfits
    · change t.word :: d.tokens.map Token.word = w :: ws
      rw [hword, htokens]

/-- The words of a request make up a clause that stands for it. -/
theorem RequestWords.exists_clause {r : Request} {group : List Word} (h : RequestWords r group)
    {ts : List Token} (hts : ts.map Token.word = group) :
    ∃ c : Clause, c.tokens = ts ∧ c.request = r := by
  cases h with
  | @words w hname hvalue =>
    obtain ⟨name, sign, value, rfl, h₁, h₂, h₃⟩ : ∃ name sign value, ts = [name, sign, value] ∧
        name.word = .ofName r.name.toList ∧ sign.word = .ofOperator r.operator ∧
        value.word = w := by
      simpa [clauseWords, List.map_eq_cons_iff] using hts
    obtain ⟨hname, hnameText⟩ := Token.eq_of_word h₁
    obtain ⟨hsign, hsignText⟩ := Token.eq_of_word h₂
    rw [String.ofList_toList] at hnameText hsignText
    have hop : Operator.ofText? sign.text = some r.operator := by
      rw [hsignText, Operator.ofText?_text]
    cases hvalue with
    | quoted hbody =>
      obtain ⟨hkind, htext⟩ := Token.eq_of_word h₃
      refine ⟨⟨name, sign, value, r.operator, hname, hsign, .inl hkind, hop⟩, rfl, ?_⟩
      simp [Clause.request, Clause.raw, hkind, htext, hnameText]
    | bare hraw =>
      obtain ⟨hkind, htext⟩ := Token.eq_of_word h₃
      refine ⟨⟨name, sign, value, r.operator, hname, hsign, .inr hkind, hop⟩, rfl, ?_⟩
      simp [Clause.request, Clause.raw, hkind, htext, hnameText]

theorem exists_clauses {rs : List Request} {groups : List (List Word)}
    (h : List.Forall₂ RequestWords rs groups) (hne : rs ≠ []) {ts : List Token}
    (hts : ts.map Token.word = [Word.comma].intercalate groups) :
    ∃ cs, Grammar.Clauses ts cs ∧ cs.map Clause.request = rs := by
  induction h generalizing ts with
  | nil => exact absurd rfl hne
  | @cons r group rs groups hgroup hgroups ih =>
    cases hgroups with
    | nil =>
      rw [List.intercalate_singleton] at hts
      obtain ⟨c, rfl, rfl⟩ := hgroup.exists_clause hts
      exact ⟨[c], .one c, rfl⟩
    | cons hnext hgroups =>
      -- The tokens of the first clause stand before a comma, those of the others behind it.
      rw [List.intercalate_cons_cons, List.append_assoc, List.singleton_append] at hts
      obtain ⟨front, back, rfl, hfront, hback⟩ := List.map_eq_append_iff.mp hts
      obtain ⟨comma, back, rfl, hcomma, hback⟩ := List.map_eq_cons_iff.mp hback
      obtain ⟨c, rfl, rfl⟩ := hgroup.exists_clause hfront
      obtain ⟨cs, hcs, hrs⟩ := ih (List.cons_ne_nil _ _) hback
      exact ⟨c :: cs, .more c (Token.eq_of_word hcomma).1 hcs, by rw [List.map_cons, hrs]⟩

theorem exists_inside {rs : List Request} {groups : List (List Word)}
    (h : List.Forall₂ RequestWords rs groups) {trailing : Bool}
    (htrailing : trailing = true → rs ≠ []) {ts : List Token}
    (hts : ts.map Token.word =
      [Word.comma].intercalate groups ++ if trailing then [.comma] else []) :
    ∃ cs, Grammar.Inside ts cs ∧ cs.map Clause.request = rs := by
  cases trailing with
  | false =>
    rw [if_neg nofun, List.append_nil] at hts
    cases h with
    | nil =>
      obtain rfl : ts = [] := by simpa using hts
      exact ⟨[], .empty, rfl⟩
    | cons hgroup hgroups =>
      obtain ⟨cs, hcs, hrs⟩ := exists_clauses (.cons hgroup hgroups) (List.cons_ne_nil _ _) hts
      exact ⟨cs, .plain hcs, hrs⟩
  | true =>
    rw [if_pos rfl] at hts
    obtain ⟨front, back, rfl, hfront, hback⟩ := List.map_eq_append_iff.mp hts
    obtain ⟨comma, rfl, hcomma⟩ := List.map_eq_singleton_iff.mp hback
    obtain ⟨cs, hcs, hrs⟩ := exists_clauses h (htrailing rfl) hfront
    exact ⟨cs, .trailing hcs (Token.eq_of_word hcomma).1, hrs⟩

/-- A text in which requests are written is read as a selector with their clauses. Without
    braces, it is one where braces may be left out. -/
theorem Writes.exists_selector {rs : List Request} {braced : Bool} {text : String}
    (h : Writes RequestWords rs braced text) :
    ∃ ts cs, Token.streamOf text = (ts, none) ∧ cs.map Clause.request = rs ∧
      (∀ settings : ParserSettings, (settings.requireBraces = true → braced = true) →
        Grammar.Selector settings ts cs) ∧
      (braced = false → ∀ t ∈ ts.head?, t.kind ≠ .openBrace) := by
  obtain ⟨groups, trailing, hgroups, htrailing, hspaced⟩ := h
  obtain ⟨d, hfits, htokens⟩ :=
    hspaced.exists_fits (separable_selectorWords hgroups trailing braced) []
  cases braced with
  | false =>
    obtain ⟨cs, hcs, hrs⟩ := exists_inside hgroups htrailing htokens
    refine ⟨d.tokens, cs, hfits.stream, hrs, fun settings hbraces => .bare ?_ hcs, fun _ => ?_⟩
    · simpa using hbraces
    · exact hcs.head?_kind_ne
  | true =>
    obtain ⟨opening, back, hts, hopening, hback⟩ := List.map_eq_cons_iff.mp htokens
    obtain ⟨inside, last, rfl, hinside, hlast⟩ := List.map_eq_append_iff.mp hback
    obtain ⟨closing, rfl, hclosing⟩ := List.map_eq_singleton_iff.mp hlast
    obtain ⟨cs, hcs, hrs⟩ := exists_inside hgroups htrailing hinside
    refine ⟨d.tokens, cs, hfits.stream, hrs, fun settings _ => ?_, nofun⟩
    rw [hts]
    exact .braced (Token.eq_of_word hopening).1 (Token.eq_of_word hclosing).1 hcs

end Writing

end LabelSelector
