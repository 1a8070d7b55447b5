import LabelSelector.Token.Lexeme

/-! # The spelling of lexemes

  Each kind of token has a language of its own, said here without any reading:

  - braces and commas are single characters, operators one of four texts,
  - a name is a letter or an underscore, then letters, digits, underscores and colons,
  - a quoted text is a sequence of plain characters and of pairs of a backslash with
    any character, between double quotes.

  `Lexeme.read` takes off the front of a text exactly the lexeme that is spelled
  there and cannot be continued.
-/

namespace LabelSelector

namespace Lexeme

/-! ### Languages -/

/-- The ASCII letters. -/
def Letter (c : Char) : Prop := ('A' ≤ c ∧ c ≤ 'Z') ∨ ('a' ≤ c ∧ c ≤ 'z')

/-- The ASCII digits. -/
def Digit (c : Char) : Prop := '0' ≤ c ∧ c ≤ '9'

/-- What a name starts with. -/
def NameStart (c : Char) : Prop := Letter c ∨ c = '_'

/-- What a name goes on with. -/
def NamePart (c : Char) : Prop := Letter c ∨ Digit c ∨ c = '_' ∨ c = ':'

/-- What stands between the quotes of a quoted text. -/
inductive Body : List Char → Prop where
  /-- Nothing. -/
  | nil : Body []
  /-- A character that neither ends the text nor starts a pair. -/
  | plain {c : Char} {cs : List Char} : c ≠ '"' → c ≠ '\\' → Body cs → Body (c :: cs)
  /-- A backslash with the character it belongs to. -/
  | pair (c : Char) {cs : List Char} : Body cs → Body ('\\' :: c :: cs)

/-- The lexemes of each kind. -/
inductive Spells : Token.Kind → List Char → Prop where
  | openBrace : Spells .openBrace ['\x7b']
  | closeBrace : Spells .closeBrace ['\x7d']
  | comma : Spells .comma [',']
  | name {c : Char} {cs : List Char} : NameStart c → (∀ x ∈ cs, NamePart x) →
      Spells .identifier (c :: cs)
  | equal : Spells .operator ['=']
  | notEqual : Spells .operator ['!', '=']
  | regexp : Spells .operator ['=', '~']
  | notRegexp : Spells .operator ['!', '~']
  | quoted {cs : List Char} : Body cs → Spells .quoted ('"' :: (cs ++ ['"']))

/-- Nothing at the front of `rest` continues the lexeme before it. Only names and the
    operator `=` can be continued. -/
structure Ends (kind : Token.Kind) (chars rest : List Char) : Prop where
  /-- A name is not continued. -/
  name : kind = .identifier → ∀ c ∈ rest.head?, ¬ NamePart c
  /-- The operator `=` does not become `=~`. -/
  equal : chars = ['='] → rest.head? ≠ some '~'

end Lexeme

/-- The text of a token is a lexeme of its kind. -/
abbrev Token.Spelled (t : Token) : Prop := Lexeme.Spells t.kind t.text.toList

namespace Lexeme

/-! ### Classes of characters -/

theorem isAlpha_iff (c : Char) : c.isAlpha = true ↔ Letter c := by
  change (decide ('A' ≤ c ∧ c ≤ 'Z') || (decide ('a' ≤ c) && decide (c ≤ 'z'))) = true ↔ _
  simp only [Letter, Bool.or_eq_true, Bool.and_eq_true, decide_eq_true_eq]

theorem isDigit_iff (c : Char) : c.isDigit = true ↔ Digit c := by
  change (decide ('0' ≤ c) && decide (c ≤ '9')) = true ↔ _
  simp only [Digit, Bool.and_eq_true, decide_eq_true_eq]

theorem isNameStart_iff (c : Char) : isNameStart c = true ↔ NameStart c := by
  simp only [isNameStart, NameStart, Bool.or_eq_true, isAlpha_iff, beq_iff_eq]

theorem isNameChar_iff (c : Char) : isNameChar c = true ↔ NamePart c := by
  simp only [isNameChar, NamePart, Char.isAlphanum, Bool.or_eq_true, isAlpha_iff, isDigit_iff,
    beq_iff_eq, or_assoc]

/-- Whether a text is a name can be decided. -/
instance : (chars : List Char) → Decidable (Spells .identifier chars)
  | [] => isFalse nofun
  | c :: cs =>
    decidable_of_iff (isNameStart c = true ∧ cs.all isNameChar = true) <| by
      simp only [List.all_eq_true, isNameStart_iff, isNameChar_iff]
      refine ⟨fun h => .name h.1 h.2, fun h => ?_⟩
      cases h with
      | name hc hcs => exact ⟨hc, hcs⟩

theorem NameStart.part {c : Char} (h : NameStart c) : NamePart c := by
  rcases h with h | h
  · exact .inl h
  · exact .inr (.inr (.inl h))

theorem isBlank_iff (c : Char) : isBlank c = true ↔ c = ' ' ∨ c = '\t' ∨ c = '\n' := by
  simp only [isBlank, Bool.or_eq_true, beq_iff_eq, or_assoc]

theorem not_namePart_of_isBlank {c : Char} (h : isBlank c = true) : ¬ NamePart c := by
  rw [← isNameChar_iff]
  rcases (isBlank_iff c).mp h with rfl | rfl | rfl <;> decide

/-- No lexeme starts with a blank or with `~`, and exactly the names start with a
    character that could continue a name. -/
theorem Spells.head {kind : Token.Kind} {chars : List Char} (h : Spells kind chars) :
    ∃ c cs, chars = c :: cs ∧ isBlank c = false ∧ c ≠ '~' ∧
      (NamePart c ↔ kind = .identifier) := by
  cases h with
  | @name c cs hc hcs =>
    refine ⟨c, cs, rfl, ?_, ?_, iff_of_true hc.part rfl⟩
    · rw [Bool.eq_false_iff]
      intro hb
      exact not_namePart_of_isBlank hb hc.part
    · rintro rfl
      exact absurd hc (by rw [← isNameStart_iff]; decide)
  | openBrace | closeBrace | comma | equal | notEqual | regexp | notRegexp | quoted =>
    exact ⟨_, _, rfl, by decide, by decide, by rw [← isNameChar_iff]; decide⟩

/-! ### Quoted texts -/

theorem Body.append {cs cs' : List Char} (h : Body cs) (h' : Body cs') : Body (cs ++ cs') := by
  induction h with
  | nil => exact h'
  | plain hquote hbackslash _ ih => exact .plain hquote hbackslash ih
  | pair c _ ih => exact .pair c ih

/-- A body is read up to the first quote behind it. -/
theorem Body.quotedBody_append {inner : List Char} (h : Body inner) (rest : List Char) :
    quotedBody (inner ++ '"' :: rest) = some (inner ++ ['"'], rest) := by
  induction h with
  | nil => rfl
  | @plain c cs hq hb _ ih =>
    have hstep : quotedBody (c :: (cs ++ '"' :: rest)) =
        (quotedBody (cs ++ '"' :: rest)).map fun read => (c :: read.1, read.2) := by
      rw [quotedBody]
      · exact hq
      · exact fun h _ => hb h
      · exact fun _ _ h _ => hb h
    rw [List.cons_append, hstep, ih]
    rfl
  | pair c _ ih =>
    simp only [List.cons_append, quotedBody, ih]
    rfl

/-- What is read off as a quoted text is a body with its closing quote. -/
theorem body_of_quotedBody {cs body rest : List Char} (h : quotedBody cs = some (body, rest)) :
    ∃ inner, Body inner ∧ body = inner ++ ['"'] := by
  fun_induction quotedBody cs generalizing body rest with
  | case1 => cases h
  | case2 =>
    cases h
    exact ⟨[], .nil, rfl⟩
  | case3 => cases h
  | case4 c rest' ih =>
    obtain ⟨⟨b, r⟩, hb, he⟩ := Option.map_eq_some_iff.1 h
    cases he
    obtain ⟨inner, hinner, rfl⟩ := ih hb
    exact ⟨'\\' :: c :: inner, .pair c hinner, rfl⟩
  | case5 c rest' hquote hlast hpair ih =>
    obtain ⟨⟨b, r⟩, hb, he⟩ := Option.map_eq_some_iff.1 h
    cases he
    obtain ⟨inner, hinner, rfl⟩ := ih hb
    refine ⟨c :: inner, .plain hquote ?_ hinner, rfl⟩
    -- A lone backslash at the end and a pair are both excluded here.
    rintro rfl
    cases rest' with
    | nil => exact hlast rfl rfl
    | cons d ds => exact hpair d ds rfl rfl

/-! ### Reading -/

/-- A character that starts a name starts nothing else. -/
theorem read_name {c : Char} (hc : NameStart c) (cs : List Char) :
    read c cs = .lexeme .identifier (c :: cs.takeWhile isNameChar) (cs.dropWhile isNameChar) := by
  have hstart := (isNameStart_iff c).mpr hc
  unfold read
  split
  case h_7 => rw [if_pos hstart]
  all_goals exact absurd hstart (by decide)

/-- A name that is not continued is read as a whole. -/
theorem read_name_append {c : Char} {cs rest : List Char} (hc : NameStart c)
    (hcs : ∀ x ∈ cs, NamePart x) (hend : ∀ x ∈ rest.head?, ¬ NamePart x) :
    read c (cs ++ rest) = .lexeme .identifier (c :: cs) rest := by
  have hall : ∀ x ∈ cs, isNameChar x = true := fun x hx => (isNameChar_iff x).mpr (hcs x hx)
  have hstop : rest.takeWhile isNameChar = [] ∧ rest.dropWhile isNameChar = rest := by
    cases rest with
    | nil => exact ⟨rfl, rfl⟩
    | cons x xs =>
      have hx : isNameChar x = false := by
        rw [Bool.eq_false_iff, ne_eq, isNameChar_iff]
        exact hend x rfl
      exact ⟨List.takeWhile_cons_of_neg (by simp [hx]), List.dropWhile_cons_of_neg (by simp [hx])⟩
  rw [read_name hc, List.takeWhile_append_of_pos hall, List.dropWhile_append_of_pos hall,
    hstop.1, hstop.2, List.append_nil]

/-- A lexeme that is spelled at the front and not continued is what is read. -/
theorem Spells.read_append {kind : Token.Kind} {c : Char} {cs rest : List Char}
    (h : Spells kind (c :: cs)) (hend : Ends kind (c :: cs) rest) :
    read c (cs ++ rest) = .lexeme kind (c :: cs) rest := by
  generalize hchars : c :: cs = chars at h hend ⊢
  cases h with
  | name hc hcs =>
    cases hchars
    exact read_name_append hc hcs (hend.name rfl)
  | equal =>
    cases hchars
    -- Only here does the text behind the lexeme decide where it ends.
    have hne := hend.equal rfl
    change readEqual rest = _
    unfold readEqual
    split
    · exact absurd rfl hne
    · rfl
  | @quoted body hbody =>
    cases hchars
    change readQuoted (body ++ ['"'] ++ rest) = _
    unfold readQuoted
    rw [List.append_assoc, List.singleton_append, hbody.quotedBody_append rest]
  | openBrace | closeBrace | comma | notEqual | regexp | notRegexp =>
    cases hchars
    rfl

theorem readEqual_spells {cs : List Char} {kind : Token.Kind} {chars rest : List Char}
    (h : readEqual cs = .lexeme kind chars rest) : Spells kind chars ∧ Ends kind chars rest := by
  unfold readEqual at h
  split at h
  · cases h
    exact ⟨.regexp, nofun, by simp⟩
  · next hne =>
    cases h
    refine ⟨.equal, nofun, fun _ => ?_⟩
    cases cs with
    | nil => simp
    | cons c cs =>
      intro hc
      cases hc
      exact hne cs rfl

theorem readNot_spells {cs : List Char} {kind : Token.Kind} {chars rest : List Char}
    (h : readNot cs = .lexeme kind chars rest) : Spells kind chars ∧ Ends kind chars rest := by
  unfold readNot at h
  split at h
  · cases h
    exact ⟨.notEqual, nofun, by simp⟩
  · cases h
    exact ⟨.notRegexp, nofun, by simp⟩
  · cases h

theorem readQuoted_spells {cs : List Char} {kind : Token.Kind} {chars rest : List Char}
    (h : readQuoted cs = .lexeme kind chars rest) : Spells kind chars ∧ Ends kind chars rest := by
  unfold readQuoted at h
  split at h
  · next heq =>
    cases h
    obtain ⟨inner, hinner, rfl⟩ := body_of_quotedBody heq
    exact ⟨.quoted hinner, nofun, by simp⟩
  · cases h

/-- What is read is spelled as its kind demands and is not continued by what follows. -/
theorem read_spells {c : Char} {cs : List Char} {kind : Token.Kind} {chars rest : List Char}
    (h : read c cs = .lexeme kind chars rest) : Spells kind chars ∧ Ends kind chars rest := by
  unfold read at h
  split at h
  · cases h
    exact ⟨.openBrace, nofun, by simp⟩
  · cases h
    exact ⟨.closeBrace, nofun, by simp⟩
  · cases h
    exact ⟨.comma, nofun, by simp⟩
  · exact readEqual_spells h
  · exact readNot_spells h
  · exact readQuoted_spells h
  · split at h
    · next hstart =>
      cases h
      refine ⟨.name ((isNameStart_iff c).mp hstart) ?_, ?_, ?_⟩
      · intro x hx
        exact (isNameChar_iff x).mp (List.all_eq_true.mp List.all_takeWhile x hx)
      · intro _ x hx
        rw [← isNameChar_iff]
        have := List.head?_dropWhile_not isNameChar cs
        rw [Option.mem_def.mp hx] at this
        simpa using this
      · intro heq
        obtain ⟨rfl, -⟩ := List.cons.inj heq
        exact absurd hstart (by decide)
    · cases h

/-- Exactly the lexeme that is spelled at the front and not continued is read. -/
theorem read_eq_lexeme_iff {c : Char} {cs : List Char} {kind : Token.Kind}
    {chars rest : List Char} :
    read c cs = .lexeme kind chars rest ↔
      Spells kind chars ∧ Ends kind chars rest ∧ c :: cs = chars ++ rest := by
  constructor
  · intro h
    obtain ⟨hspells, hends⟩ := read_spells h
    exact ⟨hspells, hends, (Lexeme.read_append h).2.symm⟩
  · rintro ⟨hspells, hends, heq⟩
    obtain ⟨d, ds, rfl, -⟩ := hspells.head
    cases heq
    exact hspells.read_append hends

end Lexeme

end LabelSelector
