import LabelSelector.Proofs.Schedule

/-! # Where no lexeme can be read

  A text that is neither at its end nor starts with a lexeme is flawed in one of three
  ways, said here without any reading:

  - no lexeme starts with its first character,
  - it starts with `!`, and what follows makes no operator of it,
  - it starts with a quote, and every quote behind that one is escaped.

  Scanning a text ends where nothing is left of it, or else at such a flaw, and the
  error tells which one and where.
-/

namespace LabelSelector

namespace Lexeme

/-! ### Flaws -/

/-- What stands behind the characters `front` is escaped: the number of backslashes right
    before it is odd. -/
def Escaped (front : List Char) : Prop := (front.reverse.takeWhile (· = '\\')).length % 2 = 1

/-- The characters that lexemes start with. -/
def Opening (c : Char) : Prop := c ∈ ['\x7b', '\x7d', ',', '=', '!', '"'] ∨ NameStart c

/-- A text that is flawed for some cause. The flaw is in the characters `fragment`, which
    stand behind the characters `passed`. -/
inductive Flawed : (text : List Char) → (cause : LexicalError.Cause) →
    (passed fragment : List Char) → Prop where
  /-- The first character starts no lexeme. -/
  | invalid {c : Char} {cs : List Char} : ¬ Opening c → Flawed (c :: cs) .invalidInput [] [c]
  /-- An exclamation mark is no operator by itself. The character behind it is at fault,
      or its absence. -/
  | negation {cs : List Char} : (∀ c ∈ cs.head?, c ≠ '=' ∧ c ≠ '~') →
      Flawed ('!' :: cs) (.expected "=~") ['!'] (cs.take 1)
  /-- A quoted text has no end. All of it is at fault. -/
  | endless {cs : List Char} : (∀ front back, cs = front ++ '"' :: back → Escaped front) →
      Flawed ('"' :: cs) (.unterminated '"') [] ('"' :: cs)

/-- The characters of a flaw stand in the text. -/
theorem Flawed.exists_append {text passed fragment : List Char} {cause : LexicalError.Cause}
    (h : Flawed text cause passed fragment) : ∃ after, text = passed ++ (fragment ++ after) := by
  cases h with
  | @invalid c cs => exact ⟨cs, rfl⟩
  | @negation cs => exact ⟨cs.drop 1, by rw [List.take_append_drop]; rfl⟩
  | endless => exact ⟨[], by simp⟩

/-- Only at an exclamation mark at the end does nothing stand at fault. -/
theorem Flawed.fragment_eq_nil_iff {text passed fragment : List Char}
    {cause : LexicalError.Cause} (h : Flawed text cause passed fragment) :
    fragment = [] ↔ text = ['!'] := by
  cases h with
  | invalid hc =>
    have hne : ∀ c cs, ¬ Opening c → c :: cs ≠ ['!'] := by
      rintro c cs hc heq
      obtain ⟨rfl, -⟩ := List.cons.inj heq
      exact hc (.inl (by decide))
    simpa using hne _ _ hc
  | @negation cs => simp
  | endless => simp

/-! ### Escaped characters -/

theorem not_escaped_nil : ¬ Escaped [] := by simp [Escaped]

/-- A character is escaped if a backslash stands before it that is not escaped itself. -/
theorem escaped_append_singleton (front : List Char) (c : Char) :
    Escaped (front ++ [c]) ↔ c = '\\' ∧ ¬ Escaped front := by
  unfold Escaped
  rw [List.reverse_append, List.reverse_singleton, List.singleton_append]
  by_cases hc : c = '\\'
  · rw [List.takeWhile_cons_of_pos (by simp [hc]), List.length_cons]
    simp only [hc, true_and]
    omega
  · rw [List.takeWhile_cons_of_neg (by simp [hc])]
    simp [hc]

/-- A plain character in front changes nothing for those behind it. -/
theorem escaped_cons {c : Char} (hc : c ≠ '\\') (front : List Char) :
    Escaped (c :: front) ↔ Escaped front := by
  induction front using List.reverseRecOn with
  | nil => simpa [hc, not_escaped_nil] using escaped_append_singleton [] c
  | append_singleton front d ih =>
    rw [← List.cons_append, escaped_append_singleton, escaped_append_singleton, ih]

/-- Neither does a pair in front. -/
theorem escaped_pair (c : Char) (front : List Char) :
    Escaped ('\\' :: c :: front) ↔ Escaped front := by
  induction front using List.reverseRecOn with
  | nil =>
    have hone : Escaped ['\\'] := (escaped_append_singleton [] '\\').mpr ⟨rfl, not_escaped_nil⟩
    simpa [hone, not_escaped_nil] using escaped_append_singleton ['\\'] c
  | append_singleton front d ih =>
    rw [← List.cons_append, ← List.cons_append, escaped_append_singleton,
      escaped_append_singleton, ih]

/-- A quoted text has no end if all its quotes are escaped. -/
theorem quotedBody_eq_none_iff (cs : List Char) :
    quotedBody cs = none ↔ ∀ front back, cs = front ++ '"' :: back → Escaped front := by
  fun_induction quotedBody cs with
  | case1 => simp
  | case2 rest =>
    refine iff_of_false (Option.some_ne_none _) fun h => ?_
    exact not_escaped_nil (h [] rest rfl)
  | case3 =>
    refine iff_of_true rfl fun front back h => ?_
    rcases front with _ | ⟨d, _ | ⟨d', front⟩⟩ <;> simp at h
  | case4 c rest ih =>
    rw [Option.map_eq_none_iff, ih]
    constructor
    · rintro h (_ | ⟨d, _ | ⟨d', front⟩⟩) back heq
      · simp at heq
      · -- The second character of the pair may be a quote, and is escaped.
        obtain ⟨rfl, -⟩ := List.cons.inj heq
        exact (escaped_append_singleton [] '\\').mpr ⟨rfl, not_escaped_nil⟩
      · obtain ⟨rfl, rfl, hrest⟩ : '\\' = d ∧ c = d' ∧ rest = front ++ '"' :: back := by
          simpa using heq
        exact (escaped_pair c front).mpr (h front back hrest)
    · intro h front back heq
      exact (escaped_pair c front).mp (h ('\\' :: c :: front) back (by rw [heq]; rfl))
  | case5 c rest hquote hlast hpair ih =>
    have hc : c ≠ '\\' := by
      rintro rfl
      cases rest with
      | nil => exact hlast rfl rfl
      | cons d ds => exact hpair d ds rfl rfl
    rw [Option.map_eq_none_iff, ih]
    constructor
    · rintro h (_ | ⟨d, front⟩) back heq
      · exact absurd (List.cons.inj heq).1 hquote
      · obtain ⟨rfl, hrest⟩ := List.cons.inj heq
        exact (escaped_cons hc front).mpr (h front back hrest)
    · intro h front back heq
      exact (escaped_cons hc front).mp (h (c :: front) back (by rw [heq]; rfl))

/-! ### Reading flawed texts -/

theorem readNot_eq_flaw_iff {cs passed fragment : List Char} {cause : LexicalError.Cause} :
    readNot cs = .flaw cause passed fragment ↔ Flawed ('!' :: cs) cause passed fragment := by
  constructor
  · intro h
    unfold readNot at h
    split at h
    · cases h
    · cases h
    · next hequal htilde =>
      cases h
      refine .negation fun c hc => ?_
      cases cs with
      | nil => cases hc
      | cons d ds =>
        cases hc
        exact ⟨fun h => hequal ds (by rw [h]), fun h => htilde ds (by rw [h])⟩
  · intro h
    cases h with
    | invalid hc => exact absurd (.inl (by decide)) hc
    | negation hne =>
      unfold readNot
      split
      · exact absurd rfl (hne '=' rfl).1
      · exact absurd rfl (hne '~' rfl).2
      · rfl

theorem readQuoted_eq_flaw_iff {cs passed fragment : List Char} {cause : LexicalError.Cause} :
    readQuoted cs = .flaw cause passed fragment ↔ Flawed ('"' :: cs) cause passed fragment := by
  constructor
  · intro h
    unfold readQuoted at h
    split at h
    · cases h
    · next hnone =>
      cases h
      exact .endless ((quotedBody_eq_none_iff cs).mp hnone)
  · intro h
    cases h with
    | invalid hc => exact absurd (.inl (by decide)) hc
    | endless hescaped =>
      unfold readQuoted
      rw [(quotedBody_eq_none_iff cs).mpr hescaped]

/-- A lexeme that is not a quoted text and does not start with `!` cannot be flawed. -/
theorem not_flawed_of_opening {c : Char} {cs passed fragment : List Char}
    {cause : LexicalError.Cause} (hc : Opening c) (hnot : c ≠ '!') (hquote : c ≠ '"') :
    ¬ Flawed (c :: cs) cause passed fragment := by
  intro h
  cases h with
  | invalid hne => exact hne hc
  | negation => exact hnot rfl
  | endless => exact hquote rfl

/-- Where no lexeme starts, there is no other flaw. -/
theorem flawed_iff_of_not_opening {c : Char} {cs passed fragment : List Char}
    {cause : LexicalError.Cause} (hc : ¬ Opening c) :
    Flawed (c :: cs) cause passed fragment ↔
      .invalidInput = cause ∧ [] = passed ∧ [c] = fragment := by
  constructor
  · intro h
    cases h with
    | invalid => exact ⟨rfl, rfl, rfl⟩
    | negation => exact absurd (.inl (by decide)) hc
    | endless => exact absurd (.inl (by decide)) hc
  · rintro ⟨rfl, rfl, rfl⟩
    exact .invalid hc

/-- Reading fails exactly at flawed texts, and tells the flaw. -/
theorem read_eq_flaw_iff {c : Char} {cs passed fragment : List Char}
    {cause : LexicalError.Cause} :
    read c cs = .flaw cause passed fragment ↔ Flawed (c :: cs) cause passed fragment := by
  have hequal : readEqual cs ≠ .flaw cause passed fragment := by
    unfold readEqual
    split <;> exact nofun
  unfold read
  split
  · exact iff_of_false nofun (not_flawed_of_opening (.inl (by decide)) (by decide) (by decide))
  · exact iff_of_false nofun (not_flawed_of_opening (.inl (by decide)) (by decide) (by decide))
  · exact iff_of_false nofun (not_flawed_of_opening (.inl (by decide)) (by decide) (by decide))
  · exact iff_of_false hequal (not_flawed_of_opening (.inl (by decide)) (by decide) (by decide))
  · exact readNot_eq_flaw_iff
  · exact readQuoted_eq_flaw_iff
  · next hopen hclose hcomma hequals hnot hquote =>
    split
    · next hstart =>
      have hname : NameStart c := (isNameStart_iff c).mp hstart
      exact iff_of_false nofun (not_flawed_of_opening (.inr hname) hnot hquote)
    · next hstart =>
      have hopening : ¬ Opening c := by
        rintro (hmem | hname)
        · simp only [List.mem_cons, List.not_mem_nil, or_false] at hmem
          tauto
        · exact hstart ((isNameStart_iff c).mpr hname)
      rw [flawed_iff_of_not_opening hopening, Reading.flaw.injEq]

end Lexeme

/-! ### Errors and their places -/

/-- The error tells the flaw of the text `rest` that follows the text `before`: its cause,
    the characters at fault, and where they stand. -/
def LexicalError.Tells (e : LexicalError) (before rest : List Char) : Prop :=
  ∃ passed fragment, Lexeme.Flawed rest e.cause passed fragment ∧
    e.span = Span.behind (before ++ passed) fragment ∧ e.fragment = String.ofList fragment

/-- The place behind the last of some tokens, or the start of the text. -/
def Token.lastStop (ts : List Token) : Cursor :=
  ts.getLast?.elim .origin fun t => ⟨t.span.offsetEnd, t.span.columnEnd⟩

/-- Behind the last of the tokens `ts` and the blanks after it, `rest` is left of a text,
    and `before` is all that stands before that. -/
structure Token.Leaves (text : String) (ts : List Token) (before rest : List Char) : Prop where
  /-- Nothing is lost. -/
  whole : text.toList = before ++ rest
  /-- Only blanks are passed over behind the last token. -/
  passed : ∃ front gap, before = front ++ gap ∧ Cursor.behind front = lastStop ts ∧
    Layout.Blank gap
  /-- All of them are. -/
  stops : ∀ c ∈ rest.head?, ¬ (c = ' ' ∨ c = '\t' ∨ c = '\n')

namespace LexicalError

theorem not_tells_nil (e : LexicalError) (before : List Char) : ¬ e.Tells before [] := by
  rintro ⟨passed, fragment, hflawed, -⟩
  cases hflawed

/-- What is at fault stands in the text at the place of the error. -/
theorem Tells.fragment_eq_slice {e : LexicalError} {before rest : List Char} {text : String}
    (h : e.Tells before rest) (hwhole : text.toList = before ++ rest) :
    e.fragment = e.span.slice text := by
  obtain ⟨passed, fragment, hflawed, hspan, hfragment⟩ := h
  obtain ⟨after, rfl⟩ := hflawed.exists_append
  have hsplit : text.toList = before ++ passed ++ (fragment ++ after) := by
    rw [hwhole, List.append_assoc]
  rw [hspan, hfragment, Span.slice_behind hsplit]

theorem Tells.fragment_eq_empty_iff {e : LexicalError} {before rest : List Char}
    (h : e.Tells before rest) : e.fragment = "" ↔ rest = ['!'] := by
  obtain ⟨passed, fragment, hflawed, -, hfragment⟩ := h
  rw [hfragment, ← hflawed.fragment_eq_nil_iff]
  exact String.ofList_eq_empty_iff

end LexicalError

namespace Token

/-- Where the text is not blank, reading fails exactly at a flaw, and the error tells it. -/
theorem read_eq_error_iff {before cs : List Char} {e : LexicalError} :
    read (.behind before) cs = .error e ↔
      e.Tells (before ++ cs.takeWhile isBlank) (cs.dropWhile isBlank) := by
  unfold read
  dsimp only
  cases cs.dropWhile isBlank with
  | nil => exact iff_of_false nofun (e.not_tells_nil _)
  | cons c cs' =>
    dsimp only
    cases hread : Lexeme.read c cs' with
    | lexeme kind chars rest =>
      refine iff_of_false nofun ?_
      rintro ⟨passed, fragment, hflawed, -⟩
      cases hread.symm.trans (Lexeme.read_eq_flaw_iff.mpr hflawed)
    | flaw cause passed fragment =>
      have hflawed := Lexeme.read_eq_flaw_iff.mp hread
      simp only [place, Cursor.advanceAll_behind, Span.covering_behind, Reading.error.injEq]
      constructor
      · rintro rfl
        exact ⟨passed, fragment, hflawed, rfl, rfl⟩
      · rintro ⟨passed', fragment', hflawed', hspan, hfragment⟩
        -- A text has only one flaw.
        have heq := hread.symm.trans (Lexeme.read_eq_flaw_iff.mpr hflawed')
        obtain ⟨rfl, rfl, rfl⟩ := Lexeme.Reading.flaw.inj heq
        obtain ⟨cause, span, shown⟩ := e
        cases hspan
        cases hfragment
        rfl

end Token

/-- Behind the last token of a layout stands its last gap. -/
theorem Layout.Fits.exists_lastStop {d : Layout} {before cs : List Char} (h : d.Fits before cs) :
    ∃ front gap, cs = front ++ gap ∧ Layout.Blank gap ∧
      Cursor.behind (before ++ front) =
        d.tokens.getLast?.elim (.behind before) fun t => ⟨t.span.offsetEnd, t.span.columnEnd⟩ := by
  obtain ⟨lead, pieces⟩ := d
  induction pieces generalizing lead before cs with
  | nil =>
    obtain ⟨hblank, rfl⟩ := fits_nil_iff.mp h
    exact ⟨[], lead, rfl, hblank, by simp [tokens]⟩
  | cons piece pieces ih =>
    obtain ⟨t, gap⟩ := piece
    obtain ⟨-, -, hspan, -, rest, rfl, htail⟩ := fits_cons_iff.mp h
    obtain ⟨front, last, rfl, hblank, hstop⟩ := ih gap htail
    refine ⟨lead ++ (t.text.toList ++ front), last, by simp, hblank, ?_⟩
    rw [← List.append_assoc, ← List.append_assoc, hstop]
    -- Without tokens behind it, `t` itself is the last one.
    simp only [tokens, List.map_cons, List.getLast?_cons]
    cases (pieces.map Prod.fst).getLast? with
    | none => simp [hspan, Span.behind, Span.between]
    | some u => rfl

/-- Behind a layout and the blanks after it, something is left that is not blank. -/
theorem Token.leaves_of_fits {text : String} {d : Layout} {front rest : List Char}
    (hcs : text.toList = front ++ rest) (hfits : d.Fits [] front) :
    Leaves text d.tokens (front ++ rest.takeWhile isBlank) (rest.dropWhile isBlank) where
  whole := by rw [hcs, List.append_assoc, List.takeWhile_append_dropWhile]
  passed := by
    obtain ⟨core, gap, rfl, hblank, hstop⟩ := hfits.exists_lastStop
    rw [List.nil_append, Cursor.behind_nil] at hstop
    refine ⟨core, gap ++ rest.takeWhile isBlank, List.append_assoc _ _ _, hstop, fun c hc => ?_⟩
    rcases List.mem_append.mp hc with hc | hc
    · exact hblank c hc
    · exact Layout.blank_takeWhile rest c hc
  stops := by
    intro c hc
    rw [← Lexeme.isBlank_iff]
    have hhead := List.head?_dropWhile_not isBlank rest
    rw [Option.mem_def.mp hc] at hhead
    simpa using hhead

/-- What is left of a text when the scanner has run through its tokens. -/
theorem Token.exists_leaves (text : String) :
    ∃ before rest, Token.Leaves text (streamOf text).1 before rest ∧
      ((streamOf text).2 = none ↔ rest = []) ∧
      ∀ e, (streamOf text).2 = some e ↔ e.Tells before rest := by
  obtain ⟨d, front, rest, hcs, hfits, htokens, hleft⟩ := Layout.exists_fits [] text.toList
  rw [Cursor.behind_nil, ← streamOf] at htokens hleft
  refine ⟨front ++ rest.takeWhile isBlank, rest.dropWhile isBlank,
    htokens ▸ leaves_of_fits hcs hfits, ?_⟩
  cases hfailure : (streamOf text).2 with
  | none =>
    rw [hfailure] at hleft
    obtain rfl : rest = [] := hleft
    exact ⟨iff_of_true rfl rfl,
      fun e => iff_of_false (Option.some_ne_none e).symm (e.not_tells_nil _)⟩
  | some e =>
    rw [hfailure] at hleft
    have hread : read (.behind front) rest = .error e := hleft
    refine ⟨iff_of_false (Option.some_ne_none e) fun hnil => ?_, fun e' => ?_⟩
    · have htells := read_eq_error_iff.mp hread
      rw [hnil] at htells
      exact e.not_tells_nil _ htells
    · rw [← read_eq_error_iff, hread, Reading.error.injEq, Option.some.injEq]

/-- Lexical errors are exact. For every text there are the tokens that scans answer one
    after the other, and the text `rest` that is left behind them and the blanks after
    the last one.

  - The next scan answers the end of the text exactly if nothing is left.
  - Otherwise it answers an error, which tells the one flaw that `rest` has: its cause,
    the characters at fault, and their stretch in bytes and in code points.
  - The fragment of the error is the part of the text under its stretch. It is empty
    only behind an exclamation mark at the end of the text. -/
theorem scan_error_iff_flawed (text : String) :
    ∃ (ts : List Token) (before rest : List Char), Token.Leaves text ts before rest ∧
      (∀ k t, ts[k]? = some t → (Scanner.ofText text).entry k = .ok (some t)) ∧
      (∀ t, (Scanner.ofText text).entry ts.length ≠ .ok (some t)) ∧
      ((Scanner.ofText text).entry ts.length = .ok none ↔ rest = []) ∧
      ∀ e, ((Scanner.ofText text).entry ts.length = .error e ↔ e.Tells before rest) ∧
        (e.Tells before rest →
          e.fragment = e.span.slice text ∧ (e.fragment = "" ↔ rest = ['!'])) := by
  obtain ⟨before, rest, hleaves, hdone, htells⟩ := Token.exists_leaves text
  have hlast : (Scanner.ofText text).entry (Token.streamOf text).1.length =
      Ahead.first ([], (Token.streamOf text).2) := by
    rw [Scanner.entry_eq]
    exact Ahead.first_drop_of_length_le (Nat.le_refl _)
  refine ⟨(Token.streamOf text).1, before, rest, hleaves, fun k t hk => ?_, fun t => ?_, ?_,
    fun e => ⟨?_, fun he => ⟨he.fragment_eq_slice hleaves.whole, he.fragment_eq_empty_iff⟩⟩⟩
  · rw [Scanner.entry_eq]
    exact Ahead.first_drop_of_getElem? hk
  · rw [hlast]
    cases (Token.streamOf text).2 <;> exact nofun
  · rw [hlast, ← hdone]
    cases (Token.streamOf text).2 <;> simp [Ahead.first]
  · rw [hlast, ← htells]
    cases (Token.streamOf text).2 <;> simp [Ahead.first]

example : (Scanner.ofText "!é").scan.1 = .error ⟨.expected "=~", ⟨1, 3, 1, 2⟩, "é"⟩ := by
  decide +kernel

end LabelSelector
