import LabelSelector.Proofs.RoundTrip

/-! # Reading displayed matchers

  Displaying a matcher writes its value in quoted form. The quoted form has escapes that
  are none of those that values are read with: `\0`, and escapes by number. So matchers
  that have been read can be displayed and read again, unless one of their values has a
  character that is written in such a way. Then the text is refused; it is never read as
  something else.
-/

namespace LabelSelector

/-! ### The quoted form -/

namespace Quoted

/-- Whether a written form starts as `\0` or as an escape by number does. -/
def startsForeign : List Char → Bool
  | '\\' :: '0' :: _ => true
  | '\\' :: 'u' :: _ => true
  | _ => false

/-- Whether a character is written as `\0` or by number. -/
def isForeign (c : Char) : Bool := startsForeign (encodeChar c)

/-- The character behind the backslash where a character is written as `\0` or by number. -/
def foreignLetter (c : Char) : Char := if c = '\x00' then '0' else 'u'

/-- The digits of a number need no escape. -/
theorem plain_of_mem_toDigits {n : Nat} {x : Char} (h : x ∈ Nat.toDigits 16 n) :
    x ≠ '"' ∧ x ≠ '\\' := by
  have hdigit : ∀ d < 16, Nat.digitChar d ≠ '"' ∧ Nat.digitChar d ≠ '\\' := by decide
  induction n using Nat.strongRecOn with
  | ind n ih =>
    rw [Nat.toDigits_eq_if (by decide)] at h
    split at h
    · next hlt =>
      obtain rfl := List.mem_singleton.mp h
      exact hdigit n hlt
    · next hle =>
      rcases List.mem_append.mp h with h | h
      · exact ih (n / 16) (by omega) h
      · obtain rfl := List.mem_singleton.mp h
        exact hdigit (n % 16) (Nat.mod_lt n (by decide))

/-- How a character is written: in a way that values are read with, or with an escape that
    they are not read with. -/
inductive Form (c : Char) : Prop where
  | known : isForeign c = false → Escape.Writes [c] (encodeChar c) → Form c
  | foreign {tail : List Char} : isForeign c = true →
      encodeChar c = '\\' :: foreignLetter c :: tail → Lexeme.Body tail → Form c

/-- Characters other than backslashes and quotes can stand between quotes. -/
theorem body_of_plain {cs : List Char} (h : ∀ x ∈ cs, x ≠ '"' ∧ x ≠ '\\') : Lexeme.Body cs := by
  induction cs with
  | nil => exact .nil
  | cons c cs ih =>
    obtain ⟨hc, hcs⟩ := List.forall_mem_cons.mp h
    exact .plain hc.1 hc.2 (ih hcs)

theorem isForeign_of_encodeChar {c : Char} {cs : List Char} (h : encodeChar c = cs) :
    isForeign c = startsForeign cs := by
  rw [isForeign, h]

/-- Of the short escapes only that of the null character is foreign. -/
theorem form_of_shortEscape? {c e : Char} (h : shortEscape? c = some e) : Form c := by
  have hencode : encodeChar c = ['\\', e] := by rw [encodeChar, h]
  have hforeign : isForeign c = startsForeign ['\\', e] := isForeign_of_encodeChar hencode
  unfold shortEscape? at h
  split at h <;> cases h
  · exact .foreign hforeign hencode .nil
  · exact .known hforeign (hencode ▸ .tab .nil)
  · exact .known hforeign (hencode ▸ .carriageReturn .nil)
  · exact .known hforeign (hencode ▸ .newline .nil)
  · exact .known hforeign (hencode ▸ .quote .nil)
  · exact .known hforeign (hencode ▸ .backslash .nil)

/-- A hidden character without a short escape is written by number, which is foreign. -/
theorem form_of_isHidden {c : Char} (hshort : shortEscape? c = none) (hhidden : isHidden c = true) :
    Form c := by
  have hnull : c ≠ '\x00' := by
    rintro rfl
    cases hshort
  have hencode : encodeChar c =
      '\\' :: 'u' :: '\x7b' :: (Nat.toDigits 16 c.toNat ++ ['\x7d']) := by
    rw [encodeChar, hshort]
    simp [hhidden, byNumber]
  have hletter : foreignLetter c = 'u' := if_neg hnull
  have htail : Lexeme.Body ('\x7b' :: (Nat.toDigits 16 c.toNat ++ ['\x7d'])) := by
    refine .plain (by decide) (by decide) (body_of_plain fun x hx => ?_)
    rcases List.mem_append.mp hx with hx | hx
    · exact plain_of_mem_toDigits hx
    · obtain rfl := List.mem_singleton.mp hx
      decide
  exact .foreign (isForeign_of_encodeChar hencode) (hletter ▸ hencode) htail

/-- Every other character is written as itself. -/
theorem form_of_shown {c : Char} (hshort : shortEscape? c = none) (hhidden : isHidden c = false) :
    Form c := by
  have hencode : encodeChar c = [c] := by
    rw [encodeChar, hshort]
    simp [hhidden]
  have hquote : c ≠ '"' := by
    rintro rfl
    cases hshort
  have hbackslash : c ≠ '\\' := by
    rintro rfl
    cases hshort
  have hforeign : isForeign c = false := by
    rw [isForeign_of_encodeChar hencode]
    simp [startsForeign]
  exact .known hforeign (hencode ▸ .plain hbackslash hquote .nil)

theorem form (c : Char) : Form c := by
  cases hshort : shortEscape? c with
  | some e => exact form_of_shortEscape? hshort
  | none =>
    cases hhidden : isHidden c with
    | true => exact form_of_isHidden hshort hhidden
    | false => exact form_of_shown hshort hhidden

theorem encode_cons (c : Char) (cs : List Char) : encode (c :: cs) = encodeChar c ++ encode cs :=
  List.flatMap_cons

/-- The quoted form of a text can stand between quotes. -/
theorem body_encode (cs : List Char) : Lexeme.Body (encode cs) := by
  induction cs with
  | nil => exact .nil
  | cons c cs ih =>
    rw [encode_cons]
    cases form c with
    | known _ hwrites => exact hwrites.body.append ih
    | foreign _ hencode htail =>
      rw [hencode]
      exact .pair _ (htail.append ih)

/-- Without foreign characters the quoted form is a raw form. -/
theorem writes_encode {cs : List Char} (h : ∀ c ∈ cs, isForeign c = false) :
    Escape.Writes cs (encode cs) := by
  induction cs with
  | nil => exact .nil
  | cons c cs ih =>
    obtain ⟨hc, hcs⟩ := List.forall_mem_cons.mp h
    rw [encode_cons]
    cases form c with
    | known _ hwrites => exact hwrites.append (ih hcs)
    | foreign hforeign => cases hc.symm.trans hforeign

/-- The first foreign character of a text is refused. -/
theorem decode_encode_of_foreign {front back : List Char} {c : Char}
    (hfront : ∀ x ∈ front, isForeign x = false) (hc : isForeign c = true) :
    Escape.decode (encode (front ++ c :: back)) = .error (.invalid (foreignLetter c)) := by
  have hsplit : encode (front ++ c :: back) = encode front ++ encode (c :: back) :=
    List.flatMap_append
  have hmeaning : Escape.meaning? (foreignLetter c) = none := by
    unfold foreignLetter
    split <;> rfl
  -- What stands before the foreign character is read; its letter is then refused.
  rw [hsplit, Escape.decode_append (writes_encode hfront).decode_eq, encode_cons]
  cases form c with
  | known hknown => cases hc.symm.trans hknown
  | foreign _ hencode =>
    rw [hencode, List.cons_append, List.cons_append, Escape.decode_invalid hmeaning]
    rfl

end Quoted

/-! ### Displayed matchers -/

namespace Matcher

/-- Matchers as the text of a selector. -/
def displayAll (ms : List Matcher) : String :=
  "\x7b" ++ ",".intercalate (ms.map display) ++ "\x7d"

/-- The first character of the matchers' values that is written as `\0` or by number. -/
def firstForeign (ms : List Matcher) : Option Char :=
  ms.findSome? fun m => m.value.toList.find? Quoted.isForeign

/-- The request that is written by displaying a matcher. -/
def shown (m : Matcher) : Request :=
  ⟨m.operator, m.name, String.ofList (Quoted.encode m.value.toList)⟩

open Writing

/-- The words of a displayed matcher. -/
def words (m : Matcher) : List Word :=
  clauseWords m.name m.operator (.ofBody (Quoted.encode m.value.toList))

theorem toList_display (m : Matcher) : m.display.toList = m.words.flatMap Prod.snd := by
  simp [display, quoted, words, clauseWords, Word.ofName, Word.ofOperator, Word.ofBody]

theorem toList_displayAll (ms : List Matcher) :
    (displayAll ms).toList = (selectorWords (ms.map words) false true).flatMap Prod.snd := by
  simp [displayAll, selectorWords, Word.openBrace, Word.closeBrace, flatMap_intercalate_comma,
    Function.comp_def, toList_display]

theorem requestWords_words {m : Matcher} (hname : Lexeme.Spells .identifier m.name.toList) :
    RequestWords m.shown m.words := by
  have hbody : Lexeme.Body m.shown.raw.toList := by
    rw [shown, String.toList_ofList]
    exact Quoted.body_encode _
  have hwords := RequestWords.words (r := m.shown) hname (.quoted hbody)
  rwa [shown, String.toList_ofList] at hwords

/-- Displaying matchers writes requests between braces. -/
theorem writes_displayAll {ms : List Matcher}
    (hnames : ∀ m ∈ ms, Lexeme.Spells .identifier m.name.toList) :
    Writes RequestWords (ms.map shown) true (displayAll ms) := by
  refine ⟨ms.map words, false, ?_, nofun, ?_⟩
  · rw [List.forall₂_map_left_iff, List.forall₂_map_right_iff, List.forall₂_same]
    exact fun m hm => requestWords_words (hnames m hm)
  · rw [toList_displayAll]
    exact spaced_flatMap _

/-! ### Reading displayed matchers -/

/-- A matcher without foreign characters is made again. -/
theorem standard_shown {m : Matcher} (hmade : make m.operator m.name m.value = .ok m)
    (hvalue : m.value.toList.find? Quoted.isForeign = none) :
    Factory.standard m.shown = .ok m := by
  have hclean : ∀ c ∈ m.value.toList, Quoted.isForeign c = false := by
    simpa using List.find?_eq_none.mp hvalue
  have hdecode : Escape.decode m.shown.raw.toList = .ok m.value.toList := by
    rw [shown, String.toList_ofList]
    exact (Quoted.writes_encode hclean).decode_eq
  have hraw : ofRaw m.shown.operator m.shown.name m.shown.raw = .ok m :=
    (ofRaw_of_decode hdecode m.operator m.name).trans hmade
  unfold Factory.standard
  rw [hraw]

theorem forall₂_standard_shown {ms : List Matcher}
    (hmade : ∀ m ∈ ms, make m.operator m.name m.value = .ok m)
    (hvalues : ∀ m ∈ ms, m.value.toList.find? Quoted.isForeign = none) :
    List.Forall₂ (fun r m => Factory.standard r = .ok m) (ms.map shown) ms := by
  rw [List.forall₂_map_left_iff, List.forall₂_same]
  exact fun m hm => standard_shown (hmade m hm) (hvalues m hm)

/-- A matcher is refused at its first foreign character. -/
theorem standard_shown_of_foreign {m : Matcher} {c : Char}
    (hvalue : m.value.toList.find? Quoted.isForeign = some c) :
    Factory.standard m.shown =
      .error (MatcherError.invalidEscape (Quoted.foreignLetter c)).message := by
  obtain ⟨hc, front, back, hsplit, hfront⟩ := List.find?_eq_some_iff_append.mp hvalue
  have hdecode : Escape.decode m.shown.raw.toList =
      .error (.invalid (Quoted.foreignLetter c)) := by
    rw [shown, String.toList_ofList, hsplit]
    exact Quoted.decode_encode_of_foreign (by simpa using hfront) hc
  have hraw := unescape_map_value m.shown.raw
  rw [hdecode] at hraw
  unfold Factory.standard ofRaw
  cases hunescape : unescape m.shown.raw with
  | ok u => rw [hunescape] at hraw; cases hraw
  | error e =>
    rw [hunescape] at hraw
    cases hraw
    rfl

/-- What the standard factory answers is made with the request's operator and name. -/
theorem exists_make_of_standard {r : Request} {m : Matcher} (h : Factory.standard r = .ok m) :
    ∃ value, make r.operator r.name value = .ok m := by
  unfold Factory.standard at h
  cases hraw : ofRaw r.operator r.name r.raw with
  | error e => rw [hraw] at h; cases h
  | ok m' =>
    rw [hraw] at h
    cases h
    unfold ofRaw at hraw
    cases hunescape : unescape r.raw with
    | error e => rw [hunescape] at hraw; cases hraw
    | ok u =>
      rw [hunescape] at hraw
      exact ⟨u.value, hraw⟩

end Matcher

/-- Matchers that have been read have names, and can be made from their fields. -/
theorem made_of_parse {text : String} {settings : ParserSettings} {ms : List Matcher}
    (h : parse text settings = .ok ms) {m : Matcher} (hm : m ∈ ms) :
    Lexeme.Spells .identifier m.name.toList ∧
      Matcher.make m.operator m.name m.value = .ok m := by
  rw [parse, parseWith_eq_play, Automaton.play_eq_ok_iff] at h
  obtain ⟨cs, hcs, hmade⟩ := h.exists_selector
  obtain ⟨c, hc, hstandard⟩ := Automaton.exists_clause_of_mem hmade hm
  obtain ⟨value, hmake⟩ := Matcher.exists_make_of_standard hstandard
  obtain ⟨hop, hname, hvalue⟩ := Matcher.fields_of_make hmake
  -- The name is the text of a token that has been read.
  have hspelled : c.name.Spelled :=
    Token.spelled_of_mem_streamOf (hcs.tokens_subset hc (by simp [Clause.tokens]))
  rw [Token.Spelled, c.name_kind] at hspelled
  rw [hop, hname, hvalue]
  exact ⟨hspelled, hmake⟩

/-- Matchers that have been read are displayed as a text that is read as the same matchers,
    or that is refused. It is refused exactly if a value has a character that is written as
    `\0` or by number, and the first of these characters is named as the cause. -/
theorem parse_displayAll {input : String} {ms : List Matcher}
    (h : parse input .lenient = .ok ms) :
    match Matcher.firstForeign ms with
    | none => parse (Matcher.displayAll ms) .lenient = .ok ms
    | some c => ∃ location, parse (Matcher.displayAll ms) .lenient =
        .error (.grammar ⟨.matcher
          (MatcherError.invalidEscape (if c = '\x00' then '0' else 'u')).message, location⟩) := by
  have hwrites := Matcher.writes_displayAll fun m hm => (made_of_parse h hm).1
  cases hforeign : Matcher.firstForeign ms with
  | none =>
    have hclean := List.findSome?_eq_none_iff.mp hforeign
    have hmade := Matcher.forall₂_standard_shown (fun m hm => (made_of_parse h hm).2) hclean
    exact (parseWith_of_writes hwrites hmade _).mpr nofun
  | some c =>
    -- All matchers before the first with a foreign character are made again.
    obtain ⟨front, m, back, rfl, hm, hclean⟩ := List.findSome?_eq_some_iff.mp hforeign
    rw [List.map_append, List.map_cons] at hwrites
    have hmade := Matcher.forall₂_standard_shown
      (fun m hm => (made_of_parse h (List.mem_append_left _ hm)).2) hclean
    exact parseWith_of_writes_refused hwrites hmade (Matcher.standard_shown_of_foreign hm) nofun

/-- The tab and the quote of the first value are written as they are read; the null
    character of the second is not. -/
theorem displayed_null_refused :
    ∃ ms, parse "a=~\"\\\"\\t\", b=\"c\x00\"" .lenient = .ok ms ∧
      Matcher.firstForeign ms = some '\x00' ∧
      ∃ location, parse (Matcher.displayAll ms) .lenient =
        .error (.grammar ⟨.matcher (MatcherError.invalidEscape '0').message, location⟩) := by
  have hfirst : (parse "a=~\"\\\"\\t\", b=\"c\x00\"" .lenient).map Matcher.firstForeign =
      .ok (some '\x00') := by decide +kernel
  cases hparse : parse "a=~\"\\\"\\t\", b=\"c\x00\"" .lenient with
  | error e => rw [hparse] at hfirst; cases hfirst
  | ok ms =>
    rw [hparse] at hfirst
    have hforeign : Matcher.firstForeign ms = some '\x00' := Except.ok.inj hfirst
    have hdisplayed := parse_displayAll hparse
    rw [hforeign] at hdisplayed
    exact ⟨ms, rfl, hforeign, hdisplayed⟩

end LabelSelector
