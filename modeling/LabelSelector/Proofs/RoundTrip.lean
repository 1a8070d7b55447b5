import LabelSelector.Proofs.Writing
import LabelSelector.Selector

/-! # Matchers are read back from what is written

  A matcher can be written in many ways. Its value stands between quotes, with
  backslashes and quotes escaped and, at will, newlines, tabs and carriage returns too;
  a value that is a name may also stand bare. All of them are read back as the same
  matcher.
-/

namespace LabelSelector

/-! ### Escapes -/

namespace Escape

/-- The raw forms of a value. Backslashes and quotes are always escaped; newlines, tabs and
    carriage returns may be. -/
inductive Writes : (value raw : List Char) → Prop where
  | nil : Writes [] []
  | plain {c : Char} {value raw : List Char} : c ≠ '\\' → c ≠ '"' → Writes value raw →
      Writes (c :: value) (c :: raw)
  | backslash {value raw : List Char} : Writes value raw →
      Writes ('\\' :: value) ('\\' :: '\\' :: raw)
  | quote {value raw : List Char} : Writes value raw → Writes ('"' :: value) ('\\' :: '"' :: raw)
  | newline {value raw : List Char} : Writes value raw → Writes ('\n' :: value) ('\\' :: 'n' :: raw)
  | tab {value raw : List Char} : Writes value raw → Writes ('\t' :: value) ('\\' :: 't' :: raw)
  | carriageReturn {value raw : List Char} : Writes value raw →
      Writes ('\r' :: value) ('\\' :: 'r' :: raw)

/-- A character other than the backslash stands for itself. -/
theorem decode_cons {c : Char} (hc : c ≠ '\\') (cs : List Char) :
    decode (c :: cs) = (decode cs).map (c :: ·) := by
  rw [decode]
  · exact fun h _ => hc h
  · exact fun _ _ h _ => hc h

/-- A pair with a meaning stands for it. -/
theorem decode_pair {c m : Char} (h : meaning? c = some m) (cs : List Char) :
    decode ('\\' :: c :: cs) = (decode cs).map (m :: ·) := by
  simp [decode, h]

/-- A pair without a meaning is told. -/
theorem decode_invalid {c : Char} (h : meaning? c = none) (cs : List Char) :
    decode ('\\' :: c :: cs) = .error (.invalid c) := by
  simp [decode, h]

theorem exists_of_map_eq_ok {e : Except Error (List Char)} {f : List Char → List Char}
    {value : List Char} (h : e.map f = .ok value) : ∃ value', e = .ok value' := by
  cases e with
  | error x => cases h
  | ok value' => exact ⟨value', rfl⟩

/-- Where decoding finds neither a backslash alone nor a pair, no backslash stands. -/
theorem ne_backslash {c : Char} {cs : List Char} (hlast : c = '\\' → cs = [] → False)
    (hpair : ∀ d ds, c = '\\' → cs = d :: ds → False) : c ≠ '\\' := by
  intro hc
  cases cs with
  | nil => exact hlast hc rfl
  | cons d ds => exact hpair d ds hc rfl

/-- What is decoded in front is decoded as if it were alone. -/
theorem decode_append {front value : List Char} (h : decode front = .ok value)
    (rest : List Char) : decode (front ++ rest) = (decode rest).map (value ++ ·) := by
  fun_induction decode front generalizing value with
  | case1 =>
    cases h
    cases hrest : decode rest <;> simp [Except.map, hrest]
  | case2 => cases h
  | case3 c cs hc => cases h
  | case4 c cs m hc ih =>
    obtain ⟨value', hcs⟩ := exists_of_map_eq_ok h
    rw [hcs] at h
    cases h
    rw [List.cons_append, List.cons_append, decode_pair hc, ih hcs]
    cases decode rest <;> rfl
  | case5 c cs hlast hpair ih =>
    obtain ⟨value', hcs⟩ := exists_of_map_eq_ok h
    rw [hcs] at h
    cases h
    have hc : c ≠ '\\' := ne_backslash hlast hpair
    rw [List.cons_append, decode_cons hc, ih hcs]
    cases decode rest <;> rfl

/-- A raw form is read as its value. -/
theorem Writes.decode_eq {value raw : List Char} (h : Writes value raw) :
    decode raw = .ok value := by
  induction h with
  | nil => rfl
  | plain hc _ _ ih =>
    rw [decode_cons hc, ih]
    rfl
  | backslash _ ih | quote _ ih | newline _ ih | tab _ ih | carriageReturn _ ih =>
    rw [decode_pair rfl, ih]
    rfl

theorem Writes.append {value value' raw raw' : List Char} (h : Writes value raw)
    (h' : Writes value' raw') : Writes (value ++ value') (raw ++ raw') := by
  induction h with
  | nil => exact h'
  | plain hbackslash hquote _ ih => exact .plain hbackslash hquote ih
  | backslash _ ih => exact .backslash ih
  | quote _ ih => exact .quote ih
  | newline _ ih => exact .newline ih
  | tab _ ih => exact .tab ih
  | carriageReturn _ ih => exact .carriageReturn ih

/-- A raw form can stand between quotes. -/
theorem Writes.body {value raw : List Char} (h : Writes value raw) : Lexeme.Body raw := by
  induction h with
  | nil => exact .nil
  | plain hbackslash hquote _ ih => exact .plain hquote hbackslash ih
  | backslash _ ih | quote _ ih | newline _ ih | tab _ ih | carriageReturn _ ih => exact .pair _ ih

/-- Without a backslash a raw value is its value. -/
theorem decode_of_not_mem {cs : List Char} (h : '\\' ∉ cs) : decode cs = .ok cs := by
  induction cs with
  | nil => rfl
  | cons c cs ih =>
    obtain ⟨hc, hcs⟩ := List.ne_and_not_mem_of_not_mem_cons h
    rw [decode_cons (Ne.symm hc), ih hcs]
    rfl

end Escape

/-- Names need no escapes. -/
theorem Lexeme.Spells.not_mem_backslash {chars : List Char} (h : Spells .identifier chars) :
    '\\' ∉ chars := by
  have hpart : ¬ NamePart '\\' := by
    rw [← isNameChar_iff]
    decide
  cases h with
  | name hc hcs =>
    intro hmem
    rcases List.mem_cons.mp hmem with rfl | hmem
    · exact hpart hc.part
    · exact hpart (hcs _ hmem)

/-- The value of a raw value is what it is decoded to. -/
theorem unescape_map_value (raw : String) :
    (unescape raw).map Unescaped.value = (Escape.decode raw.toList).map String.ofList := by
  unfold unescape
  split
  · cases Escape.decode raw.toList <;> rfl
  · next h =>
    have hmem : '\\' ∉ raw.toList := by simpa using h
    rw [Escape.decode_of_not_mem hmem]
    simp [Except.map]

/-! ### Making matchers -/

namespace Matcher

/-- A matcher has the fields it was made with. -/
theorem fields_of_make {op : Operator} {name value : String} {m : Matcher}
    (h : make op name value = .ok m) : m.operator = op ∧ m.name = name ∧ m.value = value := by
  unfold make at h
  split at h
  · split at h
    · cases h
      exact ⟨rfl, rfl, rfl⟩
    · cases h
  · cases h
    exact ⟨rfl, rfl, rfl⟩

/-- Only patterns can fail to make a matcher. -/
theorem exists_make {op : Operator} (h : op.isRegex = false) (name value : String) :
    ∃ m, make op name value = .ok m := by
  unfold make
  rw [h]
  exact ⟨_, rfl⟩

/-- From a raw value that is decoded, the matcher with the value is made. -/
theorem ofRaw_of_decode {raw value : String} (h : Escape.decode raw.toList = .ok value.toList)
    (op : Operator) (name : String) : ofRaw op name raw = make op name value := by
  have hvalue := unescape_map_value raw
  rw [h] at hvalue
  unfold ofRaw
  cases hraw : unescape raw with
  | error e => rw [hraw] at hvalue; cases hvalue
  | ok u =>
    rw [hraw] at hvalue
    have hu : u.value = value := by simpa [Except.map] using hvalue
    rw [← hu]

end Matcher

/-! ### Conditions -/

/-- What a matcher is made for. -/
structure Condition where
  operator : Operator
  /-- The name of the label. -/
  name : String
  /-- The value, any text at all. -/
  value : String
  name_spelled : Lexeme.Spells .identifier name.toList

namespace Condition

open Writing

/-- How the value of a condition is written: between quotes in a raw form, or bare if it
    is a name. -/
inductive ValueWord (c : Condition) : Word → Prop where
  | quoted {raw : List Char} : Escape.Writes c.value.toList raw → ValueWord c (.ofBody raw)
  | bare : Lexeme.Spells .identifier c.value.toList → ValueWord c (.ofName c.value.toList)

/-- How a condition is written. -/
inductive Words (c : Condition) : List Word → Prop where
  | words {w : Word} : c.ValueWord w → Words c (clauseWords c.name c.operator w)

/-- A request asks for the matcher of a condition. -/
def AskedBy (c : Condition) (r : Request) : Prop :=
  ∀ m, Matcher.make c.operator c.name c.value = .ok m → Factory.standard r = .ok m

theorem askedBy_of_decode {c : Condition} {r : Request} (hoperator : r.operator = c.operator)
    (hname : r.name = c.name) (hraw : Escape.decode r.raw.toList = .ok c.value.toList) :
    c.AskedBy r := by
  intro m hm
  unfold Factory.standard
  rw [Matcher.ofRaw_of_decode hraw, hoperator, hname, hm]

/-- However a condition is written, a request for its matcher is written. -/
theorem Words.exists_request {c : Condition} {ws : List Word} (h : c.Words ws) :
    ∃ r, RequestWords r ws ∧ c.AskedBy r := by
  cases h with
  | words hvalue =>
    cases hvalue with
    | @quoted raw hraw =>
      refine ⟨⟨c.operator, c.name, String.ofList raw⟩, ?_, askedBy_of_decode rfl rfl ?_⟩
      · have hword : RawWord (String.ofList raw) (.ofBody (String.ofList raw).toList) := by
          refine .quoted ?_
          rw [String.toList_ofList]
          exact hraw.body
        rw [String.toList_ofList] at hword
        exact .words c.name_spelled hword
      · rw [String.toList_ofList]
        exact hraw.decode_eq
    | bare hname =>
      refine ⟨⟨c.operator, c.name, c.value⟩, .words c.name_spelled (.bare hname),
        askedBy_of_decode rfl rfl (Escape.decode_of_not_mem ?_)⟩
      exact hname.not_mem_backslash

/-- The matchers of some conditions are made for the requests that ask for them. -/
theorem forall₂_standard {cs : List Condition} {rs : List Request} {ms : List Matcher}
    (hasked : List.Forall₂ AskedBy cs rs)
    (hmade : List.Forall₂ (fun c m => Matcher.make c.operator c.name c.value = .ok m) cs ms) :
    List.Forall₂ (fun r m => Factory.standard r = .ok m) rs ms := by
  induction hasked generalizing ms with
  | nil =>
    cases hmade
    exact .nil
  | cons hask _ ih =>
    cases hmade with
    | cons hm hmade => exact .cons (hask _ hm) (ih hmade)

/-- There are matchers for conditions whose patterns can be compiled. -/
theorem exists_matchers {cs : List Condition}
    (h : ∀ c ∈ cs, c.operator.isRegex = true →
      ∃ m, Matcher.make c.operator c.name c.value = .ok m) :
    ∃ ms, List.Forall₂ (fun c m => Matcher.make c.operator c.name c.value = .ok m) cs ms := by
  induction cs with
  | nil => exact ⟨[], .nil⟩
  | cons c cs ih =>
    obtain ⟨hc, hcs⟩ := List.forall_mem_cons.mp h
    obtain ⟨ms, hms⟩ := ih hcs
    obtain ⟨m, hm⟩ : ∃ m, Matcher.make c.operator c.name c.value = .ok m := by
      cases hregex : c.operator.isRegex with
      | false => exact Matcher.exists_make hregex c.name c.value
      | true => exact hc hregex
    exact ⟨m :: ms, .cons hm hms⟩

end Condition

/-! ### Reading what is written -/

open Writing

/-- Requests that are written are handed to the factory, whatever it makes of them. -/
theorem parseWith_of_writes {μ : Type} {make : Factory μ} {rs : List Request} {ms : List μ}
    {braced : Bool} {text : String} (hwrites : Writes RequestWords rs braced text)
    (hmade : List.Forall₂ (fun r m => make r = .ok m) rs ms) (settings : ParserSettings) :
    parseWith text make settings = .ok ms ↔ (settings.requireBraces = true → braced = true) := by
  obtain ⟨ts, cs, hts, rfl, hselector, hhead⟩ := hwrites.exists_selector
  rw [parseWith_eq_play, Automaton.play_eq_ok_iff]
  constructor
  · -- Without braces the first token is none, so braces cannot be required.
    intro hpasses hrequired
    obtain ⟨t, ht, hopen⟩ := hpasses.head_eq_openBrace hrequired
    rw [hts] at ht
    by_contra hbraced
    exact hhead (by simpa using hbraced) t ht hopen
  · intro hbraces
    exact Automaton.passes_of_selector hts (hselector settings hbraces)
      (List.forall₂_map_left_iff.mp hmade)

/-- Of the requests that are written, the first that the factory refuses is reported. -/
theorem parseWith_of_writes_refused {μ : Type} {make : Factory μ} {front back : List Request}
    {r : Request} {ms : List μ} {cause : String} {braced : Bool} {text : String}
    (hwrites : Writes RequestWords (front ++ r :: back) braced text)
    (hmade : List.Forall₂ (fun r m => make r = .ok m) front ms)
    (hrefused : make r = .error cause) {settings : ParserSettings}
    (hbraces : settings.requireBraces = true → braced = true) :
    ∃ location, parseWith text make settings = .error (.grammar ⟨.matcher cause, location⟩) := by
  obtain ⟨ts, cs, hts, hcs, hselector, -⟩ := hwrites.exists_selector
  -- The clauses are split where their requests are.
  obtain ⟨cs₁, cs₂, rfl, rfl, hcs₂⟩ := List.map_eq_append_iff.mp hcs
  obtain ⟨c, cs₂, rfl, rfl, -⟩ := List.map_eq_cons_iff.mp hcs₂
  have hreports := Automaton.reports_of_selector hts (hselector settings hbraces)
    (List.forall₂_map_left_iff.mp hmade) hrefused
  rw [parseWith_eq_play, Automaton.play_of_reports hreports]
  exact ⟨_, rfl⟩

/-- Every list of conditions whose patterns can be compiled is read back from every text in
    which it is written, as the matchers of these conditions in order. Where braces are
    required, this is so exactly for the texts with braces. -/
theorem parse_written {cs : List Condition} {braced : Bool} {text : String}
    (hpatterns : ∀ c ∈ cs, c.operator.isRegex = true →
      ∃ m, Matcher.make c.operator c.name c.value = .ok m)
    (hwrites : Writes Condition.Words cs braced text) :
    ∃ ms, parse text .lenient = .ok ms ∧
      List.Forall₂ (fun c m => Matcher.make c.operator c.name c.value = .ok m ∧
        m.operator = c.operator ∧ m.name = c.name ∧ m.value = c.value) cs ms ∧
      (parse text .strict = .ok ms ↔ braced = true) := by
  obtain ⟨ms, hms⟩ := Condition.exists_matchers hpatterns
  obtain ⟨rs, hrs, hasked⟩ := hwrites.exists_of_forall fun _ _ => Condition.Words.exists_request
  have hmade := Condition.forall₂_standard hasked hms
  refine ⟨ms, (parseWith_of_writes hrs hmade _).mpr nofun, ?_, ?_⟩
  · exact hms.imp fun c m hm => ⟨hm, Matcher.fields_of_make hm⟩
  · rw [parse, parseWith_of_writes hrs hmade]
    exact ⟨fun h => h rfl, fun h _ => h⟩

/-- A bare pattern, and a value of a quote, a newline and a backslash, are read back from
    between braces, with blanks and a trailing comma. -/
theorem written_with_trailing_comma :
    Writes Condition.Words [⟨.notEqual, "a", "\"\n\\", by decide⟩,
        ⟨.regexp, "b:1", "c", by decide⟩] true " \x7ba !=\"\\\"\n\\\\\",\n b:1=~c ,\x7d\t" ∧
      ∃ ms, parse " \x7ba !=\"\\\"\n\\\\\",\n b:1=~c ,\x7d\t" .lenient = .ok ms ∧
        ms.map (fun m => (m.name, m.operator, m.value)) =
          [("a", .notEqual, "\"\n\\"), ("b:1", .regexp, "c")] ∧
        parse " \x7ba !=\"\\\"\n\\\\\",\n b:1=~c ,\x7d\t" .strict = .ok ms := by
  -- The newline stands for itself here; it need not be escaped.
  have hraw : Escape.Writes "\"\n\\".toList ['\\', '"', '\n', '\\', '\\'] := by
    rw [show "\"\n\\".toList = ['"', '\n', '\\'] by decide +kernel]
    exact .quote (.plain (by decide) (by decide) (.backslash .nil))
  have hwrites : Writes Condition.Words [⟨.notEqual, "a", "\"\n\\", by decide⟩,
      ⟨.regexp, "b:1", "c", by decide⟩] true " \x7ba !=\"\\\"\n\\\\\",\n b:1=~c ,\x7d\t" := by
    refine ⟨_, true, .cons (.words (.quoted hraw)) (.cons (.words (.bare (by decide))) .nil),
      nofun, ?_⟩
    have hspaced :=
      @Spaced.word [' '] _ .openBrace _ (by decide) <|
      @Spaced.word [] _ (.ofName "a".toList) _ (by decide) <|
      @Spaced.word [' '] _ (.ofOperator .notEqual) _ (by decide) <|
      @Spaced.word [] _ (.ofBody ['\\', '"', '\n', '\\', '\\']) _ (by decide) <|
      @Spaced.word [] _ .comma _ (by decide) <|
      @Spaced.word ['\n', ' '] _ (.ofName "b:1".toList) _ (by decide) <|
      @Spaced.word [] _ (.ofOperator .regexp) _ (by decide) <|
      @Spaced.word [] _ (.ofName "c".toList) _ (by decide) <|
      @Spaced.word [' '] _ .comma _ (by decide) <|
      @Spaced.word [] _ .closeBrace _ (by decide) <|
      @Spaced.finish ['\t'] (by decide)
    refine (congrArg (Spaced _) ?_).mp hspaced
    decide +kernel
  obtain ⟨ms, hlenient, hms, hstrict⟩ := parse_written (by
    intro c hc _
    have hok : (Matcher.make c.operator c.name c.value).isOk = true := by
      revert c
      decide +kernel
    cases hm : Matcher.make c.operator c.name c.value with
    | ok m => exact ⟨m, rfl⟩
    | error e => rw [hm] at hok; cases hok) hwrites
  refine ⟨hwrites, ms, hlenient, ?_, hstrict.mpr rfl⟩
  cases hms with
  | cons h₁ hms =>
    cases hms with
    | cons h₂ hms =>
      cases hms
      simp [h₁.2, h₂.2]

end LabelSelector
