import LabelSelector.Proofs.Flaw
import LabelSelector.Proofs.Insides
import Mathlib.Tactic.TFAE

/-! # Selectors made of others

  A comma and a closing brace continue no token before them, and mend no lexical error. So
  texts can be put together as the grammar puts insides of selectors together.

  - Joining two texts with a comma joins their matchers. It fails exactly if the second text
    fails or starts with a brace of its own.
  - Braces around a text change nothing about its matchers, and are needed only where they
    are required.
-/

namespace LabelSelector

open Automaton

variable {μ : Type}

/-! ### Texts with a brace or a comma -/

namespace Token

/-- A brace or a comma at the start of a text. -/
def ofMark (kind : Kind) (mark : String) : Token := ⟨kind, mark, ⟨0, 1, 0, 1⟩⟩

theorem not_continues_of_mute {text next : String} {ts : List Token} {c : Char}
    (hc : Lexeme.Mute c) (hhead : next.toList.head? = some c) : ¬ Continues text ts next := by
  intro hcontinues
  obtain ⟨t, -, -, hnot⟩ := hcontinues.exists_not_ends
  obtain ⟨rest, hnext⟩ := List.head?_eq_some_iff.mp hhead
  rw [hnext] at hnot
  exact hnot (hc.ends t.kind t.text.toList rest)

/-- A brace or a comma in front is the first token of a text. -/
theorem streamOf_mark_append {kind : Kind} {mark : String} (hkind : Grammar.isMark kind = true)
    (hmark : streamOf mark = ([ofMark kind mark], none)) (text : String) :
    streamOf (mark ++ text) =
      Ahead.prepend [ofMark kind mark] (Ahead.shift (.behind mark.toList) (streamOf text)) := by
  refine streamOf_append hmark ?_
  rintro ⟨t, ht, -, h⟩
  obtain rfl : ofMark kind mark = t := Option.some.inj ht
  rcases h with ⟨rfl, -⟩ | ⟨rfl, -⟩ <;> cases hkind

theorem streamOf_comma : streamOf "," = ([ofMark .comma ","], none) := by decide +kernel

theorem streamOf_openBrace : streamOf "\x7b" = ([ofMark .openBrace "\x7b"], none) := by
  decide +kernel

theorem streamOf_closeBrace : streamOf "\x7d" = ([ofMark .closeBrace "\x7d"], none) := by
  decide +kernel

/-- Behind a text without lexical errors and a comma, the tokens of any text are read. -/
theorem exists_streamOf_comma {a : String} {ta : List Token} (ha : streamOf a = (ta, none))
    (b : String) : ∃ comma k k', comma.kind = .comma ∧
      streamOf (a ++ "," ++ b) =
        Ahead.prepend (ta ++ [comma]) (Ahead.shift k (Ahead.shift k' (streamOf b))) := by
  have hcontinues : ¬ Continues a ta ("," ++ b) := by
    have hhead : ("," ++ b).toList.head? = some ',' := by
      rw [String.toList_append]
      rfl
    exact not_continues_of_mute (by decide) hhead
  have hstream := streamOf_append ha hcontinues
  rw [streamOf_mark_append rfl streamOf_comma, Ahead.shift_prepend, Ahead.prepend_prepend] at hstream
  rw [String.append_assoc, hstream]
  exact ⟨_, _, _, rfl, rfl⟩

end Token

/-! ### Joined texts -/

/-- A comma joins selectors. Behind a text `a` that has matchers, starts with a token other
    than a brace and does not end with a comma, a text `b` can stand behind a comma exactly
    if it has matchers and does not start with a brace. Its matchers come behind those of
    `a`. A blank text adds none. -/
theorem parseWith_join_comma {make : Factory μ} {a : String} {ma : List μ}
    (ha : parseWith a make .lenient = .ok ma) (hne : (Token.streamOf a).1 ≠ [])
    (hfirst : ¬ StartsBraced a) (hlast : ∀ t ∈ (Token.streamOf a).1.getLast?, t.kind ≠ .comma)
    (b : String) :
    (∀ ms, parseWith (a ++ "," ++ b) make .lenient = .ok ms ↔
      ∃ mb, parseWith b make .lenient = .ok mb ∧ ¬ StartsBraced b ∧ ms = ma ++ mb) ∧
    (Layout.Blank b.toList → parseWith (a ++ "," ++ b) make .lenient = .ok ma) := by
  obtain ⟨hend, ca, hinside, hmade⟩ := holds_streamOf_iff.mpr ⟨ha, hfirst⟩
  have hclauses : Grammar.Clauses (Token.streamOf a).1 ca := hinside.clauses hne hlast
  obtain ⟨comma, k, k', hcomma, hstream⟩ :=
    Token.exists_streamOf_comma (Prod.ext rfl hend : Token.streamOf a = (_, none)) b
  have hbare : ¬ StartsBraced (a ++ "," ++ b) := by
    rintro ⟨t, ht, hopen⟩
    refine hfirst ⟨t, ?_, hopen⟩
    rw [hstream] at ht
    obtain ⟨u, ts, hts⟩ := List.exists_cons_of_ne_nil hne
    have hhead : (Ahead.prepend ((Token.streamOf a).1 ++ [comma])
        (Ahead.shift k (Ahead.shift k' (Token.streamOf b)))).1.head? = some u := by
      rw [hts]
      rfl
    rw [hhead] at ht
    rw [hts]
    exact ht
  have hjoined : ∀ ms, parseWith (a ++ "," ++ b) make .lenient = .ok ms ↔
      ∃ mb, parseWith b make .lenient = .ok mb ∧ ¬ StartsBraced b ∧ ms = ma ++ mb := by
    intro ms
    calc parseWith (a ++ "," ++ b) make .lenient = .ok ms
        ↔ Ahead.Holds make (Token.streamOf (a ++ "," ++ b)) ms := by
          rw [holds_streamOf_iff]
          exact (and_iff_left hbare).symm
      _ ↔ ∃ mb, Ahead.Holds make (Token.streamOf b) mb ∧ ms = ma ++ mb := by
          rw [hstream, Ahead.holds_prepend_comma_iff hclauses hmade hcomma]
          simp only [Ahead.holds_shift_iff]
      _ ↔ ∃ mb, parseWith b make .lenient = .ok mb ∧ ¬ StartsBraced b ∧ ms = ma ++ mb := by
          simp only [holds_streamOf_iff, and_assoc]
  refine ⟨hjoined, fun hblank => ?_⟩
  have hb : Ahead.Holds make (Token.streamOf b) [] := by
    rw [Token.streamOf, Token.stream_of_finish (hblank.read _)]
    exact ⟨rfl, [], .empty, .nil⟩
  obtain ⟨hparse, hbraced⟩ := holds_streamOf_iff.mp hb
  exact (hjoined ma).mpr ⟨[], hparse, hbraced, (List.append_nil ma).symm⟩

/-- Clauses join with blanks in front of the second one and a comma behind it, and a comma
    alone adds nothing. -/
theorem joined_with_trailing_comma :
    let make : Factory Request := Except.ok
    parseWith "a=\"é\"" make .lenient = .ok [⟨.equal, "a", "é"⟩] ∧
      (Token.streamOf "a=\"é\"").1 ≠ [] ∧ ¬ StartsBraced "a=\"é\"" ∧
      (∀ t ∈ (Token.streamOf "a=\"é\"").1.getLast?, t.kind ≠ .comma) ∧
      parseWith ("a=\"é\"" ++ "," ++ "\tb!~c,") make .lenient =
        .ok [⟨.equal, "a", "é"⟩, ⟨.notRegexp, "b", "c"⟩] ∧
      parseWith ("a=\"é\"" ++ "," ++ "") make .lenient = .ok [⟨.equal, "a", "é"⟩] ∧
      parseWith ("a=\"é\"" ++ "," ++ "\x7b\x7d") make .lenient ≠ .ok [⟨.equal, "a", "é"⟩] := by
  intro make
  have ha : parseWith "a=\"é\"" make .lenient = .ok [⟨.equal, "a", "é"⟩] := by
    rw [parseWith_eq_play]
    decide +kernel
  have hb : parseWith "\tb!~c," make .lenient = .ok [⟨.notRegexp, "b", "c"⟩] := by
    rw [parseWith_eq_play]
    decide +kernel
  have hne : (Token.streamOf "a=\"é\"").1 ≠ [] := by decide +kernel
  have hfirst : ¬ StartsBraced "a=\"é\"" := by decide +kernel
  have hlast : ∀ t ∈ (Token.streamOf "a=\"é\"").1.getLast?, t.kind ≠ .comma := by decide +kernel
  refine ⟨ha, hne, hfirst, hlast, ?_, ?_, ?_⟩
  · refine ((parseWith_join_comma ha hne hfirst hlast "\tb!~c,").1 _).mpr ?_
    exact ⟨_, hb, by decide +kernel, rfl⟩
  · exact (parseWith_join_comma ha hne hfirst hlast "").2 (by decide)
  · intro hbraced
    obtain ⟨mb, -, hstarts, -⟩ :=
      ((parseWith_join_comma ha hne hfirst hlast "\x7b\x7d").1 _).mp hbraced
    revert hstarts
    decide +kernel

/-! ### A closing brace mends no error -/

/-- A flawed text stays flawed when a brace is written behind it. -/
theorem Lexeme.Flawed.append_brace {text passed fragment : List Char} {cause : LexicalError.Cause}
    (h : Flawed text cause passed fragment) :
    ∃ fragment', Flawed (text ++ ['\x7d']) cause passed fragment' := by
  cases h with
  | @invalid c cs hc => exact ⟨[c], .invalid hc⟩
  | @negation cs hne =>
    refine ⟨(cs ++ ['\x7d']).take 1, .negation ?_⟩
    intro c hc
    cases cs with
    | nil =>
      obtain rfl : '\x7d' = c := Option.some.inj hc
      decide
    | cons d cs => exact hne c hc
  | @endless cs hescaped =>
    refine ⟨'"' :: (cs ++ ['\x7d']), .endless ?_⟩
    intro front back hsplit
    -- The brace is no quote, so every quote stands in the text before it.
    rcases List.eq_nil_or_concat back with rfl | ⟨back, c, rfl⟩
    · obtain ⟨-, hlast⟩ := List.append_inj' hsplit rfl
      cases hlast
    · rw [List.concat_eq_append, ← List.cons_append, ← List.append_assoc] at hsplit
      obtain ⟨hcs, -⟩ := List.append_inj' hsplit rfl
      exact hescaped front back hcs

namespace Token

/-- Where reading fails, it fails with a brace behind the text, too. -/
theorem exists_read_append_brace {before cs : List Char} {e : LexicalError}
    (h : read (.behind before) cs = .error e) :
    ∃ e', read (.behind before) (cs ++ ['\x7d']) = .error e' := by
  obtain ⟨passed, fragment, hflawed, -, -⟩ := read_eq_error_iff.mp h
  have hne : cs.dropWhile isBlank ≠ [] := by
    intro hnil
    rw [hnil] at hflawed
    cases hflawed
  have hdrop : (cs ++ ['\x7d']).dropWhile isBlank = cs.dropWhile isBlank ++ ['\x7d'] := by
    rw [List.dropWhile_append, if_neg (by simpa using hne)]
  obtain ⟨fragment', hflawed'⟩ := hflawed.append_brace
  rw [← hdrop] at hflawed'
  let place := before ++ (cs ++ ['\x7d']).takeWhile isBlank ++ passed
  refine ⟨⟨e.cause, .behind place fragment', String.ofList fragment'⟩, read_eq_error_iff.mpr ?_⟩
  exact ⟨passed, fragment', hflawed', rfl, rfl⟩

/-- A text with a brace behind it has a lexical error if it has one alone. -/
theorem failure_of_append_brace {before cs : List Char}
    (h : (stream (.behind before) (cs ++ ['\x7d'])).2 = none) :
    (stream (.behind before) cs).2 = none := by
  generalize hk : Cursor.behind before = k at h ⊢
  fun_induction stream k cs generalizing before with
  | case1 => rfl
  | case2 k cs e hread =>
    subst hk
    obtain ⟨e', hread'⟩ := exists_read_append_brace hread
    rw [stream_of_error hread'] at h
    cases h
  | case3 k cs t stop rest hread ts e hstream ih =>
    subst hk
    obtain ⟨lead, hlead, hspells, hends, rfl, hspan, rfl⟩ := read_eq_token hread
    have hends' : Lexeme.Ends t.kind t.text.toList (rest ++ ['\x7d']) := by
      cases rest with
      | nil => exact Lexeme.Mute.ends (by decide) t.kind t.text.toList []
      | cons c rest => exact hends.append (List.cons_ne_nil c rest) ['\x7d']
    have hread' := hlead.read_lexeme hspells hends' before
    have hcs : lead ++ (t.text.toList ++ rest) ++ ['\x7d'] =
        lead ++ (t.text.toList ++ (rest ++ ['\x7d'])) := by simp
    rw [hcs, stream_of_token hread'] at h
    rw [hstream] at ih
    exact ih rfl h

end Token

/-! ### Texts between braces -/

/-- The place of the first token of a text, or of its end if it has none. -/
def Location.first (text : String) : Location :=
  (Token.streamOf text).1.head?.elim (.behind text) fun t => .token t.span t.text

/-- Between braces stand the tokens of a text without lexical errors. -/
theorem Token.exists_streamOf_braces {s : String} {ts : List Token} (hs : streamOf s = (ts, none)) :
    ∃ opening closing k, opening.kind = .openBrace ∧ closing.kind = .closeBrace ∧
      streamOf ("\x7b" ++ s ++ "\x7d") =
        (opening :: (ts.map (Token.shift k) ++ [closing]), none) := by
  have hcontinues : ¬ Continues s ts "\x7d" := by
    have hhead : "\x7d".toList.head? = some '\x7d' := rfl
    exact not_continues_of_mute (by decide) hhead
  have hclosed := streamOf_append hs hcontinues
  rw [streamOf_closeBrace] at hclosed
  have hbraced := streamOf_mark_append rfl streamOf_openBrace (s ++ "\x7d")
  rw [hclosed, Ahead.shift_prepend, ← String.append_assoc] at hbraced
  exact ⟨_, _, _, rfl, rfl, hbraced⟩

/-- A text with a lexical error has one between braces. -/
theorem Token.failure_of_braces {s : String}
    (h : (streamOf ("\x7b" ++ s ++ "\x7d")).2 = none) : (streamOf s).2 = none := by
  rw [String.append_assoc, streamOf_mark_append rfl streamOf_openBrace] at h
  have hclosed : (streamOf (s ++ "\x7d")).2 = none := Option.map_eq_none_iff.mp h
  rw [streamOf, String.toList_append, ← Cursor.behind_nil] at hclosed
  exact failure_of_append_brace hclosed

/-- A text has matchers between braces exactly if it holds them as the inside of a selector. -/
theorem parseWith_braces_iff {s : String} {make : Factory μ} {settings : ParserSettings}
    {ms : List μ} :
    parseWith ("\x7b" ++ s ++ "\x7d") make settings = .ok ms ↔
      Ahead.Holds make (Token.streamOf s) ms := by
  by_cases hend : (Token.streamOf s).2 = none
  · obtain ⟨opening, closing, k, hopening, hclosing, hstream⟩ :=
      Token.exists_streamOf_braces (Prod.ext rfl hend : Token.streamOf s = (_, none))
    have hshift : Ahead.shift k (Token.streamOf s) =
        ((Token.streamOf s).1.map (Token.shift k), none) := by
      rw [Ahead.shift, hend]
      rfl
    rw [parseWith_eq_ok_iff, hstream, ← Ahead.holds_shift_iff k, hshift]
    simp only [Grammar.selector_braces_iff hopening hclosing, Ahead.Holds]
  · constructor
    · intro h
      exact absurd (Token.failure_of_braces (parseWith_eq_ok_iff.mp h).1) hend
    · intro h
      exact absurd h.1 hend

/-- Where braces are required, a text without a brace in front fails at its first token. -/
theorem parseWith_strict_of_not_startsBraced {s : String} (hend : (Token.streamOf s).2 = none)
    (hbare : ¬ StartsBraced s) (make : Factory μ) :
    parseWith s make .strict = .error (.grammar ⟨.openBrace, .first s⟩) := by
  rw [parseWith_eq_play]
  refine play_of_reports ?_
  unfold Location.first
  cases hts : (Token.streamOf s).1 with
  | nil =>
    have hrun : run .strict initial ((Token.streamOf s).1.map Token.kind) = .ok initial := by
      rw [hts]
      rfl
    have hmade : Makes make (Grammar.clausesIn [] (Token.streamOf s).1) [] := by
      rw [hts]
      exact .nil
    exact .missing hend hrun hmade rfl
  | cons t ts =>
    have hne : t.kind ≠ .openBrace := by
      intro hopen
      exact hbare ⟨t, by rw [hts]; rfl, hopen⟩
    have hstep : step .strict initial t.kind = .error .openBrace := by
      simp [step, initial, hne, ParserSettings.strict]
    have hsplit : (Token.streamOf s).1 = [] ++ t :: ts := hts
    exact .token hsplit rfl .nil hstep

/-- Braces around a text are decoration. With braces around it, a text has the same matchers
    whether or not they are required, and these are its matchers without the braces, unless
    it starts with a brace itself. Such a text fails where braces are required, at its first
    token or at its end. -/
theorem braces_are_decoration (s : String) (make : Factory μ) (ms : List μ) :
    [parseWith ("\x7b" ++ s ++ "\x7d") make .strict = .ok ms,
      parseWith ("\x7b" ++ s ++ "\x7d") make .lenient = .ok ms,
      parseWith s make .lenient = .ok ms ∧ ¬ StartsBraced s].TFAE ∧
    (parseWith s make .lenient = .ok ms ∧ ¬ StartsBraced s →
      parseWith s make .strict = .error (.grammar ⟨.openBrace, .first s⟩)) := by
  constructor
  · tfae_have 1 ↔ 3 := parseWith_braces_iff.trans holds_streamOf_iff
    tfae_have 2 ↔ 3 := parseWith_braces_iff.trans holds_streamOf_iff
    tfae_finish
  · rintro ⟨hparse, hbare⟩
    have hend : (Token.streamOf s).2 = none := (parseWith_eq_ok_iff.mp hparse).1
    exact parseWith_strict_of_not_startsBraced hend hbare make

/-- A brace in a quoted text closes nothing, and a comma may stand before the one that does. -/
theorem quoted_brace_between_braces :
    let make : Factory Request := Except.ok
    parseWith ("\x7b" ++ "a=\"\x7d\"," ++ "\x7d") make .strict = .ok [⟨.equal, "a", "\x7d"⟩] ∧
      parseWith ("\x7b" ++ "a=\"\x7d\"," ++ "\x7d") make .lenient =
        .ok [⟨.equal, "a", "\x7d"⟩] ∧
      parseWith "a=\"\x7d\"," make .strict =
        .error (.grammar ⟨.openBrace, .first "a=\"\x7d\","⟩) := by
  intro make
  have hparse : parseWith "a=\"\x7d\"," make .lenient = .ok [⟨.equal, "a", "\x7d"⟩] := by
    rw [parseWith_eq_play]
    decide +kernel
  have hbare : ¬ StartsBraced "a=\"\x7d\"," := by decide +kernel
  obtain ⟨hforms, hstrict⟩ := braces_are_decoration "a=\"\x7d\"," make [⟨.equal, "a", "\x7d"⟩]
  have hboth := And.intro hparse hbare
  refine ⟨?_, ?_, hstrict hboth⟩
  · exact (hforms.out 0 2).mpr hboth
  · exact (hforms.out 1 2).mpr hboth

end LabelSelector
