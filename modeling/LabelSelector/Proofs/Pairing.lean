import LabelSelector.Proofs.Requests
import LabelSelector.Proofs.RoundTrip

/-! # Quoted texts and escapes agree on pairs

  A quoted text is cut off where no backslash has paired up the closing quote, and its
  value is decoded elsewhere. Both read backslashes in pairs from the left, so they agree.

  - The value of a quoted token is a sequence of plain characters and pairs, and decoding
    starts an escape only where a pair starts.
  - So no value of a token ends inside an escape, and a parser with the standard factory
    never says so.
  - A raw value that can be decoded, and in which every quote belongs to a pair, is a single
    token when it is put between quotes.
-/

namespace LabelSelector

open Automaton

/-! ### Pieces of quoted texts -/

namespace Lexeme

/-- What the inside of a quoted text is made of. -/
inductive Piece where
  /-- A character that neither ends the text nor starts a pair. -/
  | plain (c : Char) (hquote : c ≠ '"') (hbackslash : c ≠ '\\')
  /-- A backslash with the character it belongs to. -/
  | pair (c : Char)

/-- The characters of a piece. -/
def Piece.chars : Piece → List Char
  | .plain c _ _ => [c]
  | .pair c => ['\\', c]

/-- The characters of some pieces. -/
def Piece.join (ps : List Piece) : List Char := ps.flatMap chars

@[simp] theorem Piece.join_nil : join [] = [] := rfl

@[simp] theorem Piece.join_cons (p : Piece) (ps : List Piece) : join (p :: ps) = p.chars ++ join ps :=
  List.flatMap_cons

theorem Body.exists_pieces {cs : List Char} (h : Body cs) : ∃ ps, cs = Piece.join ps := by
  induction h with
  | nil => exact ⟨[], rfl⟩
  | @plain c cs hquote hbackslash _ ih =>
    obtain ⟨ps, rfl⟩ := ih
    exact ⟨.plain c hquote hbackslash :: ps, rfl⟩
  | pair c _ ih =>
    obtain ⟨ps, rfl⟩ := ih
    exact ⟨.pair c :: ps, rfl⟩

/-- The inside of a quoted text is all that stripping its quotes leaves. -/
theorem Spells.exists_pieces {cs : List Char} (h : Spells .quoted cs) :
    ∃ ps, cs = '"' :: (Piece.join ps ++ ['"']) ∧ Step.stripQuotes cs = Piece.join ps := by
  cases h with
  | quoted hbody =>
    obtain ⟨ps, rfl⟩ := hbody.exists_pieces
    exact ⟨ps, rfl, by simp [Step.stripQuotes]⟩

end Lexeme

/-! ### Where decoding gets to -/

namespace Escape

open Lexeme (Piece)

/-- Decoding `raw` gets to `rest`: what stands before it is read in whole units. -/
def Reaches (raw front rest : List Char) : Prop :=
  raw = front ++ rest ∧ ∃ value, decode front = .ok value

/-- Decoding goes on where it gets to. -/
theorem Reaches.exists_decode_eq {raw front rest : List Char} (h : Reaches raw front rest) :
    ∃ value, decode front = .ok value ∧ decode raw = (decode rest).map (value ++ ·) := by
  obtain ⟨rfl, value, hvalue⟩ := h
  exact ⟨value, hvalue, decode_append hvalue rest⟩

theorem meaning?_eq_none_iff {c : Char} :
    meaning? c = none ↔ c ∉ ['n', 't', 'r', '\\', '"'] := by
  unfold meaning?
  split <;> simp_all

/-- Escapes start only where pairs do. -/
theorem Reaches.exists_pair {ps : List Piece} {front rest : List Char}
    (h : Reaches (Piece.join ps) front ('\\' :: rest)) :
    ∃ before c after, ps = before ++ .pair c :: after ∧ front = Piece.join before ∧
      rest = c :: Piece.join after := by
  obtain ⟨hraw, value, hfront⟩ := h
  induction ps generalizing front value with
  | nil => simp at hraw
  | cons p ps ih =>
    cases p with
    | plain c hquote hbackslash =>
      cases front with
      | nil =>
        obtain ⟨rfl, -⟩ := List.cons.inj hraw
        exact absurd rfl hbackslash
      | cons d front =>
        obtain ⟨rfl, hps⟩ := List.cons.inj hraw
        rw [decode_cons hbackslash] at hfront
        obtain ⟨value', hfront⟩ := exists_of_map_eq_ok hfront
        obtain ⟨before, e, after, rfl, rfl, rfl⟩ := ih hps value' hfront
        exact ⟨.plain c hquote hbackslash :: before, e, after, rfl, rfl, rfl⟩
    | pair c =>
      match front with
      | [] =>
        obtain ⟨-, hps⟩ := List.cons.inj hraw
        exact ⟨[], c, ps, rfl, rfl, hps.symm⟩
      | [d] =>
        -- A backslash alone is not decoded.
        obtain ⟨rfl, -⟩ := List.cons.inj hraw
        cases hfront
      | d :: d' :: front =>
        obtain ⟨rfl, htail⟩ := List.cons.inj hraw
        obtain ⟨rfl, hps⟩ := List.cons.inj htail
        cases hc : meaning? c with
        | none =>
          rw [decode_invalid hc] at hfront
          cases hfront
        | some m =>
          rw [decode_pair hc] at hfront
          obtain ⟨value', hfront⟩ := exists_of_map_eq_ok hfront
          obtain ⟨before, e, after, rfl, rfl, rfl⟩ := ih hps value' hfront
          exact ⟨.pair c :: before, e, after, rfl, rfl, rfl⟩

/-- Pieces are decoded, unless a pair is no escape. -/
theorem decode_join (ps : List Piece) :
    (∃ value, decode (Piece.join ps) = .ok value) ∨
      ∃ c, decode (Piece.join ps) = .error (.invalid c) ∧ meaning? c = none := by
  induction ps with
  | nil => exact .inl ⟨[], rfl⟩
  | cons p ps ih =>
    cases p with
    | plain c hquote hbackslash =>
      rw [Piece.join_cons, Piece.chars, List.singleton_append, decode_cons hbackslash]
      rcases ih with ⟨value, hps⟩ | ⟨d, hps, hd⟩ <;> rw [hps]
      · exact .inl ⟨c :: value, rfl⟩
      · exact .inr ⟨d, rfl, hd⟩
    | pair c =>
      rw [Piece.join_cons, Piece.chars, List.cons_append, List.singleton_append]
      cases hc : meaning? c with
      | none => exact .inr ⟨c, decode_invalid hc _, hc⟩
      | some m =>
        rw [decode_pair hc]
        rcases ih with ⟨value, hps⟩ | ⟨d, hps, hd⟩ <;> rw [hps]
        · exact .inl ⟨m :: value, rfl⟩
        · exact .inr ⟨d, rfl, hd⟩

/-- What can be decoded is the inside of a quoted text if no quote stands outside of
    pairs. -/
theorem body_of_decode {raw value : List Char} (h : decode raw = .ok value)
    (hquote : ∀ front rest, ¬ Reaches raw front ('"' :: rest)) : Lexeme.Body raw := by
  fun_induction decode raw generalizing value with
  | case1 => exact .nil
  | case2 => cases h
  | case3 c cs hc => cases h
  | case4 c cs m hc ih =>
    obtain ⟨value', hcs⟩ := exists_of_map_eq_ok h
    refine .pair c (ih hcs fun front rest hreaches => ?_)
    obtain ⟨hsplit, front', hfront⟩ := hreaches
    refine hquote ('\\' :: c :: front) rest ⟨by rw [hsplit]; rfl, m :: front', ?_⟩
    rw [decode_pair hc, hfront]
    rfl
  | case5 c cs hlast hpair ih =>
    obtain ⟨value', hcs⟩ := exists_of_map_eq_ok h
    have hc : c ≠ '\\' := ne_backslash hlast hpair
    have hne : c ≠ '"' := by
      rintro rfl
      exact hquote [] cs ⟨rfl, [], rfl⟩
    refine .plain hne hc (ih hcs fun front rest hreaches => ?_)
    obtain ⟨hsplit, front', hfront⟩ := hreaches
    refine hquote (c :: front) rest ⟨by rw [hsplit]; rfl, c :: front', ?_⟩
    rw [decode_cons hc, hfront]
    rfl

end Escape

/-- A raw value fails as decoding it does. -/
theorem unescape_eq_error_iff {raw : String} {e : Escape.Error} :
    unescape raw = .error e ↔ Escape.decode raw.toList = .error e := by
  have hvalue := unescape_map_value raw
  cases hraw : unescape raw <;> cases hdecode : Escape.decode raw.toList <;>
    rw [hraw, hdecode] at hvalue <;> simp_all [Except.map]

theorem exists_unescape_iff {raw : String} :
    (∃ u, unescape raw = .ok u) ↔ ∃ value, Escape.decode raw.toList = .ok value := by
  have hvalue := unescape_map_value raw
  cases hraw : unescape raw <;> cases hdecode : Escape.decode raw.toList <;>
    rw [hraw, hdecode] at hvalue <;> simp_all [Except.map]

/-- A text without backslashes is not touched. -/
theorem unescape_of_not_mem {raw : String} (h : '\\' ∉ raw.toList) :
    unescape raw = .ok ⟨raw, true⟩ := by
  unfold unescape
  rw [if_neg (by simpa using h)]

/-! ### Values of tokens -/

/-- How the value of a quoted token is read: the token holds pieces between quotes, the value
    is these pieces, and decoding it pairs up backslashes as they do. -/
structure PairsUp (t : Token) (ps : List Lexeme.Piece) : Prop where
  shown : t.text.toList = '"' :: (Lexeme.Piece.join ps ++ ['"'])
  stripped : Step.stripQuotes t.text.toList = Lexeme.Piece.join ps
  raw : Step.rawValue t = String.ofList (Lexeme.Piece.join ps)
  /-- Where decoding gets to, it has decoded what stands before. -/
  progress : ∀ front rest, Escape.Reaches (Lexeme.Piece.join ps) front rest →
    ∃ value, Escape.decode front = .ok value ∧
      Escape.decode (Lexeme.Piece.join ps) = (Escape.decode rest).map (value ++ ·)
  /-- Where decoding starts an escape, a pair starts. -/
  escapes : ∀ front rest, Escape.Reaches (Lexeme.Piece.join ps) front ('\\' :: rest) →
    ∃ before c after, ps = before ++ .pair c :: after ∧ front = Lexeme.Piece.join before ∧
      rest = c :: Lexeme.Piece.join after
  /-- Only an escape that does not exist can be wrong. -/
  decoded : (∃ u, unescape (Step.rawValue t) = .ok u) ∨
    ∃ c, unescape (Step.rawValue t) = .error (.invalid c) ∧ c ∉ ['n', 't', 'r', '\\', '"']

namespace Token

/-- Quoted texts and decoding pair up backslashes alike. -/
theorem Spelled.exists_pairsUp {t : Token} (h : t.Spelled) (hkind : t.kind = .quoted) :
    ∃ ps, PairsUp t ps := by
  have hquoted : Lexeme.Spells .quoted t.text.toList := by
    rw [← hkind]
    exact h
  obtain ⟨ps, hshown, hstripped⟩ := hquoted.exists_pieces
  have hraw : Step.rawValue t = String.ofList (Lexeme.Piece.join ps) := by
    rw [Step.rawValue, if_pos hkind, hstripped]
  refine ⟨ps, hshown, hstripped, hraw, fun _ _ hreaches => hreaches.exists_decode_eq,
    fun _ _ hreaches => hreaches.exists_pair, ?_⟩
  rw [hraw, exists_unescape_iff, String.toList_ofList]
  rcases Escape.decode_join ps with hok | ⟨c, herror, hc⟩
  · exact .inl hok
  · right
    refine ⟨c, ?_, Escape.meaning?_eq_none_iff.mp hc⟩
    rw [unescape_eq_error_iff, String.toList_ofList]
    exact herror

/-- The text of a bare value is its value. -/
theorem Spelled.unescape_eq {t : Token} (h : t.Spelled) (hkind : t.kind = .identifier) :
    Step.rawValue t = t.text ∧ unescape t.text = .ok ⟨t.text, true⟩ := by
  have hname : Lexeme.Spells .identifier t.text.toList := by
    rw [← hkind]
    exact h
  refine ⟨?_, unescape_of_not_mem hname.not_mem_backslash⟩
  rw [Step.rawValue, if_neg (by rw [hkind]; decide)]

/-- No value of a token ends inside an escape. -/
theorem Spelled.unescape_ne {t : Token} (h : t.Spelled)
    (hkind : t.kind = .quoted ∨ t.kind = .identifier) :
    unescape (Step.rawValue t) ≠ .error .unterminated := by
  intro herror
  rcases hkind with hkind | hkind
  · obtain ⟨ps, hps⟩ := h.exists_pairsUp hkind
    rcases hps.decoded with ⟨u, hu⟩ | ⟨c, hc, -⟩
    · rw [hu] at herror
      cases herror
    · rw [hc] at herror
      cases herror
  · obtain ⟨hraw, hvalue⟩ := h.unescape_eq hkind
    rw [hraw, hvalue] at herror
    cases herror

/-- The inside of a quoted text is read as one token when it stands between quotes. -/
theorem tokenize_quoted {raw : String} (h : Lexeme.Body raw.toList) :
    tokenize ("\"" ++ raw ++ "\"") = .ok [⟨.quoted, "\"" ++ raw ++ "\"",
      .behind [] ("\"" ++ raw ++ "\"").toList⟩] := by
  have htext : ("\"" ++ raw ++ "\"").toList = '"' :: (raw.toList ++ ['"']) := by
    simp [String.toList_append]
  have hspelled : Lexeme.Spells .quoted ("\"" ++ raw ++ "\"").toList := by
    rw [htext]
    exact .quoted h
  -- The layout of the text is the token alone.
  have hfits : Layout.Fits ⟨[], [(⟨.quoted, "\"" ++ raw ++ "\"",
      .behind [] ("\"" ++ raw ++ "\"").toList⟩, [])]⟩ [] ("\"" ++ raw ++ "\"").toList := by
    rw [Layout.fits_cons_iff]
    refine ⟨nofun, hspelled, rfl, nofun, [], by simp, Layout.fits_nil_iff.mpr ⟨nofun, rfl⟩⟩
  rw [tokenize_eq_ok_iff, streamOf, ← Cursor.behind_nil, hfits.stream]
  rfl

end Token

/-! ### Values in calls -/

namespace Automaton

variable {μ : Type} {settings : ParserSettings} {make : Factory μ} {text : String}
  {failure : Option LexicalError} {s : State} {held ts : List Token}

/-- The grammar itself asks for no matcher. -/
theorem step_ne_matcher {k : Token.Kind} {cause : String} :
    step settings s k ≠ .error (.matcher cause) := by
  obtain ⟨stage, o⟩ := s
  obtain ⟨requireBraces⟩ := settings
  cases stage <;> cases k <;> cases requireBraces <;> cases o <;> nofun

theorem finish_ne_matcher {cause : String} : finish settings s ≠ some (.matcher cause) := by
  obtain ⟨stage, o⟩ := s
  obtain ⟨requireBraces⟩ := settings
  cases stage <;> cases requireBraces <;> cases o <;> nofun

/-- A matcher that is missing has been asked for and refused. -/
theorem exists_refused_of_drive {cause : String} {location : Location}
    (h : (drive settings make text failure s held ts).result =
      .error (.grammar ⟨.matcher cause, location⟩)) :
    ∃ r ∈ (drive settings make text failure s held ts).asked, make r = .error cause := by
  induction ts generalizing s held with
  | nil =>
    rw [drive] at h
    unfold atEnd at h
    split at h
    · cases h
    · next hfinish =>
      cases h
      exact absurd hfinish finish_ne_matcher
    · cases h
  | cons t ts ih =>
    cases hstep : step settings s t.kind with
    | error x =>
      rw [drive_of_error hstep] at h
      cases h
      exact absurd hstep step_ne_matcher
    | ok s' =>
      cases hc : Clause.ofTokens? (Grammar.extend held t) with
      | none =>
        rw [drive_of_none hstep hc] at h ⊢
        exact ih h
      | some c =>
        rw [drive_of_clause hstep hc] at h ⊢
        cases hm : make c.request with
        | error cause' =>
          rw [hm] at h
          cases h
          exact ⟨c.request, List.mem_singleton_self _, hm⟩
        | ok m =>
          rw [hm] at h
          obtain ⟨r, hr, hrefused⟩ := ih (Outcome.result_prepend_eq_error_iff.mp h)
          exact ⟨r, List.mem_cons_of_mem _ hr, hrefused⟩

/-- The matchers that are answered are those that have been asked for. -/
theorem forall₂_asked_of_drive {ms : List μ}
    (h : (drive settings make text failure s held ts).result = .ok ms) :
    List.Forall₂ (fun r m => make r = .ok m)
      (drive settings make text failure s held ts).asked ms := by
  induction ts generalizing s held ms with
  | nil =>
    rw [drive] at h ⊢
    unfold atEnd at h ⊢
    split at h
    · cases h
    · cases h
    · cases h
      exact .nil
  | cons t ts ih =>
    cases hstep : step settings s t.kind with
    | error x =>
      rw [drive_of_error hstep] at h
      cases h
    | ok s' =>
      cases hc : Clause.ofTokens? (Grammar.extend held t) with
      | none =>
        rw [drive_of_none hstep hc] at h ⊢
        exact ih h
      | some c =>
        rw [drive_of_clause hstep hc] at h ⊢
        cases hm : make c.request with
        | error cause =>
          rw [hm] at h
          cases h
        | ok m =>
          rw [hm] at h
          obtain ⟨ms', hms', rfl⟩ : ∃ ms', (drive settings make text failure s'
              (Grammar.extend held t) ts).result = .ok ms' ∧ m :: ms' = ms := by
            cases hresult : (drive settings make text failure s' (Grammar.extend held t) ts).result
              with
            | error e => simp [Outcome.prepend, hresult, Except.map] at h
            | ok ms' => exact ⟨ms', rfl, by simpa [Outcome.prepend, hresult, Except.map] using h⟩
          exact .cons hm (ih hms')

end Automaton

namespace Parser

variable {μ : Type} {settings : ParserSettings} {make : Factory μ} {p : Parser}

/-- The clauses of a call are made of tokens to come. -/
theorem exists_windows (settings : ParserSettings) (make : Factory μ) (h : p.Genuine) :
    ∃ taken, p.left = taken ++ (p.parse settings make).2.left ∧
      (p.call settings make).asked = (Clause.windows taken).map Clause.request ∧
      ∀ c ∈ Clause.windows taken, c.value ∈ p.left := by
  obtain ⟨taken, hleft, htaken, hrequests⟩ := exists_taken settings make h
  refine ⟨taken, hleft, ?_, ?_⟩
  · rw [requests_parse h] at hrequests
    rw [List.append_cancel_left hrequests, htaken.windows_eq]
  · intro c hc
    obtain ⟨front, back, hsplit⟩ := Clause.exists_of_mem_windows hc
    rw [hleft, hsplit]
    simp [Clause.tokens]

end Parser

/-! ### The standard factory -/

/-- Messages tell an escape without an end from everything else. -/
theorem MatcherError.message_eq_unterminated_iff {e : MatcherError} :
    e.message = "unterminated escape sequence" ↔ e = .unterminatedEscape := by
  -- All other messages start with another letter.
  have hother : ∀ front rest : String, front.toList.head? = some 'i' →
      front ++ rest ≠ "unterminated escape sequence" := by
    intro front rest hfront heq
    have hhead := congrArg (fun s : String => s.toList.head?) heq
    have hun : "unterminated escape sequence".toList.head? = some 'u' := by decide +kernel
    rw [String.toList_append, List.head?_append, hfront, hun] at hhead
    cases hhead
  refine ⟨fun h => ?_, fun h => by rw [h]; rfl⟩
  cases e with
  | invalidPattern value cause =>
    have hmessage : "invalid regular expression '" ++ value ++ "': " ++ cause.message =
        "unterminated escape sequence" := h
    rw [String.append_assoc, String.append_assoc] at hmessage
    exact absurd hmessage (hother _ _ (by decide +kernel))
  | invalidEscape c =>
    have hmessage : "invalid escape sequence '\\" ++ String.singleton c ++ "'" =
        "unterminated escape sequence" := h
    rw [String.append_assoc] at hmessage
    exact absurd hmessage (hother _ _ (by decide +kernel))
  | unterminatedEscape => rfl

theorem Matcher.ofRaw_eq_unterminated_iff {op : Operator} {name raw : String} :
    ofRaw op name raw = .error .unterminatedEscape ↔ unescape raw = .error .unterminated := by
  unfold ofRaw
  split
  · next u hu =>
    unfold make
    rw [hu]
    split
    · split <;> exact ⟨nofun, nofun⟩
    · exact ⟨nofun, nofun⟩
  · next e he =>
    rw [he]
    cases e <;> simp [MatcherError.ofEscape]

namespace Factory

/-- The standard factory misses the end of an escape only if decoding does. -/
theorem standard_ne_unterminated {r : Request} (h : unescape r.raw ≠ .error .unterminated) :
    standard r ≠ .error "unterminated escape sequence" := by
  unfold standard
  split
  · nofun
  · next e he =>
    intro heq
    obtain rfl := MatcherError.message_eq_unterminated_iff.mp (Except.error.inj heq)
    exact h (Matcher.ofRaw_eq_unterminated_iff.mp he)

/-- A matcher of the standard factory has the value that is decoded. -/
theorem value_of_standard {r : Request} {m : Matcher} {u : Unescaped} (h : standard r = .ok m)
    (hu : unescape r.raw = .ok u) : m.value = u.value := by
  unfold standard Matcher.ofRaw at h
  rw [hu] at h
  dsimp only at h
  cases hmake : Matcher.make r.operator r.name u.value with
  | error e =>
    rw [hmake] at h
    cases h
  | ok m' =>
    rw [hmake] at h
    cases h
    exact (Matcher.fields_of_make hmake).2.2

end Factory

/-- Quoted texts and the decoding of values agree on pairs, so that no value ends inside an
    escape, and bare values are not touched.

  - Every quoted token holds plain characters and pairs, and escapes start where pairs do.
  - A raw value that can be decoded, with every quote in a pair, is one token when quoted.
  - With the standard factory, no call misses the end of an escape.
  - In every call that succeeds, all tokens are taken, and a bare value is the value of its
    matcher. -/
theorem quoted_and_escapes_pair_up (text : String) :
    (∀ t ∈ (Token.streamOf text).1, t.kind = .quoted → ∃ ps, PairsUp t ps) ∧
    (∀ raw u, unescape raw = .ok u →
      (∀ front rest, ¬ Escape.Reaches raw.toList front ('"' :: rest)) →
      ∃ t, t.kind = .quoted ∧ t.text = "\"" ++ raw ++ "\"" ∧
        tokenize ("\"" ++ raw ++ "\"") = .ok [t]) ∧
    (∀ settings k location, (Parser.ofText text).answer settings Factory.standard k ≠
      .error (.grammar ⟨.matcher "unterminated escape sequence", location⟩)) ∧
    (∀ t ∈ (Token.streamOf text).1, t.kind = .identifier →
      Step.rawValue t = t.text ∧ unescape t.text = .ok ⟨t.text, true⟩ ∧
        ∀ op name, Matcher.ofRaw op name (Step.rawValue t) = Matcher.make op name t.text) ∧
    ∀ settings k ms, (Parser.ofText text).answer settings Factory.standard k = .ok ms →
      ∃ taken, ((Parser.ofText text).after settings Factory.standard k).left =
          taken ++ ((Parser.ofText text).after settings Factory.standard (k + 1)).left ∧
        ((Parser.ofText text).after settings Factory.standard (k + 1)).left = [] ∧
        List.Forall₂ (fun c m => Factory.standard c.request = .ok m ∧
          (c.value.kind = .identifier → m.value = c.value.text)) (Clause.windows taken) ms := by
  have hgenuine := Parser.genuine_ofText text
  refine ⟨?_, ?_, ?_, ?_, ?_⟩
  · intro t ht hkind
    exact (hgenuine t ht).exists_pairsUp hkind
  · intro raw u hu hquote
    obtain ⟨value, hvalue⟩ := exists_unescape_iff.mp ⟨u, hu⟩
    exact ⟨_, rfl, rfl, Token.tokenize_quoted (Escape.body_of_decode hvalue hquote)⟩
  · intro settings k location herror
    have hgenuine' : ((Parser.ofText text).after settings Factory.standard k).Genuine :=
      hgenuine.after k
    rw [Parser.answer_eq_call hgenuine] at herror
    -- The request that is refused belongs to a clause whose value is a token of the text.
    obtain ⟨r, hr, hrefused⟩ := exists_refused_of_drive herror
    obtain ⟨taken, -, hasked, hmem⟩ :=
      Parser.exists_windows settings Factory.standard hgenuine'
    have hr' : r ∈ (Clause.windows taken).map Clause.request := hasked ▸ hr
    obtain ⟨c, hc, rfl⟩ := List.mem_map.mp hr'
    have hspelled : c.value.Spelled := hgenuine' _ (hmem c hc)
    refine Factory.standard_ne_unterminated ?_ hrefused
    have hraw : c.request.raw = Step.rawValue c.value := (Step.rawValue_eq_raw c hspelled).symm
    rw [hraw]
    exact hspelled.unescape_ne c.value_kind
  · intro t ht hkind
    obtain ⟨hraw, hunescape⟩ := (hgenuine t ht).unescape_eq hkind
    refine ⟨hraw, hunescape, fun op name => ?_⟩
    rw [hraw, Matcher.ofRaw, hunescape]
  · intro settings k ms hok
    have hgenuine' : ((Parser.ofText text).after settings Factory.standard k).Genuine :=
      hgenuine.after k
    have hnil : ((Parser.ofText text).after settings Factory.standard (k + 1)).left = [] :=
      Parser.left_of_ok hgenuine' hok
    rw [Parser.answer_eq_call hgenuine] at hok
    obtain ⟨taken, hleft, hasked, hmem⟩ :=
      Parser.exists_windows settings Factory.standard hgenuine'
    have hmade : List.Forall₂ (fun r m => Factory.standard r = .ok m)
        ((Clause.windows taken).map Clause.request) ms := hasked ▸ forall₂_asked_of_drive hok
    refine ⟨taken, hleft, hnil, ?_⟩
    have hboth := (List.forall₂_and_left _ _).mpr ⟨hmem, List.forall₂_map_left_iff.mp hmade⟩
    refine hboth.imp fun c m => ?_
    rintro ⟨hvalue, hm⟩
    refine ⟨hm, fun hkind => ?_⟩
    have hspelled : c.value.Spelled := hgenuine' _ hvalue
    obtain ⟨hraw, hunescape⟩ := hspelled.unescape_eq hkind
    have hrequest : c.request.raw = c.value.text :=
      (Step.rawValue_eq_raw c hspelled).symm.trans hraw
    rw [← hrequest] at hunescape
    exact (Factory.value_of_standard hm hunescape).trans hrequest

end LabelSelector
