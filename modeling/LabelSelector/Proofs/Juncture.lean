import LabelSelector.Proofs.Boundaries
import LabelSelector.Proofs.Outlook

/-! # Texts joined at token boundaries

  A scanner keeps nothing from one token to the next but its place in the text. So what
  it answers for two texts in a row is what it answers for the first one and then what it
  answers for the second one, moved to the place where that one stands.

  - Moving the place where scanning starts moves the tokens and the error behind them,
    and changes nothing else about them.
  - The tokens of the first text are read as if it stood alone, unless the second text
    continues the last of them. Only a name and the operator `=` can be continued.
  - If one of them is continued, the token of the first text is not read any more.
-/

namespace LabelSelector

/-! ### Streams of scans -/

/-- Tokens in front of what is ahead. -/
def Ahead.prepend (ts : List Token) (a : Ahead) : Ahead := (ts ++ a.1, a.2)

/-- The scan stream: the tokens that scans answer one after the other, and the error that
    follows them if it is not the end of the text. -/
def Scanner.stream (s : Scanner) : Ahead :=
  match _h : s.scan with
  | (.ok (some t), after) => after.stream.prepend [t]
  | (.ok none, _) => ([], none)
  | (.error e, _) => ([], some e)
termination_by s.rest.length
decreasing_by exact scan_rest_lt _h

/-- Scans answer what the scanner has ahead. -/
theorem Scanner.stream_eq_ahead (s : Scanner) : s.stream = s.ahead := by
  fun_induction stream s with
  | case1 s t after h ih =>
    obtain ⟨hans, hahead, -⟩ := s.scan_eq
    rw [h] at hans hahead
    have hafter : after.ahead = s.ahead.rest := hahead
    rw [ih, hafter]
    exact Ahead.append_rest hans.symm
  | case2 s after h =>
    obtain ⟨hans, -, -⟩ := s.scan_eq
    rw [h] at hans
    have hend : s.ahead.first = .ok none := hans.symm
    match hs : s.ahead with
    | ([], none) => rfl
    | ([], some e) => rw [hs] at hend; cases hend
    | (t :: ts, e) => rw [hs] at hend; cases hend
  | case3 s e after h =>
    obtain ⟨hans, -, -⟩ := s.scan_eq
    rw [h] at hans
    have herror : s.ahead.first = .error e := hans.symm
    match hs : s.ahead with
    | ([], some e') => rw [hs] at herror; cases herror; rfl
    | ([], none) => rw [hs] at herror; cases herror
    | (t :: ts, e') => rw [hs] at herror; cases herror

theorem Scanner.stream_ofText (text : String) :
    (Scanner.ofText text).stream = Token.streamOf text :=
  stream_eq_ahead (ofText text)

/-! ### Moving along a text -/

/-- The place `j` of a text that stands behind the place `k`. -/
def Cursor.shift (k j : Cursor) : Cursor := ⟨k.offset + j.offset, k.column + j.column⟩

/-- A stretch of a text that stands behind the place `k`. -/
def Span.shift (k : Cursor) (s : Span) : Span :=
  ⟨k.offset + s.offsetStart, k.offset + s.offsetEnd, k.column + s.columnStart,
    k.column + s.columnEnd⟩

/-- A token of a text that stands behind the place `k`. -/
def Token.shift (k : Cursor) (t : Token) : Token := { t with span := t.span.shift k }

/-- A lexical error of a text that stands behind the place `k`. -/
def LexicalError.shift (k : Cursor) (e : LexicalError) : LexicalError :=
  { e with span := e.span.shift k }

/-- What is ahead in a text that stands behind the place `k`. -/
def Ahead.shift (k : Cursor) (a : Ahead) : Ahead :=
  (a.1.map (Token.shift k), a.2.map (LexicalError.shift k))

/-- What is read in a text that stands behind the place `k`. -/
def Token.Reading.shift (k : Cursor) : Reading → Reading
  | .finish stop => .finish (k.shift stop)
  | .token t stop rest => .token (t.shift k) (k.shift stop) rest
  | .error e => .error (e.shift k)

namespace Ahead

theorem prepend_prepend (ts us : List Token) (a : Ahead) :
    (a.prepend us).prepend ts = a.prepend (ts ++ us) := by
  simp only [prepend, List.append_assoc]

theorem shift_prepend (k : Cursor) (ts : List Token) (a : Ahead) :
    (a.prepend ts).shift k = (a.shift k).prepend (ts.map (Token.shift k)) := by
  simp only [prepend, shift, List.map_append]

end Ahead

namespace Cursor

theorem shift_origin (k : Cursor) : k.shift origin = k := rfl

theorem shift_advanceAll (k j : Cursor) (cs : List Char) :
    (k.shift j).advanceAll cs = k.shift (j.advanceAll cs) := by
  induction cs generalizing j with
  | nil => rfl
  | cons c cs ih =>
    have hstep : (k.shift j).advance c = k.shift (j.advance c) := by
      simp only [shift, advance, Nat.add_assoc]
    rw [advanceAll_cons, advanceAll_cons, hstep, ih]

end Cursor

theorem Span.shift_covering (k start : Cursor) (cs : List Char) :
    covering (k.shift start) cs = (covering start cs).shift k := by
  unfold covering
  rw [Cursor.shift_advanceAll]
  rfl

namespace Token

/-- A lexeme or a flaw is the same wherever it stands. -/
theorem place_shift (k start : Cursor) (r : Lexeme.Reading) :
    place (k.shift start) r = (place start r).shift k := by
  cases r with
  | lexeme kind chars rest =>
    simp only [place, Span.shift_covering, Cursor.shift_advanceAll, Reading.shift, shift]
  | flaw cause passed fragment =>
    simp only [place, Span.shift_covering, Cursor.shift_advanceAll, Reading.shift,
      LexicalError.shift]

theorem read_shift (k j : Cursor) (cs : List Char) : read (k.shift j) cs = (read j cs).shift k := by
  unfold read
  rw [Cursor.shift_advanceAll]
  cases cs.dropWhile isBlank with
  | nil => rfl
  | cons c cs => exact place_shift k _ _

/-- Scanning that starts behind another place answers the same, moved there. -/
theorem stream_shift (k j : Cursor) (cs : List Char) :
    stream (k.shift j) cs = Ahead.shift k (stream j cs) := by
  fun_induction stream j cs with
  | case1 j cs stop h =>
    have hread : read (k.shift j) cs = .finish (k.shift stop) := by rw [read_shift, h]; rfl
    rw [stream_of_finish hread]
    rfl
  | case2 j cs e h =>
    have hread : read (k.shift j) cs = .error (e.shift k) := by rw [read_shift, h]; rfl
    rw [stream_of_error hread]
    rfl
  | case3 j cs t stop rest h ts e hstream ih =>
    have hread : read (k.shift j) cs = .token (t.shift k) (k.shift stop) rest := by
      rw [read_shift, h]
      rfl
    rw [stream_of_token hread, ih, hstream]
    rfl

end Token

/-! ### Lexemes that are not continued -/

/-- Only the next character can continue a lexeme. -/
theorem Lexeme.Ends.of_head? {kind : Token.Kind} {chars rest rest' : List Char}
    (h : Ends kind chars rest) (hhead : rest'.head? = rest.head?) : Ends kind chars rest' where
  name := by
    rw [hhead]
    exact h.name
  equal := by
    rw [hhead]
    exact h.equal

theorem Lexeme.Ends.append {kind : Token.Kind} {chars rest : List Char}
    (h : Ends kind chars rest) (hne : rest ≠ []) (more : List Char) :
    Ends kind chars (rest ++ more) :=
  h.of_head? (List.head?_append_of_ne_nil rest hne)

/-- A character that continues no lexeme: it is no part of a name and does not make `=~` of
    `=`. -/
def Lexeme.Mute (c : Char) : Prop := ¬ NamePart c ∧ c ≠ '~'

instance (c : Char) : Decidable (Lexeme.Mute c) :=
  decidable_of_iff (¬ isNameChar c = true ∧ c ≠ '~') <| by
    rw [Lexeme.Mute, Lexeme.isNameChar_iff]

theorem Lexeme.Mute.ends {c : Char} (h : Mute c) (kind : Token.Kind) (chars rest : List Char) :
    Ends kind chars (c :: rest) where
  name := by
    intro _ d hd
    obtain rfl : c = d := Option.some.inj hd
    exact h.1
  equal := by
    intro _ hd
    exact h.2 (Option.some.inj hd)

/-! ### Layouts of joined texts -/

namespace Layout

/-- Blanks are passed over, whatever stands behind them. -/
theorem Blank.stream_append {gap : List Char} (h : Blank gap) (before rest : List Char) :
    Token.stream (.behind before) (gap ++ rest) = Token.stream (.behind (before ++ gap)) rest := by
  have hread : Token.read (.behind before) (gap ++ rest) =
      Token.read (.behind (before ++ gap)) rest := by
    unfold Token.read
    rw [List.takeWhile_append_of_pos h.all, List.dropWhile_append_of_pos h.all,
      Cursor.advanceAll_append, Cursor.advanceAll_behind]
  cases hr : Token.read (.behind (before ++ gap)) rest with
  | finish stop =>
    rw [Token.stream_of_finish (hread.trans hr), Token.stream_of_finish hr]
  | token t stop rest =>
    rw [Token.stream_of_token (hread.trans hr), Token.stream_of_token hr]
  | error e =>
    rw [Token.stream_of_error (hread.trans hr), Token.stream_of_error hr]

/-- A layout of an empty text has no tokens. -/
theorem Fits.tokens_eq_nil {d : Layout} {before : List Char} (h : d.Fits before []) :
    d.tokens = [] := by
  have hstream := h.stream
  rw [Token.stream_of_finish rfl] at hstream
  exact (Prod.mk.inj hstream).1.symm

/-- A text without lexical errors has a layout with its tokens. -/
theorem exists_fits_of_streamOf {text : String} {ts : List Token}
    (h : Token.streamOf text = (ts, none)) : ∃ d : Layout, d.Fits [] text.toList ∧ d.tokens = ts := by
  obtain ⟨d, front, rest, hcs, hfits, htokens, hleft⟩ := exists_fits [] text.toList
  rw [Cursor.behind_nil, ← Token.streamOf, h] at htokens hleft
  obtain rfl : rest = [] := hleft
  rw [List.append_nil] at hcs
  exact ⟨d, hcs ▸ hfits, htokens⟩

/-- What is joined continues the token in front of a layout only if the layout is empty. -/
theorem Fits.ends_append {gap before tail rest : List Char} {pieces : List (Token × List Char)}
    (h : Fits ⟨gap, pieces⟩ before tail) {t : Token}
    (happart : ∀ next ∈ pieces.head?, Apart (t, gap) next)
    (hlast : tail = [] → Lexeme.Ends t.kind t.text.toList rest) :
    Lexeme.Ends t.kind t.text.toList (tail ++ rest) := by
  cases tail with
  | nil => exact hlast rfl
  | cons c tail => exact (h.ends happart).append (List.cons_ne_nil c tail) rest

/-- The tokens of a layout are read in front of any text that does not continue the last of
    them, and scanning goes on with that text. -/
theorem Fits.stream_append {d : Layout} {before cs rest : List Char} (h : d.Fits before cs)
    (hlast : ∀ t ∈ d.tokens.getLast?, t.span.offsetEnd = Text.bytes (before ++ cs) →
      Lexeme.Ends t.kind t.text.toList rest) :
    Token.stream (.behind before) (cs ++ rest) =
      Ahead.prepend d.tokens (Token.stream (.behind (before ++ cs)) rest) := by
  obtain ⟨lead, pieces⟩ := d
  induction pieces generalizing lead before cs with
  | nil =>
    obtain ⟨hblank, -⟩ := fits_nil_iff.mp h
    exact hblank.stream_append before rest
  | cons piece pieces ih =>
    obtain ⟨t, gap⟩ := piece
    obtain ⟨hlead, hspells, hspan, happart, tail, rfl, htail⟩ := fits_cons_iff.mp h
    have hwhole : before ++ lead ++ t.text.toList ++ tail =
        before ++ (lead ++ (t.text.toList ++ tail)) := by simp
    have hends : Lexeme.Ends t.kind t.text.toList (tail ++ rest) := by
      refine htail.ends_append happart fun hnil => ?_
      -- Nothing follows `t` in the layout: it is the last token, at the end of the text.
      subst hnil
      have hpieces : pieces.map Prod.fst = [] := htail.tokens_eq_nil
      refine hlast t ?_ ?_
      · simp [tokens, hpieces]
      · rw [hspan]
        simp [Span.behind, Span.between, Cursor.behind, Text.bytes]
    have hread := hlead.read_lexeme hspells hends before
    rw [String.ofList_toList, ← hspan] at hread
    have hrest := ih gap htail fun u hu hstop => by
      refine hlast u ?_ (by rw [hstop, hwhole])
      simp only [tokens, List.map_cons] at hu ⊢
      rw [List.getLast?_cons, Option.mem_def.mp hu]
      rfl
    have hcs : lead ++ (t.text.toList ++ tail) ++ rest =
        lead ++ (t.text.toList ++ (tail ++ rest)) := by simp
    rw [hcs, Token.stream_of_token hread, hrest, hwhole]
    rfl

end Layout

/-! ### Joined texts -/

namespace Token

/-- The text `next` continues the last of the tokens `ts`, if that token stands at the end of
    the text `text`: a name goes on, or `=` becomes `=~`. -/
def Continues (text : String) (ts : List Token) (next : String) : Prop :=
  ∃ t ∈ ts.getLast?, t.span.offsetEnd = text.utf8ByteSize ∧
    ((t.kind = .identifier ∧ ∃ c ∈ next.toList.head?, Lexeme.NamePart c) ∨
      (t.kind = .operator ∧ t.text = "=" ∧ next.toList.head? = some '~'))

/-- Where nothing is continued, the last token ends. -/
theorem ends_of_not_continues {text next : String} {ts : List Token}
    (h : ¬ Continues text ts next) {t : Token} (ht : t ∈ ts.getLast?) (hspelled : t.Spelled)
    (hstop : t.span.offsetEnd = text.utf8ByteSize) :
    Lexeme.Ends t.kind t.text.toList next.toList where
  name := by
    intro hkind c hc hpart
    exact h ⟨t, ht, hstop, .inl ⟨hkind, c, hc, hpart⟩⟩
  equal := by
    intro hchars htilde
    have hkind : t.kind = .operator := by
      have hspells : Lexeme.Spells t.kind ['='] := hchars ▸ hspelled
      generalize t.kind = kind at hspells
      cases hspells with
      | name hc => exact absurd hc (by rw [← Lexeme.isNameStart_iff]; decide)
      | equal => rfl
    have htext : t.text = "=" := String.toList_inj.mp hchars
    exact h ⟨t, ht, hstop, .inr ⟨hkind, htext, htilde⟩⟩

/-- Where something is continued, the last token does not end. -/
theorem Continues.exists_not_ends {text next : String} {ts : List Token}
    (h : Continues text ts next) :
    ∃ t ∈ ts.getLast?, t.span.offsetEnd = text.utf8ByteSize ∧
      ¬ Lexeme.Ends t.kind t.text.toList next.toList := by
  obtain ⟨t, ht, hstop, ⟨hkind, c, hc, hpart⟩ | ⟨-, htext, htilde⟩⟩ := h
  · exact ⟨t, ht, hstop, fun hends => hends.name hkind c hc hpart⟩
  · refine ⟨t, ht, hstop, fun hends => hends.equal ?_ htilde⟩
    rw [htext]
    rfl

/-- The stream of a text that does not continue the one before it comes behind the tokens of
    that one. -/
theorem streamOf_append {a : String} {ta : List Token} (ha : streamOf a = (ta, none)) {b : String}
    (h : ¬ Continues a ta b) :
    streamOf (a ++ b) = Ahead.prepend ta (Ahead.shift (.behind a.toList) (streamOf b)) := by
  obtain ⟨d, hfits, rfl⟩ := Layout.exists_fits_of_streamOf ha
  have hlast : ∀ t ∈ d.tokens.getLast?, t.span.offsetEnd = Text.bytes ([] ++ a.toList) →
      Lexeme.Ends t.kind t.text.toList b.toList := by
    intro t ht hstop
    have hspelled : t.Spelled := hfits.spelled t (List.mem_of_getLast? ht)
    refine ends_of_not_continues h ht hspelled ?_
    rw [hstop, List.nil_append, Text.bytes_toList]
  have happend := hfits.stream_append hlast
  have hshift : stream (.behind a.toList) b.toList =
      Ahead.shift (.behind a.toList) (streamOf b) := by
    have hmoved := stream_shift (.behind a.toList) .origin b.toList
    rwa [Cursor.shift_origin] at hmoved
  rw [List.nil_append, hshift, Cursor.behind_nil, ← String.toList_append] at happend
  exact happend

/-- A token of joined texts that stands at the end of the first text is not continued by the
    second one. -/
theorem ends_of_mem_streamOf_append {a b : String} {t : Token} (h : t ∈ (streamOf (a ++ b)).1)
    (hstop : t.span.offsetEnd = a.utf8ByteSize) :
    Lexeme.Ends t.kind t.text.toList b.toList := by
  have hmem : t ∈ (stream (.behind []) (a ++ b).toList).1 := h
  obtain ⟨front, rest, hsplit, hspan, hends⟩ := exists_ends hmem
  rw [List.nil_append, String.toList_append] at hsplit
  -- The beginning up to the token and the first text are equally long.
  have hbytes : Text.bytes (front ++ t.text.toList) = Text.bytes a.toList := by
    rw [Text.bytes_toList, ← hstop, hspan]
    rfl
  have hfront : front ++ t.text.toList = a.toList := by
    have hprefix : front ++ t.text.toList <+: a.toList ++ b.toList := ⟨rest, hsplit.symm⟩
    have hprefix' : a.toList <+: a.toList ++ b.toList := List.prefix_append a.toList b.toList
    have hle := Text.prefix_of_bytes_le hprefix hprefix' hbytes.le
    have hge := Text.prefix_of_bytes_le hprefix' hprefix hbytes.ge
    exact hle.eq_of_length_le hge.length_le
  rw [hfront] at hsplit
  rw [List.append_cancel_left hsplit]
  exact hends

end Token

/-- Scanning composes at token boundaries, and only there. For a text `a` without lexical
    errors and any text `b`, scanning `a ++ b` answers the tokens of `a` and then the scan
    stream of `b`, moved behind `a`, exactly if `b` does not continue the last token of
    `a`. -/
theorem scan_stream_append_iff {a : String} {ta : List Token} (ha : tokenize a = .ok ta)
    (b : String) :
    (Scanner.ofText (a ++ b)).stream =
        Ahead.prepend ta (Ahead.shift (.behind a.toList) (Scanner.ofText b).stream) ↔
      ¬ Token.Continues a ta b := by
  have hta : Token.streamOf a = (ta, none) := tokenize_eq_ok_iff.mp ha
  rw [Scanner.stream_ofText, Scanner.stream_ofText]
  constructor
  · intro heq hcontinues
    obtain ⟨t, ht, hstop, hnot⟩ := hcontinues.exists_not_ends
    have hmem : t ∈ (Token.streamOf (a ++ b)).1 := by
      rw [heq]
      exact List.mem_append_left _ (List.mem_of_getLast? ht)
    exact hnot (Token.ends_of_mem_streamOf_append hmem hstop)
  · intro h
    exact Token.streamOf_append hta h

/-- A name and the error behind it are moved behind the operator `=`. A tilde would make `=~`
    of it. -/
theorem scan_stream_behind_equal :
    tokenize "\"é\"=" = .ok [⟨.quoted, "\"é\"", ⟨0, 4, 0, 3⟩⟩, ⟨.operator, "=", ⟨4, 5, 3, 4⟩⟩] ∧
    (Scanner.ofText ("\"é\"=" ++ "x!ß")).stream =
      ([⟨.quoted, "\"é\"", ⟨0, 4, 0, 3⟩⟩, ⟨.operator, "=", ⟨4, 5, 3, 4⟩⟩,
        ⟨.identifier, "x", ⟨5, 6, 4, 5⟩⟩], some ⟨.expected "=~", ⟨7, 9, 6, 7⟩, "ß"⟩) ∧
    (Scanner.ofText ("\"é\"=" ++ "~")).stream ≠
      ([⟨.quoted, "\"é\"", ⟨0, 4, 0, 3⟩⟩, ⟨.operator, "=", ⟨4, 5, 3, 4⟩⟩],
        some ⟨.invalidInput, ⟨5, 6, 4, 5⟩, "~"⟩) := by
  have ha : tokenize "\"é\"=" =
      .ok [⟨.quoted, "\"é\"", ⟨0, 4, 0, 3⟩⟩, ⟨.operator, "=", ⟨4, 5, 3, 4⟩⟩] := by decide +kernel
  have hname := scan_stream_append_iff ha "x!ß"
  have htilde := scan_stream_append_iff ha "~"
  rw [Scanner.stream_ofText "x!ß"] at hname
  rw [Scanner.stream_ofText "~"] at htilde
  refine ⟨ha, ?_, ?_⟩
  · refine (hname.mpr ?_).trans (by decide +kernel)
    rintro ⟨t, ht, -, h⟩
    obtain rfl : _ = t := Option.some.inj ht
    rcases h with ⟨hkind, -⟩ | ⟨-, -, hhead⟩
    · cases hkind
    · revert hhead
      decide
  · intro hstream
    refine htilde.mp (hstream.trans (by decide +kernel)) ?_
    exact ⟨_, rfl, by decide +kernel, .inr ⟨rfl, rfl, by decide⟩⟩

end LabelSelector
