import LabelSelector.Proofs.Spelling
import LabelSelector.Token.Stream
import Mathlib.Data.List.Chain
import Mathlib.Data.List.TakeWhile

/-! # Layouts

  A layout cuts a text into tokens and the gaps around them. It fits a text if its
  parts make up the text and every part is what it has to be:

  - gaps are blank, and the text of a token is spelled as its kind demands,
  - two names in a row have a gap between them that is not empty,
  - every token stands where the text before it says, in bytes and in code points.

  A text has at most one layout, and its tokens are those that `tokenize` answers.
-/

namespace LabelSelector

/-! ### Places in a text -/

/-- The place behind the characters `before`: their bytes and their number. -/
def Cursor.behind (before : List Char) : Cursor :=
  ⟨(String.ofList before).utf8ByteSize, before.length⟩

/-- The stretch of the characters `inside` that follow the characters `before`. -/
def Span.behind (before inside : List Char) : Span :=
  .between (.behind before) (.behind (before ++ inside))

namespace Cursor

theorem behind_nil : behind [] = origin := rfl

theorem behind_append_singleton (before : List Char) (c : Char) :
    behind (before ++ [c]) = (behind before).advance c := by
  simp only [behind, advance, String.ofList_append, String.utf8ByteSize_append,
    ← String.singleton_eq_ofList, String.utf8ByteSize_singleton, List.length_append,
    List.length_singleton]

/-- Advancing over a text leads behind it. -/
theorem advanceAll_behind (before cs : List Char) :
    (behind before).advanceAll cs = behind (before ++ cs) := by
  induction cs generalizing before with
  | nil => simp
  | cons c cs ih =>
    rw [advanceAll_cons, ← behind_append_singleton, ih, List.append_assoc, List.singleton_append]

theorem advanceAll_origin (cs : List Char) : origin.advanceAll cs = behind cs := by
  rw [← behind_nil, advanceAll_behind, List.nil_append]

end Cursor

theorem Span.covering_behind (before inside : List Char) :
    covering (.behind before) inside = behind before inside := by
  rw [covering, behind, Cursor.advanceAll_behind]

/-- A text is cut behind a part of it by the bytes of that part. -/
theorem Text.splitAtByte?_append (front back : List Char) :
    splitAtByte? (String.ofList front).utf8ByteSize (front ++ back) = some (front, back) := by
  induction front with
  | nil => cases back <;> rfl
  | cons c front ih =>
    have hsize : (String.ofList (c :: front)).utf8ByteSize =
        c.utf8Size + (String.ofList front).utf8ByteSize := by
      rw [String.ofList_cons, String.utf8ByteSize_append, String.utf8ByteSize_singleton]
    obtain ⟨n, hn⟩ : ∃ n, c.utf8Size + (String.ofList front).utf8ByteSize = n + 1 :=
      Nat.exists_eq_add_one.mpr (Nat.add_pos_left c.utf8Size_pos _)
    have hle : c.utf8Size ≤ n + 1 := hn ▸ Nat.le_add_right _ _
    have hrest : n + 1 - c.utf8Size = (String.ofList front).utf8ByteSize := by omega
    rw [hsize, hn, List.cons_append, splitAtByte?, if_pos hle, hrest, ih]
    rfl

/-- The part of a text under the stretch of some characters are those characters. -/
theorem Span.slice_behind {text : String} {before inside after : List Char}
    (h : text.toList = before ++ (inside ++ after)) :
    (Span.behind before inside).slice text = String.ofList inside := by
  have hsize : (String.ofList (before ++ inside)).utf8ByteSize =
      (String.ofList before).utf8ByteSize + (String.ofList inside).utf8ByteSize := by
    rw [String.ofList_append, String.utf8ByteSize_append]
  have hwidth : (String.ofList (before ++ inside)).utf8ByteSize -
      (String.ofList before).utf8ByteSize = (String.ofList inside).utf8ByteSize := by omega
  simp only [slice, behind, between, Cursor.behind, Text.slice, h]
  rw [if_pos (by omega), Text.splitAtByte?_append, hwidth]
  simp only [Text.splitAtByte?_append]

/-! ### Layouts -/

/-- A text cut into tokens and gaps. -/
structure Layout where
  /-- The gap before the first token. -/
  lead : List Char
  /-- Each token with the gap behind it. -/
  pieces : List (Token × List Char)

namespace Layout

/-- The tokens in order. -/
def tokens (d : Layout) : List Token := d.pieces.map Prod.fst

/-- The gaps in order. -/
def gaps (d : Layout) : List (List Char) := d.lead :: d.pieces.map Prod.snd

/-- The characters of some tokens and gaps. -/
def spread (pieces : List (Token × List Char)) : List Char :=
  pieces.flatMap fun piece => piece.1.text.toList ++ piece.2

/-- A gap that holds nothing but blanks. -/
def Blank (gap : List Char) : Prop := ∀ c ∈ gap, c = ' ' ∨ c = '\t' ∨ c = '\n'

instance (gap : List Char) : Decidable (Blank gap) :=
  List.decidableBAll (fun c => c = ' ' ∨ c = '\t' ∨ c = '\n') gap

/-- Two tokens that follow each other do not run together. -/
def Apart (piece next : Token × List Char) : Prop :=
  piece.1.kind = .identifier → next.1.kind = .identifier → piece.2 ≠ []

/-- The layout fits the text `cs` that follows the text `before`. -/
structure Fits (d : Layout) (before cs : List Char) : Prop where
  /-- Gaps and tokens make up the text. -/
  whole : d.lead ++ spread d.pieces = cs
  /-- Gaps are blank. -/
  blank : ∀ gap ∈ d.gaps, Blank gap
  /-- Tokens are spelled as their kind demands. -/
  spelled : ∀ t ∈ d.tokens, t.Spelled
  /-- Names are kept apart. -/
  apart : d.pieces.IsChain Apart
  /-- A token stands behind everything before it. -/
  placed : ∀ (front : List (Token × List Char)) {back : List (Token × List Char)} {t : Token}
      {gap : List Char}, d.pieces = front ++ (t, gap) :: back →
      t.span = Span.behind (before ++ d.lead ++ spread front) t.text.toList

/-! ### Layouts piece by piece -/

@[simp] theorem spread_nil : spread [] = [] := rfl

@[simp] theorem spread_cons (t : Token) (gap : List Char) (pieces : List (Token × List Char)) :
    spread ((t, gap) :: pieces) = t.text.toList ++ (gap ++ spread pieces) := by
  simp [spread]

/-- A layout without tokens fits blank texts. -/
theorem fits_nil_iff {lead before cs : List Char} :
    Fits ⟨lead, []⟩ before cs ↔ Blank cs ∧ lead = cs := by
  constructor
  · intro h
    have hwhole : lead = cs := by simpa using h.whole
    exact ⟨hwhole ▸ h.blank lead (by simp [gaps]), hwhole⟩
  · rintro ⟨hblank, rfl⟩
    refine ⟨by simp, ?_, by simp [tokens], by simp, by simp⟩
    intro gap hgap
    obtain rfl : gap = lead := by simpa [gaps] using hgap
    exact hblank

/-- A layout with a token is a gap, the token, and a layout of the text behind it. -/
theorem fits_cons_iff {lead gap before cs : List Char} {t : Token}
    {pieces : List (Token × List Char)} :
    Fits ⟨lead, (t, gap) :: pieces⟩ before cs ↔
      Blank lead ∧ t.Spelled ∧
        t.span = Span.behind (before ++ lead) t.text.toList ∧
        (∀ next ∈ pieces.head?, Apart (t, gap) next) ∧
        ∃ rest, cs = lead ++ (t.text.toList ++ rest) ∧
          Fits ⟨gap, pieces⟩ (before ++ lead ++ t.text.toList) rest := by
  constructor
  · intro h
    obtain ⟨hhead, htail⟩ := List.isChain_cons.mp h.apart
    refine ⟨h.blank lead (by simp [gaps]), h.spelled t (by simp [tokens]), ?_, hhead,
      gap ++ spread pieces, by simpa using h.whole.symm, rfl, ?_, ?_, htail, ?_⟩
    · simpa using h.placed [] rfl
    · intro g hg
      exact h.blank g (by simp only [gaps, List.map_cons, List.mem_cons] at hg ⊢; exact .inr hg)
    · intro u hu
      exact h.spelled u (by simp only [tokens, List.map_cons, List.mem_cons] at hu ⊢; exact .inr hu)
    · intro front back u g heq
      have heq : pieces = front ++ (u, g) :: back := heq
      have := h.placed ((t, gap) :: front) (by rw [heq]; rfl)
      simpa using this
  · rintro ⟨hlead, hspells, hspan, hhead, rest, rfl, h⟩
    refine ⟨?_, ?_, ?_, List.isChain_cons.mpr ⟨hhead, h.apart⟩, ?_⟩
    · rw [← h.whole]
      simp
    · intro g hg
      rcases List.mem_cons.mp hg with rfl | hg
      · exact hlead
      · exact h.blank g hg
    · intro u hu
      rcases List.mem_cons.mp hu with rfl | hu
      · exact hspells
      · exact h.spelled u hu
    · intro front back u g heq
      cases front with
      | nil =>
        obtain ⟨⟨rfl, rfl⟩, rfl⟩ : (t = u ∧ gap = g) ∧ pieces = back := by simpa using heq
        simpa using hspan
      | cons piece front =>
        obtain ⟨rfl, rfl⟩ : (t, gap) = piece ∧ pieces = front ++ (u, g) :: back := by
          simpa using heq
        have := h.placed front rfl
        simpa using this

/-! ### Reading one token -/

theorem Blank.all {gap : List Char} (h : Blank gap) : ∀ c ∈ gap, isBlank c = true :=
  fun c hc => (Lexeme.isBlank_iff c).mpr (h c hc)

theorem blank_takeWhile (cs : List Char) : Blank (cs.takeWhile isBlank) :=
  fun c hc => (Lexeme.isBlank_iff c).mp (List.all_eq_true.mp List.all_takeWhile c hc)

/-- A blank text is passed over to its end. -/
theorem Blank.read {cs : List Char} (h : Blank cs) (k : Cursor) :
    Token.read k cs = .finish (k.advanceAll cs) := by
  have htake : cs.takeWhile isBlank = cs := List.takeWhile_eq_self_iff.mpr h.all
  have hdrop : cs.dropWhile isBlank = [] := List.dropWhile_eq_nil_iff.mpr h.all
  rw [Token.read, htake, hdrop]

/-- A lexeme behind a gap is read as a token. -/
theorem Blank.read_lexeme {lead chars rest : List Char} {kind : Token.Kind} (hlead : Blank lead)
    (hspells : Lexeme.Spells kind chars) (hends : Lexeme.Ends kind chars rest)
    (before : List Char) :
    Token.read (.behind before) (lead ++ (chars ++ rest)) =
      .token ⟨kind, String.ofList chars, .behind (before ++ lead) chars⟩
        (.behind (before ++ lead ++ chars)) rest := by
  obtain ⟨c, cs, rfl, hc, -⟩ := hspells.head
  have htake : (lead ++ (c :: cs ++ rest)).takeWhile isBlank = lead := by
    rw [List.takeWhile_append_of_pos hlead.all, List.cons_append,
      List.takeWhile_cons_of_neg (by simp [hc]), List.append_nil]
  have hdrop : (lead ++ (c :: cs ++ rest)).dropWhile isBlank = c :: (cs ++ rest) := by
    rw [List.dropWhile_append_of_pos hlead.all, List.cons_append,
      List.dropWhile_cons_of_neg (by simp [hc])]
  rw [Token.read, htake, hdrop]
  simp only [hspells.read_append hends, Token.place, Cursor.advanceAll_behind,
    Span.covering_behind]

/-- What follows a token in a layout does not continue it. -/
theorem Fits.ends {gap before rest : List Char} {pieces : List (Token × List Char)}
    (h : Fits ⟨gap, pieces⟩ before rest) {t : Token}
    (happart : ∀ next ∈ pieces.head?, Apart (t, gap) next) :
    Lexeme.Ends t.kind t.text.toList rest := by
  cases gap with
  | cons c gap =>
    -- A gap starts with a blank, which continues nothing.
    have hblank : isBlank c = true := Blank.all (h.blank (c :: gap) (by simp [gaps])) c (by simp)
    have hhead : rest.head? = some c := by simp [← h.whole]
    refine ⟨fun _ d hd => ?_, fun _ htilde => ?_⟩
    · obtain rfl : c = d := by simpa [hhead] using hd
      exact Lexeme.not_namePart_of_isBlank hblank
    · obtain rfl : c = '~' := by simpa [hhead] using htilde
      exact absurd hblank (by decide)
  | nil =>
    cases pieces with
    | nil =>
      have hrest : rest = [] := by simp [← h.whole]
      subst hrest
      exact ⟨nofun, nofun⟩
    | cons piece pieces =>
      obtain ⟨next, gap⟩ := piece
      -- Without a gap the next lexeme follows, and it is no name if `t` is one.
      obtain ⟨-, hspells, -, -, tail, rfl, -⟩ := fits_cons_iff.mp h
      obtain ⟨c, cs, hchars, -, htilde, hpart⟩ := hspells.head
      have hhead : ([] ++ (next.text.toList ++ tail)).head? = some c := by simp [hchars]
      refine ⟨fun ht d hd => ?_, fun _ heq => ?_⟩
      · obtain rfl : c = d := Option.some.inj (hhead.symm.trans hd)
        exact fun hname => happart (next, gap) rfl ht (hpart.mp hname) rfl
      · exact htilde (Option.some.inj (hhead.symm.trans heq))

/-- The first token of a layout is the one that is read. -/
theorem Fits.read_cons {lead gap before cs : List Char} {t : Token}
    {pieces : List (Token × List Char)} (h : Fits ⟨lead, (t, gap) :: pieces⟩ before cs) :
    ∃ rest, Token.read (.behind before) cs =
        .token t (.behind (before ++ lead ++ t.text.toList)) rest ∧
      Fits ⟨gap, pieces⟩ (before ++ lead ++ t.text.toList) rest := by
  obtain ⟨hlead, hspells, hspan, happart, rest, rfl, htail⟩ := fits_cons_iff.mp h
  refine ⟨rest, ?_, htail⟩
  rw [hlead.read_lexeme hspells (htail.ends happart), String.ofList_toList, ← hspan]

end Layout

namespace Token

/-- A token that is read stands behind a gap, and nothing continues it. -/
theorem read_eq_token {before cs rest : List Char} {t : Token} {stop : Cursor}
    (h : read (.behind before) cs = .token t stop rest) :
    ∃ lead, Layout.Blank lead ∧ t.Spelled ∧
      Lexeme.Ends t.kind t.text.toList rest ∧ cs = lead ++ (t.text.toList ++ rest) ∧
      t.span = Span.behind (before ++ lead) t.text.toList ∧
      stop = .behind (before ++ lead ++ t.text.toList) := by
  have hsplit : cs.takeWhile isBlank ++ cs.dropWhile isBlank = cs :=
    List.takeWhile_append_dropWhile
  unfold read at h
  simp only at h
  split at h
  · cases h
  · next c cs' hdrop =>
    cases hread : Lexeme.read c cs' with
    | flaw cause passed fragment => simp [hread, place] at h
    | lexeme kind chars rest' =>
      obtain ⟨hspells, hends, heq⟩ := Lexeme.read_eq_lexeme_iff.mp hread
      simp only [hread, place, Reading.token.injEq, Cursor.advanceAll_behind,
        Span.covering_behind] at h
      obtain ⟨rfl, rfl, rfl⟩ := h
      rw [hdrop, heq] at hsplit
      refine ⟨cs.takeWhile isBlank, Layout.blank_takeWhile cs, ?_⟩
      simp only [Token.Spelled, String.toList_ofList]
      exact ⟨hspells, hends, hsplit.symm, trivial, trivial⟩

/-- Reading finishes at blank texts only. -/
theorem blank_of_read_eq_finish {k stop : Cursor} {cs : List Char} (h : read k cs = .finish stop) :
    Layout.Blank cs := by
  unfold read at h
  simp only at h
  split at h
  · next hdrop =>
    have hall := Layout.blank_takeWhile cs
    have hsplit : cs.takeWhile isBlank ++ cs.dropWhile isBlank = cs :=
      List.takeWhile_append_dropWhile
    rw [hdrop, List.append_nil] at hsplit
    rwa [hsplit] at hall
  · next c cs' _ =>
    cases hread : Lexeme.read c cs' <;> simp [hread, place] at h

/-! ### Reading all tokens -/

theorem stream_of_finish {k stop : Cursor} {cs : List Char} (h : read k cs = .finish stop) :
    stream k cs = ([], none) := by
  rw [stream]
  split <;> simp_all

theorem stream_of_error {k : Cursor} {cs : List Char} {e : LexicalError}
    (h : read k cs = .error e) : stream k cs = ([], some e) := by
  rw [stream]
  split <;> simp_all

theorem stream_of_token {k stop : Cursor} {cs rest : List Char} {t : Token}
    (h : read k cs = .token t stop rest) :
    stream k cs = (t :: (stream stop rest).1, (stream stop rest).2) := by
  rw [stream]
  split <;> simp_all

end Token

namespace Layout

/-- A name that is not continued is kept apart from a name behind it. -/
theorem Fits.apart_of_ends {gap before front rest : List Char}
    {pieces : List (Token × List Char)} (h : Fits ⟨gap, pieces⟩ before front) {t : Token}
    (hends : Lexeme.Ends t.kind t.text.toList (front ++ rest)) :
    ∀ next ∈ pieces.head?, Apart (t, gap) next := by
  intro next hnext ht hkind hgap
  cases pieces with
  | nil => cases hnext
  | cons piece pieces =>
    cases hnext
    obtain ⟨u, gap⟩ := next
    obtain rfl : _ = [] := hgap
    obtain ⟨-, hspells, -, -, tail, rfl, -⟩ := fits_cons_iff.mp h
    -- The name behind would start with a character that continues `t`.
    obtain ⟨c, cs, hchars, -, -, hpart⟩ := hspells.head
    exact hends.name ht c (by simp [hchars]) (hpart.mpr hkind)

/-- What is left behind the last token: nothing, or a text that starts with an error. -/
def Left (k : Cursor) (rest : List Char) : Option LexicalError → Prop
  | none => rest = []
  | some e => Token.read k rest = .error e

/-- The tokens of a text up to its end or its first error have a layout of the text
    before that. -/
theorem exists_fits (before cs : List Char) :
    ∃ (d : Layout) (front rest : List Char), cs = front ++ rest ∧ d.Fits before front ∧
      d.tokens = (Token.stream (.behind before) cs).1 ∧
      Left (.behind (before ++ front)) rest (Token.stream (.behind before) cs).2 := by
  generalize hk : Cursor.behind before = k
  fun_induction Token.stream k cs generalizing before with
  | case1 k cs stop h =>
    exact ⟨⟨cs, []⟩, cs, [], by simp, fits_nil_iff.mpr ⟨Token.blank_of_read_eq_finish h, rfl⟩,
      rfl, rfl⟩
  | case2 k cs e h =>
    refine ⟨⟨[], []⟩, [], cs, rfl, fits_nil_iff.mpr ⟨nofun, rfl⟩, rfl, ?_⟩
    rw [List.append_nil, hk]
    exact h
  | case3 k cs t stop rest h ts e hstream ih =>
    subst hk
    obtain ⟨lead, hlead, hspells, hends, rfl, hspan, rfl⟩ := Token.read_eq_token h
    obtain ⟨d, front, rest, rfl, hfits, htokens, hend⟩ := ih _ rfl
    rw [hstream] at htokens hend
    refine ⟨⟨lead, (t, d.lead) :: d.pieces⟩, lead ++ (t.text.toList ++ front), rest, by simp,
      fits_cons_iff.mpr ⟨hlead, hspells, hspan, hfits.apart_of_ends hends, front, rfl, hfits⟩,
      congrArg (t :: ·) htokens, ?_⟩
    rwa [← List.append_assoc, ← List.append_assoc]

/-- The tokens of a layout are those that are read, up to the end of the text. -/
theorem Fits.stream {d : Layout} {before cs : List Char} (h : d.Fits before cs) :
    Token.stream (.behind before) cs = (d.tokens, none) := by
  obtain ⟨lead, pieces⟩ := d
  induction pieces generalizing lead before cs with
  | nil =>
    obtain ⟨hblank, -⟩ := fits_nil_iff.mp h
    exact Token.stream_of_finish (hblank.read _)
  | cons piece pieces ih =>
    obtain ⟨t, gap⟩ := piece
    obtain ⟨rest, hread, htail⟩ := h.read_cons
    rw [Token.stream_of_token hread, ih gap htail]
    rfl

theorem Fits.lead_eq {d : Layout} {before cs : List Char} (h : d.Fits before cs) :
    d.lead = cs.takeWhile isBlank := by
  have hlead : Blank d.lead := h.blank d.lead (by simp [gaps])
  obtain ⟨lead, _ | ⟨⟨t, gap⟩, pieces⟩⟩ := d
  · obtain ⟨-, rfl⟩ := fits_nil_iff.mp h
    exact (List.takeWhile_eq_self_iff.mpr hlead.all).symm
  · obtain ⟨-, hspells, -, -, rest, rfl, -⟩ := fits_cons_iff.mp h
    obtain ⟨c, cs, hchars, hc, -⟩ := hspells.head
    rw [List.takeWhile_append_of_pos hlead.all, hchars, List.cons_append,
      List.takeWhile_cons_of_neg (by simp [hc]), List.append_nil]

/-- A text has at most one layout. -/
theorem Fits.unique {d d' : Layout} {before cs : List Char} (h : d.Fits before cs)
    (h' : d'.Fits before cs) : d = d' := by
  have hlead : d.lead = d'.lead := h.lead_eq.trans h'.lead_eq.symm
  obtain ⟨lead, pieces⟩ := d
  obtain ⟨lead', pieces'⟩ := d'
  obtain rfl : lead = lead' := hlead
  -- Both layouts start with the token that is read, so the rest of them fits one text.
  induction pieces generalizing lead pieces' before cs with
  | nil =>
    cases pieces' with
    | nil => rfl
    | cons piece' pieces' =>
      obtain ⟨hblank, -⟩ := fits_nil_iff.mp h
      obtain ⟨rest, hread, -⟩ := h'.read_cons
      rw [hblank.read] at hread
      cases hread
  | cons piece pieces ih =>
    obtain ⟨rest, hread, htail⟩ := h.read_cons
    cases pieces' with
    | nil =>
      obtain ⟨hblank, -⟩ := fits_nil_iff.mp h'
      rw [hblank.read] at hread
      cases hread
    | cons piece' pieces' =>
      obtain ⟨t, gap⟩ := piece
      obtain ⟨t', gap'⟩ := piece'
      obtain ⟨rest', hread', htail'⟩ := h'.read_cons
      rw [hread] at hread'
      obtain ⟨rfl, -, rfl⟩ := Token.Reading.token.inj hread'
      obtain rfl : gap = gap' := htail.lead_eq.trans htail'.lead_eq.symm
      obtain ⟨-, rfl⟩ := Layout.mk.inj (ih gap htail pieces' htail')
      rfl

end Layout

/-! ### Tokens of a text -/

/-- A token that is read stands in the text, and nothing continues it there. -/
theorem Token.exists_ends {before cs : List Char} {t : Token}
    (h : t ∈ (stream (.behind before) cs).1) :
    ∃ front rest, before ++ cs = front ++ t.text.toList ++ rest ∧
      t.span = .behind front t.text.toList ∧ Lexeme.Ends t.kind t.text.toList rest := by
  generalize hk : Cursor.behind before = k at h
  fun_induction stream k cs generalizing before with
  | case1 => cases h
  | case2 => cases h
  | case3 k cs u stop rest hread ts e hstream ih =>
    subst hk
    obtain ⟨lead, -, -, hends, rfl, hspan, rfl⟩ := read_eq_token hread
    rcases List.mem_cons.mp h with rfl | hmem
    · exact ⟨before ++ lead, rest, by simp, hspan, hends⟩
    · rw [hstream] at ih
      obtain ⟨front, rest', hsplit, hstands⟩ := ih rfl hmem
      refine ⟨front, rest', ?_, hstands⟩
      rw [← hsplit]
      simp

/-- Every token that is read is spelled as its kind demands. -/
theorem Token.spelled_of_mem_streamOf {text : String} {t : Token} (h : t ∈ (streamOf text).1) :
    t.Spelled := by
  obtain ⟨d, front, rest, -, hfits, htokens, -⟩ := Layout.exists_fits [] text.toList
  rw [Cursor.behind_nil, ← streamOf] at htokens
  exact hfits.spelled t (htokens ▸ h)

/-- A text has tokens if nothing but its end stands behind them. -/
theorem tokenize_eq_ok_iff {text : String} {ts : List Token} :
    tokenize text = .ok ts ↔ Token.streamOf text = (ts, none) := by
  unfold tokenize
  split
  · next ts' h => simp [h]
  · next ts' e h => simp [h]

/-- A text has tokens exactly if it has a layout, which then is the only one and has
    those tokens. -/
theorem tokenize_eq_ok_iff_layout (text : String) :
    (∀ ts, tokenize text = .ok ts ↔ ∃ d : Layout, d.Fits [] text.toList ∧ d.tokens = ts) ∧
      ∀ d d' : Layout, d.Fits [] text.toList → d'.Fits [] text.toList → d = d' := by
  refine ⟨fun ts => ⟨fun h => ?_, ?_⟩, fun d d' h h' => h.unique h'⟩
  · obtain ⟨d, front, rest, hcs, hfits, htokens, hleft⟩ := Layout.exists_fits [] text.toList
    rw [Cursor.behind_nil, ← Token.streamOf, tokenize_eq_ok_iff.mp h] at htokens hleft
    obtain rfl : rest = [] := hleft
    rw [List.append_nil] at hcs
    exact ⟨d, hcs ▸ hfits, htokens⟩
  · rintro ⟨d, hfits, rfl⟩
    exact tokenize_eq_ok_iff.mpr hfits.stream

example : tokenize "\"é\" a" =
    .ok [⟨.quoted, "\"é\"", ⟨0, 4, 0, 3⟩⟩, ⟨.identifier, "a", ⟨5, 6, 4, 5⟩⟩] := by
  decide +kernel

end LabelSelector
