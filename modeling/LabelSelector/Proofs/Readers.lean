import LabelSelector.Proofs.Locality

/-! # Escapes before the closing anchor

  The readers of blanks, numbers and escapes, one by one, in the order in which they build
  on each other. All of them are local, with one exception: behind `\b` a brace starts a name
  or a repetition, and which of them is told by the next character. A brace at the end of a
  value is an error, but before the anchor it is left for a repetition, which then fails.
-/

namespace LabelSelector.Pattern

namespace Reader

open TextReader
open Unicode (CharSet)

variable {v : Bool}

/-! ### Blanks and comments -/

theorem dropSpace_suffix (comment : Bool) (cs : List Char) : dropSpace comment cs <:+ cs := by
  induction cs generalizing comment with
  | nil => exact List.suffix_refl []
  | cons c cs ih =>
    unfold dropSpace
    split
    · exact (ih _).trans (List.suffix_cons c cs)
    · split
      · exact (ih _).trans (List.suffix_cons c cs)
      · split
        · exact (ih _).trans (List.suffix_cons c cs)
        · exact List.suffix_refl _

theorem spaced_suffix (v : Bool) (cs : List Char) : spaced v cs <:+ cs := by
  unfold spaced
  split
  · exact dropSpace_suffix false cs
  · exact List.suffix_refl cs

/-- The ranges of a table that is written in order are not sorted again. -/
theorem ofTable_of_ordered {lines : List String} {lo hi : Nat} {rest : List (Nat × Nat)}
    (hread : (lines.flatMap fun line => CharSet.readRanges none none line.toList) = (lo, hi) :: rest)
    (hrange : ∀ r ∈ (lo, hi) :: rest, r.1 ≤ r.2)
    (horder : ((lo, hi) :: rest).Pairwise fun a b => a.1 ≤ b.1) :
    CharSet.ofTable lines = ⟨CharSet.join lo hi rest⟩ := by
  have hfilter : (((lo, hi) :: rest).filter fun r => r.1 ≤ r.2) = (lo, hi) :: rest :=
    List.filter_eq_self.mpr fun r hr => decide_eq_true (hrange r hr)
  have hsort : (((lo, hi) :: rest).mergeSort fun a b => a.1 ≤ b.1) = (lo, hi) :: rest :=
    List.mergeSort_of_pairwise (horder.imp fun h => decide_eq_true h)
  unfold CharSet.ofTable CharSet.ofRanges
  rw [hread, hfilter, hsort]

theorem whiteSpace_eq : Unicode.Property.whiteSpace =
    ⟨CharSet.join 0x9 0xD [(0x20, 0x20), (0x85, 0x85), (0xA0, 0xA0), (0x1680, 0x1680),
      (0x2000, 0x200A), (0x2028, 0x2029), (0x202F, 0x202F), (0x205F, 0x205F),
      (0x3000, 0x3000)]⟩ :=
  ofTable_of_ordered (by decide +kernel) (by decide) (by decide)

/-- The anchor does not start with a blank. -/
theorem isSpace_paren : isSpace ')' = false := by
  rw [isSpace, whiteSpace_eq]
  decide

/-- A brace is no blank. -/
theorem isSpace_brace : isSpace '\x7b' = false := by
  rw [isSpace, whiteSpace_eq]
  decide

/-- Blanks and comments end at the anchor, unless a comment goes on to the end. -/
theorem dropSpace_append (comment : Bool) (cs : List Char) :
    dropSpace comment (cs ++ closing) = dropSpace comment cs ++ closing ∨
      (dropSpace comment cs = [] ∧ dropSpace comment (cs ++ closing) = []) := by
  induction cs generalizing comment with
  | nil =>
    -- A comment under way swallows the anchor, blanks end at it.
    have hcomment : dropSpace true closing = [] := rfl
    have hplain : dropSpace false closing = closing := by
      simp [closing, dropSpace, isSpace_paren]
    cases comment with
    | true => exact .inr ⟨rfl, hcomment⟩
    | false => exact .inl hplain
  | cons c cs ih =>
    rw [List.cons_append, dropSpace, dropSpace]
    split
    · exact ih _
    · split
      · exact ih _
      · split
        · exact ih _
        · exact .inl rfl

theorem spaced_append (v : Bool) (cs : List Char) :
    spaced v (cs ++ closing) = spaced v cs ++ closing ∨
      (spaced v cs = [] ∧ spaced v (cs ++ closing) = []) := by
  cases v with
  | false => exact .inl rfl
  | true => exact dropSpace_append false cs

theorem spaced_of_append {cs rest : List Char} (h : spaced v (cs ++ closing) = rest ++ closing) :
    spaced v cs = rest := by
  rcases spaced_append v cs with happend | ⟨-, hnil⟩
  · exact List.append_cancel_right (happend.symm.trans h)
  · rw [hnil] at h
    simp [closing] at h

theorem takes_space_iff {cs rest : List Char} {x : Unit} :
    (space v).Takes cs x rest ↔ rest = spaced v cs := by
  constructor
  · rintro ⟨h, heq⟩
    cases heq
    rfl
  · rintro rfl
    exact ⟨length_spaced v cs, rfl⟩

theorem local_space {k : Nat} : Local k (space v) := by
  refine ⟨?_, ?_⟩
  · intro cs x rest h
    rw [takes_space_iff.mp h]
    exact spaced_suffix v cs
  · intro cs x rest h _
    exact takes_space_iff.mpr (spaced_of_append (takes_space_iff.mp h).symm).symm

theorem local_skipSpaced {k : Nat} : Local k (skipSpaced v) :=
  .bind .skip fun _ => local_space

theorem consumes_skipSpaced : Consumes (skipSpaced v) := Consumes.skip.bind_left

theorem splitSpaced_suffix (p : Char → Bool) (cs : List Char) :
    (splitSpaced v p cs).2 <:+ cs := by
  fun_induction splitSpaced v p cs with
  | case1 => exact List.suffix_refl []
  | case2 c cs hc taken rest heq ih =>
    rw [heq] at ih
    exact (ih.trans (spaced_suffix v cs)).trans (List.suffix_cons c cs)
  | case3 => exact List.suffix_refl _

/-- What is split off before the anchor is split off without it. -/
theorem splitSpaced_alone {p : Char → Bool} {cs rest : List Char}
    (h : (splitSpaced v p (cs ++ closing)).2 = rest ++ closing) :
    splitSpaced v p cs = ((splitSpaced v p (cs ++ closing)).1, rest) := by
  fun_induction splitSpaced v p cs with
  | case1 =>
    cases hp : p ')' with
    | true =>
      -- Passing over the parenthesis would leave no anchor.
      have hle := (splitSpaced_suffix (v := v) p (spaced v ['$'])).length_le
      have hle' := (spaced_suffix v ['$']).length_le
      rw [List.nil_append, closing, splitSpaced, if_pos hp] at h
      have hlength := congrArg List.length h
      simp only [List.length_append, List.length_cons, List.length_nil] at hlength hle'
      omega
    | false =>
      have hsplit : splitSpaced v p closing = ([], closing) := by
        rw [closing, splitSpaced, if_neg (by simp [hp])]
      rw [List.nil_append, hsplit] at h ⊢
      rw [append_closing_eq_closing_iff.mp h.symm]
  | case2 c cs hc taken rest' heq ih =>
    have hsplit : splitSpaced v p (c :: cs ++ closing) =
        (c :: (splitSpaced v p (spaced v (cs ++ closing))).1,
          (splitSpaced v p (spaced v (cs ++ closing))).2) := by
      rw [List.cons_append, splitSpaced, if_pos hc]
    rw [hsplit] at h ⊢
    -- The blanks behind `c` end at the anchor, since something is left of it.
    have hsuffix := splitSpaced_suffix (v := v) p (spaced v (cs ++ closing))
    rw [h] at hsuffix
    obtain ⟨front, hfront, -⟩ := exists_of_append_closing_suffix hsuffix
    obtain rfl := spaced_of_append hfront
    rw [hfront] at h ⊢
    have hih := ih h
    rw [heq] at hih
    obtain ⟨htaken, hrest⟩ := Prod.mk.inj hih
    rw [← htaken, hrest]
  | case3 c cs hc =>
    have hsplit : splitSpaced v p (c :: cs ++ closing) = ([], c :: cs ++ closing) := by
      rw [List.cons_append, splitSpaced, if_neg hc]
    rw [hsplit] at h ⊢
    rw [List.append_cancel_right h]

theorem takes_takeSpaced_iff {p : Char → Bool} {cs x rest : List Char} :
    (takeSpaced v p).Takes cs x rest ↔ splitSpaced v p cs = (x, rest) := by
  constructor
  · rintro ⟨h, heq⟩
    cases heq
    rfl
  · intro h
    refine ⟨?_, ?_⟩
    · have hle := length_splitSpaced v p cs
      rw [h] at hle
      exact hle
    · unfold takeSpaced
      simp only [h]

theorem local_takeSpaced {k : Nat} (p : Char → Bool) : Local k (takeSpaced v p) := by
  refine ⟨?_, ?_⟩
  · intro cs x rest h
    have hsuffix := splitSpaced_suffix (v := v) p cs
    rw [takes_takeSpaced_iff.mp h] at hsuffix
    exact hsuffix
  · intro cs x rest h _
    have heq := takes_takeSpaced_iff.mp h
    have halone := splitSpaced_alone (congrArg Prod.snd heq)
    rw [heq] at halone
    exact takes_takeSpaced_iff.mpr halone

theorem local_decimal {k : Nat} : Local k (decimal v) := by
  refine .bind (.takeWhile _) fun _ => .bind (local_takeSpaced _) fun digits =>
    .bind (local_takeSpaced _) fun _ => ?_
  split
  · exact .pure _
  · exact .pure _

/-! ### Escapes -/

theorem local_hexChar {k : Nat} (digits : List Char) : Local k (hexChar digits) := by
  unfold hexChar
  split
  · exact .pure _
  · exact .fail _

theorem local_hexDigit : Local 0 (hexDigit v) := by
  refine .look_bind (fun x => ?_) ?_
  · cases x with
    | none => exact .fail _
    | some c =>
      dsimp only
      split
      · exact .bind local_skipSpaced fun _ => .pure c
      · exact .fail _
  · intro b
    have hdigit : (Text.hexDigit? ')').isSome = false := by decide
    simp only [hdigit]
    exact not_takes_fail

theorem local_hexDigits (n : Nat) : Local 0 (hexDigits v n) := by
  induction n with
  | zero => exact .pure _
  | succ n ih => exact .bind local_hexDigit fun _ => .bind ih fun _ => .pure _

theorem local_hexBraced : Local 0 (hexBraced v) := by
  refine .bind local_skipSpaced fun _ => .bind (local_takeSpaced _) fun digits => ?_
  split
  · exact .fail _
  · refine .look_bind (fun x => ?_) (Consumes.not_takes_closing ?_)
    · split
      · exact .fail _
      · refine .bind local_skipSpaced fun _ => ?_
        split
        · exact .fail _
        · exact local_hexChar digits
    · exact consumes_skipSpaced.bind_left

/-- The anchor has no digits. -/
theorem not_takes_hexDigits {n : Nat} {ds : List Char} :
    ¬ (hexDigits v (n + 1)).Takes closing ds closing := by
  intro h
  obtain ⟨d, mid, hd, -⟩ := takes_bind_iff.mp h
  obtain ⟨x, mid', hx, hd'⟩ := takes_bind_iff.mp hd
  obtain ⟨rfl, rfl⟩ := takes_look_iff.mp hx
  have hdigit : (Text.hexDigit? ')').isSome = false := by decide
  simp only [closing, List.head?_cons, hdigit] at hd'
  exact not_takes_fail hd'

theorem local_hex (letter : Char) : Local 0 (hex v letter) := by
  refine .bind local_space fun _ => .look_bind (fun x => ?_) ?_
  · split
    · exact .fail _
    · exact .bind local_hexBraced fun _ => .pure _
    · exact .bind (local_hexDigits _) fun digits => .bind (local_hexChar digits) fun _ => .pure _
  · intro b h
    obtain ⟨digits, mid, hdigits, hrest⟩ := takes_bind_iff.mp h
    obtain ⟨c, mid', hc, hrest'⟩ := takes_bind_iff.mp hrest
    -- Nothing may be taken, but at least two digits are asked for.
    have hmid : mid = closing := by
      have hle := hdigits.length_le
      have hle' := hc.length_le
      have hle'' := hrest'.length_le
      exact ((local_hexDigits _).suffix hdigits).eq_of_length (by omega)
    rw [hmid] at hdigits
    obtain ⟨n, hn⟩ : ∃ n, (if letter = 'x' then 2 else if letter = 'u' then 4 else 8) = n + 1 := by
      split
      · exact ⟨1, rfl⟩
      · split
        · exact ⟨3, rfl⟩
        · exact ⟨7, rfl⟩
    rw [hn] at hdigits
    exact not_takes_hexDigits hdigits

theorem local_propertyAtom (negated : Bool) : Local 0 (propertyAtom v negated) := by
  refine .bind local_space fun _ => .look_bind (fun x => ?_) (Consumes.not_takes_closing ?_)
  · split
    · exact .fail _
    · refine .bind local_skipSpaced fun _ => .bind (local_takeSpaced _) fun text =>
        .look_bind (fun x => ?_) (Consumes.not_takes_closing ?_)
      · split
        · exact .fail _
        · exact .bind .skip fun _ => .pure _
      · exact Consumes.skip.bind_left
    · exact .fail _
    · exact .bind local_skipSpaced fun _ => .pure _
  · exact consumes_skipSpaced.bind_left

theorem local_boundaryName : Local 0 (boundaryName v) := by
  refine .bind local_skipSpaced fun _ => .bind (local_takeSpaced _) fun name =>
    .look_bind (fun x => ?_) ?_
  · split
    · refine .bind .skip fun _ => ?_
      split
      · exact .pure _
      · exact .fail _
    · exact .fail _
  · -- A name ends at a brace, and the anchor has none.
    intro b h
    rw [if_neg (by decide)] at h
    exact not_takes_fail h

/-! ### Word boundaries -/

theorem takes_boundary_iff_of_ne {cs rest : List Char} {a : Assertion}
    (h : cs.head? ≠ some '\x7b') :
    (boundary v).Takes cs a rest ↔ a = .wordBoundary ∧ rest = cs := by
  have hboundary : ∀ mid, ((boundary v).Takes cs a mid ↔
      (pure .wordBoundary : Reader Assertion).Takes cs a mid) := by
    intro mid
    unfold boundary
    rw [takes_bind_iff]
    simp only [takes_ahead_iff]
    constructor
    · rintro ⟨_, _, ⟨rfl, rfl⟩, hrest⟩
      split at hrest
      · exact absurd rfl h
      · exact hrest
    · intro hrest
      refine ⟨cs, cs, ⟨rfl, rfl⟩, ?_⟩
      split
      · exact absurd rfl h
      · exact hrest
  rw [hboundary, takes_pure_iff]

theorem takes_boundary_brace_iff {cs rest : List Char} {a : Assertion} :
    (boundary v).Takes ('\x7b' :: cs) a rest ↔
      ∃ c ∈ (spaced v cs).head?, (isBoundaryChar c = true ∧
        (boundaryName v).Takes ('\x7b' :: cs) a rest) ∨
        (isBoundaryChar c = false ∧ a = .wordBoundary ∧ rest = '\x7b' :: cs) := by
  unfold boundary
  rw [takes_bind_iff]
  simp only [takes_ahead_iff]
  constructor
  · rintro ⟨_, _, ⟨rfl, rfl⟩, hrest⟩
    split at hrest
    · next cs' heq =>
      obtain ⟨-, rfl⟩ := List.cons.inj heq
      split at hrest
      · exact absurd hrest not_takes_fail
      · next c hc =>
        refine ⟨c, hc, ?_⟩
        split at hrest
        · next hchar => exact .inl ⟨hchar, hrest⟩
        · next hchar => exact .inr ⟨by simpa using hchar, takes_pure_iff.mp hrest⟩
    · next hne => exact absurd rfl (hne cs)
  · rintro ⟨c, hc, h⟩
    refine ⟨_, _, ⟨rfl, rfl⟩, ?_⟩
    split
    · next cs' heq =>
      obtain ⟨-, rfl⟩ := List.cons.inj heq
      rw [Option.mem_def.mp hc]
      dsimp only
      rcases h with ⟨hchar, hname⟩ | ⟨hchar, hrest⟩
      · rw [if_pos hchar]
        exact hname
      · rw [if_neg (by simp [hchar])]
        exact takes_pure_iff.mpr hrest
    · next hne => exact absurd rfl (hne cs)

/-- A brace at the end of a value behind `\b`: alone it is an error, and before the anchor
    it is left for a repetition. -/
def DanglingBrace (v : Bool) (rest : List Char) : Prop :=
  ∃ blank, rest = '\x7b' :: blank ∧ spaced v blank = []

theorem boundary_suffix {cs rest : List Char} {a : Assertion} (h : (boundary v).Takes cs a rest) :
    rest <:+ cs := by
  by_cases hbrace : cs.head? = some '\x7b'
  · obtain ⟨cs, rfl⟩ := List.head?_eq_some_iff.mp hbrace
    obtain ⟨c, -, ⟨-, hname⟩ | ⟨-, -, rfl⟩⟩ := takes_boundary_brace_iff.mp h
    · exact local_boundaryName.suffix hname
    · exact List.suffix_refl _
  · obtain ⟨-, rfl⟩ := (takes_boundary_iff_of_ne hbrace).mp h
    exact List.suffix_refl _

theorem boundary_alone {cs rest : List Char} {a : Assertion}
    (h : (boundary v).Takes (cs ++ closing) a (rest ++ closing)) :
    (boundary v).Takes cs a rest ∨ (a = .wordBoundary ∧ DanglingBrace v rest) := by
  by_cases hbrace : cs.head? = some '\x7b'
  · obtain ⟨cs, rfl⟩ := List.head?_eq_some_iff.mp hbrace
    rw [List.cons_append] at h
    obtain ⟨c, hc, h⟩ := takes_boundary_brace_iff.mp h
    -- The next character is one of the value, or the parenthesis behind it.
    have hhead : c ∈ (spaced v cs).head? ∨ (spaced v cs = [] ∧ c = ')') := by
      rcases spaced_append v cs with happend | ⟨-, hnil⟩
      · rw [happend] at hc
        cases hspaced : spaced v cs with
        | nil =>
          rw [hspaced] at hc
          exact .inr ⟨rfl, (Option.some.inj hc).symm⟩
        | cons d ds =>
          rw [hspaced] at hc
          exact .inl hc
      · rw [hnil] at hc
        cases hc
    rcases h with ⟨hchar, hname⟩ | ⟨hchar, rfl, heq⟩
    · left
      rcases hhead with hhead | ⟨-, rfl⟩
      · exact takes_boundary_brace_iff.mpr
          ⟨c, hhead, .inl ⟨hchar, local_boundaryName.alone hname (Nat.zero_le _)⟩⟩
      · -- A parenthesis starts no name.
        exact absurd hchar (by decide)
    · have hrest : rest = '\x7b' :: cs := List.append_cancel_right heq
      rcases hhead with hhead | ⟨hnil, -⟩
      · exact .inl (takes_boundary_brace_iff.mpr ⟨c, hhead, .inr ⟨hchar, rfl, hrest⟩⟩)
      · exact .inr ⟨rfl, cs, hrest, hnil⟩
  · have hne : (cs ++ closing).head? ≠ some '\x7b' := by
      cases cs with
      | nil => decide
      | cons c cs => exact hbrace
    obtain ⟨rfl, heq⟩ := (takes_boundary_iff_of_ne hne).mp h
    exact .inl ((takes_boundary_iff_of_ne hbrace).mpr ⟨rfl, List.append_cancel_right heq⟩)

/-! ### All escapes -/

/-- Reads the rest of an escape whose letter `c` has been passed. -/
def escapeAfter (v : Bool) (c : Char) : Reader Atom :=
  if c = 'x' ∨ c = 'u' ∨ c = 'U' then hex v c >>= fun l => pure (.literal l)
  else if c = 'p' ∨ c = 'P' then propertyAtom v (c = 'P')
  else if isEscapable c then pure (.plain c)
  else if c = 'b' then boundary v >>= fun a => pure (.assertion a)
  else
    match letterAtom? c with
    | some a => pure a
    | none => fail .escapeUnknown

/-- Reads an escape whose letter is the given one, if there is any. -/
def escapeAt (v : Bool) : Option Char → Reader Atom
  | none => fail .escapeEnd
  | some c => if c.isDigit then fail .backreference else skip >>= fun _ => escapeAfter v c

theorem escape_eq : escape v = look >>= escapeAt v := rfl

/-- The letter of an escape decides how it goes on. -/
theorem takes_escape_iff {cs rest : List Char} {a : Atom} :
    (escape v).Takes cs a rest ↔
      ∃ c cs', cs = c :: cs' ∧ c.isDigit = false ∧ (escapeAfter v c).Takes cs' a rest := by
  rw [escape_eq, takes_bind_iff]
  simp only [takes_look_iff]
  constructor
  · rintro ⟨x, mid, ⟨hx, hmid⟩, h⟩
    rw [hx, hmid] at h
    cases cs with
    | nil => exact absurd h not_takes_fail
    | cons c cs =>
      rw [List.head?_cons, escapeAt] at h
      split at h
      · exact absurd h not_takes_fail
      · next hdigit =>
        obtain ⟨_, mid, hskip, h⟩ := takes_bind_iff.mp h
        rw [takes_skip_iff.mp hskip] at h
        exact ⟨c, cs, rfl, by simpa using hdigit, h⟩
  · rintro ⟨c, cs', rfl, hdigit, h⟩
    refine ⟨_, _, ⟨rfl, rfl⟩, ?_⟩
    rw [List.head?_cons, escapeAt, if_neg (by simp [hdigit])]
    exact takes_bind_iff.mpr ⟨(), cs', takes_skip_iff.mpr rfl, h⟩

theorem local_escapeAfter {c : Char} (hc : c ≠ 'b') : Local 0 (escapeAfter v c) := by
  unfold escapeAfter
  split
  · exact .bind (local_hex c) fun _ => .pure _
  · split
    · exact local_propertyAtom _
    · split
      · exact .pure _
      · split
        · exact .pure _
        · exact .fail _

theorem takes_escapeAfter_b_iff {cs rest : List Char} {a : Atom} :
    (escapeAfter v 'b').Takes cs a rest ↔
      ∃ b, a = .assertion b ∧ (boundary v).Takes cs b rest := by
  have hb : escapeAfter v 'b' = boundary v >>= fun a => pure (.assertion a) := by
    unfold escapeAfter
    rw [if_neg (by decide), if_neg (by decide), if_neg (by decide), if_pos rfl]
  rw [hb, takes_bind_iff]
  constructor
  · rintro ⟨b, mid, hboundary, hpure⟩
    obtain ⟨rfl, rfl⟩ := takes_pure_iff.mp hpure
    exact ⟨b, rfl, hboundary⟩
  · rintro ⟨b, rfl, hboundary⟩
    exact ⟨b, rest, hboundary, takes_pure_iff.mpr ⟨rfl, rfl⟩⟩

theorem escape_suffix {cs rest : List Char} {a : Atom} (h : (escape v).Takes cs a rest) :
    rest <:+ cs := by
  obtain ⟨c, cs', rfl, -, h⟩ := takes_escape_iff.mp h
  refine List.IsSuffix.trans ?_ (List.suffix_cons c cs')
  by_cases hc : c = 'b'
  · subst hc
    obtain ⟨b, -, hboundary⟩ := takes_escapeAfter_b_iff.mp h
    exact boundary_suffix hboundary
  · exact (local_escapeAfter hc).suffix h

/-- Escapes are local, but for the brace behind `\b`. -/
theorem escape_alone {cs rest : List Char} {a : Atom}
    (h : (escape v).Takes (cs ++ closing) a (rest ++ closing)) :
    (escape v).Takes cs a rest ∨ (a = .assertion .wordBoundary ∧ DanglingBrace v rest) := by
  obtain ⟨c, cs', heq, hdigit, h⟩ := takes_escape_iff.mp h
  cases cs with
  | nil =>
    -- The parenthesis has been passed, and with it the anchor is gone.
    obtain ⟨rfl, rfl⟩ := List.cons.inj heq
    have hle := h.length_le
    simp [closing] at hle
  | cons d cs =>
    obtain ⟨rfl, rfl⟩ := List.cons.inj heq
    by_cases hc : d = 'b'
    · subst hc
      obtain ⟨b, rfl, hboundary⟩ := takes_escapeAfter_b_iff.mp h
      rcases boundary_alone hboundary with halone | ⟨rfl, hdangling⟩
      · exact .inl (takes_escape_iff.mpr
          ⟨'b', cs, rfl, hdigit, takes_escapeAfter_b_iff.mpr ⟨b, rfl, halone⟩⟩)
      · exact .inr ⟨rfl, hdangling⟩
    · exact .inl (takes_escape_iff.mpr
        ⟨d, cs, rfl, hdigit, (local_escapeAfter hc).alone h (Nat.zero_le _)⟩)

end Reader

end LabelSelector.Pattern
