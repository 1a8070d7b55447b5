import LabelSelector.Proofs.WholeValue

/-! # Plain alternatives

  A value made of words with bars between them, none of which holds a character that has a
  meaning of its own in patterns, is read as what it looks like: an alternation of texts.
  Its matcher then tests whether a text is one of the words.

  - Reading goes through the words one character at a time, and ends an alternative at each
    bar. Blanks, line breaks and all characters beyond ASCII stand for themselves.
  - The tree is shallow however many words there are, and all of it has a meaning, so only
    the size of the compiled expression can keep such a matcher from being made.

  As for all patterns, reading, compiling and testing are `Pattern.anchored` and
  `Pattern.isMatch` as they are defined here, after the documented syntax and meaning of
  regular expressions, with the limit on size that goes with them.
-/

namespace LabelSelector

namespace Pattern

open TextReader Reader

/-! ### Plain words -/

/-- The characters that have a meaning of their own somewhere in a pattern. -/
def specialChars : List Char :=
  ['\\', '.', '+', '*', '?', '(', ')', '|', '[', ']', '\x7b', '\x7d', '^', '$', '#', '&', '-', '~']

/-- A text in which all characters stand for themselves. -/
def Plain (w : List Char) : Prop := ∀ c ∈ w, c ∉ specialChars

-- Decided over the characters of the word, not over all characters there are.
instance (w : List Char) : Decidable (Plain w) := List.decidableBAll (· ∉ specialChars) w

/-- The tree of a word. -/
def wordNode (w : List Char) : Node := .ofItems (w.map fun c => .atom (.plain c))

/-- The tree of several words. -/
def wordsNode (ws : List (List Char)) : Node := .ofBranches (ws.map wordNode)

variable {p : Progress} {c : Char} {w rest : List Char} {ws : List (List Char)}

theorem plain_cons_iff : Plain (c :: w) ↔ c ∉ specialChars ∧ Plain w := List.forall_mem_cons

/-! ### Reading words -/

theorem not_isRepetition_of_plain (hc : c ∉ specialChars) : isRepetition c = false := by
  cases hrep : isRepetition c with
  | false => rfl
  | true =>
    have hmem : c = '?' ∨ c = '*' ∨ c = '+' ∨ c = '\x7b' := by
      simpa [isRepetition, or_assoc] using hrep
    rcases hmem with rfl | rfl | rfl | rfl <;> exact absurd (by decide) hc

theorem item_of_plain {v : Bool} (hc : c ∉ specialChars) :
    item v c = pure (.atom (.plain c)) := by
  unfold item
  split <;> first | rfl | exact absurd (by decide) hc

/-- A plain character is an item. -/
theorem step_of_plain (hc : c ∉ specialChars) (p : Progress) (cs : List Char) :
    PatternStep p c cs (p.push (.atom (.plain c))) cs := by
  have hmarks : c ≠ '(' ∧ c ≠ ')' ∧ c ≠ '|' := by
    refine ⟨?_, ?_, ?_⟩
    all_goals
      rintro rfl
      exact hc (by decide)
  apply PatternStep.item ⟨hmarks, not_isRepetition_of_plain hc⟩
  rw [item_of_plain hc]
  exact takes_pure_iff.mpr ⟨rfl, rfl⟩

/-- The progress behind a word. -/
def Progress.spell (p : Progress) (w : List Char) : Progress :=
  w.foldl (fun p c => p.push (.atom (.plain c))) p

/-- Reading goes on behind a plain word. -/
theorem pattern_word (hw : Plain w) (hp : p.verbose = false) :
    pattern p (w ++ rest) = pattern (p.spell w) rest := by
  induction w generalizing p with
  | nil => rfl
  | cons c w ih =>
    obtain ⟨hc, hw⟩ := plain_cons_iff.mp hw
    have hs : spaced p.verbose (c :: (w ++ rest)) = c :: (w ++ rest) := by rw [hp]; rfl
    rw [List.cons_append, pattern_of_step hs (step_of_plain hc p (w ++ rest))]
    exact ih hw hp

/-- The progress behind words with bars between them. -/
def Progress.spellAll (p : Progress) : List (List Char) → Progress
  | [] => p
  | [w] => p.spell w
  | w :: ws => ((p.spell w).branch).spellAll ws

theorem spell_eq (p : Progress) (w : List Char) :
    p.spell w = { p with items := (w.map fun c => .atom (.plain c)).reverse ++ p.items } := by
  induction w generalizing p with
  | nil => rfl
  | cons c w ih =>
    have hrest := ih (p.push (.atom (.plain c)))
    rw [Progress.spell, List.foldl_cons, ← Progress.spell, hrest]
    simp [Progress.push]

/-- Reading goes on behind plain words. -/
theorem pattern_words (hws : ∀ w ∈ ws, Plain w) (hp : p.verbose = false) :
    pattern p (['|'].intercalate ws ++ rest) = pattern (p.spellAll ws) rest := by
  fun_induction Progress.spellAll p ws with
  | case1 p => rfl
  | case2 p w =>
    rw [List.intercalate_singleton]
    exact pattern_word (hws w (List.mem_singleton_self w)) hp
  | case3 p w ws hne ih =>
    obtain ⟨hw, hws⟩ := List.forall_mem_cons.mp hws
    obtain ⟨w', ws', rfl⟩ := List.exists_cons_of_ne_nil hne
    have hverbose : (p.spell w).verbose = false := by rw [spell_eq]; exact hp
    have hbar : ∀ cs, spaced (p.spell w).verbose ('|' :: cs) = '|' :: cs := by
      intro cs
      rw [hverbose]
      rfl
    rw [List.intercalate_cons_cons, List.append_assoc, List.append_assoc, pattern_word hw hp,
      List.singleton_append, pattern_of_step (hbar _) .branch]
    exact ih hws hverbose

/-- What has been read of the innermost group behind words. -/
theorem body_spellAll (hws : ws ≠ []) (hp : p.items = []) :
    (p.spellAll ws).body = .ofBranches (p.branches.reverse ++ ws.map wordNode) := by
  fun_induction Progress.spellAll p ws with
  | case1 p => exact absurd rfl hws
  | case2 p w =>
    rw [spell_eq, Progress.body, hp]
    simp [wordNode]
  | case3 p w ws hne ih =>
    have hbranches : ((p.spell w).branch).branches = wordNode w :: p.branches := by
      rw [spell_eq, hp]
      simp [Progress.branch, wordNode]
    rw [ih hne rfl, hbranches]
    simp

/-- Words are read within the group that is open. -/
theorem spellAll_frame (p : Progress) (ws : List (List Char)) :
    (p.spellAll ws).verbose = p.verbose ∧ (p.spellAll ws).stack = p.stack := by
  fun_induction Progress.spellAll p ws with
  | case1 p => exact ⟨rfl, rfl⟩
  | case2 p w =>
    rw [spell_eq]
    exact ⟨rfl, rfl⟩
  | case3 p w ws _ ih =>
    rw [ih.1, ih.2, spell_eq]
    exact ⟨rfl, rfl⟩

/-- The anchored text of plain words is read as the anchored tree of the words. -/
theorem pattern_anchor_words (hne : ws ≠ []) (hws : ∀ w ∈ ws, Plain w) :
    pattern .start (anchor (['|'].intercalate ws)) = .ok (anchorTree (wordsNode ws)) := by
  let p := Progress.start.within.spellAll ws
  obtain ⟨hverbose, hstack⟩ := spellAll_frame Progress.start.within ws
  have hbody : p.body = wordsNode ws := body_spellAll hne rfl
  have hspaced : ∀ cs, spaced p.verbose cs = cs := by
    intro cs
    rw [show p.verbose = false from hverbose]
    rfl
  -- The parenthesis closes the group of the anchor, which is the only one that is open.
  let q : Progress := { p with
    stack := [], branches := [], verbose := false,
    items := [.group (.plain []) (wordsNode ws), .atom (.assertion .lineStart)] }
  have hclose : PatternStep p ')' ['$'] q ['$'] := by
    apply PatternStep.close
    rw [Progress.closeGroup, show p.stack = [anchorLevel] from hstack]
    show Except.ok { p with
      verbose := false, stack := [], branches := [],
      items := [.group (.plain []) p.body, .atom (.assertion .lineStart)] } = Except.ok q
    rw [hbody]
  have hdollar : PatternStep q '$' [] (q.push (.atom (.assertion .lineEnd))) [] :=
    .item (by decide) (takes_pure_iff.mpr ⟨rfl, rfl⟩)
  calc pattern .start (anchor (['|'].intercalate ws))
      = pattern Progress.start.within (['|'].intercalate ws ++ closing) := pattern_anchor _
    _ = pattern p closing := pattern_words hws rfl
    _ = pattern q ['$'] := pattern_of_step (hspaced _) hclose
    _ = pattern (q.push (.atom (.assertion .lineEnd))) [] := pattern_of_step rfl hdollar
    _ = (q.push (.atom (.assertion .lineEnd))).finish := pattern_of_end rfl
    _ = .ok (anchorTree (wordsNode ws)) := rfl

/-! ### The depth of the tree -/

/-- A word is a list of characters at most. -/
theorem depth_wordNode_le (w : List Char) : (wordNode w).depth ≤ 1 := by
  match w with
  | [] => exact Nat.zero_le 1
  | [c] => exact Nat.zero_le 1
  | [c, d] => exact Nat.le_refl 1
  | c :: d :: e :: w =>
    have hrest := depth_wordNode_le (d :: e :: w)
    show max 1 (wordNode (d :: e :: w)).depth ≤ 1
    omega

/-- A word is no alternation, so it does not share the level of the one it ends. -/
theorem depth_alt_wordNode (first : Node) (w : List Char) :
    (Node.alt first (wordNode w)).depth = max first.depth (wordNode w).depth + 1 := by
  match w with
  | [] => rfl
  | [c] => rfl
  | c :: d :: w => rfl

/-- Words are an alternation of lists at most. -/
theorem depth_wordsNode_le (ws : List (List Char)) : (wordsNode ws).depth ≤ 2 := by
  match ws with
  | [] => exact Nat.zero_le 2
  | [w] => exact Nat.le_succ_of_le (depth_wordNode_le w)
  | [w, w'] =>
    have hw := depth_wordNode_le w
    have hw' := depth_wordNode_le w'
    show (Node.alt (wordNode w) (wordNode w')).depth ≤ 2
    rw [depth_alt_wordNode]
    omega
  | w :: w' :: w'' :: ws =>
    have hw := depth_wordNode_le w
    have hrest := depth_wordsNode_le (w' :: w'' :: ws)
    show max ((wordNode w).depth + 1) (wordsNode (w' :: w'' :: ws)).depth ≤ 2
    omega

/-- Plain words between anchors are never refused for their form. -/
theorem parse_anchor_words (hne : ws ≠ []) (hws : ∀ w ∈ ws, Plain w) :
    Node.parse (anchor (['|'].intercalate ws)) = .ok (anchorTree (wordsNode ws)) := by
  apply parse_eq_ok_iff.mpr
  refine ⟨pattern_anchor_words hne hws, ?_⟩
  have hdepth := depth_wordsNode_le ws
  rw [depth_anchorTree, nestLimit]
  omega

/-! ### The meaning of words -/

/-- The set of one character, as the meaning of a plain character. -/
def charRegex (c : Char) : Regex := .chars true (.single c.toNat)

/-- The meaning of a word. -/
def wordRegex : List Char → Regex
  | [] => .empty
  | [c] => charRegex c
  | c :: w => .seq (charRegex c) (wordRegex w)

/-- The meaning of several words. -/
def wordsRegex : List (List Char) → Regex
  | [] => .empty
  | [w] => wordRegex w
  | w :: ws => .alt (wordRegex w) (wordsRegex ws)

theorem lower_plain (c : Char) :
    (Node.atom (.plain c)).lower .initial = .ok (charRegex c, .initial) := rfl

theorem lower_wordNode (w : List Char) :
    (wordNode w).lower .initial = .ok (wordRegex w, .initial) := by
  match w with
  | [] => rfl
  | [c] => rfl
  | c :: d :: w =>
    have hrest := lower_wordNode (d :: w)
    show (Node.seq (.atom (.plain c)) (wordNode (d :: w))).lower .initial = _
    rw [Node.lower, lower_plain]
    simp only [bind, Except.bind, hrest]
    rfl

theorem lower_wordsNode (ws : List (List Char)) :
    (wordsNode ws).lower .initial = .ok (wordsRegex ws, .initial) := by
  match ws with
  | [] => rfl
  | [w] => exact lower_wordNode w
  | w :: w' :: ws =>
    have hrest := lower_wordsNode (w' :: ws)
    show (Node.alt (wordNode w) (wordsNode (w' :: ws))).lower .initial = _
    rw [Node.lower, lower_wordNode]
    simp only [bind, Except.bind, hrest]
    rfl

/-- A tree with a meaning has one between anchors too. -/
theorem lower_anchorTree_of_lower {body : Node} {r : Regex} {f : Flags}
    (h : body.lower .initial = .ok (r, f)) :
    (anchorTree body).lower .initial = .ok (anchorRegex r, .initial) := by
  have hgroup : (Node.group (.plain []) body).lower .initial = .ok (.group false r, .initial) := by
    show (body.lower .initial >>= fun x => pure (Regex.group false x.1, Flags.initial)) = _
    rw [h]
    rfl
  have hrest : (Node.seq (.group (.plain []) body) (.atom (.assertion .lineEnd))).lower .initial =
      .ok (.seq (.group false r) (.look .textEnd), .initial) := by
    rw [Node.lower, hgroup]
    rfl
  show ((Node.seq (.group (.plain []) body) (.atom (.assertion .lineEnd))).lower .initial >>=
    fun x => pure (Regex.seq (.look .textStart) x.1, x.2)) = _
  rw [hrest]
  rfl

theorem ordered_wordRegex (w : List Char) : (wordRegex w).Ordered := by
  fun_induction wordRegex w with
  | case1 => trivial
  | case2 c => trivial
  | case3 c w _ ih => exact ⟨trivial, ih⟩

theorem ordered_wordsRegex (ws : List (List Char)) : (wordsRegex ws).Ordered := by
  fun_induction wordsRegex ws with
  | case1 => trivial
  | case2 w => exact ordered_wordRegex w
  | case3 w ws _ ih => exact ⟨ordered_wordRegex w, ih⟩

/-- What plain words compile to, unless it is too large. -/
theorem compile_anchor_words (hne : ws ≠ []) (hws : ∀ w ∈ ws, Plain w) :
    compile (anchor (['|'].intercalate ws)) =
      if (anchorRegex (wordsRegex ws)).fits then .ok ⟨anchorRegex (wordsRegex ws)⟩
      else .error .size := by
  unfold compile
  rw [parse_anchor_words hne hws]
  simp only [bind, Except.bind, lower_anchorTree_of_lower (lower_wordsNode ws)]
  rfl

/-! ### Where words lead -/

variable {text : List Char} {i j : Nat}

theorem contains_single_iff {d : Char} :
    (Unicode.CharSet.single c.toNat).contains d = true ↔ d = c := by
  have hsearch : (Unicode.CharSet.single c.toNat).contains d = true ↔
      c.toNat ≤ d.toNat ∧ d.toNat ≤ c.toNat := by
    simp [Unicode.CharSet.contains, Unicode.CharSet.containsCode, Unicode.CharSet.single,
      Unicode.CharSet.search]
  rw [hsearch, ← Char.toNat_inj]
  omega

theorem spans_charRegex_iff :
    Regex.Spans text (charRegex c) i j ↔ text[i]? = some c ∧ j = i + 1 := by
  rw [charRegex, Regex.spans_chars_iff]
  simp only [contains_single_iff, exists_eq_right]

theorem cons_prefix_drop_iff :
    c :: w <+: text.drop i ↔ text[i]? = some c ∧ w <+: text.drop (i + 1) := by
  by_cases hi : i < text.length
  · rw [List.drop_eq_getElem_cons hi, List.cons_prefix_cons, List.getElem?_eq_getElem hi,
      Option.some.injEq, eq_comm]
  · have hnil : text.drop i = [] := List.drop_eq_nil_of_le (Nat.le_of_not_lt hi)
    rw [hnil, List.getElem?_eq_none (Nat.le_of_not_lt hi)]
    simp

/-- A word leads over itself. -/
theorem spans_wordRegex_iff :
    Regex.Spans text (wordRegex w) i j ↔
      i ≤ text.length ∧ w <+: text.drop i ∧ j = i + w.length := by
  fun_induction wordRegex w generalizing i with
  | case1 =>
    rw [Regex.spans_empty_iff]
    simp
  | case2 c =>
    rw [spans_charRegex_iff, cons_prefix_drop_iff]
    constructor
    · intro h
      have hlt := (List.getElem?_eq_some_iff.mp h.1).1
      exact ⟨Nat.le_of_lt hlt, ⟨h.1, List.nil_prefix⟩, h.2⟩
    · intro h
      exact ⟨h.2.1.1, h.2.2⟩
  | case3 c w _ ih =>
    rw [Regex.spans_seq_iff, cons_prefix_drop_iff, List.length_cons]
    constructor
    · intro h
      obtain ⟨k, hfirst, hrest⟩ := h
      obtain ⟨hc, rfl⟩ := spans_charRegex_iff.mp hfirst
      obtain ⟨-, hw, rfl⟩ := ih.mp hrest
      have hlt := (List.getElem?_eq_some_iff.mp hc).1
      exact ⟨Nat.le_of_lt hlt, ⟨hc, hw⟩, by omega⟩
    · intro h
      obtain ⟨-, ⟨hc, hw⟩, hj⟩ := h
      have hlt := (List.getElem?_eq_some_iff.mp hc).1
      exact ⟨i + 1, spans_charRegex_iff.mpr ⟨hc, rfl⟩, ih.mpr ⟨hlt, hw, by omega⟩⟩

theorem spans_wordsRegex_iff (hne : ws ≠ []) :
    Regex.Spans text (wordsRegex ws) i j ↔ ∃ w ∈ ws, Regex.Spans text (wordRegex w) i j := by
  fun_induction wordsRegex ws with
  | case1 => exact absurd rfl hne
  | case2 w => simp
  | case3 w ws hws ih =>
    rw [Regex.spans_alt_iff, ih hws]
    simp

/-- From end to end, words lead over a text exactly if it is one of them. -/
theorem spans_words_iff_mem (hne : ws ≠ []) :
    Regex.Spans text (wordsRegex ws) 0 text.length ↔ text ∈ ws := by
  rw [spans_wordsRegex_iff hne]
  constructor
  · intro h
    obtain ⟨w, hw, hspans⟩ := h
    obtain ⟨-, hprefix, hlength⟩ := spans_wordRegex_iff.mp hspans
    rw [List.drop_zero] at hprefix
    have heq : w = text := hprefix.eq_of_length (by omega)
    exact heq ▸ hw
  · intro h
    exact ⟨text, h, spans_wordRegex_iff.mpr ⟨Nat.zero_le _, List.prefix_rfl, by omega⟩⟩

theorem isMatch_words_iff (hne : ws ≠ []) (s : String) :
    (Pattern.mk (anchorRegex (wordsRegex ws))).isMatch s = true ↔ s.toList ∈ ws := by
  have hordered : (anchorRegex (wordsRegex ws)).Ordered :=
    ⟨trivial, ordered_wordsRegex ws, trivial⟩
  rw [isMatch, Regex.isMatch_iff hordered, Regex.matches_anchorRegex_iff, spans_words_iff_mem hne]

/-- A value of plain words is compiled, or is too large; what is compiled matches the words. -/
theorem anchored_words {words : List String} (hne : words ≠ [])
    (hplain : ∀ w ∈ words, Plain w.toList) :
    anchored ("|".intercalate words) = .error .size ∨
      ∃ p, anchored ("|".intercalate words) = .ok p ∧ ∀ s, p.isMatch s = true ↔ s ∈ words := by
  have hne' : words.map String.toList ≠ [] := by simpa using hne
  have hplain' : ∀ w ∈ words.map String.toList, Plain w := by simpa using hplain
  have hcompile := compile_anchor_words hne' hplain'
  have htext : ("|".intercalate words).toList = ['|'].intercalate (words.map String.toList) :=
    String.toList_intercalate
  rw [anchored, htext, hcompile]
  split
  · refine .inr ⟨_, rfl, ?_⟩
    intro s
    rw [isMatch_words_iff hne']
    simp [String.toList_inj]
  · exact .inl rfl

end Pattern

namespace Matcher

open Pattern

/-! ### Membership -/

theorem make_equal (name value : String) :
    make .equal name value = .ok ⟨name, .equal, value, none⟩ := rfl

theorem make_notEqual (name value : String) :
    make .notEqual name value = .ok ⟨name, .notEqual, value, none⟩ := rfl

/-- Matchers of plain words with bars between them test whether a text is one of the words.
    They are made unless their pattern is too large; with a single word they say what the
    equality operators say.

  Compiling is `Pattern.anchored` and testing is `Pattern.isMatch`, defined in this library
  by the documented syntax and meaning of regular expressions. -/
theorem plain_alternatives_membership {words : List String} (hne : words ≠ [])
    (hplain : ∀ w ∈ words, Plain w.toList) (name : String) :
    (∀ op e, op.isRegex = true → make op name ("|".intercalate words) = .error e →
      e = .invalidPattern ("|".intercalate words) .size) ∧
    (∀ m, make .regexp name ("|".intercalate words) = .ok m →
      ∀ s, m.accepts s = true ↔ s ∈ words) ∧
    (∀ m, make .notRegexp name ("|".intercalate words) = .ok m →
      ∀ s, m.accepts s = true ↔ s ∉ words) ∧
    (∀ w m m', words = [w] → make .regexp name w = .ok m → make .equal name w = .ok m' →
      ∀ s, m.accepts s = m'.accepts s) ∧
    (∀ w m m', words = [w] → make .notRegexp name w = .ok m → make .notEqual name w = .ok m' →
      ∀ s, m.accepts s = m'.accepts s) := by
  have hregexp : ∀ m, make .regexp name ("|".intercalate words) = .ok m →
      ∀ s, m.accepts s = true ↔ s ∈ words := by
    intro m hm s
    obtain ⟨p, hp, rfl⟩ := (make_eq_ok_iff rfl).mp hm
    rcases anchored_words hne hplain with hsize | ⟨p', hp', hmatch⟩
    · cases hsize.symm.trans hp
    · obtain rfl := Except.ok.inj (hp'.symm.trans hp)
      exact hmatch s
  have hnot : ∀ m, make .notRegexp name ("|".intercalate words) = .ok m →
      ∀ s, m.accepts s = true ↔ s ∉ words := by
    intro m hm s
    obtain ⟨p, hp, rfl⟩ := (make_eq_ok_iff rfl).mp hm
    have hmade : make .regexp name ("|".intercalate words) =
        .ok ⟨name, .regexp, "|".intercalate words, some p⟩ := (make_eq_ok_iff rfl).mpr ⟨p, hp, rfl⟩
    have hmatch : p.isMatch s = true ↔ s ∈ words := hregexp _ hmade s
    show (!p.isMatch s) = true ↔ s ∉ words
    rw [← hmatch, Bool.not_eq_true', Bool.not_eq_true]
  refine ⟨?_, hregexp, hnot, ?_, ?_⟩
  · intro op e hop he
    rw [make, if_pos hop] at he
    rcases anchored_words hne hplain with hsize | ⟨p, hp, -⟩
    · rw [hsize] at he
      exact (Except.error.inj he).symm
    · rw [hp] at he
      cases he
  · intro w m m' hw hm hm' s
    subst hw
    obtain rfl := Except.ok.inj ((make_equal name w).symm.trans hm')
    have hmem := hregexp m hm s
    rw [List.mem_singleton] at hmem
    rw [Bool.eq_iff_iff, hmem]
    exact beq_iff_eq.symm
  · intro w m m' hw hm hm' s
    subst hw
    obtain rfl := Except.ok.inj ((make_notEqual name w).symm.trans hm')
    have hmem := hnot m hm s
    rw [List.mem_singleton] at hmem
    rw [Bool.eq_iff_iff, hmem]
    exact bne_iff_ne.symm

/-- The empty word among others, one of them with a line break. -/
theorem plain_alternatives_with_empty :
    ∃ m, make .regexp "n" "a\nb||a" = .ok m ∧ ∀ s, m.accepts s = true ↔ s ∈ ["a\nb", "", "a"] := by
  have hplain : ∀ w ∈ ["a\nb", "", "a"], Plain w.toList := by decide
  obtain ⟨m, hm, -⟩ : ∃ m, make .regexp "n" "a\nb||a" = .ok m ∧ m.accepts "" = true :=
    exists_accepting (by decide +kernel)
  have hmembership := plain_alternatives_membership (List.cons_ne_nil _ _) hplain "n"
  exact ⟨m, hm, hmembership.2.1 m hm⟩

end Matcher

end LabelSelector
