import LabelSelector.Matcher.Basic
import LabelSelector.Proofs.Anchoring
import LabelSelector.Proofs.Matching

/-! # Patterns test the whole value

  The anchored expression matches somewhere in a text exactly if the value, read as an
  expression of its own, leads from the start of the text to its end. This holds of every
  value but those that are no expression of their own for one reason: a parenthesis that
  closes nothing. Such a value can close the group of the anchor, and what it compiles to is
  then not anchored at both ends.

  All of this is about `Pattern.anchored` and `Pattern.isMatch` as they are defined here.
  They follow the documented syntax and meaning of regular expressions; that another engine
  does so too is no part of what is shown.
-/

namespace LabelSelector

namespace Pattern

open TextReader Reader

/-! ### Bounds in order

  The automaton of an expression needs the bounds of each repetition to be in order. They
  are when they have been read, and stay so. -/

/-- No repetition ends before it starts. -/
def Node.Ordered : Node → Prop
  | .empty | .flags _ | .atom _ | .bracket _ _ => True
  | .rep min max _ body => (∀ m ∈ max, min ≤ m) ∧ body.Ordered
  | .group _ body => body.Ordered
  | .seq first rest | .alt first rest => first.Ordered ∧ rest.Ordered

theorem Node.ordered_ofItems {items : List Node} (h : ∀ n ∈ items, n.Ordered) :
    (ofItems items).Ordered := by
  fun_induction ofItems items with
  | case1 => trivial
  | case2 item => exact h item (List.mem_singleton_self item)
  | case3 item items _ ih =>
    refine ⟨h item List.mem_cons_self, ih ?_⟩
    intro n hn
    exact h n (List.mem_cons_of_mem item hn)

theorem Node.ordered_ofBranches {branches : List Node} (h : ∀ n ∈ branches, n.Ordered) :
    (ofBranches branches).Ordered := by
  fun_induction ofBranches branches with
  | case1 => trivial
  | case2 branch => exact h branch (List.mem_singleton_self branch)
  | case3 branch branches _ ih =>
    refine ⟨h branch List.mem_cons_self, ih ?_⟩
    intro n hn
    exact h n (List.mem_cons_of_mem branch hn)

/-- All that has been read so far is in order. -/
structure Progress.Ordered (p : Progress) : Prop where
  items : ∀ n ∈ p.items, n.Ordered
  branches : ∀ n ∈ p.branches, n.Ordered
  levels : ∀ l ∈ p.stack, (∀ n ∈ l.items, n.Ordered) ∧ ∀ n ∈ l.branches, n.Ordered

namespace Progress.Ordered

variable {p q : Progress} {node : Node}

theorem start : Progress.start.Ordered :=
  ⟨by simp [Progress.start], by simp [Progress.start], by simp [Progress.start]⟩

theorem body (h : p.Ordered) : p.body.Ordered := by
  apply Node.ordered_ofBranches
  intro n hn
  rw [List.mem_reverse, List.mem_cons] at hn
  rcases hn with rfl | hn
  · apply Node.ordered_ofItems
    intro n hn
    exact h.items n (List.mem_reverse.mp hn)
  · exact h.branches n hn

theorem push (h : p.Ordered) (hnode : node.Ordered) : (p.push node).Ordered := by
  refine ⟨?_, h.branches, h.levels⟩
  intro n hn
  rcases List.mem_cons.mp hn with rfl | hn
  · exact hnode
  · exact h.items n hn

theorem branch (h : p.Ordered) : p.branch.Ordered := by
  refine ⟨by simp [Progress.branch], ?_, h.levels⟩
  intro n hn
  rcases List.mem_cons.mp hn with rfl | hn
  · apply Node.ordered_ofItems
    intro n hn
    exact h.items n (List.mem_reverse.mp hn)
  · exact h.branches n hn

theorem openGroup {o : Opening} (h : p.Ordered) (hq : p.openGroup o = .ok q) : q.Ordered := by
  cases o with
  | setting s =>
    obtain rfl := Except.ok.inj hq
    have hpush : (p.push (.flags s)).Ordered := h.push trivial
    exact ⟨hpush.items, hpush.branches, hpush.levels⟩
  | group kind name =>
    unfold Progress.openGroup at hq
    dsimp only at hq
    split at hq
    · cases hq
    · obtain rfl := Except.ok.inj hq
      refine ⟨by simp, by simp, ?_⟩
      intro l hl
      rcases List.mem_cons.mp hl with rfl | hl
      · exact ⟨h.items, h.branches⟩
      · exact h.levels l hl

theorem closeGroup (h : p.Ordered) (hq : p.closeGroup = .ok q) : q.Ordered := by
  unfold Progress.closeGroup at hq
  split at hq
  · cases hq
  · next level stack hstack =>
    obtain rfl := Except.ok.inj hq
    have hlevels := h.levels
    rw [hstack] at hlevels
    obtain ⟨hitems, hbranches⟩ := hlevels level List.mem_cons_self
    refine ⟨?_, hbranches, fun l hl => hlevels l (List.mem_cons_of_mem level hl)⟩
    intro n hn
    rcases List.mem_cons.mp hn with rfl | hn
    · exact h.body
    · exact hitems n hn

theorem repeated (h : p.Ordered) (hq : p.repeated = .ok (node, q)) : node.Ordered ∧ q.Ordered := by
  unfold Progress.repeated at hq
  split at hq
  · cases hq
  · cases hq
  · cases hq
  · next item items _ _ hitems =>
    obtain ⟨rfl, rfl⟩ := Prod.mk.inj (Except.ok.inj hq)
    have hall := h.items
    rw [hitems] at hall
    refine ⟨hall _ List.mem_cons_self, ?_, h.branches, h.levels⟩
    intro n hn
    exact hall n (List.mem_cons_of_mem _ hn)

end Progress.Ordered

theorem ordered_of_takes_item {v : Bool} {c : Char} {cs rest : List Char} {node : Node}
    (h : (item v c).Takes cs node rest) : node.Ordered := by
  unfold item at h
  split at h
  · obtain ⟨_, _, -, hpure⟩ := takes_bind_iff.mp h
    obtain ⟨rfl, -⟩ := takes_pure_iff.mp hpure
    trivial
  · obtain ⟨_, _, -, hpure⟩ := takes_bind_iff.mp h
    obtain ⟨rfl, -⟩ := takes_pure_iff.mp hpure
    trivial
  all_goals
    obtain ⟨rfl, -⟩ := takes_pure_iff.mp h
    trivial

/-- A step keeps all bounds in order. -/
theorem Reader.PatternStep.ordered {p q : Progress} {c : Char} {cs rest : List Char}
    (h : PatternStep p c cs q rest) (hp : p.Ordered) : q.Ordered := by
  cases h with
  | opening _ hq => exact hp.openGroup hq
  | close hq => exact hp.closeGroup hq
  | branch => exact hp.branch
  | repetition hc hq hb =>
    obtain ⟨hnode, hq⟩ := hp.repeated hq
    refine hq.push ⟨?_, hnode⟩
    intro m hm
    have horder := inOrder_of_takes_repetition hb
    rw [Option.mem_def.mp hm] at horder
    simpa [inOrder] using horder
  | item _ hi => exact hp.push (ordered_of_takes_item hi)

theorem ordered_of_pattern {p : Progress} {cs : List Char} {tree : Node} (hp : p.Ordered)
    (h : pattern p cs = .ok tree) : tree.Ordered := by
  induction hn : cs.length using Nat.strongRecOn generalizing p cs with
  | _ n ih =>
    by_cases hend : spaced p.verbose cs = []
    · rw [pattern_of_end hend, Progress.finish] at h
      split at h
      · obtain rfl := Except.ok.inj h
        exact hp.body
      · cases h
    · obtain ⟨c, cs', q, rest, hcons, hstep, hrest⟩ := exists_step_of_pattern h hend
      have hle := (spaced_suffix p.verbose cs).length_le
      have hlt := hstep.suffix.length_le
      rw [hcons, List.length_cons] at hle
      exact ih rest.length (by omega) (hstep.ordered hp) hrest rfl

theorem ordered_repeating {min : Nat} {max : Option Nat} {greedy : Bool} {r : Regex}
    (hbounds : ∀ m ∈ max, min ≤ m) (hr : r.Ordered) : (repeating min max greedy r).Ordered := by
  unfold repeating
  split
  · trivial
  · split
    · refine ⟨?_, hr⟩
      intro m hm
      obtain rfl := Option.some.inj hm
      exact Nat.min_le_right min 1
    · exact ⟨hbounds, hr⟩

theorem exists_of_bind_ok {ε α β : Type} {x : Except ε α} {f : α → Except ε β} {b : β}
    (h : x >>= f = .ok b) : ∃ a, x = .ok a ∧ f a = .ok b := by
  cases x with
  | error e => cases h
  | ok a => exact ⟨a, rfl, h⟩

theorem ordered_of_atom {f : Flags} {a : Atom} {r : Regex} (h : f.atom a = .ok r) : r.Ordered := by
  unfold Flags.atom at h
  split at h
  · obtain ⟨_, -, hpure⟩ := exists_of_bind_ok h
    cases hpure
    trivial
  · split at h
    · cases h
      trivial
    · cases h
  · cases h
    trivial
  · obtain ⟨_, -, hpure⟩ := exists_of_bind_ok h
    cases hpure
    trivial

/-- The meaning of a tree keeps all bounds in order. -/
theorem ordered_of_lower {node : Node} {f f' : Flags} {r : Regex} (hn : node.Ordered)
    (h : node.lower f = .ok (r, f')) : r.Ordered := by
  -- Flags are handed on through the tree, so the induction is for all of them.
  induction node generalizing f f' r with
  | empty =>
    cases h
    trivial
  | flags s =>
    cases h
    trivial
  | atom a =>
    obtain ⟨r', hr', hpure⟩ := exists_of_bind_ok h
    cases hpure
    exact ordered_of_atom hr'
  | bracket negated body =>
    obtain ⟨s, -, hbind⟩ := exists_of_bind_ok h
    obtain ⟨s', -, hpure⟩ := exists_of_bind_ok hbind
    cases hpure
    trivial
  | rep min max isLazy body ih =>
    obtain ⟨⟨r', f₁⟩, hbody, hpure⟩ := exists_of_bind_ok h
    cases hpure
    exact ordered_repeating hn.1 (ih hn.2 hbody)
  | group kind body ih =>
    cases kind with
    | capture =>
      obtain ⟨⟨r', f₁⟩, hbody, hpure⟩ := exists_of_bind_ok h
      cases hpure
      show r'.Ordered
      exact ih hn hbody
    | plain s =>
      obtain ⟨⟨r', f₁⟩, hbody, hpure⟩ := exists_of_bind_ok h
      cases hpure
      show r'.Ordered
      exact ih hn hbody
  | seq first rest ihFirst ihRest =>
    obtain ⟨⟨r₁, f₁⟩, hfirst, hbind⟩ := exists_of_bind_ok h
    obtain ⟨⟨r₂, f₂⟩, hrest, hpure⟩ := exists_of_bind_ok hbind
    cases hpure
    exact ⟨ihFirst hn.1 hfirst, ihRest hn.2 hrest⟩
  | alt first rest ihFirst ihRest =>
    obtain ⟨⟨r₁, f₁⟩, hfirst, hbind⟩ := exists_of_bind_ok h
    obtain ⟨⟨r₂, f₂⟩, hrest, hpure⟩ := exists_of_bind_ok hbind
    cases hpure
    exact ⟨ihFirst hn.1 hfirst, ihRest hn.2 hrest⟩

/-! ### The meaning of anchored values -/

/-- `r` is the meaning of a text that is an expression of its own. How large it is does not
    matter to this. -/
def Means (text : List Char) (r : Regex) : Prop :=
  ∃ tree f, Node.parse text = .ok tree ∧ tree.lower .initial = .ok (r, f)

/-- An expression between the two ends of the text. -/
def anchorRegex (r : Regex) : Regex := .seq (.look .textStart) (.seq (.group false r) (.look .textEnd))

theorem lower_anchorTree {body : Node} {r : Regex} {f : Flags}
    (h : (anchorTree body).lower .initial = .ok (r, f)) :
    ∃ r' f', body.lower .initial = .ok (r', f') ∧ r = anchorRegex r' := by
  obtain ⟨⟨r₁, f₁⟩, hstart, hbind⟩ := exists_of_bind_ok h
  cases hstart
  obtain ⟨⟨r₂, f₂⟩, hseq, hpure⟩ := exists_of_bind_ok hbind
  obtain ⟨⟨r₃, f₃⟩, hgroup, hbind'⟩ := exists_of_bind_ok hseq
  obtain ⟨⟨r', f'⟩, hbody, hpure'⟩ := exists_of_bind_ok hgroup
  cases hpure'
  obtain ⟨⟨r₄, f₄⟩, hstop, hpure''⟩ := exists_of_bind_ok hbind'
  cases hstop
  cases hpure''
  cases hpure
  exact ⟨r', f', hbody, rfl⟩

end Pattern

namespace Regex

open Pattern

theorem holds_textStart_iff {text : List Char} {i : Nat} (hi : i ≤ text.length) :
    Look.holds .textStart (charBefore text i) text[i]? = true ↔ i = 0 := by
  unfold Look.holds charBefore
  by_cases hzero : i = 0
  · simp [hzero]
  · -- Before any other place stands a character.
    have hlt : i - 1 < text.length := by omega
    simp [hzero, List.getElem?_eq_getElem hlt]

theorem holds_textEnd_iff {text : List Char} {i : Nat} (hi : i ≤ text.length) :
    Look.holds .textEnd (charBefore text i) text[i]? = true ↔ i = text.length := by
  have hnone : (text[i]?).isNone = true ↔ text.length ≤ i := by simp
  show (text[i]?).isNone = true ↔ i = text.length
  rw [hnone]
  omega

/-- Between the two ends an expression matches only the whole text. -/
theorem matches_anchorRegex_iff {r : Regex} {text : List Char} :
    (anchorRegex r).Matches text ↔ Spans text r 0 text.length := by
  unfold Matches anchorRegex
  constructor
  · rintro ⟨i, j, h⟩
    obtain ⟨k, hstart, h⟩ := spans_seq_iff.mp h
    obtain ⟨l, hgroup, hstop⟩ := spans_seq_iff.mp h
    obtain ⟨⟨hi, hholds⟩, rfl⟩ := spans_look_iff.mp hstart
    obtain ⟨⟨hl, hholds'⟩, rfl⟩ := spans_look_iff.mp hstop
    rw [holds_textStart_iff hi] at hholds
    rw [holds_textEnd_iff hl] at hholds'
    subst hholds hholds'
    exact spans_group_iff.mp hgroup
  · intro h
    have hstart : Spans text (.look .textStart) 0 0 :=
      .look (Nat.zero_le _) ((holds_textStart_iff (Nat.zero_le _)).mpr rfl)
    have hstop : Spans text (.look .textEnd) text.length text.length :=
      .look (Nat.le_refl _) ((holds_textEnd_iff (Nat.le_refl _)).mpr rfl)
    exact ⟨0, text.length, .seq hstart (.seq (.group h) hstop)⟩

end Regex

namespace Pattern

theorem exists_of_compile {text : List Char} {p : Pattern} (h : compile text = .ok p) :
    ∃ tree f, Node.parse text = .ok tree ∧ tree.lower .initial = .ok (p.regex, f) := by
  obtain ⟨tree, htree, hbind⟩ := exists_of_bind_ok h
  obtain ⟨⟨r, f⟩, hlower, hfits⟩ := exists_of_bind_ok hbind
  refine ⟨tree, f, htree, ?_⟩
  dsimp only at hfits
  split at hfits
  · cases hfits
    exact hlower
  · cases hfits

/-- What an anchored value matches is the whole of a text, unless the value is refused alone
    for a parenthesis without a group to close. -/
theorem anchored_matches {value : String} {p : Pattern} (h : anchored value = .ok p) :
    Node.parse value.toList = .error .unopenedGroup ∨
      ∃ r, Means value.toList r ∧
        ∀ s, p.isMatch s = true ↔ Regex.Spans s.toList r 0 s.toList.length := by
  obtain ⟨tree, f, htree, hlower⟩ := exists_of_compile h
  have hordered : p.regex.Ordered :=
    ordered_of_lower (ordered_of_pattern .start (parse_eq_ok_iff.mp htree).1) hlower
  rcases parse_of_anchor htree with hunopened | ⟨body, hbody, rfl⟩
  · exact .inl hunopened
  · obtain ⟨r, f', hr, hregex⟩ := lower_anchorTree hlower
    refine .inr ⟨r, ⟨body, f', hbody, hr⟩, ?_⟩
    intro s
    rw [isMatch, Regex.isMatch_iff hordered, hregex, Regex.matches_anchorRegex_iff]

end Pattern

namespace Matcher

/-! ### Pattern matchers -/

theorem make_eq_ok_iff {operator : Operator} (hop : operator.isRegex = true) {name value : String}
    {m : Matcher} : make operator name value = .ok m ↔
      ∃ p, Pattern.anchored value = .ok p ∧ m = ⟨name, operator, value, some p⟩ := by
  unfold make
  rw [if_pos hop]
  cases Pattern.anchored value with
  | error e => simp
  | ok p => simp [eq_comm]

/-- A matcher of a value is one that tests the whole of a text against the meaning of the
    value, exactly if the value is not refused alone for a parenthesis without a group to
    close. The negated matcher is made for the same values, and meets the other texts.

  Compiling is `Pattern.anchored` and testing is `Pattern.isMatch`, defined in this library
  by the documented syntax and meaning of regular expressions. -/
theorem patterns_test_whole_value (name value : String) :
    (∀ m, make .regexp name value = .ok m →
      ((∃ r, Pattern.Means value.toList r ∧
          ∀ s, m.accepts s = true ↔ Regex.Spans s.toList r 0 s.toList.length) ↔
        Pattern.Node.parse value.toList ≠ .error .unopenedGroup)) ∧
    ((∃ m, make .regexp name value = .ok m) ↔ ∃ m, make .notRegexp name value = .ok m) ∧
    (∀ m m', make .regexp name value = .ok m → make .notRegexp name value = .ok m' →
      ∀ s, m'.accepts s = true ↔ ¬ m.accepts s = true) := by
  refine ⟨?_, ?_, ?_⟩
  · intro m hm
    obtain ⟨p, hp, rfl⟩ := (make_eq_ok_iff rfl).mp hm
    constructor
    · rintro ⟨r, ⟨tree, f, htree, -⟩, -⟩ hunopened
      rw [htree] at hunopened
      cases hunopened
    · intro hne
      rcases Pattern.anchored_matches hp with hunopened | hwhole
      · exact absurd hunopened hne
      · exact hwhole
  · constructor
    · rintro ⟨m, hm⟩
      obtain ⟨p, hp, -⟩ := (make_eq_ok_iff rfl).mp hm
      exact ⟨_, (make_eq_ok_iff rfl).mpr ⟨p, hp, rfl⟩⟩
    · rintro ⟨m, hm⟩
      obtain ⟨p, hp, -⟩ := (make_eq_ok_iff rfl).mp hm
      exact ⟨_, (make_eq_ok_iff rfl).mpr ⟨p, hp, rfl⟩⟩
  · intro m m' hm hm' s
    obtain ⟨p, hp, rfl⟩ := (make_eq_ok_iff rfl).mp hm
    obtain ⟨p', hp', rfl⟩ := (make_eq_ok_iff rfl).mp hm'
    obtain rfl := Except.ok.inj (hp.symm.trans hp')
    show (!p.isMatch s) = true ↔ ¬ p.isMatch s = true
    rw [Bool.not_eq_true', Bool.not_eq_true]

theorem exists_accepting {operator : Operator} {name value s : String}
    (h : (make operator name value).toOption.any (fun m => m.accepts s) = true) :
    ∃ m, make operator name value = .ok m ∧ m.accepts s = true := by
  cases hm : make operator name value with
  | error e =>
    rw [hm] at h
    cases h
  | ok m =>
    rw [hm] at h
    exact ⟨m, rfl, h⟩

/-- Alternatives of a value are tested against the whole text. -/
theorem alternatives_test_whole_value :
    ∃ m, make .regexp "n" "ab|cd" = .ok m ∧ ∃ r, Pattern.Means "ab|cd".toList r ∧
      ∀ s, m.accepts s = true ↔ Regex.Spans s.toList r 0 s.toList.length := by
  obtain ⟨m, hm, -⟩ : ∃ m, make .regexp "n" "ab|cd" = .ok m ∧ m.accepts "ab" = true :=
    exists_accepting (by decide +kernel)
  exact ⟨m, hm, ((patterns_test_whole_value "n" "ab|cd").1 m hm).mpr (by decide +kernel)⟩

/-- A value that closes the group of the anchor makes a matcher, which meets a text with
    something behind what the value matches. -/
theorem unopened_group_reaches_anchor :
    ∃ m, make .regexp "n" "a)|(?:b" = .ok m ∧ m.accepts "ax" = true ∧
      ∀ r, ¬ Pattern.Means "a)|(?:b".toList r := by
  obtain ⟨m, hm, haccepts⟩ : ∃ m, make .regexp "n" "a)|(?:b" = .ok m ∧ m.accepts "ax" = true :=
    exists_accepting (by decide +kernel)
  refine ⟨m, hm, haccepts, ?_⟩
  rintro r ⟨tree, f, htree, -⟩
  have hunopened : Pattern.Node.parse "a)|(?:b".toList = .error .unopenedGroup := by
    decide +kernel
  rw [hunopened] at htree
  cases htree

end Matcher

end LabelSelector
