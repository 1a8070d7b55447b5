import LabelSelector.Pattern
import LabelSelector.Proofs.Classes
import LabelSelector.Proofs.Openings

/-! # Values between anchors

  A value is compiled as `^(?:value)$`. Reading the anchored text goes through the same
  states as reading the value alone, with one more open group at the bottom of the stack,
  until the parenthesis of the anchor closes this group.

  There is one exception. A closing parenthesis of the value that has no group to close is
  an error alone, but closes the group of the anchor.
-/

namespace LabelSelector.Pattern

open TextReader Reader

variable {p q : Progress} {c : Char} {cs rest : List Char} {tree : Node}

/-! ### Steps -/

namespace Reader

/-- What a step of reading a pattern can do: from `p`, with `c` next and `cs` behind it, to the
    progress and the text behind the step. -/
inductive PatternStep (p : Progress) : Char → List Char → Progress → List Char → Prop where
  /-- A group is opened, or flags are set. -/
  | opening {cs rest : List Char} {o : Opening} {q : Progress}
    (ho : (opening p.verbose).Takes cs o rest) (hq : p.openGroup o = .ok q) :
    PatternStep p '(' cs q rest
  /-- The innermost group is closed. -/
  | close {cs : List Char} {q : Progress} (hq : p.closeGroup = .ok q) : PatternStep p ')' cs q cs
  /-- An alternative ends. -/
  | branch {cs : List Char} : PatternStep p '|' cs p.branch cs
  /-- The last item is repeated. -/
  | repetition {c : Char} {cs rest : List Char} {node : Node} {q : Progress} {b : Bounds}
    (hc : isRepetition c = true) (hq : p.repeated = .ok (node, q))
    (hb : (repetition q.verbose c).Takes cs b rest) :
    PatternStep p c cs (q.push (.rep b.min b.max b.isLazy node)) rest
  /-- An item is read. -/
  | item {c : Char} {cs rest : List Char} {node : Node}
    (hc : (c ≠ '(' ∧ c ≠ ')' ∧ c ≠ '|') ∧ isRepetition c = false)
    (hi : (item p.verbose c).Takes cs node rest) : PatternStep p c cs (p.push node) rest

theorem step_of_isRepetition (hc : isRepetition c = true) :
    step p c = lift p.repeated >>= fun found => repetition found.2.verbose c >>= fun b =>
      pure (found.2.push (.rep b.min b.max b.isLazy found.1)) := by
  unfold step
  split
  · exact absurd hc (by decide)
  · exact absurd hc (by decide)
  · exact absurd hc (by decide)
  · rw [if_pos hc]

theorem step_of_item (hc : (c ≠ '(' ∧ c ≠ ')' ∧ c ≠ '|') ∧ isRepetition c = false) :
    step p c = item p.verbose c >>= fun node => pure (p.push node) := by
  obtain ⟨⟨hopen, hclose, hbar⟩, hc⟩ := hc
  unfold step
  split
  · exact absurd rfl hopen
  · exact absurd rfl hclose
  · exact absurd rfl hbar
  · rw [if_neg (by simp [hc])]

theorem takes_step_iff : (step p c).Takes cs q rest ↔ PatternStep p c cs q rest := by
  constructor
  · intro h
    by_cases hrep : isRepetition c = true
    · rw [step_of_isRepetition hrep] at h
      obtain ⟨⟨node, q'⟩, mid, hlift, hrest⟩ := takes_bind_iff.mp h
      obtain ⟨hq, hmid⟩ := takes_lift_iff.mp hlift
      obtain ⟨b, mid', hb, hpure⟩ := takes_bind_iff.mp hrest
      obtain ⟨rfl, rfl⟩ := takes_pure_iff.mp hpure
      rw [hmid] at hb
      exact .repetition hrep hq hb
    · by_cases hmark : c = '(' ∨ c = ')' ∨ c = '|'
      · rcases hmark with rfl | rfl | rfl
        · obtain ⟨o, mid, ho, hlift⟩ := takes_bind_iff.mp h
          obtain ⟨hq, rfl⟩ := takes_lift_iff.mp hlift
          exact .opening ho hq
        · obtain ⟨hq, rfl⟩ := takes_lift_iff.mp h
          exact .close hq
        · obtain ⟨rfl, rfl⟩ := takes_pure_iff.mp h
          exact .branch
      · have hc : (c ≠ '(' ∧ c ≠ ')' ∧ c ≠ '|') ∧ isRepetition c = false := by
          simpa [not_or, hrep] using hmark
        rw [step_of_item hc] at h
        obtain ⟨node, mid, hi, hpure⟩ := takes_bind_iff.mp h
        obtain ⟨rfl, rfl⟩ := takes_pure_iff.mp hpure
        exact .item hc hi
  · intro h
    cases h with
    | opening ho hq => exact takes_bind_iff.mpr ⟨_, _, ho, takes_lift_iff.mpr ⟨hq, rfl⟩⟩
    | close hq => exact takes_lift_iff.mpr ⟨hq, rfl⟩
    | branch => exact takes_pure_iff.mpr ⟨rfl, rfl⟩
    | repetition hc hq hb =>
      rw [step_of_isRepetition hc]
      exact takes_bind_iff.mpr ⟨_, _, takes_lift_iff.mpr ⟨hq, rfl⟩,
        takes_bind_iff.mpr ⟨_, _, hb, takes_pure_iff.mpr ⟨rfl, rfl⟩⟩⟩
    | item hc hi =>
      rw [step_of_item hc]
      exact takes_bind_iff.mpr ⟨_, _, hi, takes_pure_iff.mpr ⟨rfl, rfl⟩⟩

/-- Reading goes on behind a step. -/
theorem pattern_of_step (hs : spaced p.verbose cs = c :: rest) {mid : List Char}
    (h : PatternStep p c rest q mid) : pattern p cs = pattern q mid := by
  obtain ⟨hle, heq⟩ := takes_step_iff.mpr h
  rw [pattern]
  split
  · next hnil =>
    rw [hs] at hnil
    cases hnil
  · next d ds hcons =>
    rw [hs] at hcons
    obtain ⟨rfl, rfl⟩ := List.cons.inj hcons
    rw [heq]

theorem pattern_of_end (hs : spaced p.verbose cs = []) : pattern p cs = p.finish := by
  rw [pattern]
  split
  · rfl
  · next hcons =>
    rw [hs] at hcons
    cases hcons

/-- A parenthesis without a group to close is an error. -/
theorem pattern_of_unopened (hs : spaced p.verbose cs = ')' :: rest) (hp : p.stack = []) :
    pattern p cs = .error .unopenedGroup := by
  have hstep : step p ')' rest = .error .unopenedGroup := by
    simp only [step, lift, Progress.closeGroup, hp]
    rfl
  rw [pattern]
  split
  · next hnil =>
    rw [hs] at hnil
    cases hnil
  · next d ds hcons =>
    rw [hs] at hcons
    obtain ⟨rfl, rfl⟩ := List.cons.inj hcons
    rw [hstep]

/-- A pattern that has been read is at its end, or a step has been made. -/
theorem exists_step_of_pattern (h : pattern p cs = .ok tree) (hne : spaced p.verbose cs ≠ []) :
    ∃ c cs' q rest, spaced p.verbose cs = c :: cs' ∧ PatternStep p c cs' q rest ∧
      pattern q rest = .ok tree := by
  rw [pattern] at h
  split at h
  · next hnil => exact absurd hnil hne
  · next c cs' hcons =>
    split at h
    · cases h
    · next q rest hle heq =>
      exact ⟨c, cs', q, rest, hcons, takes_step_iff.mp ⟨hle, heq⟩, h⟩

/-! ### Steps before the closing anchor -/

theorem local_item {v : Bool} (hc : c ≠ '\\') : Local 0 (item v c) := by
  unfold item
  split
  · exact .bind local_bracket fun _ => .pure _
  · exact absurd rfl hc
  · exact .pure _
  · exact .pure _
  · exact .pure _
  · exact .pure _

theorem item_suffix {v : Bool} {node : Node} (h : (item v c).Takes cs node rest) : rest <:+ cs := by
  by_cases hc : c = '\\'
  · subst hc
    obtain ⟨a, mid, ha, hpure⟩ := takes_bind_iff.mp h
    obtain ⟨rfl, rfl⟩ := takes_pure_iff.mp hpure
    exact escape_suffix ha
  · exact (local_item hc).suffix h

theorem item_alone {v : Bool} {node : Node}
    (h : (item v c).Takes (cs ++ closing) node (rest ++ closing)) :
    (item v c).Takes cs node rest ∨
      (node = .atom (.assertion .wordBoundary) ∧ DanglingBrace v rest) := by
  by_cases hc : c = '\\'
  · subst hc
    obtain ⟨a, mid, ha, hpure⟩ := takes_bind_iff.mp h
    obtain ⟨rfl, rfl⟩ := takes_pure_iff.mp hpure
    rcases escape_alone ha with halone | ⟨rfl, hdangling⟩
    · exact .inl (takes_bind_iff.mpr ⟨a, rest, halone, takes_pure_iff.mpr ⟨rfl, rfl⟩⟩)
    · exact .inr ⟨rfl, hdangling⟩
  · exact .inl ((local_item hc).alone h (Nat.zero_le _))

namespace PatternStep

protected theorem suffix (h : PatternStep p c cs q rest) : rest <:+ cs := by
  cases h with
  | opening ho _ => exact local_opening.suffix ho
  | close _ => exact List.suffix_refl cs
  | branch => exact List.suffix_refl cs
  | repetition _ _ hb => exact (local_repetition c).suffix hb
  | item _ hi => exact item_suffix hi

/-- A step in front of the anchor is a step alone, but for the brace behind `\b`. -/
protected theorem alone (h : PatternStep p c (cs ++ closing) q (rest ++ closing)) :
    PatternStep p c cs q rest ∨
      (q = p.push (.atom (.assertion .wordBoundary)) ∧ DanglingBrace p.verbose rest) := by
  generalize hfull : cs ++ closing = full at h
  generalize hleft : rest ++ closing = left at h
  cases h with
  | opening ho hq =>
    subst hfull hleft
    exact .inl (.opening (local_opening.alone ho (Nat.zero_le _)) hq)
  | close hq =>
    obtain rfl := List.append_cancel_right (hleft.trans hfull.symm)
    exact .inl (.close hq)
  | branch =>
    obtain rfl := List.append_cancel_right (hleft.trans hfull.symm)
    exact .inl .branch
  | repetition hc hq hb =>
    subst hfull hleft
    exact .inl (.repetition hc hq ((local_repetition c).alone hb (Nat.zero_le _)))
  | item hc hi =>
    subst hfull hleft
    rcases item_alone hi with halone | ⟨rfl, hdangling⟩
    · exact .inl (.item hc halone)
    · exact .inr ⟨rfl, hdangling⟩

end PatternStep

end Reader

/-! ### The group of the anchor -/

/-- The group that the anchor opens, with the start of the text before it. -/
def anchorLevel : Level := ⟨.plain [], false, [], [.atom (.assertion .lineStart)]⟩

namespace Progress

/-- The progress with the group of the anchor below all open groups. -/
def within (p : Progress) : Progress := { p with stack := p.stack ++ [anchorLevel] }

theorem stack_within_ne_nil (p : Progress) : p.within.stack ≠ [] := by
  simp [within]

theorem openGroup_within (o : Opening) : p.within.openGroup o = (p.openGroup o).map within := by
  cases o with
  | setting s => rfl
  | group kind name =>
    unfold openGroup
    dsimp only
    rw [apply_ite (Except.map within)]
    rfl

theorem closeGroup_within (hp : p.stack ≠ []) : p.within.closeGroup = p.closeGroup.map within := by
  cases hstack : p.stack with
  | nil => exact absurd hstack hp
  | cons level stack =>
    simp only [closeGroup, within, hstack, List.cons_append]
    rfl

theorem repeated_within :
    p.within.repeated = p.repeated.map fun found => (found.1, found.2.within) := by
  unfold repeated
  dsimp only [within]
  split
  · rfl
  · rfl
  · rfl
  · rfl

theorem verbose_of_repeated {node : Node} (h : p.repeated = .ok (node, q)) :
    q.verbose = p.verbose := by
  unfold repeated at h
  split at h
  · cases h
  · cases h
  · cases h
  · obtain ⟨-, rfl⟩ := Prod.mk.inj (Except.ok.inj h)
    rfl

end Progress

theorem exists_of_map_ok {ε α β : Type} {r : Except ε α} {f : α → β} {b : β}
    (h : r.map f = .ok b) : ∃ a, r = .ok a ∧ f a = b := by
  cases r with
  | error e => cases h
  | ok a => exact ⟨a, rfl, Except.ok.inj h⟩

/-- Steps do not look at the group of the anchor, unless they close it. -/
theorem Reader.PatternStep.of_within (hp : c = ')' → p.stack ≠ [])
    (h : PatternStep p.within c cs q rest) :
    ∃ q', q = q'.within ∧ PatternStep p c cs q' rest := by
  cases h with
  | opening ho hq =>
    rw [Progress.openGroup_within] at hq
    obtain ⟨q', hq', rfl⟩ := exists_of_map_ok hq
    exact ⟨q', rfl, .opening ho hq'⟩
  | close hq =>
    rw [Progress.closeGroup_within (hp rfl)] at hq
    obtain ⟨q', hq', rfl⟩ := exists_of_map_ok hq
    exact ⟨q', rfl, .close hq'⟩
  | branch => exact ⟨p.branch, rfl, .branch⟩
  | repetition hc hq hb =>
    rw [Progress.repeated_within] at hq
    obtain ⟨⟨node, q'⟩, hq', heq⟩ := exists_of_map_ok hq
    obtain ⟨rfl, rfl⟩ := Prod.mk.inj heq
    exact ⟨_, rfl, .repetition hc hq' hb⟩
  | item hc hi => exact ⟨_, rfl, .item hc hi⟩

/-- The tree of a value between anchors. -/
def anchorTree (body : Node) : Node :=
  .seq (.atom (.assertion .lineStart)) (.seq (.group (.plain []) body) (.atom (.assertion .lineEnd)))

theorem finish_ne_ok (hp : p.stack ≠ []) : p.finish ≠ .ok tree := by
  intro h
  rw [Progress.finish, if_neg (by simpa using hp)] at h
  cases h

theorem Reader.PatternStep.of_dollar (h : PatternStep p '$' cs q rest) :
    q = p.push (.atom (.assertion .lineEnd)) ∧ rest = cs := by
  have hstep := takes_step_iff.mpr h
  rw [step_of_item (by decide)] at hstep
  obtain ⟨node, mid, hi, hpure⟩ := takes_bind_iff.mp hstep
  obtain ⟨rfl, rfl⟩ := takes_pure_iff.mp hpure
  obtain ⟨rfl, rfl⟩ := takes_pure_iff.mp hi
  exact ⟨rfl, rfl⟩

/-- A pattern with an open group is not read to its end if nothing is left to close it. -/
theorem pattern_ne_ok_of_short (hp : p.stack ≠ []) (hcs : cs <:+ ['$']) :
    pattern p cs ≠ .ok tree := by
  intro h
  have hspaced := (spaced_suffix p.verbose cs).trans hcs
  by_cases hend : spaced p.verbose cs = []
  · rw [pattern_of_end hend] at h
    exact finish_ne_ok hp h
  · obtain ⟨c, cs', q, rest, hcons, hstep, hrest⟩ := exists_step_of_pattern h hend
    rw [hcons] at hspaced
    have hdollar : c :: cs' = ['$'] := by
      apply hspaced.eq_of_length
      have hle := hspaced.length_le
      simp only [List.length_cons, List.length_nil] at hle ⊢
      omega
    obtain ⟨rfl, rfl⟩ := List.cons.inj hdollar
    obtain ⟨rfl, rfl⟩ := hstep.of_dollar
    -- Behind the dollar sign nothing is left, and the group is still open.
    have hnil : spaced (p.push (.atom (.assertion .lineEnd))).verbose [] = [] :=
      List.suffix_nil.mp (spaced_suffix _ [])
    rw [pattern_of_end hnil] at hrest
    exact finish_ne_ok (p := p.push _) hp hrest

/-- Where the value ends, the anchor closes its group if no other is open. -/
theorem pattern_within_closing (hs : spaced p.verbose cs = closing)
    (h : pattern p.within cs = .ok tree) : p.stack = [] ∧ tree = anchorTree p.body := by
  obtain ⟨c, cs', q, rest, hcons, hstep, hrest⟩ :=
    exists_step_of_pattern h (by rw [show p.within.verbose = p.verbose from rfl, hs]; decide)
  obtain ⟨rfl, rfl⟩ := List.cons.inj (hs.symm.trans hcons)
  obtain ⟨hq, rfl⟩ := takes_lift_iff.mp (takes_step_iff.mpr hstep)
  by_cases hp : p.stack = []
  · -- The parenthesis closes the group of the anchor, and the dollar sign comes behind it.
    refine ⟨hp, ?_⟩
    have hclose : p.within.closeGroup = .ok ⟨false, p.names, [], [],
        [.group (.plain []) p.body, .atom (.assertion .lineStart)]⟩ := by
      simp only [Progress.closeGroup, Progress.within, hp]
      rfl
    obtain rfl := Except.ok.inj (hclose.symm.trans hq)
    have hdollar : (item false '$').Takes [] (.atom (.assertion .lineEnd)) [] :=
      takes_pure_iff.mpr ⟨rfl, rfl⟩
    rw [pattern_of_step rfl (.item (by decide) hdollar), pattern_of_end rfl] at hrest
    exact (Except.ok.inj hrest).symm
  · -- The parenthesis closes a group of the value, and that of the anchor stays open.
    obtain ⟨q', rfl, -⟩ := hstep.of_within fun _ => hp
    exact absurd hrest (pattern_ne_ok_of_short q'.stack_within_ne_nil (List.suffix_refl _))

/-- A brace that dangles behind `\b` is not read before the anchor. -/
theorem pattern_ne_ok_of_dangling (hcs : DanglingBrace p.verbose cs) :
    pattern p (cs ++ closing) ≠ .ok tree := by
  intro h
  obtain ⟨blank, rfl, hblank⟩ := hcs
  have hspaced : spaced p.verbose ('\x7b' :: (blank ++ closing)) = '\x7b' :: (blank ++ closing) := by
    unfold spaced
    split
    · simp [dropSpace, isSpace_brace]
    · rfl
  rw [List.cons_append] at h
  obtain ⟨c, cs', q, rest, hcons, hstep, -⟩ := exists_step_of_pattern h (by simp [hspaced])
  obtain ⟨rfl, rfl⟩ := List.cons.inj (hspaced.symm.trans hcons)
  have hrep := takes_step_iff.mpr hstep
  rw [step_of_isRepetition (by decide)] at hrep
  obtain ⟨⟨node, q'⟩, mid, hlift, hrest⟩ := takes_bind_iff.mp hrep
  obtain ⟨hq, rfl⟩ := takes_lift_iff.mp hlift
  obtain ⟨b, mid', hb, -⟩ := takes_bind_iff.mp hrest
  rw [show q'.verbose = p.verbose from Progress.verbose_of_repeated hq] at hb
  exact not_takes_counted_of_dangling hblank hb

theorem suffix_append_closing (h : rest <:+ cs ++ closing) :
    (∃ front, rest = front ++ closing ∧ front <:+ cs) ∨ rest <:+ ['$'] := by
  rcases List.suffix_or_suffix_of_suffix h (List.suffix_append cs closing) with hle | ⟨front, rfl⟩
  · rcases List.suffix_cons_iff.mp hle with rfl | hdollar
    · exact .inl ⟨[], rfl, List.nil_suffix⟩
    · exact .inr hdollar
  · obtain ⟨before, hbefore⟩ := h
    rw [← List.append_assoc] at hbefore
    exact .inl ⟨front, rfl, before, List.append_cancel_right hbefore⟩

/-- A value that is read between anchors is read alone, unless a parenthesis of its own
    closes the group of the anchor. -/
theorem pattern_of_within (h : pattern p.within (cs ++ closing) = .ok tree) :
    pattern p cs = .error .unopenedGroup ∨
      ∃ body, pattern p cs = .ok body ∧ tree = anchorTree body := by
  -- By induction on the length of the value, of which each step leaves a shorter end.
  induction hn : cs.length using Nat.strongRecOn generalizing p cs with
  | _ n ih =>
    rcases spaced_append p.verbose cs with happend | ⟨-, hend⟩
    · cases hcs : spaced p.verbose cs with
      | nil =>
        -- The value is at its end.
        rw [hcs, List.nil_append] at happend
        obtain ⟨hp, rfl⟩ := pattern_within_closing happend h
        refine .inr ⟨p.body, ?_, rfl⟩
        rw [pattern_of_end hcs, Progress.finish, hp]
        rfl
      | cons c cs' =>
        rw [hcs, List.cons_append] at happend
        obtain ⟨d, ds, q, rest, hcons, hstep, hrest⟩ :=
          exists_step_of_pattern h (by rw [show p.within.verbose = p.verbose from rfl, happend]; simp)
        obtain ⟨rfl, rfl⟩ := List.cons.inj (happend.symm.trans hcons)
        by_cases hclose : c = ')' ∧ p.stack = []
        · obtain ⟨rfl, hp⟩ := hclose
          exact .inl (pattern_of_unopened hcs hp)
        · obtain ⟨q, rfl, hown⟩ := hstep.of_within fun hc hp => hclose ⟨hc, hp⟩
          -- The step stops before the anchor, or has run into it.
          rcases suffix_append_closing hown.suffix with ⟨front, rfl, hfront⟩ | hshort
          · rcases hown.alone with halone | ⟨rfl, hdangling⟩
            · rw [pattern_of_step hcs halone]
              have hlt := (spaced_suffix p.verbose cs).length_le
              have hle := hfront.length_le
              rw [hcs, List.length_cons] at hlt
              exact ih front.length (by omega) hrest rfl
            · exact absurd hrest (pattern_ne_ok_of_dangling hdangling)
          · exact absurd hrest (pattern_ne_ok_of_short q.stack_within_ne_nil hshort)
    · -- A comment that goes on over the anchor leaves its group open.
      rw [pattern_of_end (p := p.within) hend] at h
      exact absurd h (finish_ne_ok p.stack_within_ne_nil)

/-! ### Anchored values -/

/-- The start of the anchor opens its group. -/
theorem pattern_anchor (text : List Char) :
    pattern .start (anchor text) = pattern Progress.start.within (text ++ closing) := by
  have hcaret : PatternStep .start '^' ('(' :: '?' :: ':' :: (text ++ closing))
      (Progress.start.push (.atom (.assertion .lineStart)))
      ('(' :: '?' :: ':' :: (text ++ closing)) :=
    .item (by decide) (takes_pure_iff.mpr ⟨rfl, rfl⟩)
  have hopen : PatternStep (Progress.start.push (.atom (.assertion .lineStart))) '('
      ('?' :: ':' :: (text ++ closing)) Progress.start.within (text ++ closing) := by
    refine .opening (o := .group (.plain []) none) ⟨?_, ?_⟩ ?_
    · exact (List.suffix_append ['?', ':'] _).length_le
    · rfl
    · rfl
  exact (pattern_of_step rfl hcaret).trans (pattern_of_step rfl hopen)

theorem depth_anchorTree (body : Node) : (anchorTree body).depth = body.depth + 2 := by
  simp [anchorTree, Node.depth]

theorem parse_eq_ok_iff {text : List Char} :
    Node.parse text = .ok tree ↔ pattern .start text = .ok tree ∧ tree.depth ≤ nestLimit := by
  unfold Node.parse
  cases hread : pattern .start text with
  | error e => simp [bind, Except.bind]
  | ok node =>
    by_cases hdepth : node.depth ≤ nestLimit
    · simp only [bind, Except.bind, if_pos hdepth, pure, Except.pure, Except.ok.injEq]
      constructor
      · rintro rfl
        exact ⟨rfl, hdepth⟩
      · exact fun h => h.1
    · simp only [bind, Except.bind, if_neg hdepth, throw, throwThe, MonadExceptOf.throw,
        reduceCtorEq, Except.ok.injEq, false_iff, not_and]
      rintro rfl
      exact hdepth

/-- A value that is read between anchors is read alone, unless it is refused alone for a
    parenthesis without a group to close. -/
theorem parse_of_anchor {text : List Char} (h : Node.parse (anchor text) = .ok tree) :
    Node.parse text = .error .unopenedGroup ∨
      ∃ body, Node.parse text = .ok body ∧ tree = anchorTree body := by
  obtain ⟨htree, hdepth⟩ := parse_eq_ok_iff.mp h
  rw [pattern_anchor] at htree
  rcases pattern_of_within htree with hunopened | ⟨body, hbody, rfl⟩
  · left
    simp only [Node.parse, hunopened]
    rfl
  · refine .inr ⟨body, parse_eq_ok_iff.mpr ⟨hbody, ?_⟩, rfl⟩
    rw [depth_anchorTree] at hdepth
    omega

end LabelSelector.Pattern
