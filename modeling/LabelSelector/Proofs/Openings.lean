import LabelSelector.Proofs.Readers

/-! # Groups and repetitions before the closing anchor

  Flags and the bounds of a repetition end by looking at the next character, so they are
  local only while something is left of the value; what comes behind them passes over that
  character.
-/

namespace LabelSelector.Pattern

namespace Reader

open TextReader

variable {v : Bool}

/-! ### Groups -/

/-- Where flags stand behind a character that does not end them: the flags so far, whether
    a minus sign has been read and whether it was the last thing read. -/
def flagsBehind (read : Setting) (negated : Bool) (c : Char) : Option (Setting × Bool × Bool) :=
  if c = '-' then if negated then none else some (read, true, true)
  else (Flag.ofChar? c).bind fun f =>
    if read.any fun entry => entry.1 = f then none else some ((f, !negated) :: read, negated, false)

theorem takes_flags_cons_iff {read s : Setting} {negated dangling : Bool} {c : Char}
    {cs rest : List Char} :
    (flags read negated dangling).Takes (c :: cs) s rest ↔
      ((c = ':' ∨ c = ')') ∧ dangling = false ∧ s = read.reverse ∧ rest = c :: cs) ∨
      (¬ (c = ':' ∨ c = ')') ∧ ∃ next ∈ flagsBehind read negated c,
        (flags next.1 next.2.1 next.2.2).Takes cs s rest) := by
  unfold Takes flagsBehind
  rw [flags]
  by_cases hstop : c = ':' ∨ c = ')'
  · rw [if_pos hstop]
    cases dangling with
    | true => simp [hstop]
    | false =>
      simp only [hstop, Bool.false_eq_true, if_false, Except.ok.injEq, Prod.mk.injEq,
        Subtype.mk.injEq, true_and, not_true_eq_false, false_and, or_false]
      constructor
      · rintro ⟨-, rfl, rfl⟩
        exact ⟨rfl, rfl⟩
      · rintro ⟨rfl, rfl⟩
        exact ⟨Nat.le_refl _, rfl, rfl⟩
  · rw [if_neg hstop]
    simp only [hstop, false_and, false_or, not_false_eq_true, true_and]
    by_cases hminus : c = '-'
    · simp only [if_pos hminus]
      cases negated with
      | true => simp
      | false =>
        simp only [Bool.false_eq_true, if_false, takes_shorten_iff, Option.mem_some_iff,
          exists_eq_left']
        exact ⟨fun h => h.2, fun h => ⟨Nat.le_succ_of_le h.1, h⟩⟩
    · simp only [if_neg hminus]
      cases Flag.ofChar? c with
      | none => simp
      | some f =>
        simp only [Option.bind_some]
        by_cases hdup : (read.any fun entry => entry.1 = f) = true
        · simp only [if_pos hdup]
          simp
        · simp only [if_neg hdup, takes_shorten_iff, Option.mem_some_iff, exists_eq_left']
          exact ⟨fun h => h.2, fun h => ⟨Nat.le_succ_of_le h.1, h⟩⟩

theorem not_takes_flags_nil {read s : Setting} {negated dangling : Bool} {rest : List Char} :
    ¬ (flags read negated dangling).Takes [] s rest := by
  intro h
  obtain ⟨_, heq⟩ := h
  cases heq

/-- Flags end at a colon or a parenthesis, which stays. -/
theorem local_flags (read : Setting) (negated dangling : Bool) :
    Local 1 (flags read negated dangling) := by
  refine ⟨?_, ?_⟩
  · intro cs s rest h
    induction cs generalizing read negated dangling with
    | nil => exact absurd h not_takes_flags_nil
    | cons c cs ih =>
      rcases takes_flags_cons_iff.mp h with ⟨-, -, -, rfl⟩ | ⟨-, next, -, hnext⟩
      · exact List.suffix_refl _
      · exact (ih _ _ _ hnext).trans (List.suffix_cons c cs)
  · intro cs s rest h hlen
    induction cs generalizing read negated dangling with
    | nil =>
      -- At the anchor flags end, with nothing of the value left.
      have hle := h.length_le
      rw [List.nil_append, List.length_append] at hle
      omega
    | cons c cs ih =>
      rw [List.cons_append] at h
      rcases takes_flags_cons_iff.mp h with ⟨hstop, hd, hs, heq⟩ | ⟨hstop, next, hmem, hnext⟩
      · exact takes_flags_cons_iff.mpr (.inl ⟨hstop, hd, hs, List.append_cancel_right heq⟩)
      · exact takes_flags_cons_iff.mpr (.inr ⟨hstop, next, hmem, ih _ _ _ hnext⟩)

theorem local_flagGroup : Local 0 flagGroup := by
  refine .look_bind (fun x => ?_) (Consumes.not_takes_closing ?_)
  · split
    · exact .fail _
    · -- The character that ends the flags is looked at, and then passed.
      refine .bind_consumes (local_flags _ _ _) (fun s => ?_)
        fun _ => Consumes.bind_right fun _ => Consumes.skip.bind_left
      refine .bind_consumes .look (fun stop => .bind .skip fun _ => ?_)
        fun _ => Consumes.skip.bind_left
      split
      · split
        · exact .fail _
        · exact .pure _
      · exact .pure _
  · exact Consumes.bind_right fun _ => Consumes.bind_right fun _ => Consumes.skip.bind_left

theorem groupName_cons (first : Bool) (c : Char) (cs : List Char) :
    groupName first (c :: cs) =
      if c = '>' then .ok ([], ⟨cs, Nat.le_succ _⟩)
      else if isGroupNameChar first c then
        (shorten (Nat.lt_succ_self _) (groupName false cs)).map fun found => (c :: found.1, found.2)
      else .error .groupNameInvalid := rfl

theorem takes_groupName_cons_iff {first : Bool} {c : Char} {cs name rest : List Char} :
    (groupName first).Takes (c :: cs) name rest ↔
      (c = '>' ∧ name = [] ∧ rest = cs) ∨
      (c ≠ '>' ∧ isGroupNameChar first c = true ∧
        ∃ name', name = c :: name' ∧ (groupName false).Takes cs name' rest) := by
  unfold Takes
  rw [groupName_cons]
  by_cases hstop : c = '>'
  · rw [if_pos hstop]
    simp only [hstop, ne_eq, not_true_eq_false, false_and, or_false, true_and, Except.ok.injEq,
      Prod.mk.injEq, Subtype.mk.injEq]
    constructor
    · rintro ⟨-, rfl, rfl⟩
      exact ⟨rfl, rfl⟩
    · rintro ⟨rfl, rfl⟩
      exact ⟨Nat.le_succ _, rfl, rfl⟩
  · rw [if_neg hstop]
    by_cases hchar : isGroupNameChar first c = true
    · rw [if_pos hchar]
      simp only [hstop, hchar, ne_eq, not_false_eq_true, false_and, false_or, true_and]
      constructor
      · rintro ⟨h, heq⟩
        cases htail : groupName false cs with
        | error e =>
          rw [htail] at heq
          cases heq
        | ok taken =>
          obtain ⟨name', rest', hrest'⟩ := taken
          rw [htail] at heq
          cases heq
          exact ⟨name', rfl, hrest', rfl⟩
      · rintro ⟨name', rfl, h, heq⟩
        refine ⟨Nat.le_succ_of_le h, ?_⟩
        rw [heq]
        rfl
    · rw [if_neg hchar]
      simp [hstop, hchar]

theorem not_takes_groupName_nil {first : Bool} {name rest : List Char} :
    ¬ (groupName first).Takes [] name rest := by
  intro h
  obtain ⟨_, heq⟩ := h
  cases heq

theorem local_groupName (first : Bool) : Local 0 (groupName first) := by
  refine ⟨?_, ?_⟩
  · intro cs name rest h
    induction cs generalizing first name with
    | nil => exact absurd h not_takes_groupName_nil
    | cons c cs ih =>
      rcases takes_groupName_cons_iff.mp h with ⟨-, -, rfl⟩ | ⟨-, -, name', -, h'⟩
      · exact List.suffix_cons c _
      · exact (ih _ h').trans (List.suffix_cons c cs)
  · intro cs name rest h hlen
    induction cs generalizing first name with
    | nil =>
      -- A name that ran into the anchor would have passed the parenthesis.
      rcases takes_groupName_cons_iff.mp h with ⟨hc, -, -⟩ | ⟨-, -, name', -, h'⟩
      · exact absurd hc (by decide)
      · have hle := h'.length_le
        simp [closing] at hle
    | cons c cs ih =>
      rw [List.cons_append] at h
      refine takes_groupName_cons_iff.mpr ?_
      rcases takes_groupName_cons_iff.mp h with ⟨hc, hname, heq⟩ | ⟨hc, hchar, name', hname, h'⟩
      · exact .inl ⟨hc, hname, List.append_cancel_right heq⟩
      · exact .inr ⟨hc, hchar, name', hname, ih _ h'⟩

theorem local_namedGroup : Local 0 namedGroup := by
  refine .bind (local_groupName true) fun name => ?_
  split
  · exact .fail _
  · exact .pure _

/-- How the start of a group goes on with the given text ahead. -/
def openingAt : List Char → Reader Opening
  | '?' :: '=' :: _ | '?' :: '!' :: _ => fail .lookAround
  | '?' :: '<' :: '=' :: _ | '?' :: '<' :: '!' :: _ => fail .lookAround
  | '?' :: 'P' :: '<' :: _ => skip >>= fun _ => skip >>= fun _ => skip >>= fun _ => namedGroup
  | '?' :: '<' :: _ => skip >>= fun _ => skip >>= fun _ => namedGroup
  | '?' :: _ => skip >>= fun _ => flagGroup
  | _ => pure (.group .capture none)

theorem opening_eq : opening v = space v >>= fun _ => ahead >>= openingAt := rfl

/-- The anchor does not change how a group starts. -/
theorem openingAt_append (cs : List Char) : openingAt (cs ++ closing) = openingAt cs := by
  fun_cases openingAt cs with
  | case1 | case2 | case3 | case4 | case5 => rfl
  | case6 cs heq hne =>
    rw [List.cons_append, List.cons_append, openingAt]
    · exact append_closing_ne_append (w := ['=']) (by decide) heq
    · exact append_closing_ne_append (w := ['!']) (by decide) hne
  | case7 cs heq hne hbehind hnot hname hangle =>
    rw [List.cons_append, openingAt]
    · exact append_closing_ne_append (w := ['=']) (by decide) heq
    · exact append_closing_ne_append (w := ['!']) (by decide) hne
    · exact append_closing_ne_append (w := ['<', '=']) (by decide) hbehind
    · exact append_closing_ne_append (w := ['<', '!']) (by decide) hnot
    · exact append_closing_ne_append (w := ['P', '<']) (by decide) hname
    · exact append_closing_ne_append (w := ['<']) (by decide) hangle
  | case8 cs heq hne hbehind hnot hname hangle hmark =>
    -- Without a question mark none of the special starts comes next.
    have hmark' := append_closing_ne_append (w := ['?']) (by decide) hmark
    rw [openingAt]
    all_goals
      intro tail h
      exact hmark' _ h

theorem local_openingAt (cs : List Char) : Local 0 (openingAt cs) := by
  unfold openingAt
  split
  · exact .fail _
  · exact .fail _
  · exact .fail _
  · exact .fail _
  · exact .bind .skip fun _ => .bind .skip fun _ => .bind .skip fun _ => local_namedGroup
  · exact .bind .skip fun _ => .bind .skip fun _ => local_namedGroup
  · exact .bind .skip fun _ => local_flagGroup
  · exact .pure _

theorem local_opening : Local 0 (opening v) := by
  rw [opening_eq]
  refine .bind local_space fun _ => ⟨?_, ?_⟩
  · intro cs o rest h
    obtain ⟨text, mid, hahead, h'⟩ := takes_bind_iff.mp h
    obtain ⟨rfl, rfl⟩ := takes_ahead_iff.mp hahead
    exact (local_openingAt _).suffix h'
  · intro cs o rest h hlen
    obtain ⟨text, mid, hahead, h'⟩ := takes_bind_iff.mp h
    obtain ⟨rfl, rfl⟩ := takes_ahead_iff.mp hahead
    rw [openingAt_append] at h'
    exact takes_bind_iff.mpr
      ⟨cs, cs, takes_ahead_iff.mpr ⟨rfl, rfl⟩, (local_openingAt cs).alone h' hlen⟩

/-! ### Repetitions -/

theorem local_lazyMark {k min : Nat} {max : Option Nat} : Local k (lazyMark min max) :=
  .bind (.skipIf (by decide)) fun _ => .pure _

theorem local_bounds : Local 1 (bounds v) := by
  refine .bind local_decimal fun lo => .bind .look fun x => ?_
  split
  · exact .fail _
  · refine .bind local_skipSpaced fun _ => .bind .look fun x => ?_
    split
    · exact .fail _
    · exact .bind (.lift _) fun _ => .pure _
    · exact .bind (.lift _) fun _ => .bind local_decimal fun _ => .bind (.lift _) fun _ => .pure _
  · exact .bind (.lift _) fun _ => .pure _

/-- Reads the end of a counted repetition from its closing brace on. -/
def countEnd (v : Bool) (lo : Nat) (hi : Option Nat) : Reader Bounds :=
  look >>= fun x =>
    if x ≠ some '\x7d' then fail .unclosedCount
    else skipSpaced v >>= fun _ => lazyMark lo hi >>= fun b =>
      if inOrder lo hi then pure b else fail .countOrder

theorem counted_eq : counted v = space v >>= fun _ => look >>= fun x =>
    if x.isNone then fail .unclosedCount else bounds v >>= fun b => countEnd v b.1 b.2 := rfl

theorem consumes_countEnd (lo : Nat) (hi : Option Nat) : Consumes (countEnd v lo hi) := by
  refine Consumes.bind_right fun x => ?_
  split
  · exact Consumes.fail _
  · exact consumes_skipSpaced.bind_left

theorem local_countEnd (lo : Nat) (hi : Option Nat) : Local 0 (countEnd v lo hi) := by
  refine .look_bind (fun x => ?_) (fun b => ?_)
  · split
    · exact .fail _
    · refine .bind local_skipSpaced fun _ => .bind local_lazyMark fun b => ?_
      split
      · exact .pure _
      · exact .fail _
  · rw [if_pos (by decide)]
    exact not_takes_fail

theorem local_counted : Local 0 (counted v) := by
  rw [counted_eq]
  refine .bind local_space fun _ => .look_bind (fun x => ?_) (Consumes.not_takes_closing ?_)
  · split
    · exact .fail _
    · -- The bounds end by looking at the brace, which is passed behind them.
      exact .bind_consumes local_bounds (fun b => local_countEnd b.1 b.2)
        fun b => consumes_countEnd b.1 b.2
  · exact Consumes.bind_right fun b => consumes_countEnd b.1 b.2

theorem local_repetition (c : Char) : Local 0 (repetition v c) := by
  unfold repetition
  split
  · exact local_lazyMark
  · exact local_lazyMark
  · exact local_lazyMark
  · exact local_counted

theorem takes_lazyMark {min : Nat} {max : Option Nat} {cs rest : List Char} {b : Bounds}
    (h : (lazyMark min max).Takes cs b rest) : b.min = min ∧ b.max = max := by
  obtain ⟨_, _, -, hpure⟩ := takes_bind_iff.mp h
  obtain ⟨rfl, -⟩ := takes_pure_iff.mp hpure
  exact ⟨rfl, rfl⟩

theorem inOrder_of_takes_countEnd {lo : Nat} {hi : Option Nat} {cs rest : List Char} {b : Bounds}
    (h : (countEnd v lo hi).Takes cs b rest) : inOrder b.min b.max = true := by
  obtain ⟨x, mid, -, h⟩ := takes_bind_iff.mp h
  split at h
  · exact absurd h not_takes_fail
  · obtain ⟨_, _, -, h⟩ := takes_bind_iff.mp h
    obtain ⟨b', _, hmark, h⟩ := takes_bind_iff.mp h
    obtain ⟨hmin, hmax⟩ := takes_lazyMark hmark
    split at h
    · next horder =>
      obtain ⟨rfl, -⟩ := takes_pure_iff.mp h
      rw [hmin, hmax]
      exact horder
    · exact absurd h not_takes_fail

/-- The bounds of a repetition that has been read are in order. -/
theorem inOrder_of_takes_repetition {c : Char} {cs rest : List Char} {b : Bounds}
    (h : (repetition v c).Takes cs b rest) : inOrder b.min b.max = true := by
  unfold repetition at h
  split at h
  · obtain ⟨hmin, hmax⟩ := takes_lazyMark h
    rw [hmin, hmax]
    rfl
  · rw [(takes_lazyMark h).2]
    rfl
  · rw [(takes_lazyMark h).2]
    rfl
  · rw [counted_eq] at h
    obtain ⟨_, _, -, h⟩ := takes_bind_iff.mp h
    obtain ⟨x, _, -, h⟩ := takes_bind_iff.mp h
    split at h
    · exact absurd h not_takes_fail
    · obtain ⟨_, _, -, h⟩ := takes_bind_iff.mp h
      exact inOrder_of_takes_countEnd h

/-- There is no number at the anchor. -/
theorem takes_decimal_closing {lo : Except Error Nat} {rest : List Char}
    (h : (decimal v).Takes closing lo rest) : lo = .error .countMissing ∧ rest = closing := by
  have hsplit : ∀ p : Char → Bool, p ')' = false → splitSpaced v p closing = ([], closing) := by
    intro p hp
    rw [closing, splitSpaced, if_neg (by simp [hp])]
  obtain ⟨_, mid, hspace, h⟩ := takes_bind_iff.mp h
  obtain ⟨digits, mid', hdigits, h⟩ := takes_bind_iff.mp h
  obtain ⟨_, mid'', hspace', h⟩ := takes_bind_iff.mp h
  obtain ⟨-, rfl⟩ := takes_takeWhile_iff.mp hspace
  have hdrop : closing.dropWhile isSpace = closing :=
    List.dropWhile_cons_of_neg (by simp [isSpace_paren])
  rw [hdrop] at hdigits
  have hnone := takes_takeSpaced_iff.mp hdigits
  rw [hsplit _ (by decide)] at hnone
  obtain ⟨rfl, rfl⟩ := Prod.mk.inj hnone
  have hnone' := takes_takeSpaced_iff.mp hspace'
  rw [hsplit _ isSpace_paren] at hnone'
  obtain ⟨-, rfl⟩ := Prod.mk.inj hnone'
  exact takes_pure_iff.mp h

/-- A brace that dangles starts no repetition before the anchor either. -/
theorem not_takes_counted_of_dangling {blank rest : List Char} {b : Bounds}
    (hblank : spaced v blank = []) : ¬ (counted v).Takes (blank ++ closing) b rest := by
  intro h
  rw [counted_eq] at h
  obtain ⟨_, mid, hspace, h⟩ := takes_bind_iff.mp h
  obtain ⟨x, mid', hlook, h⟩ := takes_bind_iff.mp h
  obtain ⟨hx, hmid'⟩ := takes_look_iff.mp hlook
  have hmid := takes_space_iff.mp hspace
  rcases spaced_append v blank with happend | ⟨-, hnil⟩
  · -- Behind the blanks the parenthesis stands where a number has to.
    rw [happend, hblank, List.nil_append] at hmid
    rw [hx, hmid', hmid] at h
    obtain ⟨b', mid'', hbounds, -⟩ := takes_bind_iff.mp h
    obtain ⟨lo, rest', hlo, hbounds⟩ := takes_bind_iff.mp hbounds
    obtain ⟨rfl, rfl⟩ := takes_decimal_closing hlo
    obtain ⟨y, _, hy, hbounds⟩ := takes_bind_iff.mp hbounds
    obtain ⟨rfl, rfl⟩ := takes_look_iff.mp hy
    obtain ⟨n, _, hn, -⟩ := takes_bind_iff.mp hbounds
    obtain ⟨hn, -⟩ := takes_lift_iff.mp hn
    cases hn
  · -- A comment goes on to the end, and nothing is left to read.
    rw [hx, hmid', hmid, hnil] at h
    exact absurd h not_takes_fail

end Reader

end LabelSelector.Pattern
