import LabelSelector.Proofs.Readers

/-! # Character classes before the closing anchor

  A class that is closed within the value is read in the same way alone.

  - An item of a class may end at the anchor, but then the class does not.
  - A class is read in steps, one for each item, operation or bracket. `ClassStep` says what
    a step can do, and a class that has been read is a chain of steps.
-/

namespace LabelSelector.Pattern

namespace Reader

open TextReader

variable {v : Bool}

/-! ### Items -/

theorem classAtom_suffix {c : Char} {cs rest : List Char} {a : Atom}
    (h : (classAtom v c).Takes cs a rest) : rest <:+ cs := by
  unfold classAtom at h
  split at h
  · exact escape_suffix h
  · obtain ⟨-, rfl⟩ := takes_pure_iff.mp h
    exact List.suffix_refl _

/-- Atoms are local, but for `\b`, which no class may hold. -/
theorem classAtom_alone {c : Char} {cs rest : List Char} {a : Atom}
    (h : (classAtom v c).Takes (cs ++ closing) a (rest ++ closing)) :
    (classAtom v c).Takes cs a rest ∨ a = .assertion .wordBoundary := by
  unfold classAtom at h ⊢
  split at h
  · next hc =>
    rw [if_pos hc]
    rcases escape_alone h with halone | ⟨ha, -⟩
    · exact .inl halone
    · exact .inr ha
  · next hc =>
    rw [if_neg hc]
    obtain ⟨ha, heq⟩ := takes_pure_iff.mp h
    exact .inl (takes_pure_iff.mpr ⟨ha, List.append_cancel_right heq⟩)

/-- An atom may stand before a reader that refuses `\b`. -/
theorem local_classAtom_bind {β : Type} {k : Nat} {c : Char} {g : Atom → Reader β}
    (hg : ∀ a, Local k (g a))
    (hb : ∀ {cs b rest}, ¬ (g (.assertion .wordBoundary)).Takes cs b rest) :
    Local k (classAtom v c >>= g) := by
  refine ⟨?_, ?_⟩
  · intro cs b rest h
    obtain ⟨a, mid, ha, hrest⟩ := takes_bind_iff.mp h
    exact ((hg a).suffix hrest).trans (classAtom_suffix ha)
  · intro cs b rest h hlen
    obtain ⟨a, mid, ha, hrest⟩ := takes_bind_iff.mp h
    obtain ⟨front, rfl, -⟩ := exists_of_append_closing_suffix ((hg a).suffix hrest)
    rcases classAtom_alone ha with halone | rfl
    · exact takes_bind_iff.mpr ⟨a, front, halone, (hg a).alone hrest hlen⟩
    · exact absurd hrest hb

theorem local_classItem {k : Nat} (a : Atom) : Local k (classItem a) := by
  unfold classItem
  split
  · exact .fail _
  · exact .fail _
  · exact .pure _

theorem local_rangeEnd {k : Nat} (a : Atom) : Local k (rangeEnd a) := by
  unfold rangeEnd
  split
  · exact .pure _
  · exact .fail _

theorem not_takes_classItem_assertion {a : Assertion} {cs rest : List Char} {s : ClassSet} :
    ¬ (classItem (.assertion a)).Takes cs s rest := not_takes_fail

theorem not_takes_rangeEnd_assertion {a : Assertion} {cs rest : List Char} {l : Literal} :
    ¬ (rangeEnd (.assertion a)).Takes cs l rest := not_takes_fail

theorem dropWhile_isSpace_append (cs : List Char) :
    (cs ++ closing).dropWhile isSpace = cs.dropWhile isSpace ++ closing := by
  induction cs with
  | nil => exact List.dropWhile_cons_of_neg (by simp [isSpace_paren])
  | cons c cs ih =>
    by_cases hc : isSpace c = true
    · rw [List.cons_append, List.dropWhile_cons_of_pos hc, List.dropWhile_cons_of_pos hc]
      exact ih
    · rw [List.cons_append, List.dropWhile_cons_of_neg hc, List.dropWhile_cons_of_neg hc]
      rfl

theorem head?_append_closing_iff {cs : List Char} {c : Char} (hc : c ≠ ')') :
    (cs ++ closing).head? = some c ↔ cs.head? = some c := by
  cases cs with
  | nil => simp [closing, hc.symm]
  | cons d cs => simp

/-- What is seen from a hyphen is the same before the anchor, unless it is the anchor. -/
theorem glance_append_iff {cs : List Char} {c : Char} (hc : c ≠ ')') :
    glance v (cs ++ closing) = some c ↔ glance v cs = some c := by
  unfold glance
  cases v with
  | false => exact head?_append_closing_iff hc
  | true =>
    simp only [if_true, dropWhile_isSpace_append]
    cases hdrop : cs.dropWhile isSpace with
    | nil => simp [closing, hc.symm]
    | cons d ds =>
      by_cases hd : d = '#'
      · subst hd
        simp only [List.cons_append, dropWhile_isSpace_append]
        exact head?_append_closing_iff hc
      · have hne : ∀ ds rest, d :: ds = '#' :: rest → False := by
          intro ds rest heq
          exact hd (List.cons.inj heq).1
        rw [List.cons_append]
        split
        · next heq => exact absurd heq (hne _ _)
        · split
          · next heq => exact absurd heq (hne _ _)
          · exact Iff.rfl

/-- How an item or a range goes on behind the atom `first`, with the given text ahead. -/
def classRangeAt (v : Bool) (first : Atom) : List Char → Reader ClassSet
  | [] => fail .unclosedClass
  | '-' :: rest =>
    if glance v rest = some ']' ∨ glance v rest = some '-' then classItem first
    else skipSpaced v >>= fun _ => look >>= fun x =>
      match x with
      | none => fail .unclosedClass
      | some d => skip >>= fun _ => classAtom v d >>= fun second => rangeEnd first >>= fun lo =>
        rangeEnd second >>= fun hi =>
          if lo.char ≤ hi.char then pure (.range lo hi) else fail .classRangeOrder
  | _ :: _ => classItem first

theorem classRange_eq (c : Char) : classRange v c =
    classAtom v c >>= fun first => space v >>= fun _ => ahead >>= classRangeAt v first := rfl

/-- An assertion is no item and no end of a range. -/
theorem not_takes_classRangeAt_assertion {a : Assertion} {text cs rest : List Char} {s : ClassSet} :
    ¬ (classRangeAt v (.assertion a) text).Takes cs s rest := by
  intro h
  unfold classRangeAt at h
  split at h
  · exact not_takes_fail h
  · split at h
    · exact not_takes_classItem_assertion h
    · obtain ⟨_, _, -, h⟩ := takes_bind_iff.mp h
      obtain ⟨x, _, -, h⟩ := takes_bind_iff.mp h
      split at h
      · exact not_takes_fail h
      · obtain ⟨_, _, -, h⟩ := takes_bind_iff.mp h
        obtain ⟨_, _, -, h⟩ := takes_bind_iff.mp h
        obtain ⟨_, _, hlo, -⟩ := takes_bind_iff.mp h
        exact not_takes_rangeEnd_assertion hlo
  · exact not_takes_classItem_assertion h

theorem local_classRangeAt (first : Atom) (text : List Char) :
    Local 0 (classRangeAt v first text) := by
  unfold classRangeAt
  split
  · exact .fail _
  · split
    · exact local_classItem first
    · refine .bind local_skipSpaced fun _ => .look_bind (fun x => ?_) (Consumes.not_takes_closing ?_)
      · split
        · exact .fail _
        · refine .bind .skip fun _ => local_classAtom_bind (fun second => ?_) ?_
          · refine .bind (local_rangeEnd first) fun lo => .bind (local_rangeEnd second) fun hi => ?_
            split
            · exact .pure _
            · exact .fail _
          · intro cs s rest h
            obtain ⟨_, _, -, h⟩ := takes_bind_iff.mp h
            obtain ⟨_, _, hhi, -⟩ := takes_bind_iff.mp h
            exact not_takes_rangeEnd_assertion hhi
      · exact Consumes.skip.bind_left
  · exact local_classItem first

/-- The anchor does not change how an item goes on, as long as it is not next. -/
theorem classRangeAt_append (first : Atom) {cs : List Char} (hne : cs ≠ []) :
    classRangeAt v first (cs ++ closing) = classRangeAt v first cs := by
  cases cs with
  | nil => exact absurd rfl hne
  | cons c cs =>
    by_cases hc : c = '-'
    · subst hc
      simp only [List.cons_append, classRangeAt, glance_append_iff (show ']' ≠ ')' by decide),
        glance_append_iff (show '-' ≠ ')' by decide)]
    · have hother : ∀ cs, classRangeAt v first (c :: cs) = classItem first := by
        intro cs
        rw [classRangeAt]
        exact hc
      rw [List.cons_append, hother, hother]

/-- An item is told from a range by the next character. -/
theorem local_classRange (c : Char) : Local 1 (classRange v c) := by
  rw [classRange_eq]
  refine local_classAtom_bind (fun first => .bind local_space fun _ => ⟨?_, ?_⟩) ?_
  · intro cs s rest h
    obtain ⟨text, mid, hahead, h'⟩ := takes_bind_iff.mp h
    obtain ⟨rfl, rfl⟩ := takes_ahead_iff.mp hahead
    exact (local_classRangeAt first _).suffix h'
  · intro cs s rest h hlen
    obtain ⟨text, mid, hahead, h'⟩ := takes_bind_iff.mp h
    obtain ⟨rfl, rfl⟩ := takes_ahead_iff.mp hahead
    -- With the anchor next, nothing of the value would be left.
    have hne : cs ≠ [] := by
      rintro rfl
      have hle := h'.length_le
      rw [List.nil_append, List.length_append] at hle
      omega
    rw [classRangeAt_append first hne] at h'
    exact takes_bind_iff.mpr ⟨cs, cs, takes_ahead_iff.mpr ⟨rfl, rfl⟩,
      (local_classRangeAt first cs).alone h' (Nat.zero_le _)⟩
  · intro cs s rest h
    obtain ⟨_, _, -, h⟩ := takes_bind_iff.mp h
    obtain ⟨_, _, -, h⟩ := takes_bind_iff.mp h
    exact not_takes_classRangeAt_assertion h

/-! ### Names and operations -/

/-- A colon of the value is found before the anchor, and the anchor has none. -/
theorem dropWhile_colon_append (cs : List Char) :
    (∃ tail, cs.dropWhile (· ≠ ':') = ':' :: tail ∧
      (cs ++ closing).dropWhile (· ≠ ':') = ':' :: (tail ++ closing) ∧
      (cs ++ closing).takeWhile (· ≠ ':') = cs.takeWhile (· ≠ ':')) ∨
    (cs.dropWhile (· ≠ ':') = [] ∧ (cs ++ closing).dropWhile (· ≠ ':') = []) := by
  induction cs with
  | nil => exact .inr ⟨rfl, by decide⟩
  | cons c cs ih =>
    by_cases hc : c = ':'
    · subst hc
      exact .inl ⟨cs, rfl, rfl, rfl⟩
    · simp only [List.cons_append, ne_eq, hc, not_false_eq_true, decide_true,
        List.dropWhile_cons_of_pos, List.takeWhile_cons_of_pos, List.cons.injEq, true_and]
      exact ih

/-- The rest of a class with a name, behind the mark of its complement. -/
def nameEnd (negated : Bool) (cs : List Char) : Option (ClassSet × List Char) :=
  if [':', ']'] <+: cs.dropWhile (· ≠ ':') then
    (Named.ofName? (String.ofList (cs.takeWhile (· ≠ ':')))).map fun n =>
      (.named n negated, (cs.dropWhile (· ≠ ':')).drop 2)
  else none

/-- What is found is the end of a name if it is so with and without a colon and a bracket. -/
theorem eq_nameEnd {negated : Bool} {cs : List Char} {found : Option (ClassSet × List Char)}
    (hsome : ∀ rest, cs.dropWhile (· ≠ ':') = ':' :: ']' :: rest →
      found = (Named.ofName? (String.ofList (cs.takeWhile (· ≠ ':')))).map fun n =>
        (.named n negated, rest))
    (hnone : (∀ rest, cs.dropWhile (· ≠ ':') = ':' :: ']' :: rest → False) → found = none) :
    found = nameEnd negated cs := by
  unfold nameEnd
  by_cases hstop : [':', ']'] <+: cs.dropWhile (· ≠ ':')
  · obtain ⟨rest, hrest⟩ := hstop
    rw [if_pos ⟨rest, hrest⟩, hsome rest hrest.symm, ← hrest]
    rfl
  · rw [if_neg hstop]
    apply hnone
    intro rest hrest
    exact hstop ⟨rest, hrest.symm⟩

theorem namedClass?_mark (cs : List Char) : namedClass? (':' :: '^' :: cs) = nameEnd true cs := by
  apply eq_nameEnd
  · intro rest hrest
    simp only [namedClass?, hrest]
  · intro hnone
    simp only [namedClass?]

theorem namedClass?_colon {cs : List Char} (h : cs.head? ≠ some '^') :
    namedClass? (':' :: cs) = nameEnd false cs := by
  have hmark : ∀ rest, cs = '^' :: rest → False := by
    rintro rest rfl
    exact h rfl
  apply eq_nameEnd
  · intro rest hrest
    simp only [namedClass?, hrest]
  · intro hnone
    simp only [namedClass?]

theorem namedClass?_of_head? {cs : List Char} (h : cs.head? ≠ some ':') : namedClass? cs = none := by
  unfold namedClass?
  split
  · exact absurd rfl h
  · rfl

theorem nameEnd_append (negated : Bool) (cs : List Char) :
    nameEnd negated (cs ++ closing) =
      (nameEnd negated cs).map fun found => (found.1, found.2 ++ closing) := by
  unfold nameEnd
  rcases dropWhile_colon_append cs with ⟨tail, hdrop, happend, htake⟩ | ⟨hdrop, happend⟩
  · rw [hdrop, happend, htake]
    cases tail with
    | nil => simp [closing]
    | cons d tail =>
      by_cases hd : d = ']'
      · subst hd
        simp [Option.map_map, Function.comp_def]
      · simp [Ne.symm hd]
  · rw [hdrop, happend]
    simp

/-- The anchor is no part of a name. -/
theorem namedClass?_append (cs : List Char) :
    namedClass? (cs ++ closing) =
      (namedClass? cs).map fun found => (found.1, found.2 ++ closing) := by
  by_cases hcolon : cs.head? = some ':'
  · obtain ⟨cs, rfl⟩ := List.head?_eq_some_iff.mp hcolon
    by_cases hmark : cs.head? = some '^'
    · obtain ⟨cs, rfl⟩ := List.head?_eq_some_iff.mp hmark
      rw [List.cons_append, List.cons_append, namedClass?_mark, namedClass?_mark]
      exact nameEnd_append true cs
    · have hmark' : (cs ++ closing).head? ≠ some '^' := by
        rwa [ne_eq, head?_append_closing_iff (by decide)]
      rw [List.cons_append, namedClass?_colon hmark, namedClass?_colon hmark']
      exact nameEnd_append false cs
  · have hcolon' : (cs ++ closing).head? ≠ some ':' := by
      rwa [ne_eq, head?_append_closing_iff (by decide)]
    rw [namedClass?_of_head? hcolon, namedClass?_of_head? hcolon']
    rfl

theorem nameEnd_suffix {negated : Bool} {cs rest : List Char} {item : ClassSet}
    (h : nameEnd negated cs = some (item, rest)) : rest <:+ cs := by
  unfold nameEnd at h
  split at h
  · obtain ⟨n, -, hn⟩ := Option.map_eq_some_iff.mp h
    obtain ⟨-, rfl⟩ := Prod.mk.inj hn
    exact (List.drop_suffix 2 _).trans (List.dropWhile_suffix _)
  · cases h

theorem namedClass?_suffix {cs rest : List Char} {item : ClassSet}
    (h : namedClass? cs = some (item, rest)) : rest <:+ cs := by
  by_cases hcolon : cs.head? = some ':'
  · obtain ⟨cs, rfl⟩ := List.head?_eq_some_iff.mp hcolon
    refine List.IsSuffix.trans ?_ (List.suffix_cons ':' cs)
    by_cases hmark : cs.head? = some '^'
    · obtain ⟨cs, rfl⟩ := List.head?_eq_some_iff.mp hmark
      rw [namedClass?_mark] at h
      exact (nameEnd_suffix h).trans (List.suffix_cons '^' cs)
    · rw [namedClass?_colon hmark] at h
      exact nameEnd_suffix h
  · rw [namedClass?_of_head? hcolon] at h
    cases h

theorem setOp?_append (c : Char) (cs : List Char) : setOp? c (cs ++ closing) = setOp? c cs := by
  fun_cases setOp? c cs with
  | case1 => rfl
  | case2 => rfl
  | case3 => rfl
  | case4 cs c hand hminus htilde =>
    rw [setOp?]
    · rintro tail rfl
      exact append_closing_ne_append (w := ['&']) (by decide) (fun tail => hand tail rfl) tail
    · rintro tail rfl
      exact append_closing_ne_append (w := ['-']) (by decide) (fun tail => hminus tail rfl) tail
    · rintro tail rfl
      exact append_closing_ne_append (w := ['~']) (by decide) (fun tail => htilde tail rfl) tail

/-! ### Brackets -/

theorem local_hyphens {k : Nat} : Local k (hyphens v) :=
  .bind (local_takeSpaced _) fun _ => .pure _

/-- The start of a class ends by looking at the next character. -/
theorem local_openClass : Local 1 (openClass v) := by
  have hitems : ∀ negated : Bool, Local 1 (hyphens v >>= fun items => look >>= fun next =>
      if next.isNone then fail .unclosedClass
      else if items.isEmpty ∧ next = some ']' then
        skipSpaced v >>= fun _ => look >>= fun behind =>
          if behind.isNone then fail .unclosedClass
          else (pure (negated, [.atom (.plain ']')]) : Reader (Bool × List ClassSet))
      else pure (negated, items)) := by
    intro negated
    refine .bind local_hyphens fun items => .bind .look fun next => ?_
    split
    · exact .fail _
    · split
      · refine .bind local_skipSpaced fun _ => .bind .look fun behind => ?_
        split
        · exact .fail _
        · exact .pure _
      · exact .pure _
  refine .bind local_space fun _ => .bind .look fun mark => ?_
  by_cases hmark : mark = some '^'
  · subst hmark
    exact .bind local_skipSpaced fun _ => hitems true
  · dsimp only
    rw [if_neg hmark]
    exact hitems _

/-- What a step of reading a class can do: from what is open and the items so far, with `c`
    next and `cs` behind it, to what is open, the items and the text behind the step. -/
inductive ClassStep (v : Bool) (stack : List Opened) (items : List ClassSet) :
    Char → List Char → List Opened → List ClassSet → List Char → Prop where
  /-- Inner brackets are closed. -/
  | close {cs : List Char} {stack' : List Opened} {items' : List ClassSet}
    (h : closeClass stack items = .inner items' stack') :
    ClassStep v stack items ']' cs stack' items' cs
  /-- A class with a name. -/
  | named {cs rest : List Char} {item : ClassSet} (h : namedClass? cs = some (item, rest)) :
    ClassStep v stack items '[' cs stack (item :: items) rest
  /-- Brackets are opened. -/
  | opened {cs rest : List Char} {negated : Bool} {first : List ClassSet}
    (hn : namedClass? cs = none) (h : (openClass v).Takes cs (negated, first) rest) :
    ClassStep v stack items '[' cs (.bracket negated items :: stack) first.reverse rest
  /-- An operation is started. -/
  | op {c : Char} {cs : List Char} {o : SetOp} (hc : c ≠ ']' ∧ c ≠ '[')
    (h : setOp? c cs = some o) :
    ClassStep v stack items c cs
      (.op o (completeOp (.ofItems items.reverse) stack).1 ::
        (completeOp (.ofItems items.reverse) stack).2) [] (cs.drop 1)
  /-- An item or a range. -/
  | item {c : Char} {cs rest : List Char} {item : ClassSet} (hc : c ≠ ']' ∧ c ≠ '[')
    (ho : setOp? c cs = none) (h : (classRange v c).Takes cs item rest) :
    ClassStep v stack items c cs stack (item :: items) rest

theorem ClassStep.suffix {stack stack' : List Opened} {items items' : List ClassSet} {c : Char}
    {cs rest : List Char} (h : ClassStep v stack items c cs stack' items' rest) : rest <:+ cs := by
  cases h with
  | close _ => exact List.suffix_refl cs
  | named h => exact namedClass?_suffix h
  | opened _ h => exact local_openClass.suffix h
  | op _ _ => exact List.drop_suffix 1 cs
  | item _ _ h => exact (local_classRange c).suffix h

/-- A step that leaves something of the value is the same step alone. -/
theorem ClassStep.alone {stack stack' : List Opened} {items items' : List ClassSet} {c : Char}
    {cs rest : List Char}
    (h : ClassStep v stack items c (cs ++ closing) stack' items' (rest ++ closing))
    (hlen : 1 ≤ rest.length) : ClassStep v stack items c cs stack' items' rest := by
  generalize hfull : cs ++ closing = full at h
  generalize hleft : rest ++ closing = left at h
  cases h with
  | close h =>
    obtain rfl := List.append_cancel_right (hleft.trans hfull.symm)
    exact .close h
  | named h =>
    subst hfull hleft
    rw [namedClass?_append] at h
    obtain ⟨found, hfound, heq⟩ := Option.map_eq_some_iff.mp h
    obtain ⟨rfl, hrest⟩ := Prod.mk.inj heq
    obtain rfl := List.append_cancel_right hrest
    exact .named hfound
  | opened hn h =>
    subst hfull hleft
    rw [namedClass?_append, Option.map_eq_none_iff] at hn
    exact .opened hn (local_openClass.alone h hlen)
  | op hc h =>
    subst hfull
    rw [setOp?_append] at h
    have hrest : rest = cs.drop 1 := by
      cases cs with
      | nil =>
        -- Passing over the parenthesis would leave no anchor.
        have hle := congrArg List.length hleft
        simp [closing] at hle
      | cons d cs => exact List.append_cancel_right hleft
    rw [hrest]
    exact .op hc h
  | item hc ho h =>
    subst hfull hleft
    rw [setOp?_append] at ho
    exact .item hc ho ((local_classRange c).alone h hlen)

/-- A class that has been read is at its closing bracket, or a step has been made. -/
theorem exists_of_takes_classBody {stack : List Opened} {items : List ClassSet}
    {cs rest : List Char} {a : Bool × ClassSet} (h : (classBody v stack items).Takes cs a rest) :
    ∃ c cs', spaced v cs = c :: cs' ∧
      ((c = ']' ∧ closeClass stack items = .whole a.1 a.2 ∧ rest = cs') ∨
        ∃ stack' items' mid, ClassStep v stack items c cs' stack' items' mid ∧
          (classBody v stack' items').Takes mid a rest) := by
  obtain ⟨_, heq⟩ := h
  rw [classBody] at heq
  split at heq
  · cases heq
  · next c cs' hspaced =>
    refine ⟨c, cs', hspaced, ?_⟩
    split at heq
    · next hc =>
      subst hc
      split at heq
      · next negated body hclose =>
        cases heq
        exact .inl ⟨rfl, hclose, rfl⟩
      · next items' stack' hclose =>
        exact .inr ⟨stack', items', cs', .close hclose, takes_shorten_iff.mp heq⟩
    · next hc =>
      right
      split at heq
      · next hopen =>
        subst hopen
        split at heq
        · next item mid hname => exact ⟨_, _, _, .named hname, takes_shorten_iff.mp heq⟩
        · next hname =>
          split at heq
          · cases heq
          · next negated first mid hmid hopened =>
            exact ⟨_, _, _, .opened hname ⟨hmid, hopened⟩, takes_shorten_iff.mp heq⟩
      · next hopen =>
        split at heq
        · next o ho => exact ⟨_, _, _, .op ⟨hc, hopen⟩ ho, takes_shorten_iff.mp heq⟩
        · next ho =>
          split at heq
          · cases heq
          · next item mid hmid hitem =>
            exact ⟨_, _, _, .item ⟨hc, hopen⟩ ho ⟨hmid, hitem⟩, takes_shorten_iff.mp heq⟩

theorem takes_classBody_of_close {stack : List Opened} {items : List ClassSet}
    {cs rest : List Char} {a : Bool × ClassSet} (hs : spaced v cs = ']' :: rest)
    (hclose : closeClass stack items = .whole a.1 a.2) :
    (classBody v stack items).Takes cs a rest := by
  have hlt := length_spaced v cs
  rw [hs, List.length_cons] at hlt
  refine ⟨by omega, ?_⟩
  rw [classBody]
  split
  · next hnil =>
    rw [hs] at hnil
    cases hnil
  · next hcons =>
    rw [hs] at hcons
    obtain ⟨rfl, rfl⟩ := List.cons.inj hcons
    rw [if_pos rfl, hclose]

theorem takes_classBody_of_step {stack stack' : List Opened} {items items' : List ClassSet}
    {c : Char} {cs cs' mid rest : List Char} {a : Bool × ClassSet} (hs : spaced v cs = c :: cs')
    (hstep : ClassStep v stack items c cs' stack' items' mid)
    (hrest : (classBody v stack' items').Takes mid a rest) :
    (classBody v stack items).Takes cs a rest := by
  have hlt := length_spaced v cs
  have hmid := hstep.suffix.length_le
  have hle := hrest.length_le
  rw [hs, List.length_cons] at hlt
  refine ⟨by omega, ?_⟩
  rw [classBody]
  split
  · next hnil =>
    rw [hs] at hnil
    cases hnil
  · next hcons =>
    rw [hs] at hcons
    obtain ⟨rfl, rfl⟩ := List.cons.inj hcons
    cases hstep with
    | close h =>
      rw [if_pos rfl, h]
      exact takes_shorten_iff.mpr hrest
    | named h =>
      rw [if_neg (by decide), if_pos rfl]
      split
      · next h' =>
        cases h.symm.trans h'
        exact takes_shorten_iff.mpr hrest
      · next h' => cases h.symm.trans h'
    | opened hn h =>
      obtain ⟨_, h⟩ := h
      rw [if_neg (by decide), if_pos rfl]
      split
      · next h' => cases hn.symm.trans h'
      · rw [h]
        exact takes_shorten_iff.mpr hrest
    | op hc h =>
      rw [if_neg hc.1, if_neg hc.2, h]
      exact takes_shorten_iff.mpr hrest
    | item hc ho h =>
      obtain ⟨_, h⟩ := h
      rw [if_neg hc.1, if_neg hc.2, ho, h]
      exact takes_shorten_iff.mpr hrest

theorem consumes_classBody (stack : List Opened) (items : List ClassSet) :
    Consumes (classBody v stack items) := by
  intro cs a rest h _
  obtain ⟨c, cs', hspaced, h⟩ := exists_of_takes_classBody h
  have hlt := length_spaced v cs
  rw [hspaced, List.length_cons] at hlt
  rcases h with ⟨-, -, rfl⟩ | ⟨_, _, mid, hstep, hrest⟩
  · omega
  · have hmid := hstep.suffix.length_le
    have hrest := hrest.length_le
    omega

theorem classBody_suffix {stack : List Opened} {items : List ClassSet} {cs rest : List Char}
    {a : Bool × ClassSet} (h : (classBody v stack items).Takes cs a rest) : rest <:+ cs := by
  -- By induction on the length of the text, of which each step leaves a shorter end.
  induction hn : cs.length using Nat.strongRecOn generalizing cs stack items with
  | _ n ih =>
    obtain ⟨c, cs', hspaced, h⟩ := exists_of_takes_classBody h
    have hsuffix := spaced_suffix v cs
    rw [hspaced] at hsuffix
    have hcs' : cs' <:+ cs := (List.suffix_cons c cs').trans hsuffix
    rcases h with ⟨-, -, rfl⟩ | ⟨stack', items', mid, hstep, hrest⟩
    · exact hcs'
    · have hle := hstep.suffix.length_le
      have hlt := hsuffix.length_le
      rw [List.length_cons] at hlt
      exact ((ih mid.length (by omega) hrest rfl).trans hstep.suffix).trans hcs'

theorem classBody_alone {stack : List Opened} {items : List ClassSet} {cs rest : List Char}
    {a : Bool × ClassSet} (h : (classBody v stack items).Takes (cs ++ closing) a (rest ++ closing)) :
    (classBody v stack items).Takes cs a rest := by
  induction hn : cs.length using Nat.strongRecOn generalizing cs stack items with
  | _ n ih =>
    obtain ⟨c, cs', hspaced, h⟩ := exists_of_takes_classBody h
    -- What comes next is a character of the value, since the anchor is left.
    have hleft : rest ++ closing <:+ cs' := by
      rcases h with ⟨-, -, heq⟩ | ⟨_, _, _, hstep, hrest⟩
      · subst heq
        exact List.suffix_refl _
      · exact (classBody_suffix hrest).trans hstep.suffix
    obtain ⟨front, rfl, -⟩ := exists_of_append_closing_suffix hleft
    rw [← List.cons_append] at hspaced
    have halone := spaced_of_append hspaced
    rcases h with ⟨rfl, hclose, heq⟩ | ⟨stack', items', mid, hstep, hrest⟩
    · obtain rfl := List.append_cancel_right heq
      exact takes_classBody_of_close halone hclose
    · obtain ⟨mid, rfl, -⟩ := exists_of_append_closing_suffix (classBody_suffix hrest)
      -- The class goes on, so the step has not come to the anchor.
      have hlt := consumes_classBody _ _ hrest (by simp [closing])
      rw [List.length_append, List.length_append] at hlt
      have hown := hstep.alone (by omega)
      have hmid := hown.suffix.length_le
      have hle := (spaced_suffix v cs).length_le
      rw [halone, List.length_cons] at hle
      exact takes_classBody_of_step halone hown (ih mid.length (by omega) hrest rfl)

theorem local_classBody (stack : List Opened) (items : List ClassSet) :
    Local 0 (classBody v stack items) :=
  ⟨classBody_suffix, fun h _ => classBody_alone h⟩

theorem local_bracket : Local 0 (bracket v) :=
  .bind_consumes local_openClass (fun _ => local_classBody _ _) fun _ => consumes_classBody _ _

end Reader

end LabelSelector.Pattern
