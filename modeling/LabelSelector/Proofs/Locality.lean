import LabelSelector.Pattern.Parse

/-! # What readers of patterns take

  A value is compiled between anchors, so every reader may run into the closing anchor
  `)$` behind it. `Local k m` says that it does not matter to the reader `m` there: if it
  stops in front of the anchor, with at least `k` characters of the value left, it takes
  the same off the value alone.

  - Most readers are `Local 0`.
  - A reader whose last act is to look at the next character is `Local 1`: at the end of the
    value it sees the anchor, and alone it sees nothing.

  Both are kept when readers are put together.
-/

namespace LabelSelector

namespace TextReader

variable {ε α β : Type} {m : TextReader ε α} {f : α → TextReader ε β} {cs rest : List Char}

/-! ### Takings -/

/-- The reader takes `a` off the front of `cs` and leaves `rest`. -/
def Takes (m : TextReader ε α) (cs : List Char) (a : α) (rest : List Char) : Prop :=
  ∃ h, m cs = .ok (a, ⟨rest, h⟩)

theorem Takes.length_le {a : α} (h : m.Takes cs a rest) : rest.length ≤ cs.length := h.1

theorem takes_bind_iff {b : β} :
    (m >>= f).Takes cs b rest ↔ ∃ a mid, m.Takes cs a mid ∧ (f a).Takes mid b rest := by
  constructor
  · rintro ⟨h, heq⟩
    simp only [bind] at heq
    split at heq
    · cases heq
    · next a mid hmid hm =>
      split at heq
      · cases heq
      · next b' rest' hrest' hf =>
        cases heq
        exact ⟨a, mid, ⟨hmid, hm⟩, hrest', hf⟩
  · rintro ⟨a, mid, ⟨hmid, hm⟩, hrest, hf⟩
    refine ⟨Nat.le_trans hrest hmid, ?_⟩
    simp only [bind, hm, hf]

theorem takes_pure_iff {a b : α} :
    (pure a : TextReader ε α).Takes cs b rest ↔ b = a ∧ rest = cs := by
  constructor
  · rintro ⟨h, heq⟩
    cases heq
    exact ⟨rfl, rfl⟩
  · rintro ⟨rfl, rfl⟩
    exact ⟨Nat.le_refl _, rfl⟩

theorem not_takes_fail {e : ε} {a : α} : ¬ (fail e : TextReader ε α).Takes cs a rest := by
  rintro ⟨h, heq⟩
  cases heq

theorem takes_lift_iff {r : Except ε α} {a : α} :
    (lift r).Takes cs a rest ↔ r = .ok a ∧ rest = cs := by
  constructor
  · rintro ⟨h, heq⟩
    cases r with
    | error e => cases heq
    | ok b =>
      cases heq
      exact ⟨rfl, rfl⟩
  · rintro ⟨rfl, rfl⟩
    exact ⟨Nat.le_refl _, rfl⟩

theorem takes_look_iff {x : Option Char} :
    (look : TextReader ε _).Takes cs x rest ↔ x = cs.head? ∧ rest = cs := by
  constructor
  · rintro ⟨h, heq⟩
    cases heq
    exact ⟨rfl, rfl⟩
  · rintro ⟨rfl, rfl⟩
    exact ⟨Nat.le_refl _, rfl⟩

theorem takes_ahead_iff {x : List Char} :
    (ahead : TextReader ε _).Takes cs x rest ↔ x = cs ∧ rest = cs := by
  constructor
  · rintro ⟨h, heq⟩
    cases heq
    exact ⟨rfl, rfl⟩
  · rintro ⟨rfl, rfl⟩
    exact ⟨Nat.le_refl _, rfl⟩

theorem takes_skip_iff {x : Unit} :
    (skip : TextReader ε _).Takes cs x rest ↔ rest = cs.drop 1 := by
  constructor
  · rintro ⟨h, heq⟩
    cases heq
    rfl
  · rintro rfl
    exact ⟨by simp, rfl⟩

theorem takes_takeWhile_iff {p : Char → Bool} {x : List Char} :
    (takeWhile p : TextReader ε _).Takes cs x rest ↔
      x = cs.takeWhile p ∧ rest = cs.dropWhile p := by
  constructor
  · rintro ⟨h, heq⟩
    cases heq
    exact ⟨rfl, rfl⟩
  · rintro ⟨rfl, rfl⟩
    exact ⟨(List.dropWhile_suffix p).length_le, rfl⟩

/-- A single character is passed over if it comes next. -/
theorem takes_skipIf_iff {c : Char} {x : Bool} :
    (skipIf [c] : TextReader ε _).Takes cs x rest ↔
      x = decide (cs.head? = some c) ∧ rest = if cs.head? = some c then cs.drop 1 else cs := by
  have hstarts : [c].isPrefixOf cs = decide (cs.head? = some c) := by
    cases cs with
    | nil => rfl
    | cons d cs =>
      by_cases h : c = d
      · simp [List.isPrefixOf, h]
      · simp [List.isPrefixOf, h, Ne.symm h]
  constructor
  · rintro ⟨h, heq⟩
    unfold skipIf at heq
    rw [hstarts] at heq
    split at heq
    · next hc =>
      cases heq
      have hc' : cs.head? = some c := by simpa using hc
      simp [hc']
    · next hc =>
      cases heq
      have hc' : ¬ cs.head? = some c := by simpa using hc
      simp [hc']
  · rintro ⟨rfl, rfl⟩
    refine ⟨by split <;> simp, ?_⟩
    unfold skipIf
    simp only [hstarts]
    by_cases h : cs.head? = some c <;> simp [h]

theorem takes_shorten_iff {rest' : List Char} {hlt : rest'.length < cs.length}
    {r : Except ε (α × { x : List Char // x.length ≤ rest'.length })} {a : α} {h} :
    shorten hlt r = .ok (a, ⟨rest, h⟩) ↔ ∃ h', r = .ok (a, ⟨rest, h'⟩) := by
  constructor
  · intro heq
    cases r with
    | error e => cases heq
    | ok taken =>
      obtain ⟨b, x, hx⟩ := taken
      cases heq
      exact ⟨hx, rfl⟩
  · rintro ⟨h', rfl⟩
    rfl

end TextReader

namespace Pattern

open TextReader

variable {α β : Type} {k : Nat} {m : Reader α} {f : α → Reader β}

/-! ### Readers before the closing anchor -/

/-- What stands behind a value that is compiled. -/
def closing : List Char := [')', '$']

/-- The reader leaves an end of the text, and if that is at least `k` characters and the
    closing anchor, it takes the same without the anchor. -/
structure Local (k : Nat) (m : Reader α) : Prop where
  suffix : ∀ {cs a rest}, m.Takes cs a rest → rest <:+ cs
  alone : ∀ {cs a rest}, m.Takes (cs ++ closing) a (rest ++ closing) → k ≤ rest.length →
    m.Takes cs a rest

/-- The reader passes over something, unless nothing is left. -/
def Consumes (m : Reader α) : Prop :=
  ∀ {cs a rest}, m.Takes cs a rest → rest ≠ [] → rest.length < cs.length

theorem exists_of_append_closing_suffix {rest mid : List Char} (h : rest ++ closing <:+ mid) :
    ∃ front, mid = front ++ closing ∧ rest <:+ front := by
  obtain ⟨before, rfl⟩ := h
  exact ⟨before ++ rest, by rw [List.append_assoc], List.suffix_append _ _⟩

theorem append_closing_eq_closing_iff {rest : List Char} : rest ++ closing = closing ↔ rest = [] := by
  simp [closing]

/-- What a value does not start with, it does not start with before the anchor. -/
theorem append_closing_ne_append {w cs : List Char} (hw : ')' ∉ w)
    (h : ∀ tail, cs = w ++ tail → False) : ∀ tail, cs ++ closing = w ++ tail → False := by
  induction w generalizing cs with
  | nil =>
    intro tail _
    exact h cs rfl
  | cons c w ih =>
    intro tail heq
    cases cs with
    | nil => exact hw (List.mem_cons.mpr (.inl (List.cons.inj heq).1))
    | cons d cs =>
      obtain ⟨rfl, htail⟩ := List.cons.inj heq
      refine ih (fun hmem => hw (List.mem_cons_of_mem _ hmem)) ?_ tail htail
      rintro tail rfl
      exact h tail rfl

namespace Local

protected theorem pure (a : α) : Local k (pure a : Reader α) := by
  refine ⟨?_, ?_⟩
  · intro cs b rest h
    obtain ⟨-, rfl⟩ := takes_pure_iff.mp h
    exact List.suffix_refl _
  · intro cs b rest h _
    obtain ⟨rfl, heq⟩ := takes_pure_iff.mp h
    exact takes_pure_iff.mpr ⟨rfl, List.append_cancel_right heq⟩

protected theorem fail (e : Error) : Local k (fail e : Reader α) :=
  ⟨fun h => absurd h not_takes_fail, fun h _ => absurd h not_takes_fail⟩

protected theorem lift (r : Except Error α) : Local k (lift r) := by
  refine ⟨?_, ?_⟩
  · intro cs b rest h
    obtain ⟨-, rfl⟩ := takes_lift_iff.mp h
    exact List.suffix_refl _
  · intro cs b rest h _
    obtain ⟨hr, heq⟩ := takes_lift_iff.mp h
    exact takes_lift_iff.mpr ⟨hr, List.append_cancel_right heq⟩

/-- One reader after the other. -/
protected theorem bind (hm : Local k m) (hf : ∀ a, Local k (f a)) : Local k (m >>= f) := by
  refine ⟨?_, ?_⟩
  · intro cs b rest h
    obtain ⟨a, mid, hm', hf'⟩ := takes_bind_iff.mp h
    exact ((hf a).suffix hf').trans (hm.suffix hm')
  · intro cs b rest h hlen
    obtain ⟨a, mid, hm', hf'⟩ := takes_bind_iff.mp h
    -- The second reader leaves the anchor, so the first has stopped before it too.
    obtain ⟨front, rfl, hsuffix⟩ := exists_of_append_closing_suffix ((hf a).suffix hf')
    have hle := hsuffix.length_le
    exact takes_bind_iff.mpr ⟨a, front, hm.alone hm' (by omega), (hf a).alone hf' hlen⟩

/-- A reader that looks at the next character may stand before one that passes over it. -/
theorem bind_consumes (hm : Local 1 m) (hf : ∀ a, Local 0 (f a)) (hc : ∀ a, Consumes (f a)) :
    Local 0 (m >>= f) := by
  refine ⟨?_, ?_⟩
  · intro cs b rest h
    obtain ⟨a, mid, hm', hf'⟩ := takes_bind_iff.mp h
    exact ((hf a).suffix hf').trans (hm.suffix hm')
  · intro cs b rest h hlen
    obtain ⟨a, mid, hm', hf'⟩ := takes_bind_iff.mp h
    obtain ⟨front, rfl, -⟩ := exists_of_append_closing_suffix ((hf a).suffix hf')
    -- What the second reader passes over is of the value, so `m` has left something of it.
    have hlt := hc a hf' (by simp [closing])
    rw [List.length_append, List.length_append] at hlt
    exact takes_bind_iff.mpr ⟨a, front, hm.alone hm' (by omega), (hf a).alone hf' hlen⟩

/-- The next character can be told if it is one of the value. -/
protected theorem look : Local 1 (look : Reader _) := by
  refine ⟨?_, ?_⟩
  · intro cs x rest h
    obtain ⟨-, rfl⟩ := takes_look_iff.mp h
    exact List.suffix_refl _
  · intro cs x rest h hlen
    obtain ⟨hx, heq⟩ := takes_look_iff.mp h
    obtain rfl := List.append_cancel_right heq
    refine takes_look_iff.mpr ⟨?_, rfl⟩
    cases rest with
    | nil => cases hlen
    | cons c rest => exact hx

/-- Looking at the next character does not matter if nothing is made of the anchor. -/
theorem look_bind {f : Option Char → Reader β} (hf : ∀ x, Local 0 (f x))
    (hend : ∀ b, ¬ (f (some ')')).Takes closing b closing) : Local 0 (look >>= f) := by
  refine ⟨?_, ?_⟩
  · intro cs b rest h
    obtain ⟨x, mid, hx, hf'⟩ := takes_bind_iff.mp h
    obtain ⟨rfl, rfl⟩ := takes_look_iff.mp hx
    exact (hf _).suffix hf'
  · intro cs b rest h hlen
    obtain ⟨x, mid, hx, hf'⟩ := takes_bind_iff.mp h
    obtain ⟨rfl, rfl⟩ := takes_look_iff.mp hx
    cases cs with
    | nil =>
      -- At the end of the value the parenthesis is seen, of which nothing is made.
      have hsuffix := (hf _).suffix hf'
      have hnil : rest = [] := by
        have hle := hsuffix.length_le
        rw [List.nil_append, List.length_append] at hle
        exact List.length_eq_zero_iff.mp (by omega)
      rw [hnil] at hf'
      exact absurd hf' (hend b)
    | cons c cs =>
      exact takes_bind_iff.mpr ⟨_, _, takes_look_iff.mpr ⟨rfl, rfl⟩, (hf _).alone hf' hlen⟩

protected theorem skip : Local k (skip : Reader _) := by
  refine ⟨?_, ?_⟩
  · intro cs x rest h
    rw [takes_skip_iff.mp h]
    exact List.drop_suffix 1 cs
  · intro cs x rest h _
    have heq := takes_skip_iff.mp h
    refine takes_skip_iff.mpr ?_
    cases cs with
    | nil =>
      -- Passing over the parenthesis would leave no anchor.
      have hlength := congrArg List.length heq
      simp [closing] at hlength
    | cons c cs => exact List.append_cancel_right heq

protected theorem skipIf {c : Char} (hc : c ≠ ')') : Local k (skipIf [c] : Reader _) := by
  refine ⟨?_, ?_⟩
  · intro cs x rest h
    rw [(takes_skipIf_iff.mp h).2]
    split
    · exact List.drop_suffix 1 cs
    · exact List.suffix_refl cs
  · intro cs x rest h _
    obtain ⟨hx, heq⟩ := takes_skipIf_iff.mp h
    refine takes_skipIf_iff.mpr ?_
    cases cs with
    | nil =>
      have hne : ¬ (([] : List Char) ++ closing).head? = some c := by
        intro h
        exact hc (Option.some.inj h).symm
      rw [if_neg hne] at heq
      rw [decide_eq_false hne] at hx
      refine ⟨hx, ?_⟩
      exact append_closing_eq_closing_iff.mp heq
    | cons d cs =>
      refine ⟨hx, ?_⟩
      split at heq
      · next hd =>
        rw [if_pos (by exact hd)]
        exact List.append_cancel_right heq
      · next hd =>
        rw [if_neg (by exact hd)]
        exact List.append_cancel_right heq

/-- A text that is left before the anchor by a `dropWhile` is left without it. -/
theorem takeWhile_of_dropWhile {p : Char → Bool} {cs rest : List Char}
    (h : (cs ++ closing).dropWhile p = rest ++ closing) :
    cs.dropWhile p = rest ∧ cs.takeWhile p = (cs ++ closing).takeWhile p := by
  induction cs with
  | nil =>
    cases hp : p ')' with
    | true =>
      -- With the parenthesis the anchor would be gone.
      have hle : ((closing).dropWhile p).length ≤ 1 := by
        rw [closing, List.dropWhile_cons_of_pos hp]
        exact (List.dropWhile_suffix p).length_le
      rw [List.nil_append] at h
      rw [h] at hle
      simp [closing] at hle
    | false =>
      rw [List.nil_append, closing, List.dropWhile_cons_of_neg (by simp [hp])] at h
      refine ⟨(append_closing_eq_closing_iff.mp h.symm).symm, ?_⟩
      rw [List.nil_append, closing, List.takeWhile_cons_of_neg (by simp [hp])]
      rfl
  | cons c cs ih =>
    cases hp : p c with
    | true =>
      rw [List.cons_append, List.dropWhile_cons_of_pos hp] at h
      obtain ⟨hdrop, htake⟩ := ih h
      rw [List.dropWhile_cons_of_pos hp, List.takeWhile_cons_of_pos hp, List.cons_append,
        List.takeWhile_cons_of_pos hp, htake]
      exact ⟨hdrop, rfl⟩
    | false =>
      have hn : ¬ p c = true := by simp [hp]
      rw [List.cons_append, List.dropWhile_cons_of_neg hn, ← List.cons_append] at h
      rw [List.dropWhile_cons_of_neg hn, List.takeWhile_cons_of_neg hn, List.cons_append,
        List.takeWhile_cons_of_neg hn]
      exact ⟨List.append_cancel_right h, rfl⟩

protected theorem takeWhile (p : Char → Bool) : Local k (takeWhile p : Reader _) := by
  refine ⟨?_, ?_⟩
  · intro cs x rest h
    rw [(takes_takeWhile_iff.mp h).2]
    exact List.dropWhile_suffix p
  · intro cs x rest h _
    obtain ⟨rfl, heq⟩ := takes_takeWhile_iff.mp h
    obtain ⟨hdrop, htake⟩ := takeWhile_of_dropWhile heq.symm
    exact takes_takeWhile_iff.mpr ⟨htake.symm, hdrop.symm⟩

end Local

namespace Consumes

theorem bind_left (hm : Consumes m) : Consumes (m >>= f) := by
  intro cs b rest h hne
  obtain ⟨a, mid, hm', hf'⟩ := takes_bind_iff.mp h
  have hle := hf'.length_le
  have hmid : mid ≠ [] := by
    rintro rfl
    exact hne (List.length_eq_zero_iff.mp (Nat.le_zero.mp hle))
  have hlt := hm hm' hmid
  omega

theorem bind_right (hf : ∀ a, Consumes (f a)) : Consumes (m >>= f) := by
  intro cs b rest h hne
  obtain ⟨a, mid, hm', hf'⟩ := takes_bind_iff.mp h
  have hlt := hf a hf' hne
  have hle := hm'.length_le
  omega

protected theorem fail (e : Error) : Consumes (fail e : Reader α) :=
  fun h _ => absurd h not_takes_fail

protected theorem skip : Consumes (skip : Reader _) := by
  intro cs x rest h hne
  rw [takes_skip_iff.mp h] at hne ⊢
  cases cs with
  | nil => exact absurd rfl hne
  | cons c cs => exact Nat.lt_succ_self _

/-- A reader that passes over something does not leave the anchor at the end of a value. -/
theorem not_takes_closing (h : Consumes m) (a : α) : ¬ m.Takes closing a closing := by
  intro htakes
  exact Nat.lt_irrefl _ (h htakes (by simp [closing]))

end Consumes

end Pattern

end LabelSelector
