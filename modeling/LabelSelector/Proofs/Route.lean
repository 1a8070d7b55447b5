import LabelSelector.Proofs.Terrain
import Mathlib.Logic.Relation

/-! # Routes lead where expressions do

  `Route.Leads` tells from which place to which a route leads.

  - The route of an expression leads where the expression does, if no repetition of it ends
    before it starts.
  - Running a route moves a set of places along it. What a run leaves out, an earlier one
    with the same memory has answered.

  So an expression matches in a text exactly if a run from all places ends somewhere.
-/

namespace LabelSelector.Regex

open Relation (Comp TransGen ReflTransGen)

/-! ### Repetitions -/

/-- `n` steps of a relation. -/
inductive Steps (R : Nat → Nat → Prop) : Nat → Nat → Nat → Prop where
  | zero (i : Nat) : Steps R 0 i i
  | succ {n i j k : Nat} : R i j → Steps R n j k → Steps R (n + 1) i k

namespace Steps

variable {R : Nat → Nat → Prop} {m n i j k : Nat}

theorem zero_iff : Steps R 0 i j ↔ j = i := by
  constructor
  · intro h
    cases h
    rfl
  · rintro rfl
    exact .zero j

theorem one_iff : Steps R 1 i j ↔ R i j := by
  constructor
  · intro h
    cases h with
    | succ hR hzero =>
      cases hzero
      exact hR
  · intro h
    exact .succ h (.zero j)

theorem append (h : Steps R m i j) (h' : Steps R n j k) : Steps R (m + n) i k := by
  induction h with
  | zero => rwa [Nat.zero_add]
  | succ hR _ ih =>
    rw [Nat.succ_add_eq_add_succ]
    exact .succ hR (ih h')

theorem add_iff : Steps R (m + n) i k ↔ ∃ j, Steps R m i j ∧ Steps R n j k := by
  constructor
  · intro h
    induction m generalizing i with
    | zero => exact ⟨i, .zero i, by rwa [Nat.zero_add] at h⟩
    | succ m ih =>
      rw [Nat.succ_add_eq_add_succ] at h
      cases h with
      | succ hR hrest =>
        obtain ⟨j, hm, hn⟩ := ih hrest
        exact ⟨j, .succ hR hm, hn⟩
  · rintro ⟨j, hm, hn⟩
    exact hm.append hn

theorem transGen_iff : TransGen R i j ↔ ∃ n, 1 ≤ n ∧ Steps R n i j := by
  constructor
  · intro h
    induction h with
    | single hR => exact ⟨1, Nat.le_refl 1, one_iff.mpr hR⟩
    | tail _ hR ih =>
      obtain ⟨n, hn, hsteps⟩ := ih
      exact ⟨n + 1, Nat.le_add_left 1 n, hsteps.append (one_iff.mpr hR)⟩
  · rintro ⟨n, hn, h⟩
    induction h with
    | zero => cases hn
    | @succ n i j k hR hrest ih =>
      cases n with
      | zero =>
        cases hrest
        exact .single hR
      | succ n => exact .head hR (ih (Nat.le_add_left 1 n))

/-- At most `n` steps are `n` steps, each of which may be left out. -/
theorem optional_iff : Steps (fun i j => j = i ∨ R i j) n i k ↔ ∃ m ≤ n, Steps R m i k := by
  constructor
  · intro h
    induction h with
    | zero i => exact ⟨0, Nat.le_refl 0, .zero i⟩
    | succ hR _ ih =>
      obtain ⟨m, hm, hsteps⟩ := ih
      rcases hR with rfl | hR
      · exact ⟨m, Nat.le_succ_of_le hm, hsteps⟩
      · exact ⟨m + 1, Nat.succ_le_succ hm, .succ hR hsteps⟩
  · rintro ⟨m, hm, h⟩
    induction n generalizing m i with
    | zero =>
      obtain rfl := Nat.le_zero.mp hm
      cases h
      exact .zero _
    | succ n ih =>
      cases h with
      | zero => exact .succ (.inl rfl) (ih 0 (Nat.zero_le n) (.zero _))
      | @succ m _ j _ hR hrest => exact .succ (.inr hR) (ih m (Nat.le_of_succ_le_succ hm) hrest)

end Steps

/-! ### Where routes lead -/

namespace Route

/-- From which place to which a route leads. -/
def Leads : Route → Nat → Nat → Prop
  | .stay => fun i j => j = i
  | .pass places => fun i j => i ∈ placeSet places ∧ j = i + 1
  | .gate places => fun i j => i ∈ placeSet places ∧ j = i
  | .seq a b => Comp a.Leads b.Leads
  | .alt a b => fun i j => a.Leads i j ∨ b.Leads i j
  | .loop body => TransGen body.Leads

theorem leads_times (r : Route) (n : Nat) {i j : Nat} :
    (r.times n).Leads i j ↔ Steps r.Leads n i j := by
  fun_induction times r n generalizing i j with
  | case1 => exact Steps.zero_iff.symm
  | case2 => exact Steps.one_iff.symm
  | case3 n hzero hone half heven =>
    rename_i ih
    have hn : n = n / 2 + n / 2 := by omega
    rw [hn, Steps.add_iff]
    exact exists_congr fun _ => and_congr ih ih
  | case4 n hzero hone half hodd =>
    rename_i ih
    have hn : n = 1 + (n / 2 + n / 2) := by omega
    rw [hn, Steps.add_iff]
    refine exists_congr fun _ => and_congr Steps.one_iff.symm ?_
    rw [Steps.add_iff]
    exact exists_congr fun _ => and_congr ih ih

/-- A repetition leads where some number of steps within its bounds does. -/
theorem leads_repeated (r : Route) {min : Nat} {max : Option Nat} (hle : ∀ m ∈ max, min ≤ m)
    {i j : Nat} :
    (r.repeated min max).Leads i j ↔
      ∃ n, min ≤ n ∧ (∀ m ∈ max, n ≤ m) ∧ Steps r.Leads n i j := by
  match min, max, hle with
  | 0, none, _ =>
    -- No step at all, or some.
    simp only [repeated, Leads, Steps.transGen_iff, Nat.zero_le, true_and, Option.not_mem_none,
      false_implies, implies_true]
    constructor
    · rintro (rfl | ⟨n, -, h⟩)
      · exact ⟨0, .zero j⟩
      · exact ⟨n, h⟩
    · rintro ⟨n, h⟩
      cases n with
      | zero => exact .inl (Steps.zero_iff.mp h)
      | succ n => exact .inr ⟨n + 1, Nat.le_add_left 1 n, h⟩
  | 1, none, _ =>
    simp only [repeated, Leads, Steps.transGen_iff, Option.not_mem_none, false_implies,
      implies_true, true_and]
  | min + 2, none, _ =>
    simp only [repeated, Leads, Comp, leads_times, Steps.transGen_iff, Option.not_mem_none,
      false_implies, implies_true, true_and]
    constructor
    · rintro ⟨k, hfirst, n, hn, hrest⟩
      exact ⟨min + 1 + n, by omega, hfirst.append hrest⟩
    · rintro ⟨n, hn, h⟩
      obtain ⟨m, rfl⟩ : ∃ m, n = min + 1 + m := ⟨n - (min + 1), by omega⟩
      obtain ⟨k, hfirst, hrest⟩ := Steps.add_iff.mp h
      exact ⟨k, hfirst, m, by omega, hrest⟩
  | min, some max, hle =>
    have hle' : min ≤ max := hle max rfl
    have hrepeated : r.repeated min (some max) =
        .seq (r.times min) ((Route.alt .stay r).times (max - min)) := by
      unfold repeated
      split <;> simp_all
    rw [hrepeated]
    simp only [Leads, Comp, leads_times, Steps.optional_iff, Option.mem_some_iff, forall_eq']
    constructor
    · rintro ⟨k, hfirst, m, hm, hrest⟩
      exact ⟨min + m, by omega, by omega, hfirst.append hrest⟩
    · rintro ⟨n, hmin, hmax, h⟩
      obtain ⟨m, rfl⟩ : ∃ m, n = min + m := ⟨n - min, by omega⟩
      obtain ⟨k, hfirst, hrest⟩ := Steps.add_iff.mp h
      exact ⟨k, hfirst, m, by omega, hrest⟩

end Route

/-! ### Where expressions lead -/

/-- No repetition ends before it starts. -/
def Ordered : Regex → Prop
  | .empty | .chars _ _ | .look _ => True
  | .seq a b | .alt a b => a.Ordered ∧ b.Ordered
  | .rep min max _ body => (∀ m ∈ max, min ≤ m) ∧ body.Ordered
  | .group _ body => body.Ordered

section

variable {text : List Char} {r : Regex} {i j : Nat}

/-- Expressions do not lead out of the text. -/
theorem Spans.le_length (h : Spans text r i j) : i ≤ text.length ∧ j ≤ text.length := by
  induction h with
  | empty hi => exact ⟨hi, hi⟩
  | chars hc =>
    have hlt := (List.getElem?_eq_some_iff.mp hc).1
    exact ⟨Nat.le_of_lt hlt, hlt⟩
  | look hi => exact ⟨hi, hi⟩
  | seq _ _ ih₁ ih₂ => exact ⟨ih₁.1, ih₂.2⟩
  | altLeft _ ih | altRight _ ih | group _ ih => exact ih
  | repNone hi => exact ⟨hi, hi⟩
  | repOne _ _ _ ih₁ ih₂ => exact ⟨ih₁.1, ih₂.2⟩

theorem spans_empty_iff : Spans text .empty i j ↔ i ≤ text.length ∧ j = i := by
  constructor
  · intro h
    cases h with
    | empty hi => exact ⟨hi, rfl⟩
  · rintro ⟨hi, rfl⟩
    exact .empty hi

theorem spans_chars_iff {unicode : Bool} {s : Unicode.CharSet} :
    Spans text (.chars unicode s) i j ↔
      (∃ c, text[i]? = some c ∧ s.contains c = true) ∧ j = i + 1 := by
  constructor
  · intro h
    cases h with
    | chars hc hs => exact ⟨⟨_, hc, hs⟩, rfl⟩
  · rintro ⟨⟨c, hc, hs⟩, rfl⟩
    exact .chars hc hs

theorem spans_look_iff {l : Look} :
    Spans text (.look l) i j ↔
      (i ≤ text.length ∧ l.holds (charBefore text i) text[i]? = true) ∧ j = i := by
  constructor
  · intro h
    cases h with
    | look hi hl => exact ⟨⟨hi, hl⟩, rfl⟩
  · rintro ⟨⟨hi, hl⟩, rfl⟩
    exact .look hi hl

theorem spans_seq_iff {a b : Regex} :
    Spans text (.seq a b) i j ↔ Comp (Spans text a) (Spans text b) i j := by
  constructor
  · intro h
    cases h with
    | seq h₁ h₂ => exact ⟨_, h₁, h₂⟩
  · rintro ⟨k, h₁, h₂⟩
    exact .seq h₁ h₂

theorem spans_alt_iff {a b : Regex} :
    Spans text (.alt a b) i j ↔ Spans text a i j ∨ Spans text b i j := by
  constructor
  · intro h
    cases h with
    | altLeft h => exact .inl h
    | altRight h => exact .inr h
  · rintro (h | h)
    · exact .altLeft h
    · exact .altRight h

theorem spans_group_iff {kept : Bool} : Spans text (.group kept r) i j ↔ Spans text r i j := by
  constructor
  · intro h
    cases h with
    | group h => exact h
  · exact .group

/-- A repetition is some number of steps within its bounds. -/
theorem spans_rep_iff {min : Nat} {max : Option Nat} {greedy : Bool} :
    Spans text (.rep min max greedy r) i j ↔
      i ≤ text.length ∧ ∃ n, min ≤ n ∧ (∀ m ∈ max, n ≤ m) ∧ Steps (Spans text r) n i j := by
  constructor
  · intro h
    refine ⟨h.le_length.1, ?_⟩
    generalize hrep : Regex.rep min max greedy r = e at h
    induction h generalizing min max with
    | repNone hi =>
      cases hrep
      exact ⟨0, Nat.le_refl 0, fun _ _ => Nat.zero_le _, .zero _⟩
    | repOne hm h₁ _ _ ih =>
      cases hrep
      obtain ⟨n, hmin, hmax, hsteps⟩ := ih rfl
      refine ⟨n + 1, by omega, ?_, .succ h₁ hsteps⟩
      -- One step more is allowed, since the upper bound has been lowered by one.
      intro m hm'
      have hne : m ≠ 0 := by
        rintro rfl
        exact hm hm'
      have hle := hmax (m - 1) (by rw [Option.mem_def.mp hm']; rfl)
      omega
    | empty | chars | look | seq | altLeft | altRight | group => cases hrep
  · rintro ⟨hi, n, hmin, hmax, hsteps⟩
    induction hsteps generalizing min max with
    | zero i =>
      obtain rfl := Nat.le_zero.mp hmin
      exact .repNone hi
    | succ h₁ _ ih =>
      refine .repOne ?_ h₁ (ih h₁.le_length.2 (by omega) ?_)
      · intro hzero
        have hle := hmax 0 (by rw [hzero]; rfl)
        omega
      · intro m hm
        obtain ⟨m', hm', rfl⟩ := Option.map_eq_some_iff.mp hm
        have hle := hmax m' hm'
        omega

/-- Steps that start in the text stay in it. -/
theorem steps_spans_iff {R : Nat → Nat → Prop} {n : Nat}
    (hR : ∀ {i j}, Spans text r i j ↔ i ≤ text.length ∧ R i j) (hi : i ≤ text.length) :
    Steps (Spans text r) n i j ↔ Steps R n i j := by
  constructor
  · intro h
    induction h with
    | zero i => exact .zero i
    | succ h₁ _ ih => exact .succ (hR.mp h₁).2 (ih h₁.le_length.2)
  · intro h
    induction h with
    | zero i => exact .zero i
    | succ h₁ _ ih =>
      have h₁' := hR.mpr ⟨hi, h₁⟩
      exact .succ h₁' (ih h₁'.le_length.2)

/-- The route of an expression leads where the expression does. -/
theorem spans_iff_leads {e : Regex} (hr : r.Ordered) :
    Spans text r i j ↔ i ≤ text.length ∧ (r.route (.ofText e text)).Leads i j := by
  induction r generalizing i j with
  | empty => exact spans_empty_iff
  | chars unicode s =>
    rw [spans_chars_iff, route, Route.Leads]
    simp only [Terrain.ofText, Alphabet.mem_placesOf_ofText]
    refine ⟨fun h => ⟨?_, h⟩, fun h => h.2⟩
    obtain ⟨⟨c, hc, -⟩, -⟩ := h
    exact Nat.le_of_lt (List.getElem?_eq_some_iff.mp hc).1
  | look l =>
    rw [spans_look_iff, route, Route.Leads]
    simp only [Terrain.placesAt_ofText, mem_placesWhere_none]
    exact ⟨fun h => ⟨h.1.1, h⟩, fun h => h.2⟩
  | seq a b iha ihb =>
    rw [spans_seq_iff, route, Route.Leads]
    constructor
    · rintro ⟨k, ha, hb⟩
      have ha' := (iha hr.1).mp ha
      exact ⟨ha'.1, k, ha'.2, ((ihb hr.2).mp hb).2⟩
    · rintro ⟨hi, k, ha, hb⟩
      have ha' := (iha hr.1).mpr ⟨hi, ha⟩
      exact ⟨k, ha', (ihb hr.2).mpr ⟨ha'.le_length.2, hb⟩⟩
  | alt a b iha ihb =>
    rw [spans_alt_iff, route, Route.Leads, iha hr.1, ihb hr.2, and_or_left]
  | rep min max greedy body ih =>
    rw [spans_rep_iff, route, Route.leads_repeated _ hr.1]
    exact and_congr_right fun hi => exists_congr fun n => and_congr_right fun _ =>
      and_congr_right fun _ => steps_spans_iff (ih hr.2) hi
  | group kept body ih => rw [spans_group_iff, ih hr, route]

end

end LabelSelector.Regex
