import LabelSelector.Proofs.Route
import Mathlib.Data.Set.Lattice

/-! # Running a route

  A run moves a set of places along a route, and leaves out what an earlier run with the
  same memory has answered. `Route.Knows` says what a memory stands for: the set of places
  that the route has been run from. Three facts about a run follow from it:

  - afterwards the memory also stands for the places of this run,
  - all places that it answers are led to,
  - all places that are led to are answered now or were before.

  A loop takes steps until no new place is found, so the places it has started from are
  closed under its body.
-/

namespace LabelSelector.Regex

open Relation (Comp TransGen ReflTransGen)

namespace Route

/-! ### Images of sets of places -/

/-- The places that a route leads to from a set of places. -/
def image (r : Route) (A : Set Nat) : Set Nat := {j | ∃ i ∈ A, r.Leads i j}

/-- The places that any number of steps along a route lead to. -/
def closure (r : Route) (A : Set Nat) : Set Nat := {j | ∃ i ∈ A, ReflTransGen r.Leads i j}

variable {r a b : Route} {A B : Set Nat}

theorem image_mono (h : A ⊆ B) : r.image A ⊆ r.image B := by
  rintro j ⟨i, hi, hlead⟩
  exact ⟨i, h hi, hlead⟩

theorem image_empty : r.image ∅ = ∅ := by
  ext j
  simp [image]

theorem image_seq : (Route.seq a b).image A = b.image (a.image A) := by
  ext j
  constructor
  · rintro ⟨i, hi, k, hik, hkj⟩
    exact ⟨k, ⟨i, hi, hik⟩, hkj⟩
  · rintro ⟨k, ⟨i, hi, hik⟩, hkj⟩
    exact ⟨i, hi, k, hik, hkj⟩

theorem image_alt : (Route.alt a b).image A = a.image A ∪ b.image A := by
  ext j
  constructor
  · rintro ⟨i, hi, h | h⟩
    · exact .inl ⟨i, hi, h⟩
    · exact .inr ⟨i, hi, h⟩
  · rintro (⟨i, hi, h⟩ | ⟨i, hi, h⟩)
    · exact ⟨i, hi, .inl h⟩
    · exact ⟨i, hi, .inr h⟩

/-- A loop is one more step behind any number of them. -/
theorem image_loop : (Route.loop r).image A = r.image (r.closure A) := by
  ext j
  constructor
  · rintro ⟨i, hi, h⟩
    obtain ⟨k, hik, hkj⟩ := TransGen.tail'_iff.mp h
    exact ⟨k, ⟨i, hi, hik⟩, hkj⟩
  · rintro ⟨k, ⟨i, hi, hik⟩, hkj⟩
    exact ⟨i, hi, TransGen.tail'_iff.mpr ⟨k, hik, hkj⟩⟩

theorem subset_closure : A ⊆ r.closure A := fun i hi => ⟨i, hi, .refl⟩

theorem closure_mono (h : A ⊆ B) : r.closure A ⊆ r.closure B := by
  rintro j ⟨i, hi, hlead⟩
  exact ⟨i, h hi, hlead⟩

theorem closure_empty : r.closure ∅ = ∅ := by
  ext j
  simp [closure]

/-- No step leads out of a closure. -/
theorem image_closure_subset : r.image (r.closure A) ⊆ r.closure A := by
  rintro j ⟨k, ⟨i, hi, hik⟩, hkj⟩
  exact ⟨i, hi, hik.tail hkj⟩

/-- What holds the places and is closed under steps holds the closure. -/
theorem closure_subset (hA : A ⊆ B) (hB : r.image B ⊆ B) : r.closure A ⊆ B := by
  rintro j ⟨i, hi, h⟩
  induction h with
  | refl => exact hA hi
  | tail _ hstep ih => exact hB ⟨_, ih, hstep⟩

/-! ### Routes within a text -/

/-- The route takes characters of a text of `n` characters only. -/
def Within (n : Nat) : Route → Prop
  | .stay | .gate _ => True
  | .pass places => ∀ i ∈ placeSet places, i < n
  | .seq a b | .alt a b => a.Within n ∧ b.Within n
  | .loop body => body.Within n

theorem Within.leads_le {n : Nat} (h : r.Within n) {i j : Nat} (hi : i ≤ n) (hlead : r.Leads i j) :
    j ≤ n := by
  induction r generalizing i j with
  | stay =>
    obtain rfl := hlead
    exact hi
  | pass places =>
    obtain ⟨hmem, rfl⟩ := hlead
    exact h i hmem
  | gate places =>
    obtain ⟨-, rfl⟩ := hlead
    exact hi
  | seq a b iha ihb =>
    obtain ⟨k, hik, hkj⟩ := hlead
    exact ihb h.2 (iha h.1 hi hik) hkj
  | alt a b iha ihb =>
    rcases hlead with hlead | hlead
    · exact iha h.1 hi hlead
    · exact ihb h.2 hi hlead
  | loop body ih =>
    induction hlead with
    | single hstep => exact ih h hi hstep
    | tail _ hstep ih' => exact ih h ih' hstep

theorem Within.image_le {n : Nat} (h : r.Within n) (hA : ∀ i ∈ A, i ≤ n) :
    ∀ j ∈ r.image A, j ≤ n := by
  rintro j ⟨i, hi, hlead⟩
  exact h.leads_le (hA i hi) hlead

theorem Within.closure_le {n : Nat} (h : r.Within n) (hA : ∀ i ∈ A, i ≤ n) :
    ∀ j ∈ r.closure A, j ≤ n := by
  rintro j ⟨i, hi, hlead⟩
  induction hlead with
  | refl => exact hA i hi
  | tail _ hstep ih => exact h.leads_le ih hstep

theorem Within.times {n : Nat} (h : r.Within n) (k : Nat) : (r.times k).Within n := by
  fun_induction Route.times r k with
  | case1 => trivial
  | case2 => exact h
  | case3 k hzero hone half heven =>
    rename_i ih
    exact ⟨ih, ih⟩
  | case4 k hzero hone half hodd =>
    rename_i ih
    exact ⟨h, ih, ih⟩

theorem Within.repeated {n : Nat} (h : r.Within n) (min : Nat) (max : Option Nat) :
    (r.repeated min max).Within n := by
  have hoptional : (Route.alt .stay r).Within n := ⟨trivial, h⟩
  unfold Route.repeated
  split
  · exact ⟨trivial, h⟩
  · exact h
  · exact ⟨h.times _, h⟩
  · exact ⟨h.times _, hoptional.times _⟩

/-! ### What a memory stands for -/

/-- With the memory `m`, the route has been run from the places `A`. -/
def Knows : Route → Memory → Set Nat → Prop
  | .stay, _, _ | .pass _, _, _ | .gate _, _, _ => True
  | .seq a b, m, A => a.Knows m.first A ∧ b.Knows m.second (a.image A)
  | .alt a b, m, A => a.Knows m.first A ∧ b.Knows m.second A
  | .loop body, m, A =>
    placeSet m.started = body.closure A ∧ body.Knows m.body (body.closure A)

theorem knows_fresh (r : Route) : r.Knows .fresh ∅ := by
  induction r with
  | stay | pass places | gate places => trivial
  | seq a b iha ihb => exact ⟨iha, by rw [image_empty]; exact ihb⟩
  | alt a b iha ihb => exact ⟨iha, ihb⟩
  | loop body ih =>
    refine ⟨?_, ?_⟩
    · rw [closure_empty]
      exact placeSet_zero
    · rw [closure_empty]
      exact ih

/-- What a run from the places `s` does, when the memory `m` stands for the places `A`. -/
structure Moves (r : Route) (A : Set Nat) (s : Nat) (out : Memory × Nat) : Prop where
  /-- The memory then stands for the places of this run too. -/
  knows : r.Knows out.1 (A ∪ placeSet s)
  /-- What is answered is led to. -/
  sound : placeSet out.2 ⊆ r.image (A ∪ placeSet s)
  /-- What is led to is answered, now or before. -/
  complete : r.image (A ∪ placeSet s) ⊆ placeSet out.2 ∪ r.image A

/-- From a place that a run starts from, the route leads to what the run answers, or to
    where it led before. -/
theorem Moves.image_eq {s : Nat} {out : Memory × Nat} (h : r.Moves A s out) :
    r.image A ∪ placeSet out.2 = r.image (A ∪ placeSet s) := by
  apply Set.Subset.antisymm
  · exact Set.union_subset (image_mono Set.subset_union_left) h.sound
  · intro j hj
    exact (h.complete hj).symm

/-! ### Loops -/

/-- What holds between the steps of a loop that has been run from `A` before and is run from
    `s` now: it has `started` from some places, has `found` others, and answers `total`. -/
structure Spreading (body : Route) (n : Nat) (A : Set Nat) (s : Nat) (m : Memory)
    (started found total : Nat) : Prop where
  knows : body.Knows m (placeSet started)
  /-- Steps from where it started have been found. -/
  step : body.image (placeSet started) ⊆ placeSet started ∪ placeSet found
  /-- Everything comes from where the loop is run from. -/
  reached : placeSet started ∪ placeSet found ⊆ body.closure (A ∪ placeSet s)
  covers : A ∪ placeSet s ⊆ placeSet started ∪ placeSet found
  bounded : ∀ i ∈ placeSet started ∪ placeSet found, i ≤ n
  sound : placeSet total ⊆ body.image (placeSet started)
  complete : body.image (placeSet started) ⊆ placeSet total ∪ body.image (body.closure A)

variable {body : Route} {n : Nat}

/-- One step of a loop. -/
theorem Spreading.next {s started found total : Nat} {m : Memory} {out : Memory × Nat}
    (hbody : body.Within n) (h : Spreading body n A s m started found total)
    (hout : body.Moves (placeSet started) ((started ||| found) ^^^ started) out) :
    Spreading body n A s out.1 (started ||| found) out.2 (total ||| out.2) := by
  -- The step is taken from the places that are new.
  have hnew : placeSet started ∪ placeSet ((started ||| found) ^^^ started) =
      placeSet (started ||| found) := by
    rw [placeSet_or_xor, placeSet_or, Set.union_sdiff_self]
  have hsound : placeSet out.2 ⊆ body.image (placeSet (started ||| found)) := by
    rw [← hnew]
    exact hout.sound
  have himage : body.image (placeSet (started ||| found)) ⊆
      placeSet out.2 ∪ body.image (placeSet started) := by
    rw [← hnew]
    exact hout.complete
  have hreached : placeSet (started ||| found) ⊆ body.closure (A ∪ placeSet s) := by
    rw [placeSet_or]
    exact h.reached
  have hbounded : ∀ i ∈ placeSet (started ||| found), i ≤ n := by
    rw [placeSet_or]
    exact h.bounded
  refine ⟨?_, ?_, ?_, ?_, ?_, ?_, ?_⟩
  · rw [← hnew]
    exact hout.knows
  · intro j hj
    rcases himage hj with hj | hj
    · exact .inr hj
    · left
      rw [placeSet_or]
      exact h.step hj
  · apply Set.union_subset hreached
    exact fun j hj => image_closure_subset (image_mono hreached (hsound hj))
  · intro i hi
    left
    rw [placeSet_or]
    exact h.covers hi
  · rintro i (hi | hi)
    · exact hbounded i hi
    · exact hbody.image_le hbounded i (hsound hi)
  · rw [placeSet_or]
    apply Set.union_subset _ hsound
    intro j hj
    exact image_mono (by rw [placeSet_or]; exact Set.subset_union_left) (h.sound hj)
  · rw [placeSet_or total]
    intro j hj
    rcases himage hj with hj | hj
    · exact .inl (.inr hj)
    · rcases h.complete hj with hj | hj
      · exact .inl (.inl hj)
      · exact .inr hj

/-- A loop that finds nothing new has been run. -/
theorem Spreading.finish {s started found total : Nat} {m : Memory}
    (h : Spreading body n A s m started found total) (hdone : placeSet found ⊆ placeSet started) :
    (Route.loop body).Moves A s (.loop started m, total) := by
  have hunion : placeSet started ∪ placeSet found = placeSet started :=
    Set.union_eq_self_of_subset_right hdone
  -- The places it has started from are closed under steps.
  have hclosure : placeSet started = body.closure (A ∪ placeSet s) := by
    apply Set.Subset.antisymm
    · exact fun i hi => h.reached (.inl hi)
    · refine closure_subset ?_ ?_
      · rw [← hunion]
        exact h.covers
      · rw [← hunion]
        exact fun j hj => h.step (by rwa [hunion] at hj)
  refine ⟨⟨hclosure, ?_⟩, ?_, ?_⟩
  · rw [← hclosure]
    exact h.knows
  · rw [image_loop, ← hclosure]
    exact h.sound
  · rw [image_loop, image_loop, ← hclosure]
    exact h.complete

/-- A loop runs until it finds nothing new. -/
theorem spread_moves {step : Memory → Nat → Memory × Nat} {s : Nat} (hbody : body.Within n)
    (hstep : ∀ m (B : Set Nat) t, (∀ i ∈ B, i ≤ n) → (∀ i ∈ placeSet t, i ≤ n) →
      body.Knows m B → body.Moves B t (step m t))
    (m : Memory) (started found total : Nat) (h : Spreading body n A s m started found total) :
    (Route.loop body).Moves A s (spread step (2 ^ (n + 1)) m started found total) := by
  fun_induction spread step (2 ^ (n + 1)) m started found total with
  | case1 m started found total union hgrows m' next heq ih =>
    refine ih ?_
    have hmoves := hstep m (placeSet started) ((started ||| found) ^^^ started)
      (fun i hi => h.bounded i (.inl hi))
      (fun i hi => h.bounded i (.inr (by rw [placeSet_or_xor] at hi; exact hi.1))) h.knows
    have hnext := h.next hbody hmoves
    rw [show step m ((started ||| found) ^^^ started) = (m', next) from heq] at hnext
    exact hnext
  | case2 m started found total union hstops =>
    refine h.finish ?_
    have hlt : started ||| found < 2 ^ (n + 1) := by
      rw [lt_two_pow_iff, placeSet_or]
      exact fun i hi => Nat.lt_succ_of_le (h.bounded i hi)
    have hle : started ≤ started ||| found := Nat.left_le_or
    have heq : started ||| found = started := by
      by_contra hne
      exact hstops ⟨by omega, hlt⟩
    intro i hi
    rw [← heq, placeSet_or]
    exact .inr hi

/-! ### Runs -/

/-- A run from the places that a first part answers, if there are any, completes a run of
    both parts. -/
theorem Moves.seq {m₁ m₂ : Memory} {s s₁ s₂ : Nat} (hfirst : a.Moves A s (m₁, s₁))
    (hsecond : b.Moves (a.image A) s₁ (m₂, s₂)) : (Route.seq a b).Moves A s (.both m₁ m₂, s₂) := by
  obtain ⟨hknows, hsound, hcomplete⟩ := hsecond
  rw [hfirst.image_eq] at hknows hsound hcomplete
  refine ⟨⟨hfirst.knows, hknows⟩, ?_, ?_⟩
  · rw [image_seq]
    exact hsound
  · rw [image_seq, image_seq]
    exact hcomplete

/-- From no place at all nothing is led to, and nothing needs to be remembered. -/
theorem moves_zero {m : Memory} (hm : r.Knows m A) : r.Moves A 0 (m, 0) := by
  have hunion : A ∪ placeSet 0 = A := by rw [placeSet_zero, Set.union_empty]
  refine ⟨?_, ?_, ?_⟩
  · rw [hunion]
    exact hm
  · rw [placeSet_zero]
    exact Set.empty_subset _
  · rw [hunion]
    exact Set.subset_union_right

theorem Moves.alt {m₁ m₂ : Memory} {s s₁ s₂ : Nat} (hfirst : a.Moves A s (m₁, s₁))
    (hsecond : b.Moves A s (m₂, s₂)) : (Route.alt a b).Moves A s (.both m₁ m₂, s₁ ||| s₂) := by
  refine ⟨⟨hfirst.knows, hsecond.knows⟩, ?_, ?_⟩
  · rw [image_alt, placeSet_or]
    exact Set.union_subset_union hfirst.sound hsecond.sound
  · rw [image_alt, image_alt, placeSet_or]
    intro j hj
    rcases hj with hj | hj
    · rcases hfirst.complete hj with hj | hj
      · exact .inl (.inl hj)
      · exact .inr (.inl hj)
    · rcases hsecond.complete hj with hj | hj
      · exact .inl (.inr hj)
      · exact .inr (.inr hj)

/-- A loop goes on from where it has been run before: what it started from then is closed. -/
theorem Spreading.start {m : Memory} {s : Nat} (hbody : body.Within n) (hA : ∀ i ∈ A, i ≤ n)
    (hs : ∀ i ∈ placeSet s, i ≤ n) (hm : (Route.loop body).Knows m A) :
    Spreading body n A s m.body m.started s 0 := by
  obtain ⟨hstarted, hknows⟩ := hm
  refine ⟨?_, ?_, ?_, ?_, ?_, ?_, ?_⟩
  · rw [hstarted]
    exact hknows
  · rw [hstarted]
    exact image_closure_subset.trans Set.subset_union_left
  · rw [hstarted]
    apply Set.union_subset (closure_mono Set.subset_union_left)
    exact Set.subset_union_right.trans subset_closure
  · rw [hstarted]
    exact Set.union_subset_union subset_closure (Set.Subset.refl _)
  · rw [hstarted]
    intro i hi
    rcases hi with hi | hi
    · exact hbody.closure_le hA i hi
    · exact hs i hi
  · rw [placeSet_zero]
    exact Set.empty_subset _
  · rw [hstarted]
    exact Set.subset_union_right

/-- A run moves places along the route. -/
theorem run_moves (hr : r.Within n) (m : Memory) (s : Nat) (hA : ∀ i ∈ A, i ≤ n)
    (hs : ∀ i ∈ placeSet s, i ≤ n) (hm : r.Knows m A) :
    r.Moves A s (r.run (2 ^ (n + 1)) m s) := by
  induction r generalizing m s A with
  | stay =>
    refine ⟨trivial, ?_, ?_⟩
    · exact fun j hj => ⟨j, .inr hj, rfl⟩
    · rintro j ⟨i, hi | hi, rfl⟩
      · exact .inr ⟨j, hi, rfl⟩
      · exact .inl hi
  | pass places =>
    refine ⟨trivial, ?_, ?_⟩
    · intro j hj
      rw [run, mem_placeSet_double] at hj
      obtain ⟨i, hi, rfl⟩ := hj
      rw [placeSet_and] at hi
      exact ⟨i, .inr hi.1, hi.2, rfl⟩
    · rintro j ⟨i, hi | hi, hplace, rfl⟩
      · exact .inr ⟨i, hi, hplace, rfl⟩
      · left
        rw [run, mem_placeSet_double]
        exact ⟨i, by rw [placeSet_and]; exact ⟨hi, hplace⟩, rfl⟩
  | gate places =>
    refine ⟨trivial, ?_, ?_⟩
    · intro j hj
      rw [run, placeSet_and] at hj
      exact ⟨j, .inr hj.1, hj.2, rfl⟩
    · rintro j ⟨i, hi | hi, hplace, rfl⟩
      · exact .inr ⟨j, hi, hplace, rfl⟩
      · left
        rw [run, placeSet_and]
        exact ⟨hi, hplace⟩
  | seq a b iha ihb =>
    have hfirst := iha hr.1 m.first s hA hs hm.1
    rw [run]
    generalize a.run (2 ^ (n + 1)) m.first s = out at hfirst
    obtain ⟨m₁, s₁⟩ := out
    dsimp only
    split
    · next hzero =>
      subst hzero
      exact hfirst.seq (moves_zero hm.2)
    · -- The second part starts from places of the text, since the first leads to no others.
      have hbound : ∀ i ∈ placeSet s₁, i ≤ n := by
        intro i hi
        refine hr.1.image_le ?_ i (hfirst.sound hi)
        intro k hk
        rcases hk with hk | hk
        · exact hA k hk
        · exact hs k hk
      exact hfirst.seq (ihb hr.2 m.second s₁ (hr.1.image_le hA) hbound hm.2)
  | alt a b iha ihb =>
    rw [run]
    exact (iha hr.1 m.first s hA hs hm.1).alt (ihb hr.2 m.second s hA hs hm.2)
  | loop body ih =>
    have hbody : body.Within n := hr
    rw [run]
    apply spread_moves hbody
    · intro m B t hB ht hm
      exact ih hbody m t hB ht hm
    · exact .start hbody hA hs hm

end Route

/-! ### Matching -/

/-- The route of an expression over a text takes characters of that text only. -/
theorem within_route (e r : Regex) (text : List Char) :
    (r.route (.ofText e text)).Within text.length := by
  induction r with
  | empty | look l => trivial
  | chars unicode s =>
    intro i hi
    obtain ⟨c, hc, -⟩ := Alphabet.mem_placesOf_ofText.mp hi
    exact (List.getElem?_eq_some_iff.mp hc).1
  | seq a b iha ihb => exact ⟨iha, ihb⟩
  | alt a b iha ihb => exact ⟨iha, ihb⟩
  | rep min max greedy body ih => exact ih.repeated min max
  | group kept body ih => exact ih

/-- Running the route of an expression from all places decides whether it matches. -/
theorem isMatch_iff {r : Regex} (hr : r.Ordered) (text : List Char) :
    r.isMatch text = true ↔ r.Matches text := by
  have hlimit : allPlaces text.length + 1 = 2 ^ (text.length + 1) := by
    rw [allPlaces, Nat.pow_eq, Nat.sub_add_cancel (Nat.one_le_two_pow)]
  have hmoves : (r.route (.ofText r text)).Moves ∅ (allPlaces text.length)
      ((r.route (.ofText r text)).run (2 ^ (text.length + 1)) .fresh (allPlaces text.length)) :=
    Route.run_moves (within_route r r text) .fresh _ (by simp)
      (fun i hi => mem_placeSet_allPlaces.mp hi) (Route.knows_fresh _)
  have himage := hmoves.image_eq
  rw [Route.image_empty, Set.empty_union, Set.empty_union] at himage
  rw [isMatch, hlimit, bne_iff_ne, ne_eq, eq_zero_iff_placeSet_eq_empty, himage, ← ne_eq,
    ← Set.nonempty_iff_ne_empty]
  constructor
  · rintro ⟨j, i, hi, hlead⟩
    exact ⟨i, j, (spans_iff_leads hr).mpr ⟨mem_placeSet_allPlaces.mp hi, hlead⟩⟩
  · rintro ⟨i, j, h⟩
    obtain ⟨hi, hlead⟩ := (spans_iff_leads hr).mp h
    exact ⟨j, i, mem_placeSet_allPlaces.mpr hi, hlead⟩

end LabelSelector.Regex
