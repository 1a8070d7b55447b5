import LabelSelector.Pattern.Match
import Mathlib.Algebra.Group.Nat.Defs
import Mathlib.Data.Set.Basic

/-! # Places of a text

  A set of places is kept as a number. What such a number stands for is said here once,
  for every way in which one is made:

  - the places where a condition holds, or where a character of a set stands,
  - union, intersection, what one set has and another has not, and one place on.
-/

namespace LabelSelector.Regex

open Unicode (CharSet)

/-! ### Numbers as sets -/

/-- The places that a number stands for. -/
def placeSet (s : Nat) : Set Nat := {i | s.testBit i = true}

theorem mem_placeSet {s i : Nat} : i ∈ placeSet s ↔ s.testBit i = true := Iff.rfl

@[simp] theorem placeSet_zero : placeSet 0 = ∅ := by
  ext i
  simp [mem_placeSet]

theorem placeSet_or (s t : Nat) : placeSet (s ||| t) = placeSet s ∪ placeSet t := by
  ext i
  simp [mem_placeSet, Nat.testBit_or]

theorem placeSet_and (s t : Nat) : placeSet (s &&& t) = placeSet s ∩ placeSet t := by
  ext i
  simp [mem_placeSet, Nat.testBit_and]

/-- What a union has and one of its parts has not. -/
theorem placeSet_or_xor (s t : Nat) : placeSet ((s ||| t) ^^^ s) = placeSet t \ placeSet s := by
  ext i
  simp only [mem_placeSet, Nat.testBit_xor, Nat.testBit_or, Set.mem_sdiff]
  cases s.testBit i <;> cases t.testBit i <;> simp

/-- Doubling goes one place on. -/
theorem mem_placeSet_double {s j : Nat} : j ∈ placeSet (2 * s) ↔ ∃ i ∈ placeSet s, j = i + 1 := by
  rw [mem_placeSet]
  cases j with
  | zero => simp [Nat.testBit_zero]
  | succ i =>
    rw [Nat.testBit_succ, Nat.mul_div_cancel_left s (by decide : 0 < 2)]
    simp [mem_placeSet]

/-- All places up to `n`. -/
theorem mem_placeSet_allPlaces {n i : Nat} : i ∈ placeSet (allPlaces n) ↔ i ≤ n := by
  rw [mem_placeSet, allPlaces, Nat.pow_eq, Nat.testBit_two_pow_sub_one, decide_eq_true_eq,
    Nat.lt_succ_iff]

/-- Numbers below a power of two stand for places below its exponent. -/
theorem lt_two_pow_iff {s n : Nat} : s < 2 ^ n ↔ ∀ i ∈ placeSet s, i < n := by
  constructor
  · intro h i hi
    by_contra hle
    have hlt : s < 2 ^ i := Nat.lt_of_lt_of_le h (Nat.pow_le_pow_right (by decide) (by omega))
    rw [mem_placeSet, Nat.testBit_lt_two_pow hlt] at hi
    cases hi
  · intro h
    apply Nat.lt_pow_two_of_testBit
    intro i hi
    by_contra htrue
    have hmem : i ∈ placeSet s := by simpa [mem_placeSet] using htrue
    have hlt := h i hmem
    omega

theorem eq_zero_iff_placeSet_eq_empty {s : Nat} : s = 0 ↔ placeSet s = ∅ := by
  constructor
  · rintro rfl
    exact placeSet_zero
  · intro h
    apply Nat.eq_of_testBit_eq
    intro i
    have hi : i ∉ placeSet s := by simp [h]
    simpa [mem_placeSet] using hi

/-! ### Conditions -/

theorem testBit_double_add (s : Nat) (b : Bool) (i : Nat) :
    (2 * s + b.toNat).testBit i = if i = 0 then b else s.testBit (i - 1) := by
  cases i with
  | zero => cases b <;> simp [Nat.testBit_zero]
  | succ i =>
    have hhalf : (2 * s + b.toNat) / 2 = s := by
      have hle := Bool.toNat_le b
      omega
    rw [Nat.testBit_succ, hhalf]
    simp

/-- The places of a text where a condition holds, with a character before it or none. -/
theorem mem_placesWhere {l : Look} {before : Option Char} {cs : List Char} {i : Nat} :
    i ∈ placeSet (placesWhere l before cs) ↔
      i ≤ cs.length ∧ l.holds (if i = 0 then before else cs[i - 1]?) cs[i]? = true := by
  rw [mem_placeSet]
  induction cs generalizing before i with
  | nil =>
    rw [placesWhere]
    cases i with
    | zero => cases h : l.holds before none <;> simp [h]
    | succ i =>
      cases l.holds before none <;> simp [Nat.testBit_succ]
  | cons c cs ih =>
    rw [placesWhere, testBit_double_add]
    cases i with
    | zero => simp
    | succ i =>
      have hbefore : (if i = 0 then some c else cs[i - 1]?) = (c :: cs)[i]? := by
        cases i <;> simp
      rw [if_neg (Nat.succ_ne_zero i), Nat.add_sub_cancel, ih, hbefore]
      simp

/-- The places of a whole text where a condition holds. -/
theorem mem_placesWhere_none {l : Look} {text : List Char} {i : Nat} :
    i ∈ placeSet (placesWhere l none text) ↔
      i ≤ text.length ∧ l.holds (charBefore text i) text[i]? = true := mem_placesWhere

/-! ### Characters -/

namespace Alphabet

/-- The character `c` stands at place `i`. -/
def Stands (a : Alphabet) (i : Nat) (c : Char) : Prop :=
  ∃ s, (c, s) ∈ a ∧ i ∈ placeSet s

theorem stands_cons_iff {d : Char} {s : Nat} {rest : Alphabet} {i : Nat} {c : Char} :
    Stands ((d, s) :: rest) i c ↔ (c = d ∧ i ∈ placeSet s) ∨ Stands rest i c := by
  constructor
  · rintro ⟨s', hmem, hi⟩
    rcases List.mem_cons.mp hmem with heq | hmem
    · obtain ⟨rfl, rfl⟩ := Prod.mk.inj heq
      exact .inl ⟨rfl, hi⟩
    · exact .inr ⟨s', hmem, hi⟩
  · rintro (⟨rfl, hi⟩ | ⟨s', hmem, hi⟩)
    · exact ⟨s, List.mem_cons_self, hi⟩
    · exact ⟨s', List.mem_cons_of_mem _ hmem, hi⟩

theorem stands_insert_iff {a : Alphabet} {c d : Char} {bit i : Nat} :
    (a.insert c bit).Stands i d ↔ a.Stands i d ∨ (d = c ∧ i ∈ placeSet bit) := by
  induction a with
  | nil =>
    rw [insert, stands_cons_iff, or_comm]
  | cons entry rest ih =>
    obtain ⟨e, s⟩ := entry
    rw [insert]
    split
    · next heq =>
      -- The places of `c` are added to those it has.
      subst heq
      rw [stands_cons_iff, stands_cons_iff, placeSet_or, Set.mem_union, and_or_left, or_right_comm]
    · rw [stands_cons_iff, stands_cons_iff, ih, or_assoc]

theorem stands_ofText_iff {a : Alphabet} {k : Nat} {cs : List Char} {i : Nat} {c : Char} :
    (ofText a (2 ^ k) cs).Stands i c ↔ a.Stands i c ∨ (k ≤ i ∧ cs[i - k]? = some c) := by
  induction cs generalizing a k with
  | nil => simp [ofText]
  | cons d cs ih =>
    have hbit : i ∈ placeSet (2 ^ k) ↔ i = k := by
      rw [mem_placeSet, Nat.testBit_two_pow, decide_eq_true_eq, eq_comm]
    rw [ofText, ← Nat.pow_succ', ih, stands_insert_iff, hbit, or_assoc]
    refine or_congr_right ?_
    -- The first character stands at `k`, the others behind it.
    constructor
    · rintro (⟨rfl, rfl⟩ | ⟨hle, hc⟩)
      · simp
      · refine ⟨by omega, ?_⟩
        rw [show i - k = (i - (k + 1)) + 1 by omega, List.getElem?_cons_succ]
        exact hc
    · rintro ⟨hle, hc⟩
      by_cases hik : i = k
      · left
        rw [hik] at hc
        simp only [Nat.sub_self, List.getElem?_cons_zero, Option.some.injEq] at hc
        exact ⟨hc.symm, hik⟩
      · right
        refine ⟨by omega, ?_⟩
        rw [show i - k = (i - (k + 1)) + 1 by omega, List.getElem?_cons_succ] at hc
        exact hc

theorem mem_placesOf {a : Alphabet} {s : CharSet} {i : Nat} :
    i ∈ placeSet (a.placesOf s) ↔ ∃ c, a.Stands i c ∧ s.contains c = true := by
  have hfold : ∀ (a : Alphabet) (t : Nat), i ∈ placeSet (a.foldl (fun places entry =>
      if s.contains entry.1 then places ||| entry.2 else places) t) ↔
      i ∈ placeSet t ∨ ∃ c, a.Stands i c ∧ s.contains c = true := by
    intro a
    induction a with
    | nil => simp [Stands]
    | cons entry rest ih =>
      intro t
      obtain ⟨d, places⟩ := entry
      have hcons : (∃ c, Stands ((d, places) :: rest) i c ∧ s.contains c = true) ↔
          (i ∈ placeSet places ∧ s.contains d = true) ∨
            ∃ c, Stands rest i c ∧ s.contains c = true := by
        simp [stands_cons_iff, or_and_right, exists_or, and_assoc]
      rw [List.foldl_cons, ih, hcons, ← or_assoc]
      refine or_congr_left ?_
      split
      · next h => simp [placeSet_or, h]
      · next h => simp [h]
  rw [placesOf, hfold]
  simp

/-- Of a text, the places before the characters of a set. -/
theorem mem_placesOf_ofText {text : List Char} {s : CharSet} {i : Nat} :
    i ∈ placeSet ((ofText [] 1 text).placesOf s) ↔
      ∃ c, text[i]? = some c ∧ s.contains c = true := by
  have hstands : ∀ c, (ofText [] 1 text).Stands i c ↔ text[i]? = some c := by
    intro c
    rw [show (1 : Nat) = 2 ^ 0 from rfl, stands_ofText_iff]
    simp [Stands]
  simp only [mem_placesOf, hstands]

end Alphabet

/-- A condition holds at the same places whether they have been kept or not. -/
theorem Terrain.placesAt_ofText (r : Regex) (text : List Char) (l : Look) :
    (Terrain.ofText r text).placesAt l = placesWhere l none text := by
  have hlookup : ∀ (ls : List Look),
      ((ls.map fun l => (l, placesWhere l none text)).lookup l).getD (placesWhere l none text) =
        placesWhere l none text := by
    intro ls
    induction ls with
    | nil => rfl
    | cons d ls ih =>
      rw [List.map_cons, List.lookup_cons]
      cases h : l == d with
      | true =>
        obtain rfl : l = d := by simpa using h
        rfl
      | false => exact ih
  exact hlookup (r.looks [])

end LabelSelector.Regex
