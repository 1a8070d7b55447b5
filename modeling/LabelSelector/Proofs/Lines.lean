import LabelSelector.Proofs.Boundaries
import Mathlib.Data.List.DropRight

/-! # Lines

  A place of a text is in one line: the last line break before it and the first one behind
  it are the ends of that line. The breaks belong to no line.

  - The line is the piece of the text that its line breaks number, counted before the place
    or before the line.
  - The search for these breaks by bytes ends at the bytes of the line.
-/

namespace LabelSelector

namespace Text

/-! ### The line of a place -/

/-- A place of a text in its line. The line is `head` before the place and `tail` behind it.
    Above it stands nothing or a line break, and so it does below. -/
structure InLine (text above head tail below : List Char) : Prop where
  whole : text = above ++ (head ++ (tail ++ below))
  above : ∀ c ∈ above.getLast?, c = '\n'
  head : '\n' ∉ head
  tail : '\n' ∉ tail
  below : ∀ c ∈ below.head?, c = '\n'

variable {text above head tail below : List Char}

theorem not_mem_firstLine (cs : List Char) : '\n' ∉ firstLine cs := by
  intro h
  simpa using List.all_eq_true.mp List.all_takeWhile '\n' h

/-- A line ends before a line break. -/
theorem firstLine_append (htail : '\n' ∉ tail) (hbelow : ∀ c ∈ below.head?, c = '\n') :
    firstLine (tail ++ below) = tail := by
  have hall : ∀ c ∈ tail, (decide (c ≠ '\n')) = true := by
    intro c hc
    exact decide_eq_true fun hbreak => htail (hbreak ▸ hc)
  rw [firstLine, List.takeWhile_append_of_pos hall]
  cases below with
  | nil => rw [List.takeWhile_nil, List.append_nil]
  | cons c below =>
    rw [List.takeWhile_cons_of_neg (by simp [hbelow c rfl]), List.append_nil]

theorem exists_firstLine (cs : List Char) :
    ∃ below, cs = firstLine cs ++ below ∧ ∀ c ∈ below.head?, c = '\n' := by
  refine ⟨cs.dropWhile (· ≠ '\n'), List.takeWhile_append_dropWhile.symm, fun c hc => ?_⟩
  have hhead := List.head?_dropWhile_not (fun d => decide (d ≠ '\n')) cs
  rw [Option.mem_def.mp hc] at hhead
  simpa using hhead

/-- A line starts behind a line break. -/
theorem lastLine_append (habove : ∀ c ∈ above.getLast?, c = '\n') (hhead : '\n' ∉ head) :
    lastLine (above ++ head) = head := by
  have hmirror : firstLine (head.reverse ++ above.reverse) = head.reverse :=
    firstLine_append (by simpa using hhead) (by simpa using habove)
  rw [lastLine, List.reverse_append]
  exact (congrArg List.reverse hmirror).trans head.reverse_reverse

theorem exists_lastLine (cs : List Char) :
    ∃ above, cs = above ++ lastLine cs ∧ '\n' ∉ lastLine cs ∧
      ∀ c ∈ above.getLast?, c = '\n' := by
  obtain ⟨below, hsplit, hbelow⟩ := exists_firstLine cs.reverse
  refine ⟨below.reverse, ?_, ?_, by simpa using hbelow⟩
  · have hmirror := congrArg List.reverse hsplit
    rwa [List.reverse_reverse, List.reverse_append] at hmirror
  · exact fun hmem => not_mem_firstLine cs.reverse (List.mem_reverse.mp hmem)

/-- Every place is in a line. -/
theorem exists_inLine (before after : List Char) :
    ∃ above head tail below, before = above ++ head ∧ after = tail ++ below ∧
      InLine (before ++ after) above head tail below := by
  obtain ⟨above, hbefore, hhead, habove⟩ := exists_lastLine before
  obtain ⟨below, hafter, hbelow⟩ := exists_firstLine after
  refine ⟨above, lastLine before, firstLine after, below, hbefore, hafter, ?_, habove, hhead,
    not_mem_firstLine after, hbelow⟩
  rw [← List.append_assoc above, ← hbefore, ← hafter]

/-- Without line breaks, nothing stands above. -/
theorem InLine.above_eq_nil (h : InLine text above head tail below) (hflat : '\n' ∉ text) :
    above = [] := by
  rcases List.eq_nil_or_concat above with hnil | ⟨front, c, rfl⟩
  · exact hnil
  · obtain rfl : c = '\n' := h.above c (by simp)
    exact absurd (by simp [h.whole]) hflat

/-- Characters behind the place are in the line up to their first line break, or up to the
    end of the line. -/
theorem InLine.exists_covered (h : InLine text above head tail below) {inside : List Char}
    (hinside : inside <+: tail ++ below) :
    ∃ rest, tail = firstLine inside ++ rest ∧
      bytes (firstLine inside) = min (bytes inside) (bytes tail) := by
  rcases List.prefix_or_prefix_of_prefix hinside (List.prefix_append tail below) with
    ⟨rest, rfl⟩ | ⟨more, rfl⟩
  · have hline : firstLine inside = inside := by
      have hnot : '\n' ∉ inside := fun hmem => h.tail (List.mem_append_left rest hmem)
      simpa using firstLine_append hnot (fun c (hc : c ∈ ([] : List Char).head?) => nomatch hc)
    refine ⟨rest, by rw [hline], ?_⟩
    rw [hline, bytes_append, Nat.min_eq_left (Nat.le_add_right _ _)]
  · -- What is behind the line starts as the text below does.
    have hmore : ∀ c ∈ more.head?, c = '\n' := by
      intro c hc
      obtain ⟨rest, hrest⟩ := (List.prefix_append_right_inj tail).mp hinside
      cases more with
      | nil => cases hc
      | cons d more =>
        cases hc
        exact h.below c (by rw [← hrest]; rfl)
    have hline : firstLine (tail ++ more) = tail := firstLine_append h.tail hmore
    refine ⟨[], by rw [hline, List.append_nil], ?_⟩
    rw [hline, bytes_append, Nat.min_eq_right (Nat.le_add_right _ _)]

/-! ### The number of a line -/

theorem length_splitOn (cs : List Char) : (cs.splitOn '\n').length = cs.count '\n' + 1 := by
  induction cs with
  | nil => rfl
  | cons c cs ih =>
    rw [List.splitOn_cons_eq_if_modifyHead, List.count_cons]
    split <;> simp [ih]

/-- The pieces of a text, each with a line break behind it, are the text with one more. -/
theorem flatMap_splitOn (cs : List Char) :
    (cs.splitOn '\n').flatMap (· ++ ['\n']) = cs ++ ['\n'] := by
  induction cs with
  | nil => rfl
  | cons c cs ih =>
    rw [List.splitOn_cons_eq_if_modifyHead]
    split
    · next hbreak =>
      obtain rfl : c = '\n' := by simpa using hbreak
      rw [List.flatMap_cons, ih]
      rfl
    · obtain ⟨piece, pieces, hpieces⟩ := List.exists_cons_of_ne_nil (cs.splitOn_ne_nil '\n')
      rw [hpieces, List.flatMap_cons] at ih
      rw [hpieces, List.modifyHead_cons, List.flatMap_cons, List.cons_append, List.cons_append, ih]
      rfl

/-- The line is a piece of the text. The pieces before it, each with its line break, are all
    that stands above, so that there are as many as line breaks. -/
theorem InLine.exists_pieces (h : InLine text above head tail below) :
    ∃ earlier later, text.splitOn '\n' = earlier ++ (head ++ tail) :: later ∧
      earlier.length = above.count '\n' ∧ above = earlier.flatMap (· ++ ['\n']) := by
  have hline : '\n' ∉ head ++ tail := by simp [h.head, h.tail]
  obtain ⟨later, hlater⟩ : ∃ later,
      (head ++ tail ++ below).splitOn '\n' = (head ++ tail) :: later := by
    cases hbelow : below with
    | nil => exact ⟨[], by rw [List.append_nil, List.splitOn_eq_singleton hline]⟩
    | cons c rest =>
      obtain rfl : c = '\n' := h.below c (by rw [hbelow]; rfl)
      exact ⟨_, List.splitOn_append_cons_self_of_not_mem hline rest⟩
  rw [h.whole, ← List.append_assoc head]
  rcases List.eq_nil_or_concat above with rfl | ⟨front, c, rfl⟩
  · exact ⟨[], later, hlater, rfl, rfl⟩
  · obtain rfl : c = '\n' := h.above c (by simp)
    refine ⟨front.splitOn '\n', later, ?_, ?_, ?_⟩
    · rw [List.concat_eq_append, List.append_assoc, List.singleton_append,
        List.splitOn_append_cons_self, hlater]
    · rw [length_splitOn]
      simp
    · rw [flatMap_splitOn, List.concat_eq_append]

/-- The line breaks before a place are those above its line. -/
theorem InLine.count_before (h : InLine text above head tail below) :
    (above ++ head).count '\n' = above.count '\n' := by
  rw [List.count_append, List.count_eq_zero_of_not_mem h.head, Nat.add_zero]

/-! ### Searching by bytes -/

/-- The bytes before the first line break. -/
def firstBreak? : List Char → Option Nat
  | [] => none
  | c :: cs => if c = '\n' then some 0 else (firstBreak? cs).map (c.utf8Size + ·)

/-- The bytes before the last line break. -/
def lastBreak? : List Char → Option Nat
  | [] => none
  | c :: cs =>
    match lastBreak? cs with
    | some n => some (c.utf8Size + n)
    | none => if c = '\n' then some 0 else none

theorem firstBreak?_eq_none {cs : List Char} (h : '\n' ∉ cs) : firstBreak? cs = none := by
  induction cs with
  | nil => rfl
  | cons c cs ih =>
    rw [List.mem_cons, not_or] at h
    rw [firstBreak?, if_neg (Ne.symm h.1), ih h.2]
    rfl

theorem firstBreak?_append {front : List Char} (h : '\n' ∉ front) (back : List Char) :
    firstBreak? (front ++ '\n' :: back) = some (bytes front) := by
  induction front with
  | nil => rfl
  | cons c front ih =>
    rw [List.mem_cons, not_or] at h
    rw [List.cons_append, firstBreak?, if_neg (Ne.symm h.1), ih h.2, bytes_cons]
    rfl

theorem lastBreak?_eq_none {cs : List Char} (h : '\n' ∉ cs) : lastBreak? cs = none := by
  induction cs with
  | nil => rfl
  | cons c cs ih =>
    rw [List.mem_cons, not_or] at h
    simp only [lastBreak?, ih h.2]
    rw [if_neg (Ne.symm h.1)]

theorem lastBreak?_append (front : List Char) {back : List Char} (h : '\n' ∉ back) :
    lastBreak? (front ++ '\n' :: back) = some (bytes front) := by
  induction front with
  | nil => simp [lastBreak?, lastBreak?_eq_none h]
  | cons c front ih => simp [lastBreak?, ih]

/-- Behind the last line break before a place, its line starts. -/
theorem InLine.start_eq (h : InLine text above head tail below) :
    (lastBreak? (above ++ head)).elim 0 (· + 1) = bytes above := by
  rcases List.eq_nil_or_concat above with rfl | ⟨front, c, rfl⟩
  · rw [List.nil_append, lastBreak?_eq_none h.head]
    rfl
  · obtain rfl : c = '\n' := h.above c (by simp)
    rw [List.concat_eq_append, List.append_assoc, List.singleton_append,
      lastBreak?_append front h.head, bytes_append]
    rfl

/-- At the first line break behind a place, its line ends. -/
theorem InLine.end_eq (h : InLine text above head tail below) :
    (firstBreak? (tail ++ below)).elim (bytes text) (bytes (above ++ head) + ·) =
      bytes (above ++ (head ++ tail)) := by
  cases hbelow : below with
  | nil =>
    rw [List.append_nil, firstBreak?_eq_none h.tail, h.whole, hbelow, List.append_nil]
    rfl
  | cons c rest =>
    obtain rfl : c = '\n' := h.below c (by rw [hbelow]; rfl)
    rw [firstBreak?_append h.tail]
    simp [Nat.add_assoc]

end Text

end LabelSelector
