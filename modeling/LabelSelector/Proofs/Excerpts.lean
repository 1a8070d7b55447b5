import LabelSelector.Expression.Diagnostic
import LabelSelector.Proofs.Lines

/-! # Errors shown in any text

  An error can be shown in any text, also in one that it does not come from. Whatever its
  span is, no cut of the text fails, and what is shown is a line of the text:

  - the line of the last boundary that is not behind the start of the span, under its number,
  - with carets from there to the end of the span, as far as they stay in the line,
  - in rows that have their bars in one column.
-/

namespace LabelSelector

open Text

/-! ### What is shown -/

namespace Excerpt

variable {span : Span} {text : String} {above head tail below : List Char}

/-- The start of a span, brought down to a boundary, is in a line. -/
theorem exists_start (span : Span) (text : String) :
    ∃ above head tail below, takeBytes span.offsetStart text.toList = above ++ head ∧
      InLine text.toList above head tail below := by
  obtain ⟨after, hafter⟩ := prefix_takeBytes span.offsetStart text.toList
  obtain ⟨above, head, tail, below, hstart, -, hline⟩ :=
    exists_inLine (takeBytes span.offsetStart text.toList) after
  exact ⟨above, head, tail, below, hstart, hafter ▸ hline⟩

/-- An excerpt shows the line that the start of the span is in. -/
theorem ofSpan_eq (hline : InLine text.toList above head tail below)
    (hstart : takeBytes span.offsetStart text.toList = above ++ head) :
    ofSpan span text.toList =
      { lineNumber := above.count '\n' + 1
        line := trimReturns (head ++ tail)
        indent := head.length
        width := max 1 (firstLine ((takeBytes span.offsetEnd text.toList).drop
          (above ++ head).length)).length } := by
  have hafter : text.toList.drop (above ++ head).length = tail ++ below := by
    rw [hline.whole, ← List.append_assoc, List.drop_left]
  unfold ofSpan
  dsimp only
  rw [hstart, hafter, hline.count_before, lastLine_append hline.above hline.head,
    firstLine_append hline.tail hline.below]

/-- The characters under the span that are in that line end where the span does, or before
    if that is out of the line. -/
theorem exists_covered (hline : InLine text.toList above head tail below) (stop : Nat) :
    ∃ covered rest, tail = covered ++ rest ∧
      firstLine ((takeBytes stop text.toList).drop (above ++ head).length) = covered ∧
      bytes (above ++ (head ++ covered)) =
        min (max (bytes (takeBytes stop text.toList)) (bytes (above ++ head)))
          (bytes (above ++ (head ++ tail))) := by
  have hbefore : above ++ head <+: text.toList :=
    ⟨tail ++ below, by rw [hline.whole, List.append_assoc]⟩
  rcases List.prefix_or_prefix_of_prefix (prefix_takeBytes stop text.toList) hbefore with
    hshort | ⟨inside, hinside⟩
  · -- The span ends before it starts, so that it covers nothing.
    have hnil : (takeBytes stop text.toList).drop (above ++ head).length = [] :=
      List.drop_eq_nil_of_le hshort.length_le
    refine ⟨[], tail, rfl, by rw [hnil]; rfl, ?_⟩
    have hle := bytes_mono hshort
    rw [Nat.max_eq_right hle, List.append_nil]
    simp only [bytes_append]
    omega
  · have hprefix : inside <+: tail ++ below := by
      have htake := prefix_takeBytes stop text.toList
      rw [← hinside, hline.whole, ← List.append_assoc] at htake
      exact (List.prefix_append_right_inj _).mp htake
    obtain ⟨rest, hrest, hbytes⟩ := hline.exists_covered hprefix
    refine ⟨firstLine inside, rest, hrest, by rw [← hinside, List.drop_left], ?_⟩
    rw [← hinside]
    simp only [bytes_append, hbytes]
    omega

end Excerpt

/-! ### Cuts that may fail -/

/-- Brings a number between two others, which have to be in order. -/
def clamp? (n low high : Nat) : Option Nat :=
  if low ≤ high then some (min (max n low) high) else none

/-- What is shown of a text for a span, found by offsets. Stepping down to boundaries, each of
    the cuts, and the clamp may fail. -/
def Excerpt.cutOut? (span : Span) (text : String) : Option Excerpt := do
  let start ← floor? text (min span.offsetStart text.utf8ByteSize)
  let before ← cut? 0 start text.toList
  let after ← cut? start text.utf8ByteSize text.toList
  let lineStart := (lastBreak? before).elim 0 (· + 1)
  let lineEnd := (firstBreak? after).elim text.utf8ByteSize (start + ·)
  let floor ← floor? text (min span.offsetEnd text.utf8ByteSize)
  let stop ← clamp? floor start lineEnd
  let above ← cut? 0 lineStart text.toList
  let line ← cut? lineStart lineEnd text.toList
  let head ← cut? lineStart start text.toList
  let covered ← cut? start stop text.toList
  return ⟨above.count '\n' + 1, trimReturns line, head.length, max 1 covered.length⟩

/-- The error with the line that offsets find in the text. -/
def ParseError.render? (e : ParseError) (text : String) : Option String :=
  (Excerpt.cutOut? e.span text).map fun excerpt =>
    String.intercalate "\n" (e.message :: excerpt.rows)

/-- For no span and text a cut fails, and what they find is what is shown. -/
theorem Excerpt.cutOut?_eq (span : Span) (text : String) :
    cutOut? span text = some (ofSpan span text.toList) := by
  obtain ⟨above, head, tail, below, hstart, hline⟩ := exists_start span text
  obtain ⟨covered, beyond, htail, hcovered, hstop⟩ := exists_covered hline span.offsetEnd
  have htext : text.toList = above ++ head ++ (tail ++ below) := by
    rw [hline.whole, List.append_assoc]
  have hends : text.toList = above ++ head ++ (tail ++ below ++ []) := by
    rw [htext, List.append_nil]
  have hlines : text.toList = above ++ (head ++ tail ++ below) := by
    rw [hline.whole, List.append_assoc head]
  have hcovers : text.toList = above ++ head ++ (covered ++ (beyond ++ below)) := by
    rw [htext, htail, List.append_assoc covered]
  have hsize : text.utf8ByteSize = bytes (above ++ head ++ (tail ++ below)) := by
    rw [← htext, bytes_toList]
  -- All offsets are bytes of beginnings of the text, in the order of these beginnings.
  have hbefore : cut? 0 (bytes (above ++ head)) text.toList = some (above ++ head) :=
    cut?_eq_some (htext.trans (List.nil_append _).symm) rfl rfl
  have hbehind : cut? (bytes (above ++ head)) text.utf8ByteSize text.toList =
      some (tail ++ below) := cut?_eq_some hends rfl hsize
  have habove : cut? 0 (bytes above) text.toList = some above :=
    cut?_eq_some (hline.whole.trans (List.nil_append _).symm) rfl rfl
  have hwhole : cut? (bytes above) (bytes (above ++ (head ++ tail))) text.toList =
      some (head ++ tail) := cut?_eq_some hlines rfl rfl
  have hhead : cut? (bytes above) (bytes (above ++ head)) text.toList = some head :=
    cut?_eq_some hline.whole rfl rfl
  have hinside : cut? (bytes (above ++ head)) (bytes (above ++ (head ++ covered)))
      text.toList = some covered := cut?_eq_some hcovers rfl (by rw [List.append_assoc])
  have hclamp : clamp? (bytes (takeBytes span.offsetEnd text.toList)) (bytes (above ++ head))
      (bytes (above ++ (head ++ tail))) = some (bytes (above ++ (head ++ covered))) := by
    rw [hstop, clamp?, if_pos (by simp)]
  have hend := hline.end_eq
  rw [bytes_toList] at hend
  simp only [cutOut?, floor?_eq_takeBytes, hstart, hbefore, hbehind, Option.bind_eq_bind,
    Option.bind_some, hline.start_eq, hend, hclamp, habove, hwhole, hhead, hinside,
    Option.pure_def]
  rw [ofSpan_eq hline hstart, hcovered]

/-! ### Rows -/

/-- The rows below the message of an error. -/
structure Frame where
  /-- The empty row. -/
  gutter : String
  /-- The row with the line. -/
  source : String
  /-- The row with the carets. -/
  marker : String

namespace Frame

/-- The rows from the first to the last. -/
def rows (f : Frame) : List String := [f.gutter, f.source, f.marker]

/-- A message with the rows below it. -/
def under (f : Frame) (message : String) : String :=
  message ++ "\n" ++ f.gutter ++ "\n" ++ f.source ++ "\n" ++ f.marker

/-- Blanks in the place of the digits of a number. -/
def margin (number : Nat) : String :=
  String.ofList (List.replicate (toString number).length ' ')

/-- The rows show a line with its number, and carets that stand below it behind some blanks.
    Carriage returns at the end of the line are not shown. -/
structure Shows (f : Frame) (number : Nat) (line : List Char) (blanks carets : Nat) : Prop where
  gutter : f.gutter = margin number ++ " |"
  source : ∃ shown returns, line = shown ++ List.replicate returns '\r' ∧
    shown.getLast? ≠ some '\r' ∧ f.source = toString number ++ " | " ++ String.ofList shown
  marker : f.marker = margin number ++ " | " ++ String.ofList (List.replicate blanks ' ') ++
    String.ofList (List.replicate carets '^')
  /-- The first bars of the rows stand in one column. -/
  bars : ∀ row ∈ f.rows, row.toList.idxOf '|' = (toString number).length + 1
  /-- Each row is one line. -/
  unbroken : ∀ row ∈ f.rows, '\n' ∉ row.toList

theorem forall_rows_iff {f : Frame} {p : String → Prop} :
    (∀ row ∈ f.rows, p row) ↔ p f.gutter ∧ p f.source ∧ p f.marker := by
  simp [rows]

theorem pushn_eq_ofList (c : Char) (n : Nat) :
    "".pushn c n = String.ofList (List.replicate n c) := by
  rw [String.pushn_eq_repeat_push]
  induction n with
  | zero => rfl
  | succ n ih =>
    rw [Nat.repeat, ih, List.replicate_succ', String.ofList_append]
    rfl

/-- Only carriage returns are taken from the end of a line. -/
theorem exists_trimReturns (line : List Char) :
    ∃ returns, line = trimReturns line ++ List.replicate returns '\r' ∧
      (trimReturns line).getLast? ≠ some '\r' := by
  have hsplit : line.reverse.takeWhile (· = '\r') ++ line.reverse.dropWhile (· = '\r') =
      line.reverse := List.takeWhile_append_dropWhile
  have hreturns : line.reverse.takeWhile (· = '\r') =
      List.replicate (line.reverse.takeWhile (· = '\r')).length '\r' := by
    refine List.eq_replicate_of_mem fun c hc => ?_
    simpa using List.all_eq_true.mp List.all_takeWhile c hc
  refine ⟨(line.reverse.takeWhile (· = '\r')).length, ?_, ?_⟩
  · have hmirror := congrArg List.reverse hsplit
    rw [List.reverse_append, List.reverse_reverse, hreturns, List.reverse_replicate] at hmirror
    exact hmirror.symm
  · rw [trimReturns, List.getLast?_reverse]
    intro hhead
    have hnot := List.head?_dropWhile_not (fun c => decide (c = '\r')) line.reverse
    rw [hhead] at hnot
    simp at hnot

/-- Numbers are written with digits only. -/
theorem not_mem_toString {c : Char} (hc : c.isDigit = false) (number : Nat) :
    c ∉ (toString number).toList := by
  intro hmem
  rw [Nat.toString_eq_repr, Nat.toList_repr] at hmem
  rw [Nat.isDigit_of_mem_toDigits (by decide) (by decide) hmem] at hc
  cases hc

theorem toList_margin (number : Nat) :
    (margin number).toList = List.replicate (toString number).toList.length ' ' := by
  rw [margin, String.toList_ofList, String.length_toList]

theorem idxOf_bar {front : List Char} (h : '|' ∉ front) (back : List Char) :
    (front ++ ' ' :: '|' :: back).idxOf '|' = front.length + 1 := by
  rw [List.idxOf_append_of_notMem h]
  rfl

end Frame

/-- Errors are shown as their message and a frame for the excerpt of the text. -/
theorem ParseError.exists_frame {err : ParseError} {text : String} {number blanks carets : Nat}
    {line : List Char} (hline : '\n' ∉ line)
    (hexcerpt : Excerpt.ofSpan err.span text.toList =
      ⟨number, trimReturns line, blanks, carets⟩) :
    ∃ f : Frame, err.render text = f.under err.message ∧ f.Shows number line blanks carets := by
  obtain ⟨returns, hreturns, hlast⟩ := Frame.exists_trimReturns line
  have hshown : '\n' ∉ trimReturns line := by
    rw [hreturns, List.mem_append, not_or] at hline
    exact hline.1
  let f : Frame :=
    { gutter := Frame.margin number ++ " |"
      source := toString number ++ " | " ++ String.ofList (trimReturns line)
      marker := Frame.margin number ++ " | " ++ String.ofList (List.replicate blanks ' ') ++
        String.ofList (List.replicate carets '^') }
  have hgutter : f.gutter.toList = (Frame.margin number).toList ++ [' ', '|'] := by
    simp [f]
  have hsource : f.source.toList =
      (toString number).toList ++ ' ' :: '|' :: ' ' :: trimReturns line := by
    simp [f]
  have hmarker : f.marker.toList = (Frame.margin number).toList ++
      ' ' :: '|' :: ' ' :: (List.replicate blanks ' ' ++ List.replicate carets '^') := by
    simp [f]
  have hmargin : ∀ c, c ≠ ' ' → c ∉ (Frame.margin number).toList := by
    intro c hc hmem
    rw [Frame.toList_margin] at hmem
    exact hc (List.eq_of_mem_replicate hmem)
  have hwidth : (toString number).length = (Frame.margin number).toList.length := by
    rw [Frame.toList_margin, List.length_replicate, String.length_toList]
  refine ⟨f, ?_, rfl, ⟨_, returns, hreturns, hlast, rfl⟩, rfl, ?_, ?_⟩
  · rw [render, hexcerpt]
    simp only [Excerpt.rows, Frame.pushn_eq_ofList]
    rfl
  · refine Frame.forall_rows_iff.mpr ⟨?_, ?_, ?_⟩
    · rw [hgutter, Frame.idxOf_bar (hmargin '|' (by decide)), hwidth]
    · rw [hsource, Frame.idxOf_bar (Frame.not_mem_toString (by decide) number),
        String.length_toList]
    · rw [hmarker, Frame.idxOf_bar (hmargin '|' (by decide)), hwidth]
  · refine Frame.forall_rows_iff.mpr ⟨?_, ?_, ?_⟩
    · rw [hgutter]
      simpa using hmargin '\n' (by decide)
    · rw [hsource, List.mem_append, not_or]
      exact ⟨Frame.not_mem_toString (by decide) number, by simpa using hshown⟩
    · rw [hmarker]
      simpa using hmargin '\n' (by decide)

/-! ### Any error in any text -/

/-- How the rows `f` show an error in a text. The line shown is `head`, `covered` and `rest`,
    with carets under `covered`. Above that line stand the characters `above`. -/
structure ParseError.ShownIn (err : ParseError) (text : String) (f : Frame)
    (above head covered rest below : List Char) : Prop where
  render : err.render text = f.under err.message
  rows : f.Shows ((above ++ head).count '\n' + 1) (head ++ (covered ++ rest)) head.length
    (max 1 covered.length)
  whole : text.toList = above ++ (head ++ (covered ++ (rest ++ below)))
  /-- The carets start at the last boundary that is not behind the start of the span. -/
  start : IsFloor text err.span.offsetStart (bytes (above ++ head))
  /-- They end at the last boundary that is not behind its end, but not before their start
      and not behind the line. -/
  stop : ∃ place, IsFloor text err.span.offsetEnd place ∧ bytes (above ++ (head ++ covered)) =
    min (max place (bytes (above ++ head))) (bytes (above ++ (head ++ (covered ++ rest))))
  /-- The line is the piece of the text that the line breaks before the start number. -/
  piece : ∃ earlier later,
    text.toList.splitOn '\n' = earlier ++ (head ++ (covered ++ rest)) :: later ∧
      earlier.length = (above ++ head).count '\n' ∧ above = earlier.flatMap (· ++ ['\n'])

/-- Every error can be shown in every text: stepping down to boundaries, the cuts and the
    clamp do not fail, and what is shown is the line of the start of the span, in rows with
    their bars in one column, with carets under what the span covers of that line. -/
theorem render_well_formed (err : ParseError) (text : String) :
    err.render? text = some (err.render text) ∧
      ∃ f above head covered rest below, err.ShownIn text f above head covered rest below := by
  constructor
  · rw [ParseError.render?, Excerpt.cutOut?_eq]
    rfl
  · obtain ⟨above, head, tail, below, hstart, hline⟩ := Excerpt.exists_start err.span text
    obtain ⟨covered, rest, rfl, hcovered, hstop⟩ := Excerpt.exists_covered hline err.span.offsetEnd
    have hexcerpt := Excerpt.ofSpan_eq hline hstart
    rw [hcovered] at hexcerpt
    have hbreak : '\n' ∉ head ++ (covered ++ rest) := by
      rw [List.mem_append, not_or]
      exact ⟨hline.head, hline.tail⟩
    obtain ⟨f, hrender, hrows⟩ := ParseError.exists_frame hbreak hexcerpt
    refine ⟨f, above, head, covered, rest, below, hrender, ?_, ?_, ?_, ⟨_, ?_, hstop⟩, ?_⟩
    · rw [hline.count_before]
      exact hrows
    · simpa using hline.whole
    · rw [← hstart]
      exact isFloor_takeBytes text err.span.offsetStart
    · exact isFloor_takeBytes text err.span.offsetEnd
    · rw [hline.count_before]
      exact hline.exists_pieces

-- The span starts inside the character `é`, and ends behind the text.
example : (ParseError.grammar ⟨.endOfInput, .token ⟨3, 9, 0, 0⟩ "x"⟩).render "a\né=\r" =
    "3:9: x: expected end of input\n  |\n2 | é=\n  | ^^^" := by
  decide +kernel

end LabelSelector
