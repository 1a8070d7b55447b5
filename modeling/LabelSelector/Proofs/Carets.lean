import LabelSelector.Proofs.ErrorSpans
import LabelSelector.Proofs.Excerpts

/-! # Carets point at errors

  An error of a text that is shown in that text is shown at its place: in the line that its
  span starts in, with carets under the characters of the span that are in this line.
-/

namespace LabelSelector

open Text

/-- How the rows `f` show an error of a text. The span covers the characters `inside`. It
    starts in a line, which is `head` before it and `tail` behind, below the characters
    `above`. -/
structure ParseError.MarkedIn (err : ParseError) (text : String) (f : Frame)
    (above head inside tail below : List Char) : Prop where
  render : err.render text = f.under err.message
  /-- The line ends at the start of the span only if a line break or the end of the text is
      there. -/
  line : InLine text.toList above head tail below
  span_eq : err.span = .behind (above ++ head) inside
  covers : inside <+: tail ++ below
  slice : err.span.slice text = String.ofList inside
  /-- What the span covers up to its first line break starts the rest of the line. -/
  covered : inside.takeWhile (· ≠ '\n') <+: tail
  /-- There is a caret for each such character, or one if there is none. -/
  rows : f.Shows (above.count '\n' + 1) (head ++ tail) head.length
    (max 1 (inside.takeWhile (· ≠ '\n')).length)
  /-- In a text of one line, these are the columns of the span. -/
  flat : '\n' ∉ text.toList → head.length = err.span.columnStart ∧
    err.span.columns = .ok (inside.takeWhile (· ≠ '\n')).length

/-- For every error of a text, whatever the settings and the factories are, the carets stand
    under the characters at fault. -/
theorem carets_mark_error {text : String} {err : ParseError} (h : ErrorOf text err) :
    ∃ f above head inside tail below, err.MarkedIn text f above head inside tail below := by
  obtain ⟨before, inside, after, hstands⟩ := h.exists_standsAs
  obtain ⟨above, head, tail, below, rfl, hbehind, hline⟩ := exists_inLine before (inside ++ after)
  rw [← hstands.whole] at hline
  have hslice : err.span.slice text = String.ofList inside := by
    rw [hstands.span_eq, Span.slice_behind hstands.whole]
  -- Both ends of the span are boundaries, so that the text is cut there.
  have hstart : takeBytes err.span.offsetStart text.toList = above ++ head := by
    rw [hstands.span_eq, hstands.whole]
    exact takeBytes_append (above ++ head) (inside ++ after)
  have hstop : takeBytes err.span.offsetEnd text.toList = above ++ head ++ inside := by
    rw [hstands.span_eq, hstands.whole, ← List.append_assoc]
    exact takeBytes_append (above ++ head ++ inside) after
  have hcovers : inside <+: tail ++ below := ⟨after, hbehind⟩
  obtain ⟨rest, hrest, -⟩ := hline.exists_covered hcovers
  have hexcerpt := Excerpt.ofSpan_eq hline hstart
  rw [hstop, List.drop_left] at hexcerpt
  have hbreak : '\n' ∉ head ++ tail := by
    rw [List.mem_append, not_or]
    exact ⟨hline.head, hline.tail⟩
  obtain ⟨f, hrender, hrows⟩ := ParseError.exists_frame hbreak hexcerpt
  refine ⟨f, above, head, inside, tail, below, hrender, hline, hstands.span_eq, hcovers, hslice,
    ⟨rest, hrest.symm⟩, hrows, fun hflat => ?_⟩
  -- Without line breaks, nothing stands above the line, and the span is all in it.
  obtain rfl : above = [] := hline.above_eq_nil hflat
  have hinside : ∀ c ∈ inside, (decide (c ≠ '\n')) = true := by
    intro c hc
    have hmem : c ∈ text.toList := by
      rw [hstands.whole]
      exact List.mem_append_right _ (List.mem_append_left after hc)
    exact decide_eq_true fun hbreak => hflat (hbreak ▸ hmem)
  rw [hstands.span_eq, Span.columns_behind, List.takeWhile_eq_self_iff.mpr hinside]
  exact ⟨rfl, rfl⟩

/-- A quoted text without an end covers several lines. There are carets in the first of
    these only, also for the carriage return that is not shown. -/
theorem carets_mark_first_line :
    ErrorOf "a=\"ü\",\nb=\"é\r\n"
        (.lexical ⟨.unterminated '"', ⟨10, 15, 9, 13⟩, "\"é\r\n"⟩ none) ∧
      ∃ f above head inside tail below,
        (ParseError.lexical ⟨.unterminated '"', ⟨10, 15, 9, 13⟩, "\"é\r\n"⟩ none).MarkedIn
          "a=\"ü\",\nb=\"é\r\n" f above head inside tail below := by
  have herr : ErrorOf "a=\"ü\",\nb=\"é\r\n"
      (.lexical ⟨.unterminated '"', ⟨10, 15, 9, 13⟩, "\"é\r\n"⟩ none) :=
    .tokens (by decide +kernel)
  exact ⟨herr, carets_mark_error herr⟩

example :
    (ParseError.lexical ⟨.unterminated '"', ⟨10, 15, 9, 13⟩, "\"é\r\n"⟩ none).render
      "a=\"ü\",\nb=\"é\r\n" =
    "10:15: \"é\r\n: missing end \"\n  |\n2 | b=\"é\n  |   ^^^" := by
  decide +kernel

end LabelSelector
