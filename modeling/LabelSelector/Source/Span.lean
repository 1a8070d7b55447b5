import LabelSelector.Source.Cursor
import LabelSelector.Source.Text

/-! # Spans

  A span is the stretch of a text between two cursors. Nothing forces its end to
  follow its start: spans are also made by hand and merged from any two others.
-/

namespace LabelSelector

/-- A stretch of a text. -/
structure Span where
  /-- Byte offset of the start. -/
  offsetStart : Nat
  /-- Byte offset of the end. -/
  offsetEnd : Nat
  /-- Code points before the start. -/
  columnStart : Nat
  /-- Code points before the end. -/
  columnEnd : Nat
  deriving DecidableEq, Repr

namespace Span

/-- The span from one cursor to another. -/
def between (start stop : Cursor) : Span :=
  ⟨start.offset, stop.offset, start.column, stop.column⟩

/-- The span without width at a cursor. -/
def point (k : Cursor) : Span := between k k

/-- The span of the characters `cs` that start at a cursor. -/
def covering (start : Cursor) (cs : List Char) : Span := between start (start.advanceAll cs)

/-- From the start of one span to the end of another. -/
def merge (a b : Span) : Span :=
  ⟨a.offsetStart, b.offsetEnd, a.columnStart, b.columnEnd⟩

/-- Width in bytes. -/
def length (s : Span) : Except Fault Nat := difference s.offsetEnd s.offsetStart

/-- Width in code points. -/
def columns (s : Span) : Except Fault Nat := difference s.columnEnd s.columnStart

/-- Whether start and end are at one byte offset. -/
def isEmpty (s : Span) : Bool := s.offsetStart == s.offsetEnd

/-- The part of a text under the span, empty if the span does not fit the text. -/
def slice (s : Span) (text : String) : String :=
  String.ofList (Text.slice s.offsetStart s.offsetEnd text.toList)

end Span

end LabelSelector
