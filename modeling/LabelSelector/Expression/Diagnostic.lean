import LabelSelector.Expression.Error

/-! # Errors shown in the text

  Shows an error together with the line it is in: the error itself, an empty row,
  the line behind its number, and carets under the stretch at fault.

  Any span can be shown against any text. Offsets are brought down to the last
  character boundary that is not behind them, and the carets stay in the line of
  the start of the span.
-/

namespace LabelSelector

/-- The part of a text that is shown for a span. -/
structure Excerpt where
  /-- The number of the line, from one. -/
  lineNumber : Nat
  /-- The line, without carriage returns at its end. -/
  line : List Char
  /-- Characters of the line before the carets. -/
  indent : Nat
  /-- Carets. -/
  width : Nat
  deriving DecidableEq, Repr

namespace Excerpt

/-- The part of a text that is shown for a span. -/
def ofSpan (span : Span) (text : List Char) : Excerpt :=
  let before := Text.takeBytes span.offsetStart text
  let after := text.drop before.length
  -- The line shown is what surrounds the start of the span up to the next line breaks.
  let head := Text.lastLine before
  let covered := (Text.takeBytes span.offsetEnd text).drop before.length
  { lineNumber := before.count '\n' + 1
    line := Text.trimReturns (head ++ Text.firstLine after)
    indent := head.length
    width := max 1 (Text.firstLine covered).length }

/-- The rows below the message. -/
def rows (e : Excerpt) : List String :=
  let gutter := toString e.lineNumber
  let padding := "".pushn ' ' gutter.length
  [padding ++ " |",
    gutter ++ " | " ++ String.ofList e.line,
    padding ++ " | " ++ "".pushn ' ' e.indent ++ "".pushn '^' e.width]

end Excerpt

namespace ParseError

/-- The error with the line of the text that it is in. -/
def render (e : ParseError) (text : String) : String :=
  String.intercalate "\n" (e.message :: (Excerpt.ofSpan e.span text.toList).rows)

/-- What is put in front of an error on a terminal. -/
def terminalMark : String := "❌ "

/-- The error as shown on a terminal. -/
def renderForTerminal (e : ParseError) (text : String) : String := terminalMark ++ e.render text

end ParseError

end LabelSelector
