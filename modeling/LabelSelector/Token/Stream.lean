import LabelSelector.Token.Lexeme

/-! # The token stream of a text

  `Token.read` skips blanks and reads one token with its place. `Token.stream`
  repeats this to the end of the text or to its first error, and `tokenize` is
  the answer for a whole text.
-/

namespace LabelSelector

namespace Token

/-! ### One token -/

/-- What one step of reading finds. -/
inductive Reading where
  /-- Nothing but blanks up to the end, which is at `stop`. -/
  | finish (stop : Cursor)
  /-- A token, the place behind it and the text after it. -/
  | token (token : Token) (stop : Cursor) (rest : List Char)
  /-- A lexical error. -/
  | error (error : LexicalError)
  deriving DecidableEq, Repr

/-- The reading at a lexeme that starts at `start`. -/
def place (start : Cursor) : Lexeme.Reading → Reading
  | .lexeme kind chars rest =>
    .token ⟨kind, String.ofList chars, .covering start chars⟩ (start.advanceAll chars) rest
  | .flaw cause passed fragment =>
    .error ⟨cause, .covering (start.advanceAll passed) fragment, String.ofList fragment⟩

/-- Skips blanks and reads one token of the text `cs`, whose first character is at `k`. -/
def read (k : Cursor) (cs : List Char) : Reading :=
  let start := k.advanceAll (cs.takeWhile isBlank)
  match cs.dropWhile isBlank with
  | [] => .finish start
  | c :: cs => place start (Lexeme.read c cs)

/-- Reading a token leaves a shorter text. -/
theorem read_length {k stop : Cursor} {cs rest : List Char} {t : Token}
    (h : read k cs = .token t stop rest) : rest.length < cs.length := by
  unfold read at h
  simp only at h
  split at h
  · simp at h
  · next c cs' heq =>
    -- Skipping blanks does not lengthen the text, and the lexeme takes at least `c`.
    have hdrop : (c :: cs').length ≤ cs.length := by
      rw [← heq]
      exact (List.dropWhile_suffix isBlank).length_le
    cases hread : Lexeme.read c cs' with
    | flaw cause passed fragment => simp [hread, place] at h
    | lexeme kind chars rest' =>
      simp only [hread, place, Reading.token.injEq] at h
      obtain ⟨-, -, rfl⟩ := h
      have := Lexeme.read_length hread
      simp only [List.length_cons] at hdrop
      omega

/-! ### All tokens -/

/-- The tokens of a text up to its end or its first error, and that error. -/
def stream (k : Cursor) (cs : List Char) : List Token × Option LexicalError :=
  match _h : read k cs with
  | .finish _ => ([], none)
  | .error e => ([], some e)
  | .token t stop rest =>
    let (ts, e) := stream stop rest
    (t :: ts, e)
termination_by cs.length
decreasing_by exact read_length _h

/-- The token stream of a whole text. -/
def streamOf (text : String) : List Token × Option LexicalError := stream .origin text.toList

end Token

/-- All tokens of a text, or its first lexical error. -/
def tokenize (text : String) : Except LexicalError (List Token) :=
  match Token.streamOf text with
  | (ts, none) => .ok ts
  | (_, some e) => .error e

end LabelSelector
