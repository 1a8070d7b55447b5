import LabelSelector.Token.Basic
import LabelSelector.Token.Error

/-! # Lexemes

  A lexeme is the text of one token. `Lexeme.read` takes the longest lexeme off
  the front of a text, or tells what is wrong there; it knows nothing of places.

  - names are maximal runs of name characters,
  - `=` takes a `~` that follows it, `!` needs a `=` or a `~`,
  - a quoted text ends at the first quote that no backslash has paired up.
-/

namespace LabelSelector

/-! ### Classes of characters -/

/-- Blanks between tokens. -/
def isBlank (c : Char) : Bool := c == ' ' || c == '\t' || c == '\n'

/-- Characters that start a name: ASCII letters and the underscore. -/
def isNameStart (c : Char) : Bool := c.isAlpha || c == '_'

/-- Characters that continue a name: ASCII letters, digits, underscore and colon. -/
def isNameChar (c : Char) : Bool := c.isAlphanum || c == '_' || c == ':'

namespace Lexeme

/-! ### Reading -/

/-- What stands at the front of a text. -/
inductive Reading where
  /-- A lexeme, and the text after it. -/
  | lexeme (kind : Token.Kind) (chars rest : List Char)
  /-- Something that is no lexeme: after the characters `passed`, the characters
      `fragment` are at fault. -/
  | flaw (cause : LexicalError.Cause) (passed fragment : List Char)
  deriving DecidableEq, Repr

/-- Splits the text after an opening quote behind its closing quote. A backslash
    and the character after it stay together. -/
def quotedBody : List Char → Option (List Char × List Char)
  | [] => none
  | '"' :: rest => some (['"'], rest)
  | '\\' :: [] => none
  | '\\' :: c :: rest =>
    (quotedBody rest).map fun (body, rest) => ('\\' :: c :: body, rest)
  | c :: rest => (quotedBody rest).map fun (body, rest) => (c :: body, rest)

/-- Reads an operator that starts with `=`; `cs` follows. -/
def readEqual : List Char → Reading
  | '~' :: rest => .lexeme .operator ['=', '~'] rest
  | cs => .lexeme .operator ['='] cs

/-- Reads an operator that starts with `!`; `cs` follows. -/
def readNot : List Char → Reading
  | '=' :: rest => .lexeme .operator ['!', '='] rest
  | '~' :: rest => .lexeme .operator ['!', '~'] rest
  | cs => .flaw (.expected "=~") ['!'] (cs.take 1)

/-- Reads a quoted text; `cs` follows its opening quote. -/
def readQuoted (cs : List Char) : Reading :=
  match quotedBody cs with
  | some (body, rest) => .lexeme .quoted ('"' :: body) rest
  | none => .flaw (.unterminated '"') [] ('"' :: cs)

/-- Reads the lexeme at the front of the text `c :: cs`. -/
def read (c : Char) (cs : List Char) : Reading :=
  match c with
  | '\x7b' => .lexeme .openBrace ['\x7b'] cs
  | '\x7d' => .lexeme .closeBrace ['\x7d'] cs
  | ',' => .lexeme .comma [','] cs
  | '=' => readEqual cs
  | '!' => readNot cs
  | '"' => readQuoted cs
  | c =>
    if isNameStart c then
      .lexeme .identifier (c :: cs.takeWhile isNameChar) (cs.dropWhile isNameChar)
    else .flaw .invalidInput [] [c]

/-! ### Nothing is lost -/

theorem quotedBody_append {cs body rest : List Char} (h : quotedBody cs = some (body, rest)) :
    body ++ rest = cs := by
  fun_induction quotedBody cs generalizing body rest with
  | case1 => cases h
  | case2 => cases h; rfl
  | case3 => cases h
  | case4 c rest' ih =>
    obtain ⟨⟨b, r⟩, hb, he⟩ := Option.map_eq_some_iff.1 h
    cases he
    simp [ih hb]
  | case5 c rest' _ _ _ ih =>
    obtain ⟨⟨b, r⟩, hb, he⟩ := Option.map_eq_some_iff.1 h
    cases he
    simp [ih hb]

theorem readEqual_append {cs : List Char} {kind : Token.Kind} {chars rest : List Char}
    (h : readEqual cs = .lexeme kind chars rest) : chars ≠ [] ∧ chars ++ rest = '=' :: cs := by
  unfold readEqual at h
  split at h <;> cases h <;> simp

theorem readNot_append {cs : List Char} {kind : Token.Kind} {chars rest : List Char}
    (h : readNot cs = .lexeme kind chars rest) : chars ≠ [] ∧ chars ++ rest = '!' :: cs := by
  unfold readNot at h
  split at h <;> cases h <;> simp

theorem readQuoted_append {cs : List Char} {kind : Token.Kind} {chars rest : List Char}
    (h : readQuoted cs = .lexeme kind chars rest) : chars ≠ [] ∧ chars ++ rest = '"' :: cs := by
  unfold readQuoted at h
  split at h
  · next heq => cases h; simpa using quotedBody_append heq
  · cases h

/-- A lexeme is not empty, and with the text after it makes up the text read. -/
theorem read_append {c : Char} {cs : List Char} {kind : Token.Kind} {chars rest : List Char}
    (h : read c cs = .lexeme kind chars rest) : chars ≠ [] ∧ chars ++ rest = c :: cs := by
  unfold read at h
  split at h
  · cases h; simp
  · cases h; simp
  · cases h; simp
  · exact readEqual_append h
  · exact readNot_append h
  · exact readQuoted_append h
  · split at h <;> cases h
    simp

/-- Reading a lexeme leaves a shorter text. -/
theorem read_length {c : Char} {cs : List Char} {kind : Token.Kind} {chars rest : List Char}
    (h : read c cs = .lexeme kind chars rest) : rest.length ≤ cs.length := by
  -- Both sides of `chars ++ rest = c :: cs` are equally long, and `chars` is not empty.
  obtain ⟨hne, happ⟩ := read_append h
  have hpos := List.length_pos_iff.mpr hne
  have happ := congrArg List.length happ
  simp only [List.length_append, List.length_cons] at happ
  omega

end Lexeme

end LabelSelector
