/-! # Readers of text

  A `TextReader` takes something off the front of a text and hands back the rest,
  which is never longer than the text was. Readers are put together with `do`;
  the bound on the rest comes along, and every loop over a text ends by it.
-/

namespace LabelSelector

/-- Something that reads the front of a text, or fails with an error of type `ε`. -/
def TextReader (ε α : Type) : Type :=
  (cs : List Char) → Except ε (α × { rest : List Char // rest.length ≤ cs.length })

namespace TextReader

variable {ε α : Type}

instance : Monad (TextReader ε) where
  pure a := fun cs => .ok (a, ⟨cs, Nat.le_refl _⟩)
  bind m f := fun cs =>
    match m cs with
    | .error e => .error e
    | .ok (a, ⟨rest, h⟩) =>
      match f a rest with
      | .error e => .error e
      | .ok (b, ⟨rest', h'⟩) => .ok (b, ⟨rest', Nat.le_trans h' h⟩)

/-- What was read off a shorter text, seen from the text it is the end of. -/
def shorten {cs rest : List Char} (h : rest.length < cs.length)
    (r : Except ε (α × { rest' : List Char // rest'.length ≤ rest.length })) :
    Except ε (α × { rest' : List Char // rest'.length ≤ cs.length }) :=
  r.map fun (a, rest') => (a, ⟨rest'.1, Nat.le_trans rest'.2 (Nat.le_of_lt h)⟩)

/-- Gives up. -/
def fail (e : ε) : TextReader ε α := fun _ => .error e

/-- Takes over what was found without reading. -/
def lift (r : Except ε α) : TextReader ε α := fun cs => r.map fun a => (a, ⟨cs, Nat.le_refl _⟩)

/-- The next character, which stays. -/
def look : TextReader ε (Option Char) := fun cs => .ok (cs.head?, ⟨cs, Nat.le_refl _⟩)

/-- The whole text, which stays. -/
def ahead : TextReader ε (List Char) := fun cs => .ok (cs, ⟨cs, Nat.le_refl _⟩)

/-- Passes over one character, if there is one. -/
def skip : TextReader ε Unit := fun cs => .ok ((), ⟨cs.drop 1, by simp⟩)

/-- Passes over the given text if it stands here, and tells whether it did. -/
def skipIf (text : List Char) : TextReader ε Bool := fun cs =>
  if text.isPrefixOf cs then .ok (true, ⟨cs.drop text.length, by simp⟩)
  else .ok (false, ⟨cs, Nat.le_refl _⟩)

/-- Takes characters as long as they have a property. -/
def takeWhile (p : Char → Bool) : TextReader ε (List Char) := fun cs =>
  .ok (cs.takeWhile p, ⟨cs.dropWhile p, (List.dropWhile_suffix p).length_le⟩)

end TextReader

end LabelSelector
