import LabelSelector.Fault

/-! # Cursors

  A cursor is a place in a text in two measures at once: bytes of the UTF-8 form,
  for cutting the text, and code points, for showing the place to a reader.
-/

namespace LabelSelector

/-- A place in a text. -/
structure Cursor where
  /-- Bytes of the UTF-8 form before the place. -/
  offset : Nat
  /-- Code points before the place. -/
  column : Nat
  deriving DecidableEq, Repr

namespace Cursor

/-- The place before the first character. -/
def origin : Cursor := ⟨0, 0⟩

/-- The place after one more character. -/
def advance (k : Cursor) (c : Char) : Cursor := ⟨k.offset + c.utf8Size, k.column + 1⟩

/-- The place after several more characters. -/
def advanceAll (k : Cursor) (cs : List Char) : Cursor := cs.foldl advance k

/-- The place before a character of `width` bytes that ends here. No width is no
    step at all; a step to before the start of the text is a fault. -/
def retreat (k : Cursor) (width : Nat) : Except Fault Cursor :=
  if width = 0 then .ok k
  else do
    let offset ← difference k.offset width
    let column ← difference k.column 1
    return ⟨offset, column⟩

/-! ### Advancing -/

@[simp] theorem advanceAll_nil (k : Cursor) : k.advanceAll [] = k := rfl

@[simp] theorem advanceAll_cons (k : Cursor) (c : Char) (cs : List Char) :
    k.advanceAll (c :: cs) = (k.advance c).advanceAll cs := rfl

theorem advanceAll_append (k : Cursor) (as bs : List Char) :
    k.advanceAll (as ++ bs) = (k.advanceAll as).advanceAll bs := by
  simp [advanceAll, List.foldl_append]

/-- Retreating over the character just passed leads back. -/
theorem retreat_advance (k : Cursor) (c : Char) :
    (k.advance c).retreat c.utf8Size = .ok k := by
  have h : c.utf8Size ≠ 0 := Nat.pos_iff_ne_zero.mp c.utf8Size_pos
  simp [retreat, advance, difference, h, bind, Except.bind, pure, Except.pure]

end Cursor

end LabelSelector
