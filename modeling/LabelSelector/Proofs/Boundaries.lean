import LabelSelector.Proofs.Layout
import Mathlib.Order.Bounds.Basic

/-! # Character boundaries

  Texts are cut at numbers of bytes. Only those are character boundaries that are the bytes
  of some beginning of the text.

  - `takeBytes` cuts a text at the last boundary that is not behind an offset. This is the
    one to which stepping down from the offset leads.
  - The cut between two boundaries that are in order does not fail.
-/

namespace LabelSelector

namespace Text

/-! ### Bytes -/

/-- The bytes of some characters. -/
def bytes (cs : List Char) : Nat := (String.ofList cs).utf8ByteSize

@[simp] theorem bytes_nil : bytes [] = 0 := rfl

@[simp] theorem bytes_append (cs ds : List Char) : bytes (cs ++ ds) = bytes cs + bytes ds := by
  simp [bytes]

@[simp] theorem bytes_cons (c : Char) (cs : List Char) :
    bytes (c :: cs) = c.utf8Size + bytes cs := by
  simp [bytes, String.ofList_cons]

@[simp] theorem bytes_toList (text : String) : bytes text.toList = text.utf8ByteSize := by
  simp [bytes]

theorem bytes_eq_zero {cs : List Char} (h : bytes cs = 0) : cs = [] := by
  simpa [bytes] using h

theorem bytes_mono {cs ds : List Char} (h : cs <+: ds) : bytes cs ≤ bytes ds := by
  obtain ⟨rest, rfl⟩ := h
  simp

/-- Of two beginnings of a text, the one with no more bytes is the beginning of the other. -/
theorem prefix_of_bytes_le {cs ds text : List Char} (hcs : cs <+: text) (hds : ds <+: text)
    (hle : bytes cs ≤ bytes ds) : cs <+: ds := by
  rcases List.prefix_or_prefix_of_prefix hcs hds with h | ⟨rest, rfl⟩
  · exact h
  · rw [bytes_append] at hle
    obtain rfl : rest = [] := bytes_eq_zero (by omega)
    exact ⟨[], by simp⟩

/-! ### The longest beginning of some bytes -/

theorem prefix_takeBytes (n : Nat) (cs : List Char) : takeBytes n cs <+: cs := by
  fun_induction takeBytes n cs with
  | case1 => exact List.prefix_rfl
  | case2 n c cs hle ih => exact (List.prefix_cons_inj c).mpr ih
  | case3 => exact List.nil_prefix

theorem bytes_takeBytes_le (n : Nat) (cs : List Char) : bytes (takeBytes n cs) ≤ n := by
  fun_induction takeBytes n cs with
  | case1 => exact Nat.zero_le _
  | case2 n c cs hle ih =>
    rw [bytes_cons]
    omega
  | case3 => exact Nat.zero_le _

/-- No beginning of at most so many bytes is longer. -/
theorem bytes_le_bytes_takeBytes {n : Nat} {front cs : List Char} (hfront : front <+: cs)
    (hle : bytes front ≤ n) : bytes front ≤ bytes (takeBytes n cs) := by
  fun_induction takeBytes n cs generalizing front with
  | case1 => exact bytes_mono hfront
  | case2 n c cs _ ih =>
    cases front with
    | nil => exact Nat.zero_le _
    | cons d front =>
      obtain ⟨rfl, htail⟩ := List.cons_prefix_cons.mp hfront
      rw [bytes_cons] at hle
      rw [bytes_cons, bytes_cons]
      exact Nat.add_le_add_left (ih htail (by omega)) _
  | case3 n c cs hlt =>
    cases front with
    | nil => exact Nat.le_refl _
    | cons d front =>
      -- The first character alone would be too much.
      obtain ⟨rfl, -⟩ := List.cons_prefix_cons.mp hfront
      rw [bytes_cons] at hle
      omega

/-- At a boundary, exactly what is before it is taken. -/
theorem takeBytes_append (front back : List Char) :
    takeBytes (bytes front) (front ++ back) = front := by
  have hprefix := prefix_takeBytes (bytes front) (front ++ back)
  have hfront : front <+: front ++ back := List.prefix_append front back
  have hle := bytes_takeBytes_le (bytes front) (front ++ back)
  have hge := bytes_le_bytes_takeBytes hfront (Nat.le_refl _)
  exact List.IsPrefix.eq_of_length_le (prefix_of_bytes_le hprefix hfront hle)
    (prefix_of_bytes_le hfront hprefix hge).length_le

/-! ### Cuts that may fail -/

/-- The part of a text between two offsets. There is none if they are out of order, behind
    the end of the text, or inside a character. -/
def cut? (start stop : Nat) (cs : List Char) : Option (List Char) :=
  if start ≤ stop then do
    let (_, rest) ← splitAtByte? start cs
    let (inside, _) ← splitAtByte? (stop - start) rest
    return inside
  else none

theorem cut?_eq_some {start stop : Nat} {cs before inside after : List Char}
    (hcs : cs = before ++ (inside ++ after)) (hstart : start = bytes before)
    (hstop : stop = bytes (before ++ inside)) : cut? start stop cs = some inside := by
  have hbefore : splitAtByte? (bytes before) (before ++ (inside ++ after)) =
      some (before, inside ++ after) := splitAtByte?_append before _
  have hinside : splitAtByte? (bytes inside) (inside ++ after) = some (inside, after) :=
    splitAtByte?_append inside after
  rw [hcs, hstart, hstop, bytes_append]
  simp [cut?, hbefore, hinside]

end Text

/-! ### Floors -/

/-- The place is the last character boundary that is neither behind the offset nor behind
    the text. -/
def IsFloor (text : String) (offset place : Nat) : Prop :=
  IsGreatest {n | String.Pos.Raw.IsValid text ⟨n⟩ ∧ n ≤ min offset text.utf8ByteSize} place

/-- Steps down from an offset to a boundary. Below the start of the text there is none. -/
def floor? (text : String) : Nat → Option Nat
  | 0 => if String.Pos.Raw.isValid text ⟨0⟩ then some 0 else none
  | n + 1 => if String.Pos.Raw.isValid text ⟨n + 1⟩ then some (n + 1) else floor? text n

/-- The boundaries of a text are the bytes of its beginnings. -/
theorem isValid_iff_front {text : String} {n : Nat} :
    String.Pos.Raw.IsValid text ⟨n⟩ ↔ ∃ front, front <+: text.toList ∧ n = Text.bytes front := by
  rw [String.Pos.Raw.isValid_iff_exists_append]
  constructor
  · rintro ⟨front, back, rfl, hplace⟩
    refine ⟨front.toList, ⟨back.toList, String.toList_append.symm⟩, ?_⟩
    rw [Text.bytes_toList]
    exact congrArg String.Pos.Raw.byteIdx hplace
  · rintro ⟨front, ⟨back, hback⟩, rfl⟩
    refine ⟨String.ofList front, String.ofList back, ?_, rfl⟩
    rw [← String.ofList_append, hback, String.ofList_toList]

theorem isFloor_takeBytes (text : String) (offset : Nat) :
    IsFloor text offset (Text.bytes (Text.takeBytes offset text.toList)) := by
  have hprefix := Text.prefix_takeBytes offset text.toList
  constructor
  · refine ⟨isValid_iff_front.mpr ⟨_, hprefix, rfl⟩, Nat.le_min.mpr ⟨?_, ?_⟩⟩
    · exact Text.bytes_takeBytes_le offset text.toList
    · exact Text.bytes_toList text ▸ Text.bytes_mono hprefix
  · rintro n ⟨hvalid, hle⟩
    obtain ⟨front, hfront, rfl⟩ := isValid_iff_front.mp hvalid
    exact Text.bytes_le_bytes_takeBytes hfront (Nat.le_min.mp hle).1

/-- Stepping down leads to the last boundary on the way, if there is one. -/
theorem floor?_eq_some {text : String} {n place : Nat}
    (h : IsGreatest {m | String.Pos.Raw.IsValid text ⟨m⟩ ∧ m ≤ n} place) :
    floor? text n = some place := by
  obtain ⟨⟨hvalid, hle⟩, hgreatest⟩ := h
  induction n with
  | zero =>
    obtain rfl : place = 0 := Nat.le_zero.mp hle
    rw [floor?, if_pos (String.Pos.Raw.isValid_eq_true_iff.mpr hvalid)]
  | succ n ih =>
    rw [floor?]
    split
    · next hboundary =>
      have hge : n + 1 ≤ place :=
        hgreatest ⟨String.Pos.Raw.isValid_eq_true_iff.mp hboundary, Nat.le_refl _⟩
      rw [Nat.le_antisymm hle hge]
    · next hboundary =>
      -- The offset itself is no boundary, so that all boundaries are below it.
      have hne : place ≠ n + 1 := by
        rintro rfl
        exact hboundary (String.Pos.Raw.isValid_eq_true_iff.mpr hvalid)
      refine ih ?_ (by omega)
      rintro m ⟨hm, hbelow⟩
      exact hgreatest ⟨hm, Nat.le_succ_of_le hbelow⟩

/-- Stepping down never fails, and leads to where `takeBytes` cuts. -/
theorem floor?_eq_takeBytes (text : String) (offset : Nat) :
    floor? text (min offset text.utf8ByteSize) =
      some (Text.bytes (Text.takeBytes offset text.toList)) :=
  floor?_eq_some (isFloor_takeBytes text offset)

end LabelSelector
