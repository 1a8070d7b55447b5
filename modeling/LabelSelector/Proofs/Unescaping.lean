import LabelSelector.Proofs.Pairing

/-! # The grammar of raw values

  A raw value is made of symbols: a character other than the backslash stands for itself,
  and five pairs of a backslash and a character stand for one character each. Decoding is
  settled by the symbols a raw value begins with.

  - A raw value is decoded if and only if it is made of symbols, and then the value is what
    the symbols mean.
  - Any other raw value fails where its longest beginning made of symbols ends: a backslash
    stands there, and the error names the character behind it, if there is one.
  - Decoding leaves nothing behind from one symbol to the next, so what is decoded in front
    of a raw value is put in front of its value.
-/

namespace LabelSelector

namespace Escape

/-! ### Symbols -/

/-- What raw values are made of. -/
inductive Symbol where
  /-- A character that starts no escape. -/
  | plain (c : Char) (hbackslash : c ≠ '\\')
  | newline
  | tab
  | carriageReturn
  | backslash
  | quote

namespace Symbol

/-- How a symbol is written. -/
def chars : Symbol → List Char
  | plain c _ => [c]
  | newline => ['\\', 'n']
  | tab => ['\\', 't']
  | carriageReturn => ['\\', 'r']
  | backslash => ['\\', '\\']
  | quote => ['\\', '"']

/-- The character that a symbol stands for. -/
def meaning : Symbol → Char
  | plain c _ => c
  | newline => '\n'
  | tab => '\t'
  | carriageReturn => '\r'
  | backslash => '\\'
  | quote => '"'

/-- Symbols in a row. -/
def write (us : List Symbol) : List Char := us.flatMap chars

@[simp] theorem write_nil : write [] = [] := rfl

@[simp] theorem write_cons (u : Symbol) (us : List Symbol) :
    write (u :: us) = u.chars ++ write us :=
  List.flatMap_cons

/-- One symbol is decoded to one character. -/
theorem decode_chars_append (u : Symbol) (rest : List Char) :
    decode (u.chars ++ rest) = (decode rest).map (u.meaning :: ·) := by
  cases u with
  | plain c hbackslash => exact decode_cons hbackslash rest
  | newline | tab | carriageReturn | backslash | quote => exact decode_pair rfl rest

/-- Symbols are decoded to what they mean. -/
theorem decode_write (us : List Symbol) : decode (write us) = .ok (us.map meaning) := by
  induction us with
  | nil => rfl
  | cons u us ih =>
    rw [write_cons, decode_chars_append, ih]
    rfl

/-- Symbols leave nothing behind for what follows them. -/
theorem decode_write_append (us : List Symbol) (rest : List Char) :
    decode (write us ++ rest) = (decode rest).map (us.map meaning ++ ·) :=
  decode_append (decode_write us) rest

/-- A pair with a meaning is a symbol. -/
theorem exists_chars_eq {c : Char} (h : c ∈ ['n', 't', 'r', '\\', '"']) :
    ∃ u : Symbol, u.chars = ['\\', c] := by
  have hcases : c = 'n' ∨ c = 't' ∨ c = 'r' ∨ c = '\\' ∨ c = '"' := by simpa using h
  rcases hcases with hc | hc | hc | hc | hc <;> subst hc
  · exact ⟨newline, rfl⟩
  · exact ⟨tab, rfl⟩
  · exact ⟨carriageReturn, rfl⟩
  · exact ⟨backslash, rfl⟩
  · exact ⟨quote, rfl⟩

end Symbol

open Escape.Symbol (write)

/-! ### Where symbols end -/

/-- What is wrong with a text that does not begin with a symbol. -/
inductive Stuck : List Char → Error → Prop where
  | invalid {c : Char} (rest : List Char) : c ∉ ['n', 't', 'r', '\\', '"'] →
      Stuck ('\\' :: c :: rest) (.invalid c)
  | unterminated : Stuck ['\\'] .unterminated

theorem Stuck.decode_eq {rest : List Char} {e : Error} (h : Stuck rest e) :
    decode rest = .error e := by
  cases h with
  | invalid rest hc => exact decode_invalid (meaning?_eq_none_iff.mpr hc) rest
  | unterminated => rfl

/-- However much of it is read, a stuck text holds no symbol. -/
theorem Stuck.eq_nil_of_prefix {rest : List Char} {e : Error} (h : Stuck rest e)
    {us : List Symbol} (hus : write us <+: rest) : write us = [] := by
  by_contra hne
  obtain ⟨d, front, hfront⟩ := List.exists_cons_of_ne_nil hne
  have hdecode : decode (write us) = .ok (us.map Symbol.meaning) := Symbol.decode_write us
  rw [hfront] at hus hdecode
  cases h with
  | unterminated =>
    obtain ⟨hd, hnil⟩ := List.cons_prefix_cons.mp hus
    rw [hd, List.prefix_nil.mp hnil] at hdecode
    cases hdecode
  | @invalid c rest hc =>
    obtain ⟨hd, hprefix⟩ := List.cons_prefix_cons.mp hus
    rw [hd] at hdecode
    -- The first symbol would be the backslash alone or the pair that is none.
    cases front with
    | nil => cases hdecode
    | cons d' front =>
      obtain ⟨hd', -⟩ := List.cons_prefix_cons.mp hprefix
      rw [hd', decode_invalid (meaning?_eq_none_iff.mpr hc)] at hdecode
      cases hdecode

/-- A raw value is read in symbols, until it ends or reading is stuck. -/
theorem exists_symbols (raw : List Char) :
    ∃ us rest, raw = write us ++ rest ∧ (rest = [] ∨ ∃ e, Stuck rest e) := by
  fun_induction decode raw with
  | case1 => exact ⟨[], [], rfl, .inl rfl⟩
  | case2 => exact ⟨[], ['\\'], rfl, .inr ⟨_, .unterminated⟩⟩
  | case3 c cs hc => exact ⟨[], _, rfl, .inr ⟨_, .invalid cs (meaning?_eq_none_iff.mp hc)⟩⟩
  | case4 c cs m hc ih =>
    obtain ⟨us, rest, hcs, hrest⟩ := ih
    have hmem : c ∈ ['n', 't', 'r', '\\', '"'] := by
      by_contra hnot
      rw [meaning?_eq_none_iff.mpr hnot] at hc
      cases hc
    obtain ⟨u, hu⟩ := Symbol.exists_chars_eq hmem
    refine ⟨u :: us, rest, ?_, hrest⟩
    rw [Symbol.write_cons, hu, hcs]
    rfl
  | case5 c cs hlast hpair ih =>
    obtain ⟨us, rest, hcs, hrest⟩ := ih
    have hc : c ≠ '\\' := ne_backslash hlast hpair
    refine ⟨.plain c hc :: us, rest, ?_, hrest⟩
    rw [hcs]
    rfl

/-- Decoding answers what the symbols mean, for all raw values made of symbols and for no
    others. -/
theorem decode_eq_ok_iff {raw value : List Char} :
    decode raw = .ok value ↔ ∃ us, raw = write us ∧ value = us.map Symbol.meaning := by
  constructor
  · intro h
    obtain ⟨us, rest, hraw, hend⟩ := exists_symbols raw
    rcases hend with hnil | ⟨e, hstuck⟩
    · rw [hnil, List.append_nil] at hraw
      rw [hraw, Symbol.decode_write] at h
      exact ⟨us, hraw, (Except.ok.inj h).symm⟩
    · rw [hraw, Symbol.decode_write_append, hstuck.decode_eq] at h
      cases h
  · intro h
    obtain ⟨us, hraw, hvalue⟩ := h
    rw [hraw, hvalue]
    exact Symbol.decode_write us

/-- Decoding fails where symbols end. -/
theorem decode_eq_error_iff {raw : List Char} {e : Error} :
    decode raw = .error e ↔ ∃ us rest, raw = write us ++ rest ∧ Stuck rest e := by
  constructor
  · intro h
    obtain ⟨us, rest, hraw, hend⟩ := exists_symbols raw
    rcases hend with hnil | ⟨e', hstuck⟩
    · rw [hraw, hnil, List.append_nil, Symbol.decode_write] at h
      cases h
    · rw [hraw, Symbol.decode_write_append, hstuck.decode_eq] at h
      obtain rfl : e' = e := Except.error.inj h
      exact ⟨us, rest, hraw, hstuck⟩
  · intro h
    obtain ⟨us, rest, hraw, hstuck⟩ := h
    rw [hraw, Symbol.decode_write_append, hstuck.decode_eq]
    rfl

/-! ### The longest beginning -/

/-- The longest beginning of a raw value that is made of symbols. -/
structure LongestWritten (raw front : List Char) : Prop where
  written : ∃ us, front = write us
  beginning : front <+: raw
  longest : ∀ us, write us <+: raw → (write us).length ≤ front.length

/-- Symbols cannot be read any further than reading is stuck. -/
theorem Stuck.longestWritten {us : List Symbol} {rest : List Char} {e : Error}
    (h : Stuck rest e) : LongestWritten (write us ++ rest) (write us) where
  written := ⟨us, rfl⟩
  beginning := List.prefix_append _ _
  longest := by
    intro vs hvs
    rcases List.prefix_or_prefix_of_prefix hvs (List.prefix_append (write us) rest) with
      hle | hle
    · exact hle.length_le
    · obtain ⟨more, hmore⟩ := hle
      -- What the longer beginning has more is made of symbols too.
      have hdecode : (decode more).map (us.map Symbol.meaning ++ ·) =
          .ok (vs.map Symbol.meaning) := by
        rw [← Symbol.decode_write_append, hmore]
        exact Symbol.decode_write vs
      obtain ⟨value, hvalue⟩ := exists_of_map_eq_ok hdecode
      obtain ⟨ws, hws, -⟩ := decode_eq_ok_iff.mp hvalue
      have hrest : write ws <+: rest := by
        rw [← hmore, hws] at hvs
        exact (List.prefix_append_right_inj _).mp hvs
      rw [← hmore, hws, h.eq_nil_of_prefix hrest, List.append_nil]

end Escape

/-! ### Raw values -/

open Escape (Symbol)

/-- The value of a raw value is what its symbols mean. -/
theorem unescape_eq_ok_iff_symbols {raw value : String} :
    (unescape raw).map Unescaped.value = .ok value ↔
      ∃ us, raw.toList = Symbol.write us ∧ value.toList = us.map Symbol.meaning := by
  rw [← Escape.decode_eq_ok_iff, unescape_map_value]
  cases Escape.decode raw.toList with
  | error e => exact ⟨nofun, nofun⟩
  | ok cs =>
    have hvalue : String.ofList cs = value ↔ cs = value.toList :=
      ⟨fun h => by rw [← h, String.toList_ofList], fun h => by rw [h, String.ofList_toList]⟩
    simpa [Except.map] using hvalue

/-- Only what holds no backslash is left as it is. -/
theorem unescape_eq_verbatim_iff {raw value : String} :
    unescape raw = .ok ⟨value, true⟩ ↔ value = raw ∧ '\\' ∉ raw.toList := by
  by_cases hmem : '\\' ∈ raw.toList
  · have hloop : unescape raw =
        (Escape.decode raw.toList).map fun cs => ⟨String.ofList cs, false⟩ := by
      unfold unescape
      rw [if_pos (by simpa using hmem)]
    rw [hloop]
    constructor
    · intro h
      cases hdecode : Escape.decode raw.toList <;> rw [hdecode] at h <;> cases h
    · intro h
      exact absurd hmem h.2
  · rw [unescape_of_not_mem hmem]
    constructor
    · intro h
      cases h
      exact ⟨rfl, hmem⟩
    · intro h
      rw [h.1]

/-- What is decoded in front of a raw value is put in front of its value, or its error
    stays. -/
theorem unescape_append {a va : String} (h : (unescape a).map Unescaped.value = .ok va)
    (b : String) : (unescape (a ++ b)).map Unescaped.value =
      ((unescape b).map Unescaped.value).map (va ++ ·) := by
  obtain ⟨us, ha, hva⟩ := unescape_eq_ok_iff_symbols.mp h
  rw [unescape_map_value, unescape_map_value, String.toList_append, ha,
    Symbol.decode_write_append, ← hva]
  cases Escape.decode b.toList with
  | error e => rfl
  | ok cs => simp [Except.map, String.ofList_append]

/-- Raw values are decoded by their grammar.

  - The value is what the symbols mean that a raw value is made of.
  - A raw value that is not made of symbols has a backslash behind its longest beginning
    that is. The error names the character behind this backslash; there is none exactly if
    the end is missing.
  - The raw value itself is answered exactly if it has no backslash. The loop would answer
    the same.
  - Raw values are decoded one after the other, and what is written is read back. -/
theorem unescape_by_grammar :
    (∀ raw value, (unescape raw).map Unescaped.value = .ok value ↔
      ∃ us, raw.toList = Symbol.write us ∧ value.toList = us.map Symbol.meaning) ∧
    (∀ raw, (∀ us, raw.toList ≠ Symbol.write us) →
      ∃ front rest, Escape.LongestWritten raw.toList front ∧
        raw.toList = front ++ '\\' :: rest ∧
        (unescape raw = .error .unterminated ↔ rest = []) ∧
        ∀ c, unescape raw = .error (.invalid c) ↔ rest.head? = some c) ∧
    (∀ raw value, unescape raw = .ok ⟨value, true⟩ ↔ value = raw ∧ '\\' ∉ raw.toList) ∧
    (∀ raw, (unescape raw).map Unescaped.value =
      (Escape.decode raw.toList).map String.ofList) ∧
    (∀ a va, (unescape a).map Unescaped.value = .ok va →
      ∀ b, (unescape (a ++ b)).map Unescaped.value =
        ((unescape b).map Unescaped.value).map (va ++ ·)) ∧
    ∀ value raw, Escape.Writes value.toList raw.toList →
      (unescape raw).map Unescaped.value = .ok value := by
  refine ⟨fun _ _ => unescape_eq_ok_iff_symbols, ?_, fun _ _ => unescape_eq_verbatim_iff,
    unescape_map_value, fun _ _ => unescape_append, ?_⟩
  · intro raw hraw
    obtain ⟨us, rest, hsplit, hend⟩ := Escape.exists_symbols raw.toList
    rcases hend with hnil | ⟨e, hstuck⟩
    · rw [hnil, List.append_nil] at hsplit
      exact absurd hsplit (hraw us)
    · have hlongest : Escape.LongestWritten raw.toList (Symbol.write us) := by
        rw [hsplit]
        exact hstuck.longestWritten
      have herror : unescape raw = .error e :=
        unescape_eq_error_iff.mpr (Escape.decode_eq_error_iff.mpr ⟨us, rest, hsplit, hstuck⟩)
      rw [herror]
      cases hstuck with
      | @invalid c rest hc => exact ⟨_, c :: rest, hlongest, hsplit, by simp, by simp⟩
      | unterminated => exact ⟨_, [], hlongest, hsplit, by simp, by simp⟩
  · intro value raw hwrites
    rw [unescape_map_value, hwrites.decode_eq]
    simp [Except.map]

example : unescape "a\\\\\\q\\" = .error (.invalid 'q') := by decide +kernel

end LabelSelector
