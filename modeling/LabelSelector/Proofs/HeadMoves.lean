import LabelSelector.Matcher.Operator
import LabelSelector.Proofs.Layout
import LabelSelector.Token.Head

/-! # The moves of a reading head

  A head keeps two cursors and the width of one character, and changes them bit by bit. Here
  is what always holds of them, and what every move makes of it.

  - A place is `Sound` if its cursors stand between characters of the text, and the width, if
    there is one, is that of the character before the cursor that reads.
  - A trail is `Proper` if every move in it led from one sound place to another and did what
    it is for: a character is given back only after it has been read, and only once.
  - A head that has read some characters of its text is `At` them. Each move leads from such
    a head to another, without a fault.
-/

namespace LabelSelector

namespace Head

variable {text : String} {done token rest : List Char}

/-! ### Places -/

/-- A place in a text: before the token come the characters `done`, the characters `token`
    have been read since, and the characters `rest` are to be read. -/
structure Place.Stands (text : String) (done token rest : List Char) (p : Place) : Prop where
  /-- The characters make up the text. -/
  whole : text.toList = done ++ (token ++ rest)
  /-- The token starts behind what comes before it. -/
  start : p.start = .behind done
  /-- The head reads behind what has been read. -/
  pos : p.pos = .behind (done ++ token)
  /-- The width is that of the character before the head, if there is a width. -/
  width : p.width = 0 ∨ ∃ c ∈ (done ++ token).getLast?, p.width = c.utf8Size

/-- A place that stands somewhere in a text. -/
structure Place.Sound (text : String) (p : Place) : Prop where
  /-- The characters around it. -/
  stands : ∃ done token rest, p.Stands text done token rest
  /-- The cursors are in order. -/
  ordered : p.start.offset ≤ p.pos.offset
  /-- They are in the text. -/
  inside : p.pos.offset ≤ text.utf8ByteSize

theorem Place.Stands.sound {p : Place} (h : p.Stands text done token rest) : p.Sound text := by
  have hsize : ∀ front back : List Char, (String.ofList (front ++ back)).utf8ByteSize =
      (String.ofList front).utf8ByteSize + (String.ofList back).utf8ByteSize := by
    intro front back
    rw [String.ofList_append, String.utf8ByteSize_append]
  have htext : text.utf8ByteSize = (String.ofList (done ++ token ++ rest)).utf8ByteSize := by
    rw [List.append_assoc, ← h.whole, String.ofList_toList]
  refine ⟨⟨done, token, rest, h⟩, ?_, ?_⟩
  · rw [h.start, h.pos]
    show (String.ofList done).utf8ByteSize ≤ (String.ofList (done ++ token)).utf8ByteSize
    rw [hsize]
    omega
  · rw [h.pos, htext]
    show (String.ofList (done ++ token)).utf8ByteSize ≤ _
    rw [hsize (done ++ token)]
    omega

/-! ### Trails -/

/-- The character that has been read last, unless it has been given back. -/
def held : List Entry → Option Char
  | [] => none
  | e :: es =>
    match e.move with
    | .next found => found
    | .backup => none
    | .accept _ _ | .emit _ | .astray => held es

/-- A move does what it is for, where `held` has been read last and not been given back. -/
def Move.Fair (held : Option Char) (before after : Place) : Move → Prop
  | .next found => ∀ c ∈ found, after.pos = before.pos.advance c
  | .backup => ∃ c ∈ held, before.pos = after.pos.advance c
  | .accept valid taken =>
    if taken then ∃ c ∈ valid.toList, after.pos = before.pos.advance c else after.pos = before.pos
  | .emit t => t.kind = .operator → ∃ op, Operator.ofText? t.text = some op
  | .astray => False

/-- An entry of a move that was fair and led from one sound place to another. -/
structure Entry.Proper (text : String) (held : Option Char) (e : Entry) : Prop where
  before : e.before.Sound text
  after : e.after.Sound text
  fair : e.move.Fair held e.before e.after

/-- All entries of a trail are proper. -/
def Proper (text : String) : List Entry → Prop
  | [] => True
  | e :: es => e.Proper text (held es) ∧ Proper text es

/-! ### Heads in a text -/

/-- A head that has read the characters `done` before the token and `token` since, and has
    the characters `rest` before it. -/
structure At (text : String) (done token rest : List Char) (h : Head) : Prop where
  input : h.input = text
  failure : h.failure = none
  stands : h.place.Stands text done token rest
  proper : Proper text h.trail

/-- A head that can give the character `c` back. -/
structure Holding (text : String) (done token : List Char) (c : Char) (rest : List Char)
    (h : Head) : Prop extends At text done (token ++ [c]) rest h where
  width : h.place.width = c.utf8Size
  holds : held h.trail = some c

theorem at_ofText (text : String) : At text [] [] text.toList (ofText text) :=
  ⟨rfl, rfl, ⟨rfl, rfl, rfl, .inl rfl⟩, trivial⟩

/-- Before a head there is what it has not read. -/
theorem At.ahead_eq {h : Head} (hat : At text done token rest h) : h.ahead = some rest := by
  have hcut : Text.splitAtByte? (Cursor.behind (done ++ token)).offset (done ++ token ++ rest) =
      some (done ++ token, rest) := Text.splitAtByte?_append (done ++ token) rest
  rw [ahead, hat.input, hat.stands.pos, hat.stands.whole, ← List.append_assoc, hcut]
  rfl

/-- A fair move leads from a head in a text to a head in that text. -/
theorem At.moved {done' token' rest' : List Char} {h : Head} {move : Move} {before after : Place}
    (hat : At text done token rest h) (hbefore : before.Sound text)
    (hafter : after.Stands text done' token' rest') (hfair : move.Fair (held h.trail) before after) :
    At text done' token' rest' (h.moved move before after) :=
  ⟨hat.input, hat.failure, hafter, ⟨hbefore, hafter.sound, hfair⟩, hat.proper⟩

/-! ### Answers -/

namespace Action

variable {α β : Type} {m : Action α} {f : α → Action β} {h : Head} {a : α} {b : β}
  {post post' : Head → Prop}

/-- Without a fault, an action answers `a` and leaves a head of which `post` holds. -/
def Gets (m : Action α) (h : Head) (a : α) (post : Head → Prop) : Prop :=
  ∃ after, m h = .ok (a, after) ∧ post after

theorem gets_pure (hpost : post h) : Gets (pure a) h a post := ⟨h, rfl, hpost⟩

theorem Gets.bind (hm : m.Gets h a post) (hf : ∀ after, post after → (f a).Gets after b post') :
    (m >>= f).Gets h b post' := by
  obtain ⟨after, hanswer, hpost⟩ := hm
  obtain ⟨last, hnext, hlast⟩ := hf after hpost
  refine ⟨last, ?_, hlast⟩
  show Action.bind m f h = _
  rw [Action.bind, hanswer]
  exact hnext

theorem Gets.mono (hm : m.Gets h a post) (hpost : ∀ after, post after → post' after) :
    m.Gets h a post' := by
  obtain ⟨after, hanswer, hafter⟩ := hm
  exact ⟨after, hanswer, hpost after hafter⟩

end Action

open Head.Action (Gets gets_pure)

/-! ### Reading and giving back -/

variable {h : Head}

theorem gets_next {c : Char} (hat : At text done token (c :: rest) h) :
    Gets next h (some c) (Holding text done token c rest) := by
  have hnext : next h = .ok (some c, h.moved (.next (some c)) h.place
      { h.place with pos := h.place.pos.advance c, width := c.utf8Size }) := by
    rw [next, hat.ahead_eq]
  have hstands : ({ h.place with pos := h.place.pos.advance c, width := c.utf8Size } : Place).Stands
      text done (token ++ [c]) rest := by
    refine ⟨?_, hat.stands.start, ?_, ?_⟩
    · rw [hat.stands.whole, List.append_assoc, List.singleton_append]
    · show h.place.pos.advance c = _
      rw [hat.stands.pos, ← Cursor.behind_append_singleton, List.append_assoc]
    · refine .inr ⟨c, ?_, rfl⟩
      rw [← List.append_assoc, List.getLast?_append]
      rfl
  have hfair : ∀ d ∈ some c, h.place.pos.advance c = h.place.pos.advance d := by
    intro d hd
    rw [Option.some.inj hd]
  exact ⟨_, hnext, ⟨hat.moved hat.stands.sound hstands hfair, rfl, rfl⟩⟩

theorem gets_next_end (hat : At text done token [] h) :
    Gets next h none (At text done token []) := by
  have hnext : next h =
      .ok (none, h.moved (.next none) h.place { h.place with width := 0 }) := by
    rw [next, hat.ahead_eq]
  have hstands : ({ h.place with width := 0 } : Place).Stands text done token [] :=
    ⟨hat.stands.whole, hat.stands.start, hat.stands.pos, .inl rfl⟩
  have hfair : ∀ d ∈ (none : Option Char), h.place.pos = h.place.pos.advance d := by
    intro d hd
    cases hd
  exact ⟨_, hnext, hat.moved hat.stands.sound hstands hfair⟩

/-- Giving back leads to before the character that is held. -/
theorem gets_backup {c : Char} (hhold : Holding text done token c rest h) :
    Gets backup h () (At text done token (c :: rest)) := by
  have hat := hhold.toAt
  have hpos : h.place.pos = (Cursor.behind (done ++ token)).advance c := by
    rw [hat.stands.pos, ← List.append_assoc, Cursor.behind_append_singleton]
  have hbackup : backup h = .ok ((), h.moved .backup h.place
      { h.place with pos := .behind (done ++ token), width := 0 }) := by
    rw [backup, hpos, hhold.width, Cursor.retreat_advance]
  have hstands : ({ h.place with pos := .behind (done ++ token), width := 0 } : Place).Stands
      text done token (c :: rest) := by
    refine ⟨?_, hat.stands.start, rfl, .inl rfl⟩
    rw [hat.stands.whole, List.append_assoc, List.singleton_append]
  have hfair : Move.Fair (held h.trail) h.place
      { h.place with pos := .behind (done ++ token), width := 0 } .backup :=
    ⟨c, hhold.holds, hpos⟩
  exact ⟨_, hbackup, hat.moved hat.stands.sound hstands hfair⟩

/-! ### Taking one of a set -/

theorem gets_take {c : Char} {valid : String} (hc : c ∈ valid.toList)
    (hat : At text done token (c :: rest) h) :
    Gets (take valid) h true (At text done (token ++ [c]) rest) := by
  refine (gets_next hat).bind ?_
  intro after hafter
  show Gets (if c ∈ valid.toList then pure true else _) after true _
  rw [if_pos hc]
  exact gets_pure hafter.toAt

theorem gets_take_other {valid : String} (hrest : ∀ c ∈ rest.head?, c ∉ valid.toList)
    (hat : At text done token rest h) :
    Gets (take valid) h false (At text done token rest) := by
  cases rest with
  | nil =>
    refine (gets_next_end hat).bind ?_
    intro after hafter
    exact gets_pure hafter
  | cons c rest =>
    refine (gets_next hat).bind ?_
    intro after hafter
    show Gets (if c ∈ valid.toList then pure true else _) after false _
    rw [if_neg (hrest c rfl)]
    refine (gets_backup hafter).bind ?_
    intro last hlast
    exact gets_pure hlast

theorem gets_accept {c : Char} {valid : String} (hc : c ∈ valid.toList)
    (hat : At text done token (c :: rest) h) :
    Gets (accept valid) h true (At text done (token ++ [c]) rest) := by
  show Gets (take valid >>= fun taken => note (.accept valid taken) h.place >>= fun _ =>
    pure taken) h _ _
  refine (gets_take hc hat).bind ?_
  intro after hafter
  have hfair : Move.Fair (held after.trail) h.place after.place (.accept valid true) := by
    refine ⟨c, hc, ?_⟩
    rw [hafter.stands.pos, hat.stands.pos, ← Cursor.behind_append_singleton, List.append_assoc]
  exact ⟨_, rfl, hafter.moved hat.stands.sound hafter.stands hfair⟩

theorem gets_accept_other {valid : String} (hrest : ∀ c ∈ rest.head?, c ∉ valid.toList)
    (hat : At text done token rest h) :
    Gets (accept valid) h false (At text done token rest) := by
  show Gets (take valid >>= fun taken => note (.accept valid taken) h.place >>= fun _ =>
    pure taken) h _ _
  refine (gets_take_other hrest hat).bind ?_
  intro after hafter
  have hfair : Move.Fair (held after.trail) h.place after.place (.accept valid false) := by
    show after.place.pos = h.place.pos
    rw [hafter.stands.pos, hat.stands.pos]
  exact ⟨_, rfl, hafter.moved hat.stands.sound hafter.stands hfair⟩

/-! ### Tokens and errors -/

/-- The token is what has been read. -/
theorem gets_emit {kind : Token.Kind} (hat : At text done token rest h)
    (hknown : kind = .operator → ∃ op, Operator.ofText? (String.ofList token) = some op) :
    Gets (emit kind) h ⟨kind, String.ofList token, .covering (.behind done) token⟩
      (At text (done ++ token) [] rest) := by
  have hspan : Span.between h.place.start h.place.pos = Span.behind done token := by
    rw [hat.stands.start, hat.stands.pos, Span.behind]
  have hslice : (Span.behind done token).slice h.input = String.ofList token := by
    rw [hat.input, Span.slice_behind hat.stands.whole]
  have hemit : emit kind h = .ok (⟨kind, String.ofList token, .covering (.behind done) token⟩,
      h.moved (.emit ⟨kind, String.ofList token, .covering (.behind done) token⟩) h.place
        { h.place with start := h.place.pos }) := by
    rw [emit, hspan, hslice, Span.covering_behind]
  have hstands : ({ h.place with start := h.place.pos } : Place).Stands
      text (done ++ token) [] rest := by
    refine ⟨?_, hat.stands.pos, ?_, ?_⟩
    · rw [hat.stands.whole, List.append_assoc, List.nil_append]
    · rw [List.append_nil]
      exact hat.stands.pos
    · rw [List.append_nil]
      exact hat.stands.width
  exact ⟨_, hemit, hat.moved hat.stands.sound hstands hknown⟩

theorem gets_errorAt (cause : LexicalError.Cause) (hat : At text done token rest h) :
    Gets (errorAt cause) h ⟨cause, .covering (.behind done) token, String.ofList token⟩
      (At text done token rest) := by
  have hspan : Span.between h.place.start h.place.pos = Span.behind done token := by
    rw [hat.stands.start, hat.stands.pos, Span.behind]
  refine ⟨h, ?_, hat⟩
  rw [errorAt, LexicalError.located, hspan, hat.input, Span.slice_behind hat.stands.whole,
    Span.covering_behind]

theorem gets_expected (valid : String) (hat : At text done token rest h) :
    Gets (expected valid) h ⟨.expected valid, .covering (.behind (done ++ token)) (rest.take 1),
      String.ofList (rest.take 1)⟩ (At text done token rest) := by
  have hwhole : text.toList = done ++ token ++ (rest.take 1 ++ rest.drop 1) := by
    rw [List.take_append_drop, List.append_assoc, hat.stands.whole]
  refine ⟨h, ?_, hat⟩
  rw [expected, hat.ahead_eq]
  dsimp only
  rw [LexicalError.located, hat.stands.pos, hat.input, Span.covering_behind,
    Span.slice_behind hwhole]

/-! ### Loops -/

theorem passWhile_eq (p : Char → Bool) (h : Head) :
    passWhile p h =
      match next h with
      | .error fault => .error fault
      | .ok (none, after) => .ok ((), after)
      | .ok (some c, after) => if p c then passWhile p after else backup after := by
  rw [passWhile]
  split
  · next fault hnext => rw [hnext]
  · next after hnext => rw [hnext]
  · next c after hnext => rw [hnext]

theorem passQuoted_eq (escaped : Bool) (h : Head) :
    passQuoted escaped h =
      match next h with
      | .error fault => .error fault
      | .ok (none, after) => .ok (false, after)
      | .ok (some c, after) =>
        if c = '\\' ∧ !escaped then passQuoted true after
        else if c = '"' ∧ !escaped then .ok (true, after)
        else passQuoted false after := by
  rw [passQuoted]
  split
  · next fault hnext => rw [hnext]
  · next after hnext => rw [hnext]
  · next c after hnext => rw [hnext]

/-- The loop passes over all characters with the property, and stops behind them. -/
theorem gets_passWhile (p : Char → Bool) (hat : At text done token rest h) :
    Gets (passWhile p) h ()
      (At text done (token ++ rest.takeWhile p) (rest.dropWhile p)) := by
  unfold Gets
  induction rest generalizing token h with
  | nil =>
    obtain ⟨after, hnext, hafter⟩ := gets_next_end hat
    rw [passWhile_eq, hnext, List.takeWhile_nil, List.append_nil]
    exact ⟨after, rfl, hafter⟩
  | cons c rest ih =>
    obtain ⟨after, hnext, hafter⟩ := gets_next hat
    rw [passWhile_eq, hnext]
    dsimp only
    by_cases hc : p c = true
    · rw [if_pos hc, List.takeWhile_cons_of_pos hc, List.dropWhile_cons_of_pos hc,
        List.append_cons]
      exact ih hafter.toAt
    · rw [if_neg hc, List.takeWhile_cons_of_neg hc, List.dropWhile_cons_of_neg hc,
        List.append_nil]
      exact gets_backup hafter

/-- A backslash and the character behind it are passed over together. -/
theorem passQuoted_pair {c : Char} (hat : At text done token ('\\' :: c :: rest) h) :
    ∃ after, passQuoted false h = passQuoted false after ∧
      At text done (token ++ ['\\', c]) rest after := by
  obtain ⟨middle, hslash, hmiddle⟩ := gets_next hat
  obtain ⟨after, hnext, hafter⟩ := gets_next hmiddle.toAt
  refine ⟨after, ?_, ?_⟩
  · rw [passQuoted_eq, hslash]
    dsimp only
    -- Behind the backslash no character has a meaning, not even a second backslash.
    rw [if_pos ⟨rfl, rfl⟩, passQuoted_eq, hnext]
    dsimp only
    rw [if_neg (by simp), if_neg (by simp)]
  · have hat' := hafter.toAt
    rw [List.append_assoc] at hat'
    exact hat'

/-- A character without a meaning is passed over alone. -/
theorem passQuoted_plain {c : Char} (hslash : c ≠ '\\') (hquote : c ≠ '"')
    (hat : At text done token (c :: rest) h) :
    ∃ after, passQuoted false h = passQuoted false after ∧
      At text done (token ++ [c]) rest after := by
  obtain ⟨after, hnext, hafter⟩ := gets_next hat
  refine ⟨after, ?_, hafter.toAt⟩
  rw [passQuoted_eq, hnext]
  dsimp only
  rw [if_neg fun hc => hslash hc.1, if_neg fun hc => hquote hc.1]

/-- The loop stops behind the quote that ends the text, -/
theorem gets_passQuoted {body back : List Char} (hat : At text done token rest h)
    (hbody : Lexeme.quotedBody rest = some (body, back)) :
    Gets (passQuoted false) h true (At text done (token ++ body) back) := by
  unfold Gets
  fun_induction Lexeme.quotedBody rest generalizing token h body back with
  | case1 => cases hbody
  | case2 rest =>
    cases hbody
    obtain ⟨after, hnext, hafter⟩ := gets_next hat
    refine ⟨after, ?_, hafter.toAt⟩
    rw [passQuoted_eq, hnext]
    rfl
  | case3 => cases hbody
  | case4 c rest ih =>
    obtain ⟨⟨body', back'⟩, hrest, heq⟩ := Option.map_eq_some_iff.mp hbody
    cases heq
    obtain ⟨after, hsame, hafter⟩ := passQuoted_pair hat
    have hgets := ih hafter hrest
    rw [List.append_assoc] at hgets
    rw [hsame]
    exact hgets
  | case5 c rest hquote hlast hpair ih =>
    have hslash : c ≠ '\\' := by
      intro hc
      cases rest with
      | nil => exact hlast hc rfl
      | cons d rest => exact hpair d rest hc rfl
    obtain ⟨⟨body', back'⟩, hrest, heq⟩ := Option.map_eq_some_iff.mp hbody
    cases heq
    obtain ⟨after, hsame, hafter⟩ := passQuoted_plain hslash hquote hat
    have hgets := ih hafter hrest
    rw [List.append_assoc] at hgets
    rw [hsame]
    exact hgets

/-- or at the end, where there is no such quote. -/
theorem gets_passQuoted_end (hat : At text done token rest h)
    (hbody : Lexeme.quotedBody rest = none) :
    Gets (passQuoted false) h false (At text done (token ++ rest) []) := by
  unfold Gets
  fun_induction Lexeme.quotedBody rest generalizing token h with
  | case1 =>
    obtain ⟨after, hnext, hafter⟩ := gets_next_end hat
    rw [passQuoted_eq, hnext, List.append_nil]
    exact ⟨after, rfl, hafter⟩
  | case2 rest => cases hbody
  | case3 =>
    obtain ⟨middle, hslash, hmiddle⟩ := gets_next hat
    obtain ⟨after, hnext, hafter⟩ := gets_next_end hmiddle.toAt
    rw [passQuoted_eq, hslash]
    dsimp only
    rw [if_pos ⟨rfl, rfl⟩, passQuoted_eq, hnext]
    exact ⟨after, rfl, hafter⟩
  | case4 c rest ih =>
    obtain ⟨after, hsame, hafter⟩ := passQuoted_pair hat
    have hgets := ih hafter (Option.map_eq_none_iff.mp hbody)
    rw [List.append_assoc] at hgets
    rw [hsame]
    exact hgets
  | case5 c rest hquote hlast hpair ih =>
    have hslash : c ≠ '\\' := by
      intro hc
      cases rest with
      | nil => exact hlast hc rfl
      | cons d rest => exact hpair d rest hc rfl
    obtain ⟨after, hsame, hafter⟩ := passQuoted_plain hslash hquote hat
    have hgets := ih hafter (Option.map_eq_none_iff.mp hbody)
    rw [List.append_assoc] at hgets
    rw [hsame]
    exact hgets

end Head

end LabelSelector
