import LabelSelector.Proofs.HeadMoves

/-! # The tokens of a reading head

  A head tries one routine at a place, chosen by the character that comes first, and each
  routine finds its way character by character. What is found is what `Lexeme.read` and
  `Token.read` read off the same text.

  - An action `Finds` a reading if it hands out its lexeme as a token, or its flaw as an error.
  - The routines for operators, names and quoted texts find what is read there, so that none
    of them goes astray.
  - A head `Reads` a token, with the blanks before it, or the end.
-/

namespace LabelSelector

namespace Head

open Head.Action (Gets gets_pure)

variable {text : String} {done rest : List Char} {h : Head}

/-! ### Findings -/

/-- Behind `done`, an action finds what reading a lexeme there gives. -/
def Finds (text : String) (done : List Char) (m : Action (Except LexicalError Token)) (h : Head) :
    Lexeme.Reading → Prop
  | .lexeme kind chars rest =>
    Gets m h (.ok ⟨kind, String.ofList chars, .covering (.behind done) chars⟩)
      (At text (done ++ chars) [] rest)
  | .flaw cause passed fragment =>
    Gets m h (.error ⟨cause, .covering (.behind (done ++ passed)) fragment,
      String.ofList fragment⟩) fun after => ∃ token rest, At text done token rest after

theorem Finds.of_gets {α : Type} {m : Action α} {f : α → Action (Except LexicalError Token)}
    {a : α} {post : Head → Prop} {r : Lexeme.Reading} (hm : m.Gets h a post)
    (hf : ∀ after, post after → Finds text done (f a) after r) : Finds text done (m >>= f) h r := by
  cases r with
  | lexeme kind chars rest => exact hm.bind hf
  | flaw cause passed fragment => exact hm.bind hf

/-- What has been read is handed out as a token. -/
theorem finds_emit {kind : Token.Kind} {chars : List Char} (hat : At text done chars rest h)
    (hknown : kind = .operator → ∃ op, Operator.ofText? (String.ofList chars) = some op) :
    Finds text done (do return .ok (← emit kind)) h (.lexeme kind chars rest) := by
  refine (gets_emit hat hknown).bind ?_
  intro after hafter
  exact gets_pure hafter

/-- What has been read is no token. -/
theorem finds_errorAt {cause : LexicalError.Cause} {chars : List Char}
    (hat : At text done chars rest h) :
    Finds text done (do return .error (← errorAt cause)) h (.flaw cause [] chars) := by
  rw [Finds, List.append_nil]
  refine (gets_errorAt cause hat).bind ?_
  intro after hafter
  exact gets_pure ⟨chars, rest, hafter⟩

/-- What has been read is no token without one of some characters behind it. -/
theorem finds_expected {valid : String} {chars : List Char} (hat : At text done chars rest h) :
    Finds text done (do return .error (← expected valid)) h
      (.flaw (.expected valid) chars (rest.take 1)) := by
  refine (gets_expected valid hat).bind ?_
  intro after hafter
  exact gets_pure ⟨chars, rest, hafter⟩

/-! ### Operators -/

theorem finds_equal {cs : List Char} (hat : At text done [] ('=' :: cs) h) :
    Finds text done scanOperator h (Lexeme.readEqual cs) := by
  -- The sign is tried as another one first, and given back.
  have hno : Gets (accept "!") h false (At text done [] ('=' :: cs)) := by
    refine gets_accept_other ?_ hat
    intro c hc
    cases hc
    decide
  refine Finds.of_gets hno ?_
  intro back hback
  simp only [Bool.false_eq_true, if_false]
  have hyes : Gets (accept "=") back true (At text done ['='] cs) :=
    gets_accept (by decide) hback
  refine Finds.of_gets hyes ?_
  intro after hafter
  simp only [if_true]
  unfold Lexeme.readEqual
  split
  · next cs =>
    have htilde : Gets (accept "~") after true (At text done ['=', '~'] cs) :=
      gets_accept (by decide) hafter
    refine Finds.of_gets htilde ?_
    intro last hlast
    exact finds_emit hlast fun _ => ⟨.regexp, rfl⟩
  · next hcs =>
    have hother : Gets (accept "~") after false (At text done ['='] cs) := by
      refine gets_accept_other ?_ hafter
      intro c hc hmem
      obtain ⟨cs', rfl⟩ := List.head?_eq_some_iff.mp hc
      obtain rfl : c = '~' := by simpa using hmem
      exact hcs cs' rfl
    refine Finds.of_gets hother ?_
    intro last hlast
    exact finds_emit hlast fun _ => ⟨.equal, rfl⟩

theorem finds_not {cs : List Char} (hat : At text done [] ('!' :: cs) h) :
    Finds text done scanOperator h (Lexeme.readNot cs) := by
  have hyes : Gets (accept "!") h true (At text done ['!'] cs) := gets_accept (by decide) hat
  refine Finds.of_gets hyes ?_
  intro after hafter
  simp only [if_true]
  unfold Lexeme.readNot
  split
  · next cs =>
    have hequal : Gets (accept "=~") after true (At text done ['!', '='] cs) :=
      gets_accept (by decide) hafter
    refine Finds.of_gets hequal ?_
    intro last hlast
    exact finds_emit hlast fun _ => ⟨.notEqual, rfl⟩
  · next cs =>
    have htilde : Gets (accept "=~") after true (At text done ['!', '~'] cs) :=
      gets_accept (by decide) hafter
    refine Finds.of_gets htilde ?_
    intro last hlast
    exact finds_emit hlast fun _ => ⟨.notRegexp, rfl⟩
  · next hequal htilde =>
    have hother : Gets (accept "=~") after false (At text done ['!'] cs) := by
      refine gets_accept_other ?_ hafter
      intro c hc hmem
      obtain ⟨cs', rfl⟩ := List.head?_eq_some_iff.mp hc
      have hsigns : c = '=' ∨ c = '~' := by simpa using hmem
      rcases hsigns with rfl | rfl
      · exact hequal cs' rfl
      · exact htilde cs' rfl
    refine Finds.of_gets hother ?_
    intro last hlast
    exact finds_expected hlast

/-! ### Names and quoted texts -/

theorem finds_name {c : Char} {cs : List Char} (hc : isNameStart c = true)
    (hat : At text done [] (c :: cs) h) :
    Finds text done scanName h
      (.lexeme .identifier (c :: cs.takeWhile isNameChar) (cs.dropWhile isNameChar)) := by
  refine Finds.of_gets (gets_next hat) ?_
  intro after hafter
  simp only [Option.any_some, hc, if_true]
  refine Finds.of_gets (gets_passWhile isNameChar hafter.toAt) ?_
  intro after hafter
  exact finds_emit hafter (by nofun)

theorem finds_quoted {cs : List Char} (hat : At text done [] ('"' :: cs) h) :
    Finds text done scanQuoted h (Lexeme.readQuoted cs) := by
  have hopen : Gets (accept "\"") h true (At text done ['"'] cs) := gets_accept (by decide) hat
  refine Finds.of_gets hopen ?_
  intro after hafter
  simp only [if_true]
  unfold Lexeme.readQuoted
  split
  · next body back hbody =>
    refine Finds.of_gets (gets_passQuoted hafter hbody) ?_
    intro after hafter
    simp only [if_true]
    exact finds_emit hafter (by nofun)
  · next hbody =>
    refine Finds.of_gets (gets_passQuoted_end hafter hbody) ?_
    intro after hafter
    simp only [Bool.false_eq_true, if_false]
    exact finds_errorAt hafter

/-! ### Tokens -/

/-- The character that comes first decides which routine is called, and each starts with a
    character that it expects. -/
theorem finds_from {c : Char} {cs : List Char} (hhold : Holding text done [] c cs h) :
    Finds text done (scanFrom c) h (Lexeme.read c cs) := by
  have hat : At text done [c] cs h := hhold.toAt
  unfold Lexeme.read
  split
  · rw [scanFrom, if_pos rfl]
    exact finds_emit hat (by nofun)
  · rw [scanFrom, if_neg (by decide), if_pos rfl]
    exact finds_emit hat (by nofun)
  · rw [scanFrom, if_neg (by decide), if_neg (by decide), if_pos rfl]
    exact finds_emit hat (by nofun)
  · rw [scanFrom, if_neg (by decide), if_neg (by decide), if_neg (by decide), if_pos (.inl rfl)]
    exact Finds.of_gets (gets_backup hhold) fun _ => finds_equal
  · rw [scanFrom, if_neg (by decide), if_neg (by decide), if_neg (by decide), if_pos (.inr rfl)]
    exact Finds.of_gets (gets_backup hhold) fun _ => finds_not
  · rw [scanFrom, if_neg (by decide), if_neg (by decide), if_neg (by decide),
      if_neg (by decide), if_pos rfl]
    exact Finds.of_gets (gets_backup hhold) fun _ => finds_quoted
  · next hopen hclose hcomma hequal hnot hquote =>
    rw [scanFrom, if_neg hopen, if_neg hclose, if_neg hcomma, if_neg (not_or.mpr ⟨hequal, hnot⟩),
      if_neg hquote]
    by_cases hc : isNameStart c = true
    · rw [if_pos hc, if_pos hc]
      exact Finds.of_gets (gets_backup hhold) fun _ => finds_name hc
    · rw [if_neg hc, if_neg hc]
      exact finds_errorAt hat

/-- Blanks are passed over, and the token starts behind them. -/
theorem gets_skipBlanks (hat : At text done [] rest h) :
    Gets skipBlanks h ()
      (At text (done ++ rest.takeWhile isBlank) [] (rest.dropWhile isBlank)) := by
  refine (gets_passWhile isBlank hat).bind ?_
  intro after hafter
  rw [List.nil_append] at hafter
  refine ⟨_, rfl, hafter.input, hafter.failure, ?_, hafter.proper⟩
  refine ⟨?_, hafter.stands.pos, ?_, ?_⟩
  · rw [hafter.stands.whole, List.nil_append, List.append_assoc]
  · rw [List.append_nil]
    exact hafter.stands.pos
  · rw [List.append_nil]
    exact hafter.stands.width

/-- Where a character follows the blanks, the routine for it decides what is got. -/
theorem gets_scanToken {c : Char} {cs : List Char} {answer : Except LexicalError Token}
    {post : Head → Prop} (hskip : Gets skipBlanks h () (At text done [] (c :: cs)))
    (hfrom : ∀ middle, Holding text done [] c cs middle → Gets (scanFrom c) middle answer post) :
    Gets scanToken h (answer.map some) post := by
  refine hskip.bind ?_
  intro start hstart
  refine (gets_next hstart).bind ?_
  intro middle hmiddle
  refine (hfrom middle hmiddle).bind ?_
  intro after hafter
  exact gets_pure hafter

/-- Behind `done`, a head gets what reading a token there gives. -/
def Reads (text : String) (done : List Char) (h : Head) : Token.Reading → Prop
  | .finish stop =>
    Gets scanToken h (.ok none) fun after =>
      stop = .behind text.toList ∧ At text text.toList [] [] after
  | .token t stop rest =>
    Gets scanToken h (.ok (some t)) fun after => ∃ chars, chars ≠ [] ∧
      stop = .behind (done ++ chars) ∧ At text (done ++ chars) [] rest after
  | .error e =>
    Gets scanToken h (.error e) fun after => ∃ done token rest, At text done token rest after

theorem At.reads (hat : At text done [] rest h) :
    Reads text done h (Token.read (.behind done) rest) := by
  have hskip := gets_skipBlanks hat
  have hwhole : text.toList = done ++ rest.takeWhile isBlank ++ rest.dropWhile isBlank := by
    rw [List.append_assoc, List.takeWhile_append_dropWhile, hat.stands.whole, List.nil_append]
  rw [Token.read, Cursor.advanceAll_behind]
  generalize rest.takeWhile isBlank = blanks at hskip hwhole
  cases hdrop : rest.dropWhile isBlank with
  | nil =>
    rw [hdrop] at hskip hwhole
    rw [List.append_nil] at hwhole
    -- Nothing but blanks was left, so that the head reads the end.
    refine hskip.bind ?_
    intro start hstart
    refine (gets_next_end hstart).bind ?_
    intro after hafter
    rw [← hwhole] at hafter
    exact gets_pure ⟨by rw [hwhole], hafter⟩
  | cons c cs =>
    rw [hdrop] at hskip
    show Reads text done h (Token.place (.behind (done ++ blanks)) (Lexeme.read c cs))
    have hfrom : ∀ middle, Holding text (done ++ blanks) [] c cs middle →
        Finds text (done ++ blanks) (scanFrom c) middle (Lexeme.read c cs) :=
      fun middle => finds_from
    cases hread : Lexeme.read c cs with
    | lexeme kind chars back =>
      rw [hread] at hfrom
      refine (gets_scanToken hskip hfrom).mono ?_
      intro after hafter
      have hchars : chars ≠ [] := (Lexeme.read_append hread).1
      rw [List.append_assoc] at hafter
      refine ⟨blanks ++ chars, List.append_ne_nil_of_right_ne_nil _ hchars, ?_, hafter⟩
      rw [Cursor.advanceAll_behind, List.append_assoc]
    | flaw cause passed fragment =>
      rw [hread] at hfrom
      have hcovering : Span.covering ((Cursor.behind (done ++ blanks)).advanceAll passed) fragment =
          .covering (.behind (done ++ blanks ++ passed)) fragment := by
        rw [Cursor.advanceAll_behind]
      show Gets scanToken h (.error ⟨cause, .covering _ fragment, String.ofList fragment⟩) _
      rw [hcovering]
      refine (gets_scanToken hskip hfrom).mono ?_
      intro after hafter
      exact ⟨_, hafter⟩

end Head

end LabelSelector
