import LabelSelector.Proofs.HeadTokens
import LabelSelector.Proofs.Schedule
import LabelSelector.Proofs.Successive

/-! # Reading heads under any schedule

  A scanner holds the text that is left; a head has to find it again from its cursors, which
  change with every character and jump back after every look. Both hand out the same.

  - A head `Tracks` a scanner if both have the same text and the same error, and stand at the
    same place while there is no error. Every call keeps it so.
  - Whatever the schedule, no fault comes up, all places are sound and all moves are proper.
  - A token takes at least one character, so that a text has no more tokens than characters,
    and whatever goes through its tokens comes to an end.
-/

namespace LabelSelector

namespace Head

open Head.Action (Gets gets_pure)

variable {text : String} {done rest : List Char} {h : Head} {s : Scanner}

/-! ### Heads and scanners -/

/-- A head stands where a scanner stands. -/
structure Tracks (h : Head) (s : Scanner) : Prop where
  input : h.input = s.input
  failure : h.failure = s.failure
  sound : h.place.Sound s.input
  proper : Proper s.input h.trail
  /-- Without an error, what the scanner has left is what the head has before it. -/
  position : s.failure = none →
    ∃ done, s.cursor = .behind done ∧ h.place.Stands s.input done [] s.rest

theorem tracks_ofText (text : String) : (ofText text).Tracks (.ofText text) := by
  have hat := at_ofText text
  exact ⟨rfl, rfl, hat.stands.sound, hat.proper, fun _ => ⟨[], rfl, hat.stands⟩⟩

theorem Tracks.exists_at (htracks : h.Tracks s) (hs : s.failure = none) :
    ∃ done, s.cursor = .behind done ∧ At s.input done [] s.rest h := by
  obtain ⟨done, hcursor, hstands⟩ := htracks.position hs
  exact ⟨done, hcursor, htracks.input, htracks.failure.trans hs, hstands, htracks.proper⟩

/-- Behind a token or at the end, a head stands where the scanner goes on. -/
theorem At.tracks (hat : At s.input done [] s.rest h) (hcursor : s.cursor = .behind done)
    (hs : s.failure = none) : h.Tracks s :=
  ⟨hat.input, hat.failure.trans hs.symm, hat.stands.sound, hat.proper,
    fun _ => ⟨done, hcursor, hat.stands⟩⟩

/-! ### One call -/

/-- A head that has not been stopped reads a token, -/
theorem scan_of_ok {after : Head} {found : Option Token} (hh : h.failure = none)
    (htoken : scanToken h = .ok (.ok found, after)) : h.scan = .ok (.ok found, after) := by
  rw [Head.scan, hh]
  dsimp only
  rw [htoken]

/-- and an error stops it. -/
theorem scan_of_error {after : Head} {e : LexicalError} (hh : h.failure = none)
    (htoken : scanToken h = .ok (.error e, after)) :
    h.scan = .ok (.error e, { after with failure := some e }) := by
  rw [Head.scan, hh]
  dsimp only
  rw [htoken]

/-- How far a scan goes: past one character or more if it finds a token, and to the end of
    the text if there is none. -/
def Goes (text : String) (k k' : Cursor) : Answer → Prop
  | .ok (some _) => ∃ cs, cs ≠ [] ∧ k' = k.advanceAll cs
  | .ok none => k' = .behind text.toList
  | .error _ => True

/-- Taking a token keeps head and scanner together. -/
theorem Tracks.scan (htracks : h.Tracks s) :
    Gets Head.scan h s.scan.1 fun after =>
      after.Tracks s.scan.2 ∧ Goes s.input h.place.pos after.place.pos s.scan.1 := by
  cases hs : s.failure with
  | some e =>
    have hhead : h.scan = .ok (.error e, h) := by
      rw [Head.scan, htracks.failure, hs]
    have hscanner : s.scan = (.error e, s) := by
      rw [Scanner.scan, hs]
    rw [hscanner]
    exact ⟨h, hhead, htracks, trivial⟩
  | none =>
    obtain ⟨done, hcursor, hat⟩ := htracks.exists_at hs
    have hreads := hat.reads
    rw [← hcursor] at hreads
    rw [Scanner.scan, hs]
    dsimp only
    cases hread : Token.read s.cursor s.rest with
    | finish stop =>
      rw [hread] at hreads
      obtain ⟨after, htoken, hstop, hafter⟩ := hreads
      have hnext : after.Tracks { s with cursor := stop, rest := [], failure := none } :=
        At.tracks hafter hstop rfl
      have hend : after.place.pos = .behind s.input.toList := by
        rw [hafter.stands.pos, List.append_nil]
      exact ⟨after, scan_of_ok hat.failure htoken, hnext, hend⟩
    | token t stop rest =>
      rw [hread] at hreads
      obtain ⟨after, htoken, chars, hchars, hstop, hafter⟩ := hreads
      have hnext : after.Tracks { s with cursor := stop, rest := rest, failure := none } :=
        At.tracks hafter hstop rfl
      have hpast : after.place.pos = h.place.pos.advanceAll chars := by
        rw [hafter.stands.pos, hat.stands.pos, Cursor.advanceAll_behind, List.append_nil,
          List.append_nil]
      exact ⟨after, scan_of_ok hat.failure htoken, hnext, chars, hchars, hpast⟩
    | error e =>
      rw [hread] at hreads
      obtain ⟨after, htoken, done', token, rest, hafter⟩ := hreads
      -- The head stays where it has met the error, the scanner where it was: from here on
      -- only the error counts.
      have hnext : ({ after with failure := some e } : Head).Tracks
          { s with failure := some e } :=
        ⟨hafter.input, rfl, hafter.stands.sound, hafter.proper, by nofun⟩
      exact ⟨_, scan_of_error hat.failure htoken, hnext, trivial⟩

/-- Looking at a token keeps head and scanner together: both go back. -/
theorem Tracks.peek (htracks : h.Tracks s) : Gets Head.peek h s.peek.1 (·.Tracks s.peek.2) := by
  obtain ⟨after, hscan, hafter, -⟩ := htracks.scan
  have hpeek : h.peek = .ok (s.scan.1, { after with place := h.place }) := by
    rw [Head.peek, hscan]
  have hinput : s.scan.2.input = s.input := s.scan_eq.2.2
  have hproper := hafter.proper
  rw [hinput] at hproper
  -- Who is stopped now has been stopped by this call or before.
  have hfailure : s.scan.2.failure = none → s.failure = none := by
    intro hnone
    cases hs : s.failure with
    | none => rfl
    | some e =>
      rw [Scanner.scan, hs] at hnone
      exact hs.symm.trans hnone
  exact ⟨_, hpeek, hafter.input.trans hinput, hafter.failure, htracks.sound, hproper,
    fun hnone => htracks.position (hfailure hnone)⟩

/-! ### Schedules -/

/-- Answers one call. -/
def call : Call → Action Answer
  | .take => scan
  | .look => peek

/-- Answers a schedule of calls. -/
def run : List Call → Action (List Answer)
  | [] => return []
  | c :: calls => do
    let answer ← call c
    let answers ← run calls
    return answer :: answers

theorem Tracks.call (htracks : h.Tracks s) (c : Call) :
    Gets (Head.call c) h (Scanner.dispenser.call s c).1
      (·.Tracks (Scanner.dispenser.call s c).2) := by
  cases c with
  | take => exact htracks.scan.mono fun _ hafter => hafter.1
  | look => exact htracks.peek

/-- A schedule is answered as the scanner answers it, by induction on its calls. -/
theorem Tracks.run (htracks : h.Tracks s) (calls : List Call) :
    Gets (Head.run calls) h (Scanner.dispenser.answers s calls)
      (·.Tracks (Scanner.dispenser.after s calls)) := by
  induction calls generalizing h s with
  | nil => exact gets_pure htracks
  | cons c calls ih =>
    refine (htracks.call c).bind ?_
    intro middle hmiddle
    refine (ih hmiddle).bind ?_
    intro after hafter
    exact gets_pure hafter

/-- What holds of a head that has been asked for tokens. -/
structure Safe (text : String) (h : Head) : Prop where
  /-- Its cursors stand between characters, and its width is that of a character. -/
  place : h.place.Sound text
  /-- So it has been at every move, and every move did what it is for. -/
  trail : Proper text h.trail
  /-- The next scan goes past a character, or to the end. -/
  progress : ∀ answer after, h.scan = .ok (answer, after) →
    Goes text h.place.pos after.place.pos answer

theorem Tracks.safe (htracks : h.Tracks s) : Safe s.input h := by
  refine ⟨htracks.sound, htracks.proper, ?_⟩
  intro answer after hscan
  obtain ⟨last, hlast, -, hgoes⟩ := htracks.scan
  cases hscan.symm.trans hlast
  exact hgoes

end Head

/-! ### Bounds -/

/-- A text has no more tokens than characters, by induction on the steps of its stream. -/
theorem Token.length_stream_le (k : Cursor) (cs : List Char) :
    (stream k cs).1.length ≤ cs.length := by
  fun_induction stream k cs with
  | case1 k cs stop hread => exact Nat.zero_le _
  | case2 k cs e hread => exact Nat.zero_le _
  | case3 k cs t stop rest hread ts e hstream ih =>
    have hlt := read_length hread
    rw [hstream] at ih
    have hrest : ts.length ≤ rest.length := ih
    show ts.length + 1 ≤ cs.length
    omega

/-- Among tokens there are no more clauses than tokens. -/
theorem Grammar.length_clausesIn_le (held ts : List Token) :
    (clausesIn held ts).length ≤ ts.length := by
  induction ts generalizing held with
  | nil => exact Nat.le_refl 0
  | cons t ts ih =>
    have hrest := ih (extend held t)
    have hfirst : (Clause.ofTokens? (extend held t)).toList.length ≤ 1 := by
      cases Clause.ofTokens? (extend held t) <;> simp
    rw [clausesIn, List.length_append, List.length_cons]
    omega

/-- Scans answer the tokens ahead, one after the other, and then that there is none. -/
theorem Scanner.answers_takes (s : Scanner) :
    dispenser.answers s (List.replicate (s.ahead.1.length + 1) .take) =
      s.ahead.1.map (fun t => .ok (some t)) ++ [Ahead.first ([], s.ahead.2)] := by
  generalize hts : s.ahead.1 = ts
  induction ts generalizing s with
  | nil =>
    have hahead : s.ahead = ([], s.ahead.2) := Prod.ext hts rfl
    show [s.scan.1] = [_]
    rw [s.scan_eq.1, hahead]
  | cons t ts ih =>
    have hrest : s.scan.2.ahead = (ts, s.ahead.2) := by
      rw [s.scan_eq.2.1, Ahead.rest, hts]
      rfl
    have hahead : s.ahead = (t :: ts, s.ahead.2) := Prod.ext hts rfl
    have hscans := ih s.scan.2 (congrArg Prod.fst hrest)
    rw [hrest] at hscans
    show s.scan.1 :: dispenser.answers s.scan.2 (List.replicate (ts.length + 1) .take) = _
    rw [hscans, s.scan_eq.1, hahead]
    rfl

theorem Scanner.input_after (s : Scanner) (calls : List Call) :
    (dispenser.after s calls).input = s.input := by
  induction calls generalizing s with
  | nil => rfl
  | cons c calls ih =>
    rw [Dispenser.after, ih]
    cases c with
    | take => exact s.scan_eq.2.2
    | look => rfl

/-- Reading heads are safe and make progress, for every text.

  - Whatever the schedule, a head answers as a scanner does and no fault comes up. All the
    places it has stood at are sound, and all its moves were proper.
  - The operators that are read are operators.
  - Scans come to an end behind no more tokens than there are characters, and so does every
    call of the parser: it takes some of these tokens, and asks for no more matchers. -/
theorem heads_safe (text : String) :
    (∀ calls, ∃ h, Head.run calls (.ofText text) =
        .ok (Scanner.dispenser.answers (.ofText text) calls, h) ∧ Head.Safe text h) ∧
    (∀ t ∈ (Token.streamOf text).1, t.kind = .operator →
      ∃ op, Operator.ofText? t.text = some op) ∧
    (Token.streamOf text).1.length ≤ text.length ∧
    Scanner.dispenser.answers (.ofText text)
        (List.replicate ((Token.streamOf text).1.length + 1) .take) =
      (Token.streamOf text).1.map (fun t => .ok (some t)) ++
        [Ahead.first ([], (Token.streamOf text).2)] ∧
    ∀ (μ : Type) (settings : ParserSettings) (make : Factory μ), ∃ taken,
      (Token.streamOf text).1 = taken ++ ((Parser.ofText text).parse settings make).2.left ∧
      ((Parser.ofText text).parse settings make).2.requests.length ≤ taken.length := by
  refine ⟨?_, ?_, ?_, ?_, ?_⟩
  · intro calls
    obtain ⟨h, hrun, htracks⟩ := (Head.tracks_ofText text).run calls
    have hsafe := htracks.safe
    rw [Scanner.input_after] at hsafe
    exact ⟨h, hrun, hsafe⟩
  · intro t ht
    exact Step.known_of_spelled (Token.spelled_of_mem_streamOf ht)
  · exact Token.length_stream_le .origin text.toList
  · exact Scanner.answers_takes (.ofText text)
  · intro μ settings make
    obtain ⟨taken, hleft, -, hrequests⟩ :=
      Parser.exists_taken settings make (Parser.genuine_ofText text)
    refine ⟨taken, hleft, ?_⟩
    have hbound := Grammar.length_clausesIn_le [] taken
    rw [hrequests]
    show ([] ++ _ : List Request).length ≤ _
    rw [List.nil_append, List.length_map]
    exact hbound

end LabelSelector
