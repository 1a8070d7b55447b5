import LabelSelector.Pattern.Form
import LabelSelector.Pattern.Sharing

/-! # Size of a compiled expression

  An expression is refused if one of its two automata is too large, the one that
  goes forwards or the one that goes backwards. Counted repetitions are written out
  in an automaton, so a short pattern can be very large.
-/

namespace LabelSelector.Regex

namespace Form

/-- The code points of a literal. -/
def literal? : Form → Option (List Nat)
  | .literal cs => some cs
  | _ => none

/-- The bytes of a literal in the order in which an automaton takes them. -/
def word (d : Direction) (codes : List Nat) : List Nat :=
  let bytes := codes.flatMap Encoding.bytes
  match d with
  | .forward => bytes
  | .backward => bytes.reverse

mutual

/-- The part of an automaton for a form. Only going forwards, the start and the end of
    a group are kept track of. -/
def part (d : Direction) : Form → Part
  | .empty, e | .look _, e => e.add 1 0 false
  | .literal cs, e => e.add (word d cs).length 0 false
  | .chars _ s, e => Part.chars d s e
  | .rep min max _ body, e => (part d body).repeated (body.minLength.any (0 < ·)) min max e
  | .capture body, e =>
    match d with
    | .forward => do
      let e ← part d body (← e.add 1 0 false)
      e.link.add 1 0 false
    | .backward => part d body e
  | .seq fs, e =>
    match d with
    | .forward => partForward fs { e with forked := false }
    | .backward => partBackward fs { e with forked := false }
  | .alt fs, e =>
    match fs.mapM literal? with
    | some ws => Part.words (ws.map (word d)) e
    | none => partAlt d 0 fs e

/-- Parts one after the other, linked to the part built last. -/
def partForward : List Form → Part
  | [], e => some e
  | f :: fs, e => do
    let e ← part .forward f e.link
    partForward fs e

/-- Parts one after the other, from the last to the first. -/
def partBackward : List Form → Part
  | [], e => some e
  | f :: fs, e => do
    let e ← partBackward fs e
    part .backward f e.link

/-- Alternatives, `n` of which have been built. The fork before them and the state
    behind them come once there are two. -/
def partAlt (d : Direction) (n : Nat) : List Form → Part
  | [], e => some e
  | f :: fs, e => do
    let e ← part d f e
    let e ← e.link.add (if n = 1 then 2 else 0) branchBytes false
    partAlt d (n + 1) fs e

end

/-- Whether a form can match only where the automaton starts. -/
def anchored (d : Direction) (f : Form) : Bool :=
  match d with
  | .forward => f.atStart
  | .backward => f.atEnd

/-- The automaton of a form. Unless it is anchored, a loop over any byte comes first;
    the last state tells that the form matches. -/
def automaton (d : Direction) (f : Form) : Option Extent := do
  let e ← if f.anchored d then Extent.start.add 1 0 false
    else Extent.start.add 3 (transitionBytes + 2 * branchBytes) false
  let e ← (Form.capture f).part d e
  e.link.add 1 0 false

end Form

/-- Whether both automata of an expression stay within the limit. -/
def fits (r : Regex) : Bool :=
  let f := Form.ofRegex r
  (f.automaton .forward).isSome && (f.automaton .backward).isSome

end LabelSelector.Regex
