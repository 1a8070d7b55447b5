import LabelSelector.Pattern.Encoding
import LabelSelector.Pattern.Error

/-! # How large an automaton is

  The memory of an automaton over bytes is a fixed amount for each state, and for
  each branch and each transition out of a state that has several. Nothing of the
  automaton is built here but its `Extent`: how many states and further bytes
  there are so far. A `Part` adds a piece to the automaton, and fails as soon as the
  limit is passed.

  A part that ends in a fork grows by a branch when something is linked to its
  end, so an extent also tells how the part built last ends.
-/

namespace LabelSelector.Regex

/-- Bytes of a state. -/
def stateBytes : Nat := 32

/-- Bytes of a branch out of a fork. -/
def branchBytes : Nat := 4

/-- Bytes of a transition out of a state that has several. -/
def transitionBytes : Nat := 8

/-- How far an automaton has been built. -/
structure Extent where
  /-- How many states there are; the next one gets this number. -/
  states : Nat
  /-- How many bytes there are besides the states. -/
  extra : Nat
  /-- Whether the part built last ends in a fork. -/
  forked : Bool
  deriving DecidableEq, Repr

/-- A piece of an automaton, which stays below the limit or not. -/
abbrev Part := Extent → Option Extent

namespace Extent

/-- Nothing yet. -/
def start : Extent := ⟨0, 0, false⟩

/-- The memory. -/
def bytes (e : Extent) : Nat := stateBytes * e.states + e.extra

/-- Adds states with further bytes, which end in a fork or not. -/
def add (e : Extent) (states extra : Nat) (forked : Bool) : Option Extent :=
  let e' : Extent := ⟨e.states + states, e.extra + extra, forked⟩
  if e'.bytes ≤ Pattern.sizeLimit then some e' else none

/-- Links what comes next to the end of the part built last. -/
def link (e : Extent) : Extent :=
  if e.forked then ⟨e.states, e.extra + branchBytes, false⟩ else e

end Extent

namespace Part

/-! ### Repetitions -/

/-- A part, and `n` more times the same part linked to it. -/
def more (p : Part) : Nat → Part
  | 0, e => some e
  | n + 1, e => do more p n (← p e.link)

/-- A part `n` times; no time at all is an empty state. -/
def copies (p : Part) : Nat → Part
  | 0, e => e.add 1 0 false
  | n + 1, e => do more p n (← p e)

/-- A part up to `n` times behind the part built last, each time after a fork that
    leads to the end instead. -/
def options (p : Part) : Nat → Part
  | 0, e => some e.link
  | n + 1, e => do
    let e ← e.link.add 1 (2 * branchBytes) false
    options p n (← p e)

/-- A repetition of a part; `consuming` tells whether the part always takes a
    character. -/
def repeated (p : Part) (consuming : Bool) (min : Nat) (max : Option Nat) : Part := fun e =>
  match min, max with
  | 0, some 1 => do
    let e ← p (← e.add 1 (2 * branchBytes) false)
    e.link.add 1 0 false
  | 0, none =>
    if consuming then do
      -- The fork is entered first and gone back to.
      let e ← p (← e.add 1 branchBytes false)
      e.link.add 0 0 true
    else do
      -- One fork goes back and another one passes over the part.
      let e ← p e
      e.link.add 3 (4 * branchBytes) false
  | min + 1, none => do
    let e ← copies p (min + 1) e
    e.link.add 1 branchBytes true
  | min, some max =>
    if min = max then copies p min e
    else do
      let e ← copies p min e
      options p (max - min) (← e.add 1 0 e.forked)

/-! ### Words -/

/-- Words that have been split into a first byte and the rest, by their first byte. -/
def insertTail (b : Nat) (w : List Nat) :
    List (Nat × List (List Nat)) → List (Nat × List (List Nat))
  | [] => [(b, [w])]
  | (c, ws) :: rest =>
    if b = c then (c, w :: ws) :: rest else (c, ws) :: insertTail b w rest

/-- The transitions out of a node of the tree of words. A word that ends at the node
    divides those before it from those after it. -/
def segments : List (List Nat) → List (List (Nat × List (List Nat)))
  | [] => [[]]
  | [] :: words => [] :: segments words
  | (b :: w) :: words =>
    match segments words with
    | s :: rest => insertTail b w s :: rest
    | [] => [[(b, [w])]]

/-- The transitions out of a node; as long as no word goes on from the node, it does
    not count how many end there. -/
def nodeSegments : List (List Nat) → List (List (Nat × List (List Nat)))
  | [] :: words => [] :: segments (words.dropWhile (·.isEmpty))
  | words => segments words

/-- The nodes below a node; nothing goes on from a leaf, so it is no node. -/
def below (words : List (List Nat)) : List (List (List Nat)) :=
  (nodeSegments words).flatMap fun s =>
    (s.map (·.2)).filter fun ws => ws.any fun w => !w.isEmpty

/-- One segment of a node. -/
def segment (s : List (Nat × List (List Nat))) : Part := fun e =>
  match s.length with
  | 0 => some e
  | 1 => e.add 1 branchBytes false
  | n => e.add 1 (n * transitionBytes + branchBytes) false

/-- One node: its segments, and a fork between them and the ends of words. -/
def node (words : List (List Nat)) : Part := fun e => do
  let ss := nodeSegments words
  let e ← ss.foldlM (fun e s => segment s e) e
  e.add 1 ((ss.length - 1) * branchBytes) false

/-- Nodes of one level of the tree, and up to `depth` levels of nodes below them. -/
def levels : (depth : Nat) → List (List (List Nat)) → Part
  | 0, _, e => some e
  | depth + 1, nodes, e => do
    let e ← nodes.foldlM (fun e words => node words e) e
    levels depth (nodes.flatMap below) e

/-- One of several words, as a tree with a common end. -/
def words (ws : List (List Nat)) : Part := fun e => do
  let e ← e.add 1 0 false
  levels ((ws.map (·.length)).foldl Nat.max 1) [ws] e

end Part

end LabelSelector.Regex
