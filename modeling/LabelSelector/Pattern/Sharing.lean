import LabelSelector.Pattern.Extent
import Std.Data.HashMap

/-! # Sets of characters in an automaton

  A set beyond ASCII takes many states, and states that do the same are shared as
  far as a table of a fixed number of slots remembers them. Each state has a key: what
  it takes and where it leads. The key gives the slot, and a new state takes the
  place of the one remembered there. So the number of states depends on the numbers
  of the states before them.

  - Going forwards, the sequences of the set form a tree, which is built from its
    leaves up, branch after branch.
  - Going backwards, each sequence is a chain from its first byte, which is taken last.
-/

namespace LabelSelector.Regex

open Unicode (CharSet)
open Encoding (ByteRange)

/-- An automaton under way, with the states that can be shared. -/
structure Sharing where
  /-- How far the automaton has been built. -/
  extent : Extent
  /-- For each slot, the key and the number of the state that took it last. -/
  slots : Std.HashMap UInt64 (List Nat × Nat)

namespace Sharing

/-- Nothing is shared yet. -/
def start (e : Extent) : Sharing := ⟨e, ∅⟩

/-- The slot of a key among `size` slots: its numbers are mixed in one after the other,
    in arithmetic of sixty-four bits. -/
def slot (size : UInt64) (key : List Nat) : UInt64 :=
  (key.foldl (fun h n => (h ^^^ n.toUInt64) * 1099511628211) 14695981039346656037) % size

/-- The state remembered for a key. -/
def find? (g : Sharing) (slot : UInt64) (key : List Nat) : Option Nat :=
  match g.slots[slot]? with
  | some (key', n) => if key = key' then some n else none
  | none => none

/-- The number of a state with the given key: one that is remembered, or a new one with
    further bytes. -/
def state (g : Sharing) (size : UInt64) (key : List Nat) (extra : Nat) :
    Option (Nat × Sharing) :=
  let slot := slot size key
  match g.find? slot key with
  | some n => some (n, g)
  | none => do
    let n := g.extent.states
    let e ← g.extent.add 1 extra false
    return (n, ⟨e, g.slots.insert slot (key, n)⟩)

/-! ### Forwards -/

/-- Sequences by their first range; those with the same one are neighbours. -/
def byFirst : List (List ByteRange) → List (ByteRange × List (List ByteRange))
  | [] => []
  | [] :: seqs => byFirst seqs
  | (r :: tail) :: seqs =>
    match byFirst seqs with
    | (r', tails) :: rest =>
      if r = r' then (r, tail :: tails) :: rest else (r, [tail]) :: (r', tails) :: rest
    | [] => [(r, [tail])]

/-- Slots of the table for trees. -/
def treeSlots : UInt64 := 10000

/-- The number of the state from which sequences of at most `depth` ranges lead to the
    state `target`. -/
def tree (target : Nat) : (depth : Nat) → List (List ByteRange) → Sharing →
    Option (Nat × Sharing)
  | 0, _, g => some (target, g)
  | depth + 1, seqs, g =>
    match byFirst seqs with
    | [] => some (target, g)
    | groups => do
      let (key, g) ← groups.foldlM (fun (key, g) (r, tails) => do
        let (next, g) ← tree target depth tails g
        return (next :: r.2 :: r.1 :: key, g)) (([] : List Nat), g)
      g.state treeSlots key.reverse (groups.length * transitionBytes)

/-! ### Backwards -/

/-- Slots of the table for chains. -/
def chainSlots : UInt64 := 1000

/-- A chain of states for a sequence, and the branch that leads to it. -/
def chain (target : Nat) (g : Sharing) (seq : List ByteRange) : Option Sharing := do
  let (_, g) ← seq.foldlM (fun (next, g) r => g.state chainSlots [next, r.1, r.2] 0) (target, g)
  let e ← g.extent.add 0 branchBytes false
  return { g with extent := e }

end Sharing

/-- The way in which an automaton goes through a text. -/
inductive Direction where
  /-- From the first byte to the last. -/
  | forward
  /-- From the last byte to the first. -/
  | backward
  deriving DecidableEq, Repr

/-- One character of a set. -/
def Part.chars (d : Direction) (s : CharSet) : Part := fun e =>
  if s.isAscii then e.add 2 (s.ranges.length * transitionBytes) false
  else
    match d with
    | .forward => do
      let (_, g) ← Sharing.tree e.states 4 (Encoding.sequences s) (.start (← e.add 1 0 false))
      return g.extent
    | .backward => do
      -- The fork comes first, then the state to which all chains lead.
      let g ← (Encoding.sequences s).foldlM (Sharing.chain (e.states + 1))
        (.start (← e.add 2 0 false))
      return g.extent

end LabelSelector.Regex
