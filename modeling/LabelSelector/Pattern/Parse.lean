import LabelSelector.Pattern.Brackets
import LabelSelector.Pattern.Groups

/-! # From text to tree

  `Node.parse` reads a whole pattern. It goes through the text once; groups that
  are still open are kept on a stack.
-/

namespace LabelSelector.Pattern

/-- A group that is open. -/
structure Level where
  /-- What kind of group it is. -/
  kind : GroupKind
  /-- The mode to go back to. -/
  verbose : Bool
  /-- Alternatives before the one with the group, last first. -/
  branches : List Node
  /-- Items before the group, last first. -/
  items : List Node

/-- Where reading a pattern stands. -/
structure Progress where
  /-- Whether blanks and comments are skipped. -/
  verbose : Bool
  /-- Names of groups so far. -/
  names : List String
  /-- Open groups, innermost first. -/
  stack : List Level
  /-- Finished alternatives of the innermost group, last first. -/
  branches : List Node
  /-- Items of the alternative under way, last first. -/
  items : List Node

namespace Progress

/-- Nothing read yet. -/
def start : Progress := ⟨false, [], [], [], []⟩

/-- What the innermost group holds so far. -/
def body (p : Progress) : Node :=
  .ofBranches (Node.ofItems p.items.reverse :: p.branches).reverse

/-- One more item. -/
def push (p : Progress) (item : Node) : Progress := { p with items := item :: p.items }

/-- One more alternative. -/
def branch (p : Progress) : Progress :=
  { p with branches := .ofItems p.items.reverse :: p.branches, items := [] }

/-- Goes on behind the start of a group or of flags. -/
def openGroup (p : Progress) : Reader.Opening → Except Error Progress
  | .setting s => .ok { p.push (.flags s) with verbose := Reader.verboseAfter p.verbose s }
  | .group kind name =>
    let inside : Progress :=
      { verbose := match kind with
          | .plain s => Reader.verboseAfter p.verbose s
          | .capture => p.verbose
        names := name.toList ++ p.names
        stack := ⟨kind, p.verbose, p.branches, p.items⟩ :: p.stack
        branches := []
        items := [] }
    if name.toList.any p.names.contains then .error .groupNameDuplicate else .ok inside

/-- Closes the innermost group. -/
def closeGroup (p : Progress) : Except Error Progress :=
  match p.stack with
  | [] => .error .unopenedGroup
  | level :: stack =>
    .ok { p with
      verbose := level.verbose
      stack := stack
      branches := level.branches
      items := .group level.kind p.body :: level.items }

/-- The item that a repetition applies to. -/
def repeated (p : Progress) : Except Error (Node × Progress) :=
  match p.items with
  | [] | .empty :: _ | .flags _ :: _ => .error .nothingToRepeat
  | item :: items => .ok (item, { p with items := items })

/-- The tree of a pattern that has been read. -/
def finish (p : Progress) : Except Error Node :=
  if p.stack.isEmpty then .ok p.body else .error .unclosedGroup

end Progress

namespace Reader

open TextReader

/-- Reads an item that is no group and no repetition; its first character `c` has
    been passed. -/
def item (verbose : Bool) (c : Char) : Reader Node :=
  match c with
  | '[' => do
    let (negated, body) ← bracket verbose
    return .bracket negated body
  | '\\' => return .atom (← escape verbose)
  | '.' => return .atom .dot
  | '^' => return .atom (.assertion .lineStart)
  | '$' => return .atom (.assertion .lineEnd)
  | c => return .atom (.plain c)

/-- Reads the next part of a pattern; its first character `c` has been passed. -/
def step (p : Progress) (c : Char) : Reader Progress :=
  match c with
  | '(' => do
    let o ← opening p.verbose
    lift (p.openGroup o)
  | ')' => lift p.closeGroup
  | '|' => return p.branch
  | c =>
    if isRepetition c then do
      -- What is repeated is looked at before the bounds are read.
      let (node, p) ← lift p.repeated
      let b ← repetition p.verbose c
      return p.push (.rep b.min b.max b.isLazy node)
    else do
      let node ← item p.verbose c
      return p.push node

/-- Reads a pattern to its end. -/
def pattern (p : Progress) (cs : List Char) : Except Error Node :=
  match h : spaced p.verbose cs with
  | [] => p.finish
  | c :: rest =>
    match step p c rest with
    | .error e => .error e
    | .ok (p', ⟨rest', h'⟩) =>
      have : rest'.length < cs.length := by
        have hle := length_spaced p.verbose cs
        rw [h] at hle
        exact Nat.lt_of_le_of_lt h' hle
      pattern p' rest'
termination_by cs.length

end Reader

/-- The tree of a pattern. -/
def Node.parse (text : List Char) : Except Error Node := do
  let node ← Reader.pattern .start text
  if node.depth ≤ nestLimit then return node else throw .nesting

end LabelSelector.Pattern
