import LabelSelector.Pattern.Regex

/-! # Normal form of expressions

  What is left of an expression once everything that can be written in a simpler
  way has been. The size of an expression is that of its `Form`.

  - Neighbouring characters form one literal, and a set with one member is a literal.
  - Lists within lists and alternatives within alternatives are flat.
  - Alternatives that are all single characters, or all sets, form one set.
  - Alternatives that all start with the same parts share these parts.

  `Form.ofRegex` builds the form from the inside out; each function below expects
  forms that are normal and gives a normal form.
-/

namespace LabelSelector.Regex

open Unicode (CharSet)

/-- An expression in normal form. -/
inductive Form where
  /-- The empty text. -/
  | empty
  /-- The given code points, at least one. -/
  | literal (codes : List Nat)
  /-- One character of a set, which has not exactly one member. -/
  | chars (unicode : Bool) (s : CharSet)
  /-- A condition on the place. -/
  | look (l : Look)
  /-- A repetition. -/
  | rep (min : Nat) (max : Option Nat) (greedy : Bool) (body : Form)
  /-- A group whose text is kept. -/
  | capture (body : Form)
  /-- Two parts or more, one after the other; no two literals are neighbours. -/
  | seq (parts : List Form)
  /-- Two alternatives or more. -/
  | alt (branches : List Form)

namespace Form

/-! ### Sets and lists -/

/-- One character of a set. -/
def ofSet (unicode : Bool) (s : CharSet) : Form :=
  match s.ranges with
  | [] => .chars false .empty
  | [(lo, hi)] => if lo = hi then .literal [lo] else .chars unicode s
  | _ => .chars unicode s

/-- The parts of a form that stand one after the other. -/
def parts : Form → List Form
  | .empty => []
  | .seq ps => ps
  | f => [f]

/-- The form with the given parts. -/
def ofParts : List Form → Form
  | [] => .empty
  | [f] => f
  | fs => .seq fs

/-- Parts after parts; two literals that meet become one. -/
def joinParts : List Form → List Form → List Form
  | [], after => after
  | [.literal cs], .literal ds :: after => .literal (cs ++ ds) :: after
  | f :: before, after => f :: joinParts before after

/-- One form after the other. -/
def concat (f g : Form) : Form := ofParts (joinParts f.parts g.parts)

/-- A repetition; once is the body itself. -/
def repeating (min : Nat) (max : Option Nat) (greedy : Bool) (body : Form) : Form :=
  if min = 0 ∧ max = some 0 then .empty
  else if min = 1 ∧ max = some 1 then body
  else .rep min max greedy body

/-! ### Equal forms -/

mutual

/-- Whether two forms are the same. Each group whose text is kept is one of its own. -/
def same : Form → Form → Bool
  | .empty, .empty => true
  | .literal cs, .literal ds => cs == ds
  | .chars u s, .chars v t => u == v && s == t
  | .look l, .look k => l == k
  | .rep min max greedy f, .rep min' max' greedy' g =>
    min == min' && max == max' && greedy == greedy' && same f g
  | .seq fs, .seq gs => sameAll fs gs
  | .alt fs, .alt gs => sameAll fs gs
  | _, _ => false

/-- Whether two lists of forms are the same. -/
def sameAll : List Form → List Form → Bool
  | [], [] => true
  | f :: fs, g :: gs => same f g && sameAll fs gs
  | _, _ => false

end

/-- The parts that two lists start with alike. -/
def sharedParts : List Form → List Form → List Form
  | f :: fs, g :: gs => if f.same g then f :: sharedParts fs gs else []
  | _, _ => []

/-! ### Alternatives -/

/-- The alternatives of a form. -/
def branches : Form → List Form
  | .alt fs => fs
  | f => [f]

/-- The range of a single character. -/
def single? : Form → Option (Nat × Nat)
  | .literal [n] => some (n, n)
  | _ => none

/-- The ranges of a set. -/
def ranges? : Form → Option (List (Nat × Nat))
  | .chars _ s => some s.ranges
  | _ => none

/-- The set of alternatives that are all single characters, or all sets. -/
def oneSet? (fs : List Form) : Option CharSet :=
  match fs.mapM single?, fs.mapM ranges? with
  | some rs, _ => some (.ofRanges rs)
  | none, some rs => some (.ofRanges rs.flatten)
  | none, none => none

/-- Alternatives that do not all start with the same part. -/
def choice (fs : List Form) : Form :=
  match fs.flatMap branches with
  | [f] => f
  | fs =>
    match oneSet? fs with
    | some s => ofSet true s
    | none => .alt fs

/-- The parts of a form that has several. -/
def seqParts? : Form → Option (List Form)
  | .seq ps => some ps
  | _ => none

/-- Alternatives. If all of them have several parts and start alike, what they
    start with comes first. -/
def alternation (fs : List Form) : Form :=
  match fs with
  | [f] => f
  | fs =>
    match (fs.flatMap branches).mapM seqParts? with
    | some (first :: rest) =>
      let shared := rest.foldl sharedParts first
      if shared.isEmpty then choice fs
      else
        let after := (first :: rest).map fun ps => ofParts (ps.drop shared.length)
        concat (ofParts shared) (choice after)
    | _ => choice fs

/-! ### Forms of expressions -/

/-- The forms of the alternatives of an expression. -/
def alternatives : Regex → List Form
  | .empty => [.empty]
  | .chars unicode s => [ofSet unicode s]
  | .look l => [.look l]
  | .seq a b => [concat (alternation (alternatives a)) (alternation (alternatives b))]
  | .alt a b => alternation (alternatives a) :: alternatives b
  | .rep min max greedy body => [repeating min max greedy (alternation (alternatives body))]
  | .group true body => [.capture (alternation (alternatives body))]
  | .group false body => [alternation (alternatives body)]

/-- The form of an expression. -/
def ofRegex (r : Regex) : Form := alternation (alternatives r)

/-! ### Lengths -/

mutual

/-- The length of the shortest text that a form matches; a set without members has none. -/
def minLength : Form → Option Nat
  | .empty | .look _ => some 0
  | .literal cs => some cs.length
  | .chars _ s => if s.ranges.isEmpty then none else some 1
  | .rep min _ _ body => body.minLength.map (min * ·)
  | .capture body => body.minLength
  | .seq fs => minLengthSeq fs
  | .alt fs => minLengthAlt fs

/-- The length of the shortest text that a list of parts matches. -/
def minLengthSeq : List Form → Option Nat
  | [] => some 0
  | f :: fs =>
    match f.minLength, minLengthSeq fs with
    | some m, some n => some (m + n)
    | _, _ => none

/-- The length of the shortest text that one of several alternatives matches, if each
    of them matches any. -/
def minLengthAlt : List Form → Option Nat
  | [] => none
  | [f] => f.minLength
  | f :: fs =>
    match f.minLength, minLengthAlt fs with
    | some m, some n => some (Nat.min m n)
    | _, _ => none

end

mutual

/-- Whether a form matches nothing but the empty text. -/
def isVoid : Form → Bool
  | .empty | .look _ => true
  | .literal _ | .chars _ _ => false
  | .rep _ _ _ body | .capture body => body.isVoid
  | .seq fs | .alt fs => allVoid fs

/-- Whether several forms match nothing but the empty text. -/
def allVoid : List Form → Bool
  | [] => true
  | f :: fs => f.isVoid && allVoid fs

end

/-! ### Anchors -/

mutual

/-- Whether a form can match at the start of the text only. -/
def atStart : Form → Bool
  | .look l => l == .textStart
  | .rep min _ _ body => min > 0 && body.atStart
  | .capture body => body.atStart
  | .seq fs => atStartSeq fs
  | .alt fs => atStartAlt fs
  | .empty | .literal _ | .chars _ _ => false

/-- Whether parts one after the other can match at the start of the text only. -/
def atStartSeq : List Form → Bool
  | [] => false
  | f :: fs => f.atStart || (f.isVoid && atStartSeq fs)

/-- Whether all alternatives can match at the start of the text only. -/
def atStartAlt : List Form → Bool
  | [] => true
  | f :: fs => f.atStart && atStartAlt fs

end

mutual

/-- Whether a form can match at the end of the text only. -/
def atEnd : Form → Bool
  | .look l => l == .textEnd
  | .rep min _ _ body => min > 0 && body.atEnd
  | .capture body => body.atEnd
  | .seq fs => atEndSeq fs
  | .alt fs => atEndAlt fs
  | .empty | .literal _ | .chars _ _ => false

/-- Whether parts one after the other can match at the end of the text only. -/
def atEndSeq : List Form → Bool
  | [] => false
  | f :: fs => (allVoid fs && f.atEnd) || atEndSeq fs

/-- Whether all alternatives can match at the end of the text only. -/
def atEndAlt : List Form → Bool
  | [] => true
  | f :: fs => f.atEnd && atEndAlt fs

end

end Form

end LabelSelector.Regex
