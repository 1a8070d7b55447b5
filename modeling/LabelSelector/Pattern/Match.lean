import LabelSelector.Pattern.Regex

/-! # Matching

  Decides whether a regular expression matches somewhere in a text. A set of
  places is a number whose bit `i` stands for place `i`. An expression first
  becomes a `Route` over one text, in which character sets and conditions are
  sets of places; `Route.run` then moves a whole set of places at once.

  - A counted repetition is a route written out, but its copies are shared: a
    count of `2 * k` is twice the route of count `k`.
  - A loop remembers the places it has started from, in a `Memory` that goes along
    with the route. It starts only from places that are new to it: where the others
    lead to has been handed out before.

  So within a loop a part of a route is run at most once for each place of the text,
  however deeply loops are nested.
-/

namespace LabelSelector.Regex

open Unicode (CharSet)

/-! ### Sets of places -/

/-- The places of a text where a condition holds; `before` is the character before it. -/
def placesWhere (look : Look) (before : Option Char) : List Char → Nat
  | [] => (look.holds before none).toNat
  | c :: cs => 2 * placesWhere look (some c) cs + (look.holds before (some c)).toNat

/-- All places of a text of `n` characters. -/
def allPlaces (n : Nat) : Nat := Nat.pow 2 (n + 1) - 1

/-- The characters of a text, each with the places before it. -/
abbrev Alphabet := List (Char × Nat)

namespace Alphabet

/-- One more place, the one with the given bit, is before the character `c`. -/
def insert (c : Char) (bit : Nat) : Alphabet → Alphabet
  | [] => [(c, bit)]
  | (d, places) :: rest =>
    if d = c then (d, places ||| bit) :: rest else (d, places) :: insert c bit rest

/-- The characters of a text whose first place has the given bit, added to those
    before it. -/
def ofText (a : Alphabet) (bit : Nat) : List Char → Alphabet
  | [] => a
  | c :: cs => ofText (a.insert c bit) (2 * bit) cs

/-- The places before the characters of a set. -/
def placesOf (a : Alphabet) (s : CharSet) : Nat :=
  a.foldl (fun places entry => if s.contains entry.1 then places ||| entry.2 else places) 0

end Alphabet

/-- The conditions of an expression, each once, added to the given ones. -/
def looks : Regex → List Look → List Look
  | .empty, ls | .chars _ _, ls => ls
  | .look l, ls => if ls.contains l then ls else l :: ls
  | .seq a b, ls | .alt a b, ls => looks a (looks b ls)
  | .rep _ _ _ body, ls | .group _ body, ls => looks body ls

/-- A text with the places at which its characters stand and conditions hold. -/
structure Terrain where
  /-- The text. -/
  text : List Char
  /-- The characters of the text with the places before them. -/
  alphabet : Alphabet
  /-- Conditions with the places where they hold. -/
  looks : List (Look × Nat)

namespace Terrain

/-- What an expression asks of a text. -/
def ofText (r : Regex) (text : List Char) : Terrain :=
  ⟨text, Alphabet.ofText [] 1 text, (r.looks []).map fun l => (l, placesWhere l none text)⟩

/-- The places where a condition holds. -/
def placesAt (t : Terrain) (l : Look) : Nat :=
  (t.looks.lookup l).getD (placesWhere l none t.text)

end Terrain

/-! ### Routes -/

/-- An expression over one text. -/
inductive Route where
  /-- Stays. -/
  | stay
  /-- Goes one character on from the given places. -/
  | pass (places : Nat)
  /-- Stays at the given places. -/
  | gate (places : Nat)
  /-- One after the other. -/
  | seq (first second : Route)
  /-- One or the other. -/
  | alt (first second : Route)
  /-- Once or several times. -/
  | loop (body : Route)

namespace Route

/-- A route taken `n` times. -/
def times (r : Route) (n : Nat) : Route :=
  if n = 0 then .stay
  else if n = 1 then r
  else
    let half := times r (n / 2)
    if n % 2 = 0 then .seq half half else .seq r (.seq half half)
termination_by n

/-- A route taken at least `min` times, and at most `max` times if there is such a bound. -/
def repeated (r : Route) : (min : Nat) → (max : Option Nat) → Route
  | 0, none => .alt .stay (.loop r)
  | 1, none => .loop r
  | min + 2, none => .seq (r.times (min + 1)) (.loop r)
  | min, some max => .seq (r.times min) ((Route.alt .stay r).times (max - min))

end Route

/-- The route of an expression over a text. -/
def route (t : Terrain) : Regex → Route
  | .empty => .stay
  | .chars _ s => .pass (t.alphabet.placesOf s)
  | .look l => .gate (t.placesAt l)
  | .seq a b => .seq (route t a) (route t b)
  | .alt a b => .alt (route t a) (route t b)
  | .rep min max _ body => (route t body).repeated min max
  | .group _ body => route t body

/-! ### Running a route -/

/-- What the loops of a route have seen so far. -/
inductive Memory where
  /-- Nothing yet. -/
  | fresh
  /-- The memories of the two parts of a route. -/
  | both (first second : Memory)
  /-- The places that a loop has started from, and the memory of its body. -/
  | loop (started : Nat) (body : Memory)

namespace Memory

/-- The memory of the first part of a route. -/
def first : Memory → Memory
  | .both m _ => m
  | _ => .fresh

/-- The memory of the second part of a route. -/
def second : Memory → Memory
  | .both _ m => m
  | _ => .fresh

/-- The places that a loop has started from. -/
def started : Memory → Nat
  | .loop places _ => places
  | _ => 0

/-- The memory of the body of a loop. -/
def body : Memory → Memory
  | .loop _ m => m
  | _ => .fresh

end Memory

/-- Takes a step from those of the places `found` that no step `started` from, and
    goes on with what it finds until nothing is new. All that the steps find is added to
    `total`. Places are below `limit`. -/
def spread (step : Memory → Nat → Memory × Nat) (limit : Nat) (m : Memory)
    (started found total : Nat) : Memory × Nat :=
  let union := started ||| found
  if started < union ∧ union < limit then
    let (m, next) := step m (union ^^^ started)
    spread step limit m union next (total ||| next)
  else (.loop started m, total)
termination_by limit - started

/-- Where a route leads from a set of places below `limit`, and what it remembers.
    Places that it has led to before need not be among the results. -/
def Route.run (limit : Nat) : Route → Memory → Nat → Memory × Nat
  | .stay, m, s => (m, s)
  | .pass places, m, s => (m, 2 * (s &&& places))
  | .gate places, m, s => (m, s &&& places)
  | .seq a b, m, s =>
    let (m₁, s₁) := a.run limit m.first s
    if s₁ = 0 then (.both m₁ m.second, 0)
    else
      let (m₂, s₂) := b.run limit m.second s₁
      (.both m₁ m₂, s₂)
  | .alt a b, m, s =>
    let (m₁, s₁) := a.run limit m.first s
    let (m₂, s₂) := b.run limit m.second s
    (.both m₁ m₂, s₁ ||| s₂)
  | .loop body, m, s => spread (body.run limit) limit m.body m.started s 0

/-! ### Matching -/

/-- Whether an expression matches somewhere in a text. -/
def isMatch (r : Regex) (text : List Char) : Bool :=
  let places := allPlaces text.length
  let route := r.route (.ofText r text)
  (route.run (places + 1) .fresh places).2 != 0

end LabelSelector.Regex
