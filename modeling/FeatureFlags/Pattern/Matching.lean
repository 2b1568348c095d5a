/-
# Matching

The places of a text lie before, between and after its characters. A pattern takes
a set of places where matches may begin to the set of places where they may end:
a character set moves a place over one character, a boundary keeps the places it
holds at, sequence and choice are composition and union. A text contains a match
if some place is reached when every place may begin one.

Sets of places are lists of truth values, one for each place. A repetition has at
most as many useful rounds as the text has places, since a round that consumes
nothing can be left out or added at will.

Key definitions:
* `Place`, `places`: the places of a text.
* `Pattern.ends`: the places where matches end.
* `Pattern.occursIn`: whether a text contains a match.
-/
import FeatureFlags.Pattern.Basic

namespace FeatureFlags

/-- A place in a text, by the characters on its two sides. -/
structure Place where
  prev : Option Char
  next : Option Char

/-- The places of a text from one that has `prev` before it. -/
def places (prev : Option Char) : List Char → List Place
  | [] => [⟨prev, none⟩]
  | c :: rest => ⟨prev, some c⟩ :: places (some c) rest

/-- A set of places of a text, in their order. -/
abbrev PlaceSet := List Bool

namespace PlaceSet

/-- The places in either set. -/
def union (a b : PlaceSet) : PlaceSet := List.zipWith or a b

/-- The places where a condition holds as well. -/
def keep (condition : Place → Bool) (all : List Place) (s : PlaceSet) : PlaceSet :=
  List.zipWith (fun place inside => inside && condition place) all s

/-- The places one character on. -/
def advance (s : PlaceSet) : PlaceSet := (false :: s).dropLast

/-- `n` rounds, one after the other. -/
def rounds (round : PlaceSet → PlaceSet) : Nat → PlaceSet → PlaceSet
  | 0, s => s
  | n + 1, s =>
    let reached := round s
    if reached = s then s else rounds round n reached

/-- At most `n` rounds from the set `s`, of which `reached` is known to be reached. -/
def upTo (round : PlaceSet → PlaceSet) (s : PlaceSet) : Nat → PlaceSet → PlaceSet
  | 0, reached => reached
  | n + 1, reached =>
    let more := s.union (round reached)
    if more = reached then reached else upTo round s n more

end PlaceSet

namespace Pattern

/-- The places where a match ends that begins in `s`. -/
def ends (all : List Place) : Pattern → PlaceSet → PlaceSet
  | empty, s => s
  | char set, s => (s.keep (fun place => place.next.any set.contains) all).advance
  | look boundary, s => s.keep (fun place => boundary.holds place.prev place.next) all
  | seq p q, s => q.ends all (p.ends all s)
  | alt p q, s => (p.ends all s).union (q.ends all s)
  | rep p least most, s =>
    let base := PlaceSet.rounds (p.ends all) (min least all.length) s
    let extra := match most with
      | some most => min (most - least) all.length
      | none => all.length
    PlaceSet.upTo (p.ends all) base extra base

/-- Whether a text contains a match of the pattern. -/
def occursIn (p : Pattern) (text : String) : Bool :=
  let all := places none text.toList
  (p.ends all (all.map fun _ => true)).any id

end Pattern
end FeatureFlags
