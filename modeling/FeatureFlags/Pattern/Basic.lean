/-
# Text patterns

A pattern is a regular expression over Unicode characters: sets of characters,
boundaries that consume nothing, sequence, choice and counted repetition. How much
a repetition prefers to take plays no part, since the only question asked is
whether a text contains a match.

Key definitions:
* `Boundary`, `Pattern`.
* `Pattern.weight`: the size that limits which patterns are accepted.
-/
import FeatureFlags.Pattern.CharSet

namespace FeatureFlags

/-- A condition on the characters on both sides of a place in the text. -/
inductive Boundary where
  | textStart
  | textEnd
  | lineStart
  | lineEnd
  /-- The start of a line where `\r`, `\n` and `\r\n` end lines. -/
  | anyLineStart
  | anyLineEnd
  | wordEdge (word : CharSet)
  | notWordEdge (word : CharSet)
  | wordStart (word : CharSet)
  | wordEnd (word : CharSet)
  /-- No word character before. -/
  | wordStartHalf (word : CharSet)
  /-- No word character after. -/
  | wordEndHalf (word : CharSet)
deriving DecidableEq

/-- A regular expression. -/
inductive Pattern where
  | empty
  | char (set : CharSet)
  | look (boundary : Boundary)
  | seq (first second : Pattern)
  | alt (left right : Pattern)
  /-- At least `least` and at most `most` times in a row. -/
  | rep (body : Pattern) (least : Nat) (most : Option Nat)
deriving DecidableEq

namespace Boundary

/-- Whether the boundary is at a place with `prev` before it and `next` after it. -/
def holds (prev next : Option Char) : Boundary → Bool
  | textStart => prev.isNone
  | textEnd => next.isNone
  | lineStart => prev.all (· = '\n')
  | lineEnd => next.all (· = '\n')
  | anyLineStart =>
    prev.all fun c => c = '\n' || (c = '\r' && next ≠ some '\n')
  | anyLineEnd =>
    next.all fun c => c = '\r' || (c = '\n' && prev ≠ some '\r')
  | wordEdge word => prev.any word.contains != next.any word.contains
  | notWordEdge word => prev.any word.contains == next.any word.contains
  | wordStart word => !prev.any word.contains && next.any word.contains
  | wordEnd word => prev.any word.contains && !next.any word.contains
  | wordStartHalf word => !prev.any word.contains
  | wordEndHalf word => !next.any word.contains

end Boundary

namespace Pattern

/-- Patterns one after the other. -/
def sequence : List Pattern → Pattern
  | [] => empty
  | [p] => p
  | p :: rest => seq p (sequence rest)

/-- One of several patterns, given in any order. -/
def choice : List Pattern → Pattern
  | [] => empty
  | [p] => p
  | p :: rest => alt p (choice rest)

/-- An estimate, in bytes, of what a table-driven matcher for the pattern would
take: repetitions are unrolled and every run of a character set is stored. -/
def weight : Pattern → Nat
  | empty => 32
  | char set => 32 + 64 * set.weight
  | look _ => 32
  | seq p q => p.weight + q.weight
  | alt p q => p.weight + q.weight + 32
  | rep p least Option.none => (least + 1) * (p.weight + 32)
  | rep p _ (some most) => most * (p.weight + 32)

/-- The largest weight that is accepted. -/
def weightLimit : Nat := 10 * 1024 * 1024

end Pattern
end FeatureFlags
