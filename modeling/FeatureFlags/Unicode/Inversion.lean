/-
# Sets of code points by their borders

A set of code points that consists of long runs is stored as the list of its
borders: the set starts empty at zero and changes between "out" and "in" at each
border. The tables in this directory write the distance from one border to the
next as a number in base 36, with blanks and line ends between them.

Key definitions:
* `Borders.read`: the borders of a table text.
* `Borders.contains`: membership.
-/
import FeatureFlags.Text.Split

namespace FeatureFlags

/-- The code points at which a set begins or ends, ascending. -/
abbrev Borders := List Nat

namespace Borders

/-- The value of a digit in base 36. -/
def digitValue (c : Char) : Nat :=
  if c.isDigit then c.toNat - '0'.toNat else c.toNat - 'a'.toNat + 10

/-- The value of a number in base 36. -/
def number (chars : List Char) : Nat := chars.foldl (fun n c => 36 * n + digitValue c) 0

/-- Running sums, the first one counted from a start. -/
def sums : Nat → List Nat → List Nat
  | _, [] => []
  | start, d :: rest => (start + d) :: sums (start + d) rest

/-- The numbers of a table text. -/
def numbers (table : List Char) : List Nat :=
  ((cut (fun c => c = ' ' || c = '\n') table).filter (· ≠ [])).map number

/-- The borders of a table text. -/
def read (table : String) : Borders := sums 0 (numbers table.toList)

/-- Whether a code point lies in the set; `inside` says on which side of the first
border the search begins. -/
def containsFrom (inside : Bool) (code : Nat) : Borders → Bool
  | [] => inside
  | border :: rest => if code < border then inside else containsFrom (!inside) code rest

/-- Whether a code point lies in the set. -/
def contains (borders : Borders) (code : Nat) : Bool := borders.containsFrom false code

end Borders

/-- A table of sets: names, separated by blanks, with the borders they stand for. -/
abbrev SetTable := List (List String × Borders)

/-- Reads the rows of a table. -/
def SetTable.read (rows : List (String × String)) : SetTable :=
  rows.map fun (names, borders) =>
    ((cut (· = ' ') names.toList).map String.ofList, Borders.read borders)

/-- The set with a name. -/
def SetTable.named? (table : SetTable) (name : String) : Option Borders :=
  (List.find? (fun row => row.1.contains name) table).map (·.2)

end FeatureFlags
