/-
# Punycode

Host names write characters beyond ASCII as digits in base 36 after `xn--`. The
digits form numbers of variable length; each number says how far to go on in the
list of (code point, place) pairs until the next character is put in.

Key definitions:
* `Punycode.decode?`: the code points of a label after `xn--`.
-/
namespace FeatureFlags
namespace Punycode

/-- The value of a digit. -/
def digit? (c : Char) : Option Nat :=
  if 'a' ≤ c ∧ c ≤ 'z' then some (c.toNat - 'a'.toNat)
  else if 'A' ≤ c ∧ c ≤ 'Z' then some (c.toNat - 'A'.toNat)
  else if '0' ≤ c ∧ c ≤ '9' then some (c.toNat - '0'.toNat + 26)
  else none

/-- The digits below this value end a number. -/
def threshold (place bias : Nat) : Nat := max 1 (min 26 (place - bias))

/-- Divides by 35 until the value is at most 455, counting in steps of 36. -/
def shrink (delta count : Nat) : Nat × Nat :=
  if 455 < delta then shrink (delta / 35) (count + 36) else (delta, count)
termination_by delta
decreasing_by exact Nat.div_lt_self (by omega) (by omega)

/-- The bias after a number, given how many characters there are now. -/
def adapt (delta length : Nat) (isFirst : Bool) : Nat :=
  let delta := if isFirst then delta / 700 else delta / 2
  let (delta, count) := shrink (delta + delta / length) 0
  count + 36 * delta / (delta + 38)

/-- The state of the decoder. `weight` and `place` belong to the next digit of the
number being read. -/
structure State where
  code : Nat
  index : Nat
  numberStart : Nat
  weight : Nat
  place : Nat
  bias : Nat
  output : List Nat

/-- Takes one digit. -/
def step (s : State) (c : Char) : Option State := do
  let d ← digit? c
  let index := s.index + d * s.weight
  let t := threshold s.place s.bias
  if t ≤ d then
    some { s with index, weight := s.weight * (36 - t), place := s.place + 36 }
  else
    let length := s.output.length + 1
    let code := s.code + index / length
    let at_ := index % length
    if code < 0x110000 then
      some
        { code
          index := at_ + 1
          numberStart := at_ + 1
          weight := 1
          place := 36
          bias := adapt (index - s.numberStart) length (s.numberStart == 0)
          output := s.output.take at_ ++ code :: s.output.drop at_ }
    else none

/-- The code points of a label. What stands before the last dash is taken as it
is. -/
def decode? (label : List Char) : Option (List Nat) := do
  let reversed := label.reverse
  let digits := (reversed.takeWhile (· ≠ '-')).reverse
  let plain := ((reversed.dropWhile (· ≠ '-')).drop 1).reverse
  let s ← digits.foldlM step ⟨128, 0, 0, 1, 36, 72, plain.map Char.toNat⟩
  if s.weight = 1 then some s.output else none

end Punycode
end FeatureFlags
