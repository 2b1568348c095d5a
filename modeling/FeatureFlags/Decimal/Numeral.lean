/-
# Numerals

A numeral is a sign, the digits before the point, the digits after it, and a power
of ten. JSON literals and the numbers users write in text share this shape and
differ in what may be left out, which their own readers check.

Key definitions:
* `Numeral`, `Numeral.split?`: the parts of a numeral.
* `integer?`, `natural?`: whole numbers in text, with an optional sign.
* `decimalFloat?`: a finite number in text.
* `Number.ofLiteral?`: a number literal of JSON.
-/
import FeatureFlags.Decimal.Scaled
import FeatureFlags.Json.Basic

namespace FeatureFlags

/-- Whether a character is one of the ten ASCII digits. -/
def isDigit (c : Char) : Bool := decide ('0' ≤ c ∧ c ≤ '9')

/-- The value of a row of ASCII digits. -/
def digitsValue (digits : List Char) : Nat :=
  digits.foldl (fun n c => 10 * n + (c.toNat - '0'.toNat)) 0

/-- The value of a non-empty row of ASCII digits. -/
def digits? (chars : List Char) : Option Nat :=
  if chars ≠ [] ∧ chars.all isDigit then some (digitsValue chars) else none

/-- A natural number in text: digits, after an optional plus sign. -/
def natural? (chars : List Char) : Option Nat :=
  match chars with
  | '+' :: rest => digits? rest
  | _ => digits? chars

/-- An integer in text: digits, after an optional sign. -/
def integer? (chars : List Char) : Option Int :=
  match chars with
  | '-' :: rest => (digits? rest).map fun n => -(n : Int)
  | _ => (natural? chars).map Int.ofNat

/-- The value of a hexadecimal digit. -/
def hexDigit? (c : Char) : Option Nat :=
  if isDigit c then some (c.toNat - '0'.toNat)
  else if 'a' ≤ c ∧ c ≤ 'f' then some (c.toNat - 'a'.toNat + 10)
  else if 'A' ≤ c ∧ c ≤ 'F' then some (c.toNat - 'A'.toNat + 10)
  else none

/-- The parts of a numeral. `fraction` is `none` without a point, `power` is `none`
without an exponent. -/
structure Numeral where
  negative : Bool
  whole : List Char
  fraction : Option (List Char)
  power : Option Int

namespace Numeral

/-- Splits off an exponent mark and what follows it. -/
def splitPower? (chars : List Char) : Option (Option Int) :=
  match chars with
  | [] => some none
  | c :: rest => if c = 'e' ∨ c = 'E' then (integer? rest).map some else none

/-- Splits an unsigned numeral at the point and at the exponent mark. -/
def splitUnsigned? (negative : Bool) (chars : List Char) : Option Numeral :=
  let whole := chars.takeWhile isDigit
  match chars.dropWhile isDigit with
  | '.' :: rest =>
    (splitPower? (rest.dropWhile isDigit)).map
      (⟨negative, whole, some (rest.takeWhile isDigit), ·⟩)
  | rest => (splitPower? rest).map (⟨negative, whole, none, ·⟩)

/-- The parts of a numeral with an optional minus sign. -/
def split? (chars : List Char) : Option Numeral :=
  match chars with
  | '-' :: rest => splitUnsigned? true rest
  | _ => splitUnsigned? false chars

/-- The digits of the fraction, none without a point. -/
def fractionDigits (n : Numeral) : List Char := n.fraction.getD []

/-- The power of ten that is written, zero without an exponent. -/
def writtenPower (n : Numeral) : Int := n.power.getD 0

end Numeral

/-- Changes the sign of a float if `negative` holds. -/
def signed (negative : Bool) (x : Float) : Float := if negative then -x else x

/-- A finite decimal number in text: an optional sign, digits with a point anywhere
or nowhere, and an optional exponent. At least one digit must stand before the
exponent. Names of infinities and of NaN are refused, as are numerals that round
to infinity. -/
def decimalFloat? (chars : List Char) : Option FiniteFloat := do
  let n ← match chars with
    | '+' :: rest => Numeral.splitUnsigned? false rest
    | _ => Numeral.split? chars
  let digits := n.whole ++ n.fractionDigits
  if digits = [] then none
  else
    let power := n.writtenPower - n.fractionDigits.length
    FiniteFloat.ofFloat? (signed n.negative (nearestScaled (digitsValue digits) power))

/-! ### Literals of JSON -/

/-- The digits of a literal as far as they fit in 64 bits, with the power of ten
that stands for the rest: a further digit before the point raises the power, and
further digits after it are dropped. -/
structure Significand where
  value : Nat
  power : Int
  full : Bool

namespace Significand

/-- Takes one more digit if the value still fits in 64 bits. -/
def push? (s : Significand) (c : Char) : Option Nat :=
  let value := 10 * s.value + (c.toNat - '0'.toNat)
  if s.full ∨ Nat.pow 2 64 ≤ value then none else some value

/-- Takes a digit before the point. -/
def pushWhole (s : Significand) (c : Char) : Significand :=
  match s.push? c with
  | some value => { s with value }
  | none => { s with power := s.power + 1, full := true }

/-- Takes a digit after the point. -/
def pushFraction (s : Significand) (c : Char) : Significand :=
  match s.push? c with
  | some value => { s with value, power := s.power - 1 }
  | none => { s with full := true }

/-- The significand of a numeral. -/
def ofNumeral (n : Numeral) : Significand :=
  let whole := n.whole.foldl pushWhole ⟨0, 0, false⟩
  n.fractionDigits.foldl pushFraction { whole with full := false }

end Significand

/-- The number of a JSON literal. Without point and exponent it is an integer if it
fits in 64 bits, signed below zero and unsigned above; `-0` is the float. Every
other literal is a float, and one that would be infinite is refused. -/
def Number.ofLiteral? (chars : List Char) : Option Number := do
  let n ← Numeral.split? chars
  let leadingZero := n.whole.head? = some '0' ∧ n.whole.length ≠ 1
  if n.whole = [] ∨ leadingZero ∨ n.fraction = some [] then none
  else
    let value := digitsValue n.whole
    let plain := n.fraction.isNone ∧ n.power.isNone
    if plain ∧ ¬n.negative ∧ value < Nat.pow 2 64 then some (.int value)
    else if plain ∧ n.negative ∧ 0 < value ∧ value ≤ Nat.pow 2 63 then some (.int (-value))
    else
      let s := Significand.ofNumeral n
      let x ← scaled? s.value (s.power + n.writtenPower)
      (FiniteFloat.ofFloat? (signed n.negative x.value)).map .float

end FeatureFlags
