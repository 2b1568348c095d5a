/-
# Writing floats

A float is written with its shortest digits. What differs between the places that
write one is a `FloatFormat`: where an exponent is used, what follows an integral
value, and how ties are settled.

* `FloatFormat.exchange` is for JSON text: positional between `1e-5` and `1e16`,
  always with a fraction or an exponent, so that a float stays a float.
* `FloatFormat.plain` is for numbers inside text: never an exponent, and no
  fraction for an integral value.

Key definitions:
* `FiniteFloat.exchangeText`, `FiniteFloat.plainText`.
-/
import FeatureFlags.Decimal.Shortest
import FeatureFlags.Json.Basic

namespace FeatureFlags

/-- How the digits of a float are laid out. -/
structure FloatFormat where
  tie : Tie
  /-- Whether a number whose first digit has this power of ten is written
  without an exponent. -/
  positional : Int → Bool
  /-- What follows an integral value written without an exponent. -/
  integralTail : String

namespace FloatFormat

/-- Positional from `1e-5` up to `1e16`, with `.0` after integral values. -/
def exchange : FloatFormat :=
  ⟨.toEven, fun p => decide (-5 ≤ p ∧ p < 16), ".0"⟩

/-- Always positional, integral values without a fraction. -/
def plain : FloatFormat :=
  ⟨.up, fun _ => true, ""⟩

/-- Digits without an exponent; `point` is the place of the decimal point, counted
from the first digit. -/
def layPositional (format : FloatFormat) (digits : List Char) (point : Int) : String :=
  let count : Int := digits.length
  if point ≤ 0 then
    "0." ++ String.ofList (List.replicate (-point).toNat '0' ++ digits)
  else if count ≤ point then
    String.ofList (digits ++ List.replicate (point - count).toNat '0') ++ format.integralTail
  else
    String.ofList (digits.take point.toNat) ++ "." ++ String.ofList (digits.drop point.toNat)

/-- One digit, the others after a point, and the power of ten with its sign. -/
def layScientific (digits : List Char) (power : Int) : String :=
  let mantissa := match digits with
    | [] => "0"
    | [d] => String.singleton d
    | d :: rest => String.singleton d ++ "." ++ String.ofList rest
  let sign := if power < 0 then "-" else "+"
  mantissa ++ "e" ++ sign ++ toString power.natAbs

/-- The text of a positive decimal. -/
def writeDecimal (format : FloatFormat) (decimal : Decimal) : String :=
  let all := Nat.toDigits 10 decimal.digits
  let digits := (all.reverse.dropWhile (· = '0')).reverse
  let point : Int := all.length + decimal.exponent
  if format.positional (point - 1) then format.layPositional digits point
  else layScientific digits (point - 1)

/-- The text of the positive float `m · 2 ^ e`. -/
def writeMagnitude (format : FloatFormat) (m : Nat) (e : Int) : String :=
  format.writeDecimal (Decimal.shortest format.tie m e)

end FloatFormat

/-- The sign in front of a written number. -/
def signText : Float.Model.UnpackedFloat.Sign → String
  | .positive => ""
  | .negative => "-"

/-- The integer `m · 2 ^ e`, if it is one. -/
def integralMagnitude? (m : Nat) (e : Int) : Option Nat :=
  if 0 ≤ e then some (m * Nat.pow 2 e.toNat)
  else if m % Nat.pow 2 (-e).toNat = 0 then some (m / Nat.pow 2 (-e).toNat)
  else none

namespace FiniteFloat

/-- The text of a float in JSON. -/
def exchangeText (x : FiniteFloat) : String :=
  match x.value.toModel.unpack with
  | .zero s => signText s ++ "0.0"
  | .finite s m e _ => signText s ++ FloatFormat.exchange.writeMagnitude m e
  | .infinity _ | .notANumber => "null"

/-- The text of a float inside other text. An integral value up to `2 ^ 53` is
written as that integer; beyond it the shortest digits are filled up with zeros.
Zero has no sign. -/
def plainText (x : FiniteFloat) : String :=
  match x.value.toModel.unpack with
  | .zero _ => "0"
  | .finite s m e _ =>
    match integralMagnitude? m e with
    | some n =>
      if n ≤ Nat.pow 2 53 then signText s ++ toString n
      else signText s ++ FloatFormat.plain.writeMagnitude m e
    | none => signText s ++ FloatFormat.plain.writeMagnitude m e
  | .infinity _ | .notANumber => ""

end FiniteFloat

/-- The text of a number in JSON. -/
def Number.exchangeText : Number → String
  | .int n => toString n
  | .float x => x.exchangeText

/-- The text of a number inside other text. -/
def Number.plainText : Number → String
  | .int n => toString n
  | .float x => x.plainText

end FeatureFlags
