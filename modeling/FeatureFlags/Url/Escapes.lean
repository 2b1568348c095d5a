/-
# Percent escapes

A percent sign with two hexadecimal digits stands for a byte; a percent sign
without them stands for itself. In the data of a form a plus sign stands for a
space.

Key definitions:
* `Url.unescape`: the text behind the escapes.
* `Url.formPairs`: the names and values of form data.
-/
import FeatureFlags.Decimal.Numeral
import FeatureFlags.Text.Split
import FeatureFlags.Text.Utf8

namespace FeatureFlags
namespace Url

/-- The bytes behind the escapes. -/
def unescapeBytes : List Nat → List Nat
  | [] => []
  | 0x25 :: high :: low :: rest =>
    match hexDigit? (Char.ofNat high), hexDigit? (Char.ofNat low) with
    | some h, some l => (16 * h + l) :: unescapeBytes rest
    | _, _ => 0x25 :: unescapeBytes (high :: low :: rest)
  | byte :: rest => byte :: unescapeBytes rest

/-- The text behind the escapes. -/
def unescape (text : List Char) : List Char := decodeUtf8 (unescapeBytes (encodeUtf8 text))

/-- A name or a value of form data. -/
def formText (text : List Char) : String :=
  String.ofList (unescape (text.map fun c => if c = '+' then ' ' else c))

/-- A name and a value around the first equals sign; without one the value is
empty. -/
def formPair (text : List Char) : String × String :=
  (formText (text.takeWhile (· ≠ '=')), formText ((text.dropWhile (· ≠ '=')).drop 1))

/-- The names and values of form data. Empty parts between ampersands count for
nothing. -/
def formPairs (data : List Char) : List (String × String) :=
  ((cut (· = '&') data).filter (· ≠ [])).map formPair

end Url
end FeatureFlags
