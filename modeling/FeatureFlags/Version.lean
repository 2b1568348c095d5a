/-
# Version text

Versions are compared as plain text after padding: a leading `v` and everything
from the first `+` on are dropped, the rest is cut at dots and dashes, and parts
of digits are filled up with zeros to five places. A version of exactly three
parts is taken for a release: it gets a last part `~`, which is larger than any
tag, so that a release of three numerals sorts after its pre-releases.

Key definitions:
* `paddedVersion`.
-/
import FeatureFlags.Decimal.Numeral
import FeatureFlags.Text.Split

namespace FeatureFlags
namespace Version

/-- The parts of a text between dots and dashes. -/
def parts (text : List Char) : List (List Char) := cut (fun c => c = '.' || c = '-') text

/-- Fills a part of digits up to five places. -/
def pad (part : List Char) : List Char :=
  if part.all isDigit then List.replicate (5 - part.length) '0' ++ part else part

/-- The text of a version without its leading `v` and its build suffix. -/
def core (version : List Char) : List Char :=
  let unmarked := match version with
    | 'v' :: rest => rest
    | _ => version
  unmarked.takeWhile (· ≠ '+')

/-- The padded parts of a version; empty parts are left out. -/
def paddedParts (version : List Char) : List (List Char) :=
  let all := parts (core version)
  let tagged := if all.length = 3 then all ++ [['~']] else all
  (tagged.filter (· ≠ [])).map pad

end Version

/-- A text that orders like the version it is made from. -/
def paddedVersion (version : String) : String :=
  String.ofList (['-'].intercalate (Version.paddedParts version.toList))

end FeatureFlags
