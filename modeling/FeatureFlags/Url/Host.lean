/-
# Hosts

The host of an address is a name, four decimal numbers or eight hexadecimal ones in
brackets. Names may hold any letters; they are brought to lower case, and what is
not allowed in a name makes the address invalid. A name whose last part is a number
must be four numbers.

Addresses of schemes without fixed rules have opaque hosts, in which only
delimiters are refused.

Key definitions:
* `Url.isHost`, `Url.isOpaqueHost`: whether a text is a host.
-/
import FeatureFlags.Pattern.CharSet
import FeatureFlags.Url.Escapes
import FeatureFlags.Url.Punycode

namespace FeatureFlags
namespace Url

/-! ### Four numbers -/

/-- The value of a part of a numeric host: decimal, octal after `0`, hexadecimal
after `0x`. -/
def hostNumber? (part : List Char) : Option Nat :=
  let inBase (base : Nat) (digits : List Char) : Option Nat := do
    let values ← digits.mapM hexDigit?
    if values.all (· < base) then some (values.foldl (fun n d => base * n + d) 0) else none
  match part with
  | [] => none
  | '0' :: 'x' :: digits | '0' :: 'X' :: digits => inBase 16 digits
  | '0' :: d :: digits => inBase 8 (d :: digits)
  | digits => inBase 10 digits

/-- The parts of a name without an empty part at the end. -/
def hostParts (host : List Char) : List (List Char) :=
  let parts := cut (· = '.') host
  if parts.getLast? = some [] then parts.dropLast else parts

/-- Whether the last part of a name is a number. -/
def endsInNumber (host : List Char) : Bool :=
  match (hostParts host).getLast? with
  | some last => (last ≠ [] ∧ last.all isDigit) || (hostNumber? last).isSome
  | none => false

/-- Whether a host is a row of at most four numbers, all but the last below 256, and
the last within the room that is left. -/
def isIpv4 (host : List Char) : Bool :=
  match ((hostParts host).mapM hostNumber?).map List.reverse with
  | some (last :: others) =>
    others.length < 4 && last < Nat.pow 256 (4 - others.length) && others.all (· < 256)
  | _ => false

/-! ### Eight numbers -/

/-- Whether a part is a number below 256 in decimal without leading zeros. -/
def isOctet (part : List Char) : Bool :=
  match digits? part with
  | some n => n < 256 && (part.length = 1 || part.head? ≠ some '0')
  | none => false

/-- How many of the eight numbers a row of parts stands for; the last part may be
four decimal numbers, which stand for two. -/
def pieceCount? : List (List Char) → Option Nat
  | [] => some 0
  | [last] =>
    let octets := cut (· = '.') last
    if octets.length = 4 ∧ octets.all isOctet then some 2 else hexPiece last
  | part :: rest => do return (← hexPiece part) + (← pieceCount? rest)
where
  /-- A part of one to four hexadecimal digits. -/
  hexPiece (part : List Char) : Option Nat :=
    if part ≠ [] ∧ part.length ≤ 4 ∧ part.all (fun c => (hexDigit? c).isSome) then some 1
    else none

/-- The texts before and after the first two colons in a row. -/
def cutAtGap : List Char → Option (List Char × List Char)
  | ':' :: ':' :: rest => some ([], rest)
  | c :: rest => (cutAtGap rest).map fun (before, after) => (c :: before, after)
  | [] => none

/-- The parts of a row of numbers between colons, none if there is no text. -/
def colonParts (text : List Char) : List (List Char) :=
  if text = [] then [] else cut (· = ':') text

/-- Whether the text in brackets is a row of eight numbers. Two colons in a row
stand for one or more zeros, once. -/
def isIpv6 (text : List Char) : Bool :=
  match cutAtGap text with
  | none => pieceCount? (colonParts text) = some 8
  | some (before, after) =>
    if before.contains '.' then false
    else match pieceCount? (colonParts before), pieceCount? (colonParts after) with
      | some a, some b => a + b ≤ 7
      | _, _ => false

/-! ### Names -/

/-- Characters that mean nothing in a name. -/
def isIgnorable (c : Char) : Bool :=
  c = '\u00ad' || c = '\u200b' || c = '\u2060' || c = '\ufeff' || c = '\u034f' ||
    decide ('\u180b' ≤ c ∧ c ≤ '\u180d') || decide ('\ufe00' ≤ c ∧ c ≤ '\ufe0f')

/-- The plain form of a character of a name: dots of other scripts, wide forms of
ASCII and wide spaces. -/
def plainForm (c : Char) : Char :=
  if c = '\u3002' ∨ c = '\uff0e' ∨ c = '\uff61' then '.'
  else if '\uff01' ≤ c ∧ c ≤ '\uff5e' then Char.ofNat (c.toNat - 0xfee0)
  else if c = '\u00a0' ∨ c = '\u3000' then ' '
  else c

/-- A name as it is compared: in plain forms and lower case. -/
def plainName (name : List Char) : List Char :=
  (name.filter fun c => !isIgnorable c).map fun c => (plainForm c).toLower

/-- Characters that an ASCII name cannot hold. -/
def isForbidden (c : Char) : Bool :=
  decide (c ≤ ' ') || c = '\x7f' || "%#/:<>?@[\\]^|".toList.contains c

/-- Characters beyond ASCII that no name can hold. -/
def refused : CharSet :=
  .unions [.categories ["cc", "cf", "co", "zs", "zl", "zp"], CharSet.assigned.compl,
    .single '\ufffd']

/-- Marks, with which no label begins. -/
def marks : CharSet := .categories ["mn", "mc", "me"]

/-- Whether the code points of a label are allowed beyond ASCII. -/
def isWideLabel (codes : List Nat) : Bool :=
  codes.all (fun code => code < 128 || !refused.containsCode code) &&
    codes.head?.all fun code => !marks.containsCode code

/-- Whether a label of a name is allowed. A label after `xn--` must stand for one
that needs it. -/
def isLabel (label : List Char) : Bool :=
  match label with
  | 'x' :: 'n' :: '-' :: '-' :: coded =>
    if coded.all (fun c => c.toNat < 128) then
      match Punycode.decode? coded with
      | some codes => codes.any (128 ≤ ·) && isWideLabel codes
      | none => false
    else false
  | _ =>
    label.all (fun c => !isForbidden c) &&
      (label.all (fun c => c.toNat < 128) || isWideLabel (label.map Char.toNat))

/-- Whether a text is the host of an address with fixed rules. -/
def isHost (text : List Char) : Bool :=
  match text with
  | '[' :: rest => rest.getLast? = some ']' && isIpv6 rest.dropLast
  | _ =>
    let name := plainName (unescape text)
    name ≠ [] && (cut (· = '.') name).all isLabel && (!endsInNumber name || isIpv4 name)

/-- Whether a text is a host of an address without fixed rules. -/
def isOpaqueHost (text : List Char) : Bool :=
  match text with
  | '[' :: rest => rest.getLast? = some ']' && isIpv6 rest.dropLast
  | _ => text.all fun c => !"\x00 #/:<>?@[\\]^|".toList.contains c

end Url
end FeatureFlags
