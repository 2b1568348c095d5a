/-
# Reading UTF-8

Bytes that are not UTF-8 are replaced, not refused: each longest beginning of a
character that does not go on becomes one replacement character, and so does every
byte that begins none.

Key definitions:
* `decodeUtf8`: the characters of a row of bytes.
-/
namespace FeatureFlags

/-- A character of which some bytes have been read: its bits so far, how many bytes
are missing, and the bounds of the next one. -/
structure PartialChar where
  bits : Nat
  missing : Nat
  least : Nat
  greatest : Nat

/-- The character that stands for bytes that are none. -/
def replacement : Char := '\ufffd'

/-- The character that begins with a byte: finished, begun, or none. -/
def beginChar (byte : Nat) : Char ⊕ Option PartialChar :=
  if byte < 0x80 then .inl (Char.ofNat byte)
  else if 0xC2 ≤ byte ∧ byte ≤ 0xDF then .inr (some ⟨byte - 0xC0, 1, 0x80, 0xBF⟩)
  else if byte = 0xE0 then .inr (some ⟨0, 2, 0xA0, 0xBF⟩)
  else if byte = 0xED then .inr (some ⟨0xD, 2, 0x80, 0x9F⟩)
  else if 0xE1 ≤ byte ∧ byte ≤ 0xEF then .inr (some ⟨byte - 0xE0, 2, 0x80, 0xBF⟩)
  else if byte = 0xF0 then .inr (some ⟨0, 3, 0x90, 0xBF⟩)
  else if 0xF1 ≤ byte ∧ byte ≤ 0xF3 then .inr (some ⟨byte - 0xF0, 3, 0x80, 0xBF⟩)
  else if byte = 0xF4 then .inr (some ⟨4, 3, 0x80, 0x8F⟩)
  else .inr none

/-- The characters of the bytes after a character that is begun, if one is. -/
def decodeFrom (begun : Option PartialChar) : List Nat → List Char
  | [] => if begun.isSome then [replacement] else []
  | byte :: rest =>
    let fresh : List Char :=
      match beginChar byte with
      | .inl c => c :: decodeFrom none rest
      | .inr (some p) => decodeFrom (some p) rest
      | .inr none => replacement :: decodeFrom none rest
    match begun with
    | none => fresh
    | some p =>
      if p.least ≤ byte ∧ byte ≤ p.greatest then
        let bits := 64 * p.bits + (byte - 0x80)
        if p.missing = 1 then Char.ofNat bits :: decodeFrom none rest
        else decodeFrom (some ⟨bits, p.missing - 1, 0x80, 0xBF⟩) rest
      else replacement :: fresh

/-- The characters of a row of bytes. -/
def decodeUtf8 (bytes : List Nat) : List Char := decodeFrom none bytes

/-- The bytes of a text. -/
def encodeUtf8 (text : List Char) : List Nat :=
  (String.ofList text).toUTF8.toList.map UInt8.toNat

end FeatureFlags
