/-
# Hashing users into the unit interval

A user is placed at a fraction in `[0, 1)` that depends only on a seed and on the
user's hash value. Version 1 keeps three decimal places of one hash; version 2
hashes twice and keeps four, which spreads similar seeds better. Other versions
place nobody.

The fraction is computed in any scalar type with natural numbers and division:
binary floats when flags are served, exact rationals in proofs about ranges.

Key definitions:
* `fnv1a`: the 32-bit FNV-1a hash of a text.
* `hashUnit`: the place of a user.
-/
namespace FeatureFlags

/-- The 32-bit FNV-1a hash of the UTF-8 bytes of a text. -/
def fnv1a (text : String) : UInt32 :=
  text.toUTF8.toList.foldl (fun hash byte => (hash ^^^ byte.toUInt32) * 0x01000193) 0x811c9dc5

/-- The place of a user, by its parts: `k` of `scale` equal steps. -/
def hashSteps (seed value : String) (version : Int) : Option (Nat × Nat) :=
  if version = 1 then some ((fnv1a (value ++ seed)).toNat % 1000, 1000)
  else if version = 2 then
    some ((fnv1a (toString (fnv1a (seed ++ value)).toNat)).toNat % 10000, 10000)
  else none

/-- The place of a user in `[0, 1)`, if the hash version is known. -/
def hashUnit (α : Type) [NatCast α] [Div α] (seed value : String) (version : Int) : Option α :=
  (hashSteps seed value version).map fun (k, scale) => (k : α) / (scale : α)

/-- A place is a proper fraction. -/
theorem hashSteps_lt {seed value : String} {version : Int} {k scale : Nat}
    (h : hashSteps seed value version = some (k, scale)) : k < scale := by
  unfold hashSteps at h
  split at h
  · simp only [Option.some.injEq, Prod.mk.injEq] at h
    omega
  · split at h
    · simp only [Option.some.injEq, Prod.mk.injEq] at h
      omega
    · simp at h

end FeatureFlags
