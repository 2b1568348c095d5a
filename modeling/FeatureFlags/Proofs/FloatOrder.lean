/-
# The order of floats

Floats are compared by sign, then by exponent, then by mantissa; zeros are equal whatever their
sign, and NaN is comparable with nothing. So each float but NaN has a rank in a linear order, and
to compare floats is to compare their ranks (`compare_eq_rank`). What holds of a linear order
then holds of floats, as long as no NaN is involved.

A sum, a quotient, any result that is stored is packed into 64 bits and unpacked again. That does
not change its sign (`Unsigned.unpack_pack`), so a quotient of numbers that are not negative is
not below zero. This is the case for the places of users (`hashUnit_unsigned`).

Key definitions: `floatRank?`, `Unsigned`.
Key theorems: `float_le_iff`, `float_lt_iff`, `float_beq_iff`, `hashUnit_unsigned`.
-/
import FeatureFlags.Hashing
import FeatureFlags.Decimal.Finite
import Mathlib

namespace FeatureFlags

open Float.Model
open Float.Model.UnpackedFloat (Sign)

/-! ### Ranks -/

/-- A sign, an exponent and a mantissa, compared in this order. -/
abbrev FloatRank := ℤ ×ₗ ℤ ×ₗ ℤ

/-- The rank with the given parts. -/
def FloatRank.of (sign exponent mantissa : ℤ) : FloatRank :=
  toLex (sign, toLex (exponent, mantissa))

theorem FloatRank.compare_of (a b c a' b' c' : ℤ) : compare (of a b c) (of a' b' c') =
    (compare a a').then ((compare b b').then (compare c c')) := by
  simp only [of, Prod.Lex.compare_def, compareLex, compareOn]
  rfl

/-- The rank of a float in its parts. NaN has none. -/
def rank? : UnpackedFloat → Option FloatRank
  | .notANumber => none
  | .infinity .negative => some (.of (-2) 0 0)
  | .finite .negative mantissa exponent _ => some (.of (-1) (-exponent) (-mantissa))
  | .zero _ => some (.of 0 0 0)
  | .finite .positive mantissa exponent _ => some (.of 1 exponent mantissa)
  | .infinity .positive => some (.of 2 0 0)

theorem compare_int_neg (a b : ℤ) : compare (-a) (-b) = (compare a b).swap := by
  have hanti : StrictAnti fun n : ℤ => -n := fun _ _ => neg_lt_neg
  rw [← Std.OrientedCmp.eq_swap, ← cmp_eq_compare, ← cmp_eq_compare, hanti.cmp_map_eq]

theorem compare_int_cast (m n : ℕ) : compare (m : ℤ) (n : ℤ) = compare m n := by
  rw [← cmp_eq_compare, ← cmp_eq_compare, Nat.strictMono_cast.cmp_map_eq]

/-- **Floats are compared by their ranks.** -/
theorem compare_eq_rank (x y : UnpackedFloat) :
    x.compare y = (rank? x).bind fun a => (rank? y).map (compare a) := by
  cases x with
  | notANumber => rfl
  | infinity s =>
    cases s <;> rcases y with (_ | _) | _ | _ | ⟨(_ | _), _, _, _⟩ <;> rfl
  | zero s => rcases y with (_ | _) | _ | _ | ⟨(_ | _), _, _, _⟩ <;> rfl
  | finite s m e hm =>
    cases s with
    | negative =>
      rcases y with (_ | _) | _ | _ | ⟨(_ | _), m', e', _⟩
      case finite.negative =>
        simp only [rank?, Option.bind_some, Option.map_some, FloatRank.compare_of, compare_int_neg,
          compare_int_cast, ← Ordering.swap_then]
        rfl
      all_goals rfl
    | positive =>
      rcases y with (_ | _) | _ | _ | ⟨(_ | _), m', e', _⟩
      case finite.positive =>
        simp only [rank?, Option.bind_some, Option.map_some, FloatRank.compare_of, compare_int_cast]
        rfl
      all_goals rfl

/-- The rank of a float. NaN has none. -/
def floatRank? (x : Float) : Option FloatRank := rank? x.toModel.unpack

variable {x y z : Float}

theorem floatRank?_zero : floatRank? 0 = some (.of 0 0 0) := by decide +kernel

theorem compare_unpack_eq_some_iff {order : Ordering} :
    x.toModel.unpack.compare y.toModel.unpack = some order ↔
      ∃ a b, floatRank? x = some a ∧ floatRank? y = some b ∧ compare a b = order := by
  rw [compare_eq_rank, Option.bind_eq_some_iff]
  simp only [Option.map_eq_some_iff, floatRank?]
  constructor
  · rintro ⟨a, ha, b, hb, horder⟩
    exact ⟨a, b, ha, hb, horder⟩
  · rintro ⟨a, b, ha, hb, horder⟩
    exact ⟨a, ha, b, hb, horder⟩

theorem float_lt_iff : x < y ↔ ∃ a b, floatRank? x = some a ∧ floatRank? y = some b ∧ a < b := by
  have hcompare : x < y ↔ x.toModel.unpack.compare y.toModel.unpack = some .lt :=
    ⟨fun h => eq_of_beq (of_decide_eq_true h), fun h => decide_eq_true (beq_of_eq h)⟩
  rw [hcompare, compare_unpack_eq_some_iff]
  simp only [compare_lt_iff_lt]

theorem float_beq_iff : (x == y) = true ↔ ∃ a, floatRank? x = some a ∧ floatRank? y = some a := by
  have hcompare : (x == y) = (x.toModel.unpack.compare y.toModel.unpack == some .eq) := rfl
  rw [hcompare, beq_iff_eq, compare_unpack_eq_some_iff]
  simp only [compare_eq_iff_eq]
  constructor
  · rintro ⟨a, b, ha, hb, rfl⟩
    exact ⟨a, ha, hb⟩
  · rintro ⟨a, ha, hb⟩
    exact ⟨a, a, ha, hb, rfl⟩

theorem float_le_iff : x ≤ y ↔ ∃ a b, floatRank? x = some a ∧ floatRank? y = some b ∧ a ≤ b := by
  have hcompare : x ≤ y ↔
      ((x.toModel.unpack.compare y.toModel.unpack).any fun order => order.isLE) = true :=
    ⟨fun h => of_decide_eq_true h, fun h => decide_eq_true h⟩
  rw [hcompare, Option.any_eq_true]
  simp only [compare_unpack_eq_some_iff]
  constructor
  · rintro ⟨order, ⟨a, b, ha, hb, rfl⟩, hle⟩
    exact ⟨a, b, ha, hb, compare_le_iff_le.mp (Ordering.isLE_iff_ne_gt.mp hle)⟩
  · rintro ⟨a, b, ha, hb, hle⟩
    exact ⟨_, ⟨a, b, ha, hb, rfl⟩,
      Ordering.isLE_iff_ne_gt.mpr (compare_le_iff_le.mpr hle)⟩

theorem float_le_trans (h : x ≤ y) (h' : y ≤ z) : x ≤ z := by
  obtain ⟨a, b, ha, hb, hab⟩ := float_le_iff.mp h
  obtain ⟨b', c, hb', hc, hbc⟩ := float_le_iff.mp h'
  obtain rfl : b = b' := Option.some.inj (hb.symm.trans hb')
  exact float_le_iff.mpr ⟨a, c, ha, hc, hab.trans hbc⟩

theorem float_not_le_of_lt (h : x < y) : ¬ y ≤ x := by
  intro hle
  obtain ⟨a, b, ha, hb, hab⟩ := float_lt_iff.mp h
  obtain ⟨b', a', hb', ha', hba⟩ := float_le_iff.mp hle
  obtain rfl : a = a' := Option.some.inj (ha.symm.trans ha')
  obtain rfl : b = b' := Option.some.inj (hb.symm.trans hb')
  exact hab.not_ge hba

/-! ### Signs -/

/-- The sign of a float. NaN has none. -/
def sign? : UnpackedFloat → Option Sign
  | .notANumber => none
  | .infinity s | .zero s | .finite s _ _ _ => some s

/-- There is no minus sign. -/
def Unsigned (u : UnpackedFloat) : Prop := sign? u ≠ some .negative

theorem Unsigned.rank_nonneg {u : UnpackedFloat} (h : Unsigned u) {a : FloatRank}
    (ha : rank? u = some a) : FloatRank.of 0 0 0 ≤ a := by
  rcases u with (_ | _) | _ | _ | ⟨(_ | _), m, e, hm⟩
  case infinity.negative | finite.negative => exact absurd rfl h
  case notANumber => cases ha
  all_goals
    cases ha
    simp [FloatRank.of, Prod.Lex.toLex_le_toLex]

/-- Between a float without minus sign and zero there is only zero. -/
theorem beq_zero_of_le (hx : Unsigned x.toModel.unpack) (hxy : x ≤ y) (hyz : y ≤ z)
    (hz : (z == 0) = true) : (y == 0) = true := by
  obtain ⟨a, b, ha, hb, hab⟩ := float_le_iff.mp hxy
  obtain ⟨b', c, hb', hc, hbc⟩ := float_le_iff.mp hyz
  obtain ⟨c', hc', hzero⟩ := float_beq_iff.mp hz
  obtain rfl : b = b' := Option.some.inj (hb.symm.trans hb')
  obtain rfl : c = c' := Option.some.inj (hc.symm.trans hc')
  obtain rfl : FloatRank.of 0 0 0 = c := Option.some.inj (floatRank?_zero.symm.trans hzero)
  have hrank : b = .of 0 0 0 := le_antisymm hbc ((hx.rank_nonneg ha).trans hab)
  exact float_beq_iff.mpr ⟨_, hrank ▸ hb, floatRank?_zero⟩

theorem sign_roundWithAccuracy (spec : Format) (s : Sign) (m : ℕ) (e : ℤ)
    (accuracy : UnpackedFloat.Accuracy) :
    sign? (UnpackedFloat.roundWithAccuracy spec s m e accuracy) = some s := by
  unfold UnpackedFloat.roundWithAccuracy
  simp only
  split <;> rfl

theorem unsigned_ofInt (spec : Format) (n : ℕ) : Unsigned (UnpackedFloat.ofInt spec n) := by
  have hsign : sign? (UnpackedFloat.ofInt spec n) = some .positive := by
    unfold UnpackedFloat.ofInt UnpackedFloat.normalize
    split
    · rename_i h
      have hneg := compare_lt_iff_lt.mp h
      omega
    · rfl
    · exact sign_roundWithAccuracy ..
  rw [Unsigned, hsign]
  nofun

/-- The sign of a quotient is the quotient of the signs. -/
theorem sign_div (spec : Format) (u v : UnpackedFloat) : sign? (u.div spec v) = none ∨
    ∃ s t, sign? u = some s ∧ sign? v = some t ∧ sign? (u.div spec v) = some (s / t) := by
  cases u with
  | notANumber => exact Or.inl rfl
  | infinity s =>
    cases v with
    | notANumber | infinity t => exact Or.inl rfl
    | zero t | finite t => exact Or.inr ⟨s, t, rfl, rfl, rfl⟩
  | zero s =>
    cases v with
    | notANumber | zero t => exact Or.inl rfl
    | infinity t | finite t => exact Or.inr ⟨s, t, rfl, rfl, rfl⟩
  | finite s =>
    cases v with
    | notANumber => exact Or.inl rfl
    | infinity t | zero t => exact Or.inr ⟨s, t, rfl, rfl, rfl⟩
    | finite t => exact Or.inr ⟨s, t, rfl, rfl, sign_roundWithAccuracy ..⟩

theorem Unsigned.div {spec : Format} {u v : UnpackedFloat} (hu : Unsigned u) (hv : Unsigned v) :
    Unsigned (u.div spec v) := by
  rcases sign_div spec u v with hnone | ⟨s, t, hs, ht, hquotient⟩
  · rw [Unsigned, hnone]
    nofun
  · have hpositive : ∀ r, some r ≠ some Sign.negative → r = .positive := by
      rintro (_ | _) hr
      · exact absurd rfl hr
      · rfl
    rw [Unsigned, hquotient, hpositive s (hs ▸ hu), hpositive t (ht ▸ hv)]
    nofun

/-- Packing keeps the sign. -/
theorem exists_pack_eq (spec : Format) (u : UnpackedFloat) : ∃ exponent mantissa, u.pack spec =
    UnpackedFloat.packComponents spec ((sign? u).getD .positive) exponent mantissa := by
  cases u with
  | notANumber => exact ⟨_, _, rfl⟩
  | infinity s => exact ⟨_, _, rfl⟩
  | zero s => exact ⟨_, _, rfl⟩
  | finite s m e hm =>
    unfold UnpackedFloat.pack
    simp only
    split
    · exact ⟨_, _, rfl⟩
    · split
      · exact ⟨_, _, rfl⟩
      · exact ⟨_, _, rfl⟩

theorem unpackSign_packComponents (s : Sign) (exponent : BitVec 11) (mantissa : BitVec 52) :
    Sign.ofBitVec (UnpackedFloat.unpackSign
      (UnpackedFloat.packComponents Format.binary64 s exponent mantissa)) = s := by
  have hsign : UnpackedFloat.unpackSign
      (UnpackedFloat.packComponents Format.binary64 s exponent mantissa) = s.toBitVec := by
    ext i hi
    obtain rfl : i = 0 := by omega
    have hbit : (s.toBitVec ++ exponent ++ mantissa).getLsbD 63 = s.toBitVec.getLsbD 0 := by
      rw [BitVec.getLsbD_append, if_neg (by decide), BitVec.getLsbD_append, if_neg (by decide)]
    rw [UnpackedFloat.unpackSign, BitVec.getElem_cast, BitVec.extractLsb,
      BitVec.getElem_extractLsb']
    exact hbit
  rw [hsign]
  cases s <;> rfl

/-- The sign that is unpacked is the sign bit. -/
theorem sign_unpack (b : BitVec Format.binary64.numBits) :
    sign? (UnpackedFloat.unpack Format.binary64 b) = none ∨
      sign? (UnpackedFloat.unpack Format.binary64 b) =
        some (Sign.ofBitVec (UnpackedFloat.unpackSign b)) := by
  unfold UnpackedFloat.unpack
  simp only
  split
  · split
    · exact Or.inr rfl
    · exact Or.inl rfl
  · split
    · split
      · exact Or.inr rfl
      · exact Or.inr rfl
    · exact Or.inr rfl

/-- Packing adds no minus sign. -/
theorem Unsigned.unpack_pack {u : UnpackedFloat} (h : Unsigned u) :
    Unsigned (Float.Model.pack u).unpack := by
  obtain ⟨exponent, mantissa, hpack⟩ := exists_pack_eq Format.binary64 u
  have hpositive : (sign? u).getD .positive = .positive := by
    rcases hu : sign? u with _ | (_ | _)
    · rfl
    · exact absurd hu h
    · rfl
  rw [hpositive] at hpack
  have hunpack : (Float.Model.pack u).unpack = UnpackedFloat.unpack Format.binary64
      (UnpackedFloat.packComponents Format.binary64 .positive exponent mantissa) :=
    congrArg (UnpackedFloat.unpack Format.binary64) hpack
  rw [Unsigned, hunpack]
  rcases sign_unpack (UnpackedFloat.packComponents Format.binary64 .positive exponent mantissa)
    with hnone | hsome
  · rw [hnone]
    nofun
  · rw [hsome, unpackSign_packComponents]
    nofun

/-- The place of a user has no minus sign. -/
theorem hashUnit_unsigned {seed value : String} {version : Int} {x : Float}
    (h : hashUnit Float seed value version = some x) : Unsigned x.toModel.unpack := by
  obtain ⟨⟨k, scale⟩, -, rfl⟩ := Option.map_eq_some_iff.mp h
  have hcast : ∀ n : ℕ, Unsigned (Float.Model.ofInt n).unpack := fun n =>
    (unsigned_ofInt Format.binary64 n).unpack_pack
  exact ((hcast k).div (hcast scale)).unpack_pack

end FeatureFlags
