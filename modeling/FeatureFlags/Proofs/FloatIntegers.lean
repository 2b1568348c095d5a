/-
# Integers as floats

Each integer up to `2 ^ 53` is a float without being rounded (`floatInteger?_nearestFloat`), it is
written as that integer (`FiniteFloat.plainText_of_floatInteger?`), and floats of one integral value
have one rank (`floatRank?_eq_of_floatInteger?`), so no comparison tells them apart.

A float is packed into 64 bits. One with a mantissa of 53 bits and an exponent in range is unpacked
as it was packed (`unpack_pack_of_normal`), and a mantissa of 53 bits is the only one of its value
(`eq_of_integralMagnitude?`).

Key definitions: `floatInteger?`.
Key theorems: `floatInteger?_nearestFloat`, `floatRank?_eq_of_floatInteger?`,
`FiniteFloat.plainText_of_floatInteger?`.
-/
import FeatureFlags.Proofs.FloatOrder
import FeatureFlags.Decimal.Text

namespace FeatureFlags

open Float.Model
open Float.Model.UnpackedFloat (Sign)

/-! ### Powers of two -/

theorem log2_mul_two_pow {m : ℕ} (h : m ≠ 0) (k : ℕ) : (m * 2 ^ k).log2 = m.log2 + k := by
  induction k with
  | zero => simp
  | succ k ih =>
    have hne : m * 2 ^ k ≠ 0 := Nat.mul_ne_zero h (Nat.two_pow_pos k).ne'
    rw [Nat.pow_succ, ← Nat.mul_assoc, Nat.mul_comm, Nat.log2_two_mul hne, ih, Nat.add_assoc]

/-- `m · 2 ^ e` is the integer `k`. -/
theorem integralMagnitude?_eq_some_iff {m k : ℕ} {e : ℤ} :
    integralMagnitude? m e = some k ↔ m * 2 ^ e.toNat = k * 2 ^ (-e).toNat := by
  unfold integralMagnitude?
  by_cases he : 0 ≤ e
  · have hzero : (-e).toNat = 0 := by omega
    rw [if_pos he, hzero, Option.some_inj, Nat.pow_zero, Nat.mul_one]
    rfl
  · have hzero : e.toNat = 0 := by omega
    have hpos : 0 < 2 ^ (-e).toNat := Nat.two_pow_pos _
    rw [if_neg he, hzero, Nat.pow_zero, Nat.mul_one]
    change (if m % 2 ^ (-e).toNat = 0 then some (m / 2 ^ (-e).toNat) else none) = some k ↔ _
    constructor
    · intro h
      split at h
      · next hmod =>
        cases h
        exact (Nat.div_mul_cancel (Nat.dvd_of_mod_eq_zero hmod)).symm
      · cases h
    · rintro rfl
      rw [if_pos (Nat.mul_mod_left _ _), Nat.mul_div_cancel _ hpos]

theorem ne_zero_of_integralMagnitude? {m k : ℕ} {e : ℤ} (hm : m ≠ 0)
    (h : integralMagnitude? m e = some k) : k ≠ 0 := by
  rintro rfl
  rw [integralMagnitude?_eq_some_iff, Nat.zero_mul] at h
  exact Nat.mul_ne_zero hm (Nat.two_pow_pos _).ne' h

theorem log2_of_integralMagnitude? {m k : ℕ} {e : ℤ} (hm : m ≠ 0)
    (h : integralMagnitude? m e = some k) : (k.log2 : ℤ) = m.log2 + e := by
  have hk := ne_zero_of_integralMagnitude? hm h
  have hlog := congrArg Nat.log2 (integralMagnitude?_eq_some_iff.mp h)
  rw [log2_mul_two_pow hm, log2_mul_two_pow hk] at hlog
  omega

/-- **A mantissa of 53 bits is the only one of its value.** -/
theorem eq_of_integralMagnitude? {m m' k : ℕ} {e e' : ℤ} (hm : m.log2 = 52) (hm' : m'.log2 = 52)
    (h : integralMagnitude? m e = some k) (h' : integralMagnitude? m' e' = some k) :
    m = m' ∧ e = e' := by
  have hne : ∀ {m : ℕ}, m.log2 = 52 → m ≠ 0 := by
    rintro _ hlog rfl
    simp at hlog
  have hlog := log2_of_integralMagnitude? (hne hm) h
  have hlog' := log2_of_integralMagnitude? (hne hm') h'
  obtain rfl : e = e' := by omega
  rw [integralMagnitude?_eq_some_iff] at h h'
  exact ⟨Nat.eq_of_mul_eq_mul_right (Nat.two_pow_pos _) (h.trans h'.symm), rfl⟩

/-! ### Packing -/

theorem toNat_append_one {w : ℕ} (v : BitVec w) : (1#1 ++ v).toNat = 2 ^ w + v.toNat := by
  rw [BitVec.toNat_append, ← Nat.shiftLeft_add_eq_or_of_lt v.isLt, Nat.shiftLeft_eq]
  simp

/-- **A float with a mantissa of 53 bits is unpacked as it was packed.** -/
theorem unpack_pack_of_normal {s : Sign} {m : ℕ} {e : ℤ} (hpos : 0 < m) (hm : m.log2 = 52)
    (hlow : -1074 ≤ e) (hhigh : e ≤ 971) :
    (Float.Model.pack (.finite s m e hpos)).unpack = .finite s m e hpos := by
  obtain ⟨hle, hlt⟩ := (Nat.log2_eq_iff (Nat.ne_of_gt hpos)).mp hm
  have hbias : (Format.binary64.exponentBias : ℤ) = 1023 := rfl
  have hbits : (Format.binary64.mantissaBitsWithoutImplicit : ℤ) = 52 := rfl
  have hpack : UnpackedFloat.pack Format.binary64 (.finite s m e hpos) =
      UnpackedFloat.packComponents Format.binary64 s (BitVec.ofNat 11 (e + 1075).toNat)
        (BitVec.ofNat 52 m) := by
    have hbiased : (e + Format.binary64.exponentBias +
        Format.binary64.mantissaBitsWithoutImplicit).toNat = (e + 1075).toNat := by
      rw [hbias, hbits]
      congr 1
      omega
    rw [UnpackedFloat.pack]
    simp only [hbiased]
    rw [if_neg (by omega), if_pos (by rw [hm]; rfl)]
  have hexponent : (BitVec.ofNat 11 (e + 1075).toNat).toNat = (e + 1075).toNat := by
    rw [BitVec.toNat_ofNat, Nat.mod_eq_of_lt (by omega)]
  have hmantissa : (1#1 ++ BitVec.ofNat 52 m).toNat = m := by
    rw [toNat_append_one, BitVec.toNat_ofNat]
    omega
  change UnpackedFloat.unpack Format.binary64
    (UnpackedFloat.pack Format.binary64 (.finite s m e hpos)) = _
  rw [hpack, UnpackedFloat.unpack]
  simp only [UnpackedFloat.unpackMantissa_packComponents,
    UnpackedFloat.unpackExponent_packComponents, unpackSign_packComponents]
  rw [if_neg, if_neg]
  · simp only [hmantissa, hexponent, hbias]
    congr 1
    omega
  · intro h
    have hzero := congrArg BitVec.toNat h
    rw [hexponent] at hzero
    simp at hzero
    omega
  · intro h
    have hones := congrArg BitVec.toNat h
    rw [hexponent] at hones
    simp at hones
    omega

/-- A float that is unpacked has a mantissa of 53 bits, or a smaller one and the least exponent. -/
theorem log2_of_unpack {x : Float} {s : Sign} {m : ℕ} {e : ℤ} {hpos : 0 < m}
    (h : x.toModel.unpack = .finite s m e hpos) : m.log2 = 52 ∨ (m < 2 ^ 52 ∧ e = -1074) := by
  unfold Float.Model.unpack UnpackedFloat.unpack at h
  simp only at h
  split at h
  · split at h <;> cases h
  · split at h
    · next hzero =>
      split at h
      · cases h
      · cases h
        refine .inr ⟨BitVec.isLt _, ?_⟩
        rw [hzero]
        rfl
    · cases h
      have hlt : (@UnpackedFloat.unpackMantissa Format.binary64 x.toModel.toBits.toBitVec).toNat <
          2 ^ 52 := BitVec.isLt _
      rw [toNat_append_one]
      change (2 ^ 52 + _).log2 = 52 ∨ _
      exact .inl ((Nat.log2_eq_iff (by omega)).mpr ⟨Nat.le_add_right _ _, by omega⟩)

/-! ### Integral values -/

/-- The value of a float, if it is an integer. -/
def floatInteger? (x : Float) : Option ℤ :=
  match x.toModel.unpack with
  | .zero _ => some 0
  | .finite .positive m e _ => (integralMagnitude? m e).map fun k : ℕ => (k : ℤ)
  | .finite .negative m e _ => (integralMagnitude? m e).map fun k : ℕ => -(k : ℤ)
  | .infinity _ | .notANumber => none

/-- The sign of an integer. -/
def signOf (n : ℤ) : Sign := if n < 0 then .negative else .positive

/-- A float has the integral value zero if it is a zero, and another one if its sign and its
magnitude are those of the integer. -/
theorem floatInteger?_eq_some_iff {x : Float} {n : ℤ} : floatInteger? x = some n ↔
    (∃ s, x.toModel.unpack = .zero s) ∧ n = 0 ∨
    n ≠ 0 ∧ ∃ m e hpos, x.toModel.unpack = .finite (signOf n) m e hpos ∧
      integralMagnitude? m e = some n.natAbs := by
  unfold floatInteger?
  cases hx : x.toModel.unpack with
  | infinity s | notANumber => simp
  | zero s => simp [eq_comm]
  | finite s m e hpos =>
    cases s with
    | positive =>
      simp only [Option.map_eq_some_iff]
      constructor
      · rintro ⟨k, hk, rfl⟩
        have := ne_zero_of_integralMagnitude? hpos.ne' hk
        exact .inr ⟨by omega, m, e, hpos, by rw [signOf, if_neg (by omega)], hk⟩
      · rintro (⟨⟨s, hs⟩, -⟩ | ⟨hn, m', e', hpos', heq, hk⟩)
        · cases hs
        · obtain ⟨hsign, rfl, rfl⟩ := UnpackedFloat.finite.inj heq
          refine ⟨_, hk, ?_⟩
          unfold signOf at hsign
          split at hsign
          · cases hsign
          · omega
    | negative =>
      simp only [Option.map_eq_some_iff]
      constructor
      · rintro ⟨k, hk, rfl⟩
        have := ne_zero_of_integralMagnitude? hpos.ne' hk
        refine .inr ⟨by omega, m, e, hpos, by rw [signOf, if_pos (by omega)], ?_⟩
        rw [Int.natAbs_neg]
        exact hk
      · rintro (⟨⟨s, hs⟩, -⟩ | ⟨hn, m', e', hpos', heq, hk⟩)
        · cases hs
        · obtain ⟨hsign, rfl, rfl⟩ := UnpackedFloat.finite.inj heq
          refine ⟨_, hk, ?_⟩
          unfold signOf at hsign
          split at hsign
          · omega
          · cases hsign

theorem isFinite_of_floatInteger? {x : Float} {n : ℤ} (h : floatInteger? x = some n) :
    x.isFinite = true := by
  change x.toModel.unpack.isFinite = true
  rcases floatInteger?_eq_some_iff.mp h with ⟨⟨s, hs⟩, -⟩ | ⟨-, m, e, hpos, hunpack, -⟩
  · rw [hs]
    rfl
  · rw [hunpack]
    rfl

/-- An integer is too large for the mantissas of fewer than 53 bits, which go with the least
exponent. -/
theorem log2_of_integral_unpack {x : Float} {s : Sign} {m k : ℕ} {e : ℤ} {hpos : 0 < m}
    (hunpack : x.toModel.unpack = .finite s m e hpos) (hk : integralMagnitude? m e = some k) :
    m.log2 = 52 := by
  rcases log2_of_unpack hunpack with hlog | ⟨hlt, rfl⟩
  · exact hlog
  · have hsmall : m.log2 < 52 := (Nat.log2_lt hpos.ne').mpr hlt
    have hlog := log2_of_integralMagnitude? hpos.ne' hk
    omega

/-- **Floats of one integral value have one rank.** -/
theorem floatRank?_eq_of_floatInteger? {x y : Float} {n : ℤ} (hx : floatInteger? x = some n)
    (hy : floatInteger? y = some n) : floatRank? x = floatRank? y := by
  unfold floatRank?
  rcases floatInteger?_eq_some_iff.mp hx with ⟨⟨s, hs⟩, rfl⟩ | ⟨hn, m, e, hpos, hunpack, hk⟩
  · rcases floatInteger?_eq_some_iff.mp hy with ⟨⟨t, ht⟩, -⟩ | ⟨hn, -⟩
    · rw [hs, ht]
      rfl
    · exact absurd rfl hn
  · rcases floatInteger?_eq_some_iff.mp hy with ⟨-, hzero⟩ | ⟨-, m', e', hpos', hunpack', hk'⟩
    · exact absurd hzero hn
    · have hlog := log2_of_integral_unpack hunpack hk
      have hlog' := log2_of_integral_unpack hunpack' hk'
      obtain ⟨rfl, rfl⟩ := eq_of_integralMagnitude? hlog hlog' hk hk'
      rw [hunpack, hunpack']

/-- A positive integer of at most 53 bits is rounded to itself: the mantissa is filled up with
zeros. -/
theorem round_of_log2_le (s : Sign) {n : ℕ} (hn : 0 < n) (hlog : n.log2 ≤ 52) :
    UnpackedFloat.round Format.binary64 s n 0 =
      .finite s (n * 2 ^ (52 - n.log2)) (n.log2 - 52) (Nat.mul_pos hn (Nat.two_pow_pos _)) := by
  have hfilled : (n * 2 ^ (52 - n.log2)).log2 = 52 := by
    rw [log2_mul_two_pow hn.ne']
    omega
  have htarget : ∀ {m : ℕ} {e : ℤ}, m.log2 + 1 + e = n.log2 + 1 →
      Format.binary64.targetExponent (totalExponent m e) = n.log2 - 52 := by
    intro m e h
    have hbits : (Format.binary64.mantissaBits : ℤ) = 53 := rfl
    have hmin : Format.binary64.minExponent = -1074 := rfl
    rw [Format.targetExponent, totalExponent, h, hbits, hmin]
    omega
  have hdecrease : UnpackedFloat.decreaseExponent n 0 (n.log2 - 52) =
      (n * 2 ^ (52 - n.log2), (n.log2 : ℤ) - 52) := by
    have hshift : (0 - ((n.log2 : ℤ) - 52)).toNat = 52 - n.log2 := by omega
    rw [UnpackedFloat.decreaseExponent, hshift, Nat.shiftLeft_eq]
    congr 1
    omega
  have hshift : UnpackedFloat.shiftToTargetExponent Format.binary64 (n * 2 ^ (52 - n.log2))
      (n.log2 - 52) .exact = (⟨n * 2 ^ (52 - n.log2), false, false⟩, (n.log2 : ℤ) - 52) := by
    rw [UnpackedFloat.shiftToTargetExponent, htarget (by rw [hfilled]; omega),
      UnpackedFloat.shiftToExponent, Int.sub_self]
    simp only [Int.toNat_zero, Nat.cast_zero, add_zero]
    rfl
  rw [UnpackedFloat.round, htarget (by omega), hdecrease]
  simp only [UnpackedFloat.roundWithAccuracy, hshift,
    UnpackedFloat.ExtendedMantissa.roundedMantissa, UnpackedFloat.ExtendedMantissa.accuracy,
    UnpackedFloat.Accuracy.roundToNearestEven]
  rw [dif_neg (Nat.mul_pos hn (Nat.two_pow_pos _)).ne']

theorem exists_unpack_pack_round (s : Sign) {k : ℕ} (hk : 0 < k) (hlog : k.log2 ≤ 52) :
    ∃ m e hpos, (Float.Model.pack (UnpackedFloat.round Format.binary64 s k 0)).unpack =
      .finite s m e hpos ∧ integralMagnitude? m e = some k := by
  have hfilled : (k * 2 ^ (52 - k.log2)).log2 = 52 := by
    rw [log2_mul_two_pow hk.ne']
    omega
  have hzero : ((k.log2 : ℤ) - 52).toNat = 0 := by omega
  have hshift : (-((k.log2 : ℤ) - 52)).toNat = 52 - k.log2 := by omega
  rw [round_of_log2_le s hk hlog, unpack_pack_of_normal _ hfilled (by omega) (by omega)]
  refine ⟨_, _, _, rfl, integralMagnitude?_eq_some_iff.mpr ?_⟩
  rw [hzero, hshift, Nat.pow_zero, Nat.mul_one]

/-- **An integer up to `2 ^ 53` is a float without being rounded.** -/
theorem floatInteger?_nearestFloat {n : ℤ} (h : n.natAbs ≤ 2 ^ 53) :
    floatInteger? (nearestFloat n) = some n := by
  by_cases hn : n = 0
  · subst hn
    decide +kernel
  · by_cases hbound : n.natAbs = 2 ^ 53
    · -- one more than 53 bits can hold
      rcases Int.natAbs_eq n with hpos | hneg
      · rw [hpos, hbound]
        decide +kernel
      · rw [hneg, hbound]
        decide +kernel
    · have hk : 0 < n.natAbs := Int.natAbs_pos.mpr hn
      have hlog : n.natAbs.log2 ≤ 52 := Nat.lt_succ_iff.mp ((Nat.log2_lt hk.ne').mpr (by omega))
      obtain ⟨m, e, hpos, hunpack, hinteger⟩ := exists_unpack_pack_round (signOf n) hk hlog
      refine floatInteger?_eq_some_iff.mpr (.inr ⟨hn, m, e, hpos, ?_, hinteger⟩)
      rw [← hunpack]
      change (Float.Model.pack (UnpackedFloat.normalize Format.binary64 n 0 .positive)).unpack = _
      congr 2
      unfold UnpackedFloat.normalize signOf
      rcases lt_trichotomy n 0 with hlt | hzero | hgt
      · have hmagnitude : (-n).toNat = n.natAbs := by omega
        rw [compare_lt_iff_lt.mpr hlt, if_pos hlt, hmagnitude]
      · exact absurd hzero hn
      · have hmagnitude : n.toNat = n.natAbs := by omega
        rw [compare_gt_iff_gt.mpr hgt, if_neg (not_lt.mpr hgt.le), hmagnitude]

/-- **A float with an integral value up to `2 ^ 53` is written as that integer.** -/
theorem FiniteFloat.plainText_of_floatInteger? {x : FiniteFloat} {n : ℤ}
    (h : floatInteger? x.value = some n) (hn : n.natAbs ≤ 2 ^ 53) : x.plainText = toString n := by
  unfold FiniteFloat.plainText
  rcases floatInteger?_eq_some_iff.mp h with ⟨⟨s, hs⟩, rfl⟩ | ⟨hne, m, e, hpos, hunpack, hk⟩
  · rw [hs]
    rfl
  · rw [hunpack]
    simp only [hk]
    rw [if_pos (show n.natAbs ≤ Nat.pow 2 53 from hn)]
    unfold signOf
    split
    · next hneg =>
      obtain ⟨k, rfl⟩ : ∃ k : ℕ, n = Int.negSucc k := Int.eq_negSucc_of_lt_zero hneg
      rfl
    · next hnonneg =>
      obtain ⟨k, rfl⟩ := Int.eq_ofNat_of_zero_le (Int.not_lt.mp hnonneg)
      rw [signText, String.empty_append]
      rfl

end FeatureFlags
