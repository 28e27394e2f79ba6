import JsonExpr.Json.Number
import Mathlib

/-!
# Small integers are exact as doubles

An integer of at most 53 bits is a double without being rounded: its bits are moved to the left
until the mantissa is full, and the exponent goes down by as much.  So its whole part can be read
off again.

Main definitions:

* `JsonExpr.Decimal.Normal` — a full mantissa and an exponent in range.

Main results:

* `JsonExpr.Decimal.Normal.ofFloat_pack` — a double that is packed from such a pair is that pair;
* `JsonExpr.Decimal.ofFloat_ofInt` — **a small integer is exact as a double**;
* `JsonExpr.Decimal.wholePart_ofInt` — its whole part is the integer.
-/

set_option autoImplicit false

namespace JsonExpr.Decimal

open Float.Model (Format UnpackedFloat totalExponent)
open Float.Model.UnpackedFloat

/-! ### Full mantissas -/

/-- A mantissa of just 53 bits and an exponent of a double that is not subnormal. -/
structure Normal (m : Nat) (e : Int) : Prop where
  full : 2 ^ 52 ≤ m
  fits : m < 2 ^ 53
  least : -1074 ≤ e
  greatest : e ≤ 971

namespace Normal

variable {m : Nat} {e : Int}

theorem pos (h : Normal m e) : 0 < m := Nat.lt_of_lt_of_le (Nat.two_pow_pos 52) h.full

theorem log2_scaled (h : Normal m e) (k : Nat) : (m * 2 ^ k).log2 = 52 + k := by
  have hpos : m * 2 ^ k ≠ 0 := Nat.ne_of_gt (Nat.mul_pos h.pos (Nat.two_pow_pos k))
  refine (Nat.log2_eq_iff hpos).mpr ⟨?_, ?_⟩
  · rw [Nat.pow_add]
    exact Nat.mul_le_mul_right _ h.full
  · rw [show 52 + k + 1 = 53 + k by omega, Nat.pow_add]
    exact Nat.mul_lt_mul_of_pos_right h.fits (Nat.two_pow_pos k)

theorem log2_eq (h : Normal m e) : m.log2 = 52 := by
  have hscaled := h.log2_scaled 0
  rwa [Nat.pow_zero, Nat.mul_one] at hscaled

theorem targetExponent_scaled (h : Normal m e) (k : Nat) :
    Format.binary64.targetExponent (totalExponent (m * 2 ^ k) (e - k)) = e := by
  have hleast := h.least
  simp only [Format.targetExponent, totalExponent, h.log2_scaled k, Format.mantissaBits,
    Format.minExponent]
  omega

/-- Zeros that are shifted out leave nothing behind. -/
theorem shift_scaled (m k : Nat) :
    ExtendedMantissa.ofMantissaAndAccuracy (m * 2 ^ k) .exact >>> k =
      ExtendedMantissa.ofMantissaAndAccuracy m .exact := by
  induction k generalizing m with
  | zero =>
      rw [Nat.pow_zero, Nat.mul_one]
      rfl
  | succ k ih =>
      have hlast : ExtendedMantissa.ofMantissaAndAccuracy (m * 2 ^ (k + 1)) .exact >>> (k + 1) =
          ExtendedMantissa.shiftRightOne
            (ExtendedMantissa.ofMantissaAndAccuracy (m * 2 ^ (k + 1)) .exact >>> k) := rfl
      rw [hlast, Nat.pow_succ', ← Nat.mul_assoc, ih]
      simp [ExtendedMantissa.shiftRightOne, ExtendedMantissa.ofMantissaAndAccuracy]

theorem shiftToTarget_scaled (h : Normal m e) (k : Nat) :
    shiftToTargetExponent Format.binary64 (m * 2 ^ k) (e - k) .exact =
      (ExtendedMantissa.ofMantissaAndAccuracy m .exact, e) := by
  have hamount : (e - (e - (k : Int))).toNat = k := by omega
  rw [shiftToTargetExponent, h.targetExponent_scaled k]
  simp only [shiftToExponent, hamount, shift_scaled]
  congr 1
  omega

/-- A full mantissa with zeros behind it is rounded to itself. -/
theorem round_scaled (h : Normal m e) (s : Sign) (k : Nat) :
    roundWithAccuracy Format.binary64 s (m * 2 ^ k) (e - k) .exact = .finite s m e h.pos := by
  have hagain : shiftToTargetExponent Format.binary64 m e .exact =
      (ExtendedMantissa.ofMantissaAndAccuracy m .exact, e) := by
    simpa using h.shiftToTarget_scaled 0
  have hrounded : (ExtendedMantissa.ofMantissaAndAccuracy m .exact).roundedMantissa = m := rfl
  simp only [roundWithAccuracy, h.shiftToTarget_scaled k, hrounded, hagain]
  exact dif_neg (Nat.ne_of_gt h.pos)

theorem pack_eq (h : Normal m e) (s : Sign) :
    pack Format.binary64 (.finite s m e h.pos) =
      packComponents Format.binary64 s (BitVec.ofNat 11 (e + 1075).toNat) (BitVec.ofNat 52 m) := by
  have hbias : (e + Format.binary64.exponentBias + (52 : Nat)).toNat = (e + 1075).toNat := by
    change (e + 1023 + 52).toNat = _
    rw [Int.add_assoc]
    rfl
  have hgreatest := h.greatest
  have hrange : ¬ 2 ^ 11 ≤ (e + 1075).toNat + 1 := by omega
  have hfull : 52 + 1 = Format.binary64.mantissaBits := rfl
  simp only [pack, hbias, h.log2_eq]
  rw [if_neg hrange, if_pos hfull]

/-! ### Reading the bits -/

theorem unpackSign_packComponents (s : Sign) (exponent : BitVec 11) (mantissa : BitVec 52) :
    unpackSign (packComponents Format.binary64 s exponent mantissa) = s.toBitVec := by
  change (s.toBitVec ++ exponent ++ mantissa).extractLsb' 63 1 = s.toBitVec
  rw [BitVec.extractLsb'_append_eq_of_le (by decide),
    BitVec.extractLsb'_append_eq_of_le (by decide)]
  cases s <;> rfl

theorem ofBitVec_toBitVec (s : Sign) : Sign.ofBitVec s.toBitVec = s := by
  cases s <;> rfl

theorem toNat_exponent (h : Normal m e) :
    (BitVec.ofNat 11 (e + 1075).toNat).toNat = (e + 1075).toNat := by
  have hgreatest := h.greatest
  rw [BitVec.toNat_ofNat]
  exact Nat.mod_eq_of_lt (by omega)

theorem toNat_mantissa (h : Normal m e) : (BitVec.ofNat 52 m).toNat = m - 2 ^ 52 := by
  have hfull := h.full
  have hfits := h.fits
  rw [BitVec.toNat_ofNat]
  omega

/-- A double that is packed from a full mantissa is unpacked to it. -/
theorem unpack_pack (h : Normal m e) (s : Sign) :
    unpack Format.binary64 (pack Format.binary64 (.finite s m e h.pos)) =
      .finite s m e h.pos := by
  have hleast := h.least
  have hgreatest := h.greatest
  have hfull := h.full
  have hinfinite : BitVec.ofNat 11 (e + 1075).toNat ≠ -1#11 := fun heq => by
    have hnat := congrArg BitVec.toNat heq
    rw [h.toNat_exponent] at hnat
    have hones : (-1#11).toNat = 2047 := rfl
    omega
  have hsubnormal : BitVec.ofNat 11 (e + 1075).toNat ≠ 0#11 := fun heq => by
    have hnat := congrArg BitVec.toNat heq
    rw [h.toNat_exponent] at hnat
    have hzero : (0#11).toNat = 0 := rfl
    omega
  have hmantissa : (1#1 ++ BitVec.ofNat 52 m).toNat = m := by
    rw [BitVec.toNat_append, ← Nat.shiftLeft_add_eq_or_of_lt (BitVec.isLt _), h.toNat_mantissa]
    have hone : (1#1).toNat <<< 52 = 2 ^ 52 := rfl
    omega
  have hexponent : ((e + 1075).toNat : Int) - (Format.binary64.exponentBias + (52 : Nat)) = e := by
    change _ - ((1023 : Int) + 52) = e
    omega
  rw [h.pack_eq, unpack]
  simp only [unpackMantissa_packComponents, unpackExponent_packComponents,
    unpackSign_packComponents, ofBitVec_toBitVec]
  rw [if_neg hinfinite, if_neg hsubnormal]
  simp only [hmantissa, h.toNat_exponent, hexponent]

/-- The bits of the packed double, as a number. -/
theorem toNat_pack (h : Normal m e) (s : Sign) :
    (pack Format.binary64 (.finite s m e h.pos)).toNat =
      (s.toBitVec.toNat * 2 ^ 11 + (e + 1075).toNat) * 2 ^ 52 + (m - 2 ^ 52) := by
  rw [h.pack_eq, packComponents]
  have happend (exponent : BitVec 11) (mantissa : BitVec 52) :
      (s.toBitVec ++ exponent ++ mantissa).toNat =
        (s.toBitVec.toNat * 2 ^ 11 + exponent.toNat) * 2 ^ 52 + mantissa.toNat := by
    rw [BitVec.toNat_append, ← Nat.shiftLeft_add_eq_or_of_lt mantissa.isLt, BitVec.toNat_append,
      ← Nat.shiftLeft_add_eq_or_of_lt exponent.isLt, Nat.shiftLeft_eq, Nat.shiftLeft_eq]
  exact (happend _ _).trans (by rw [h.toNat_exponent, h.toNat_mantissa])

/-- A double that is packed from a full mantissa is that mantissa with its exponent. -/
theorem ofFloat_pack (h : Normal m e) (s : Sign) :
    Dyadic.ofFloat (.ofModel (Float.Model.pack (.finite s m e h.pos))) =
      ⟨s.toBitVec.toNat == 1, m, e⟩ := by
  have hbits : (Float.toBits (.ofModel (Float.Model.pack (.finite s m e h.pos)))).toNat =
      (s.toBitVec.toNat * 2 ^ 11 + (e + 1075).toNat) * 2 ^ 52 + (m - 2 ^ 52) := h.toNat_pack s
  have hsign : s.toBitVec.toNat < 2 := BitVec.isLt _
  have hleast := h.least
  have hgreatest := h.greatest
  have hfull := h.full
  have hfits := h.fits
  have h52 : Nat.pow 2 52 = 2 ^ 52 := rfl
  have h11 : Nat.pow 2 11 = 2 ^ 11 := rfl
  have h63 : Nat.pow 2 63 = 2 ^ 63 := rfl
  simp only [Dyadic.ofFloat, Dyadic.fractionBits, hbits, h52, h11, h63]
  have hfraction : ((s.toBitVec.toNat * 2 ^ 11 + (e + 1075).toNat) * 2 ^ 52 + (m - 2 ^ 52)) %
      2 ^ 52 = m - 2 ^ 52 := by omega
  have hfield : ((s.toBitVec.toNat * 2 ^ 11 + (e + 1075).toNat) * 2 ^ 52 + (m - 2 ^ 52)) /
      2 ^ 52 % 2 ^ 11 = (e + 1075).toNat := by omega
  have hnegative : ((s.toBitVec.toNat * 2 ^ 11 + (e + 1075).toNat) * 2 ^ 52 + (m - 2 ^ 52)) /
      2 ^ 63 = s.toBitVec.toNat := by omega
  have hnormal : (e + 1075).toNat ≠ 0 := by omega
  have hexponent : ((e + 1075).toNat : Int) - 1075 = e := by omega
  rw [hfraction, hfield, hnegative, if_neg hnormal, Nat.sub_add_cancel hfull, hexponent]

end Normal

/-! ### Small integers -/

/-- The bits that a number is moved by to be a full mantissa. -/
def headroom (n : Nat) : Nat := 52 - n.log2

/-- A small number with as many zeros behind it as it has room for is a full mantissa. -/
theorem normal_of_lt {n : Nat} (hpos : n ≠ 0) (h : n < 2 ^ 53) :
    Normal (n * 2 ^ headroom n) (-(headroom n : Int)) where
  full := by
    have hlog : n.log2 < 53 := (Nat.log2_lt hpos).mpr h
    calc 2 ^ 52 = 2 ^ n.log2 * 2 ^ headroom n := by
          rw [← Nat.pow_add, headroom, Nat.add_sub_cancel' (by omega)]
      _ ≤ n * 2 ^ headroom n := Nat.mul_le_mul_right _ (Nat.log2_self_le hpos)
  fits := by
    have hlog : n.log2 < 53 := (Nat.log2_lt hpos).mpr h
    calc n * 2 ^ headroom n < 2 ^ (n.log2 + 1) * 2 ^ headroom n :=
          Nat.mul_lt_mul_of_pos_right Nat.lt_log2_self (Nat.two_pow_pos _)
      _ = 2 ^ 53 := by
          rw [← Nat.pow_add, headroom]
          congr 1
          omega
  least := by
    unfold headroom
    omega
  greatest := by
    unfold headroom
    omega

/-- A number is rounded to a double by moving it to the left. -/
theorem normalize_of_lt {n : Nat} (hpos : n ≠ 0) (h : n < 2 ^ 53) :
    UnpackedFloat.normalize Format.binary64 n 0 .positive =
      .finite .positive (n * 2 ^ headroom n) (-(headroom n : Int)) (normal_of_lt hpos h).pos := by
  have hlog : n.log2 < 53 := (Nat.log2_lt hpos).mpr h
  have hcompare : compare (n : Int) 0 = .gt := Int.compare_eq_gt.mpr (by omega)
  have htarget : Format.binary64.targetExponent (totalExponent n 0) = -(headroom n : Int) := by
    simp only [Format.targetExponent, totalExponent, headroom, Format.mantissaBits,
      Format.minExponent]
    omega
  have hamount : (0 - -(headroom n : Int)).toNat = headroom n := by omega
  have hround := (normal_of_lt hpos h).round_scaled .positive 0
  rw [Nat.pow_zero, Nat.mul_one] at hround
  simp only [UnpackedFloat.normalize, hcompare, Int.toNat_natCast, UnpackedFloat.round, htarget,
    decreaseExponent, hamount, Nat.shiftLeft_eq]
  rw [show (0 : Int) - (headroom n : Int) = -(headroom n : Int) - (0 : Nat) by omega]
  exact hround

/-- A small number other than zero, as a double. -/
theorem ofNat_of_lt {n : Nat} (hpos : n ≠ 0) (h : n < 2 ^ 53) :
    Float.ofNat n = .ofModel (Float.Model.pack (.finite .positive (n * 2 ^ headroom n)
      (-(headroom n : Int)) (normal_of_lt hpos h).pos)) := by
  have hscientific : Float.ofNat n = Float.ofScientific n false 0 := rfl
  have hword : n.toUInt64.toNat = n := by
    exact UInt64.toNat_ofNat_of_lt' (by have : UInt64.size = 2 ^ 64 := rfl; omega)
  have hsmall : (n.toUInt64.toFloat).toModel.unpack = .finite .positive (n * 2 ^ headroom n)
      (-(headroom n : Int)) (normal_of_lt hpos h).pos := by
    have hmodel : n.toUInt64.toFloat = .ofModel (Float.Model.pack
        (UnpackedFloat.normalize Format.binary64 (n.toUInt64.toNat : Nat) 0 .positive)) := rfl
    rw [hmodel, hword, normalize_of_lt hpos h]
    exact (normal_of_lt hpos h).unpack_pack .positive
  have hone : (Float.ofBits 0x3FF0000000000000).toModel.unpack =
      .finite .positive (2 ^ 52) (-(52 : Nat)) (by decide) := rfl
  rw [hscientific, Float.ofScientific, dif_pos ⟨h, by decide⟩]
  change Float.ofModel (Float.Model.pack (UnpackedFloat.mul Format.binary64
    n.toUInt64.toFloat.toModel.unpack (Float.ofBits 0x3FF0000000000000).toModel.unpack)) = _
  rw [hsmall, hone]
  change Float.ofModel (Float.Model.pack (roundWithAccuracy Format.binary64 .positive
    (n * 2 ^ headroom n * 2 ^ 52) (-(headroom n : Int) - (52 : Nat)) .exact)) = _
  rw [(normal_of_lt hpos h).round_scaled .positive 52]

/-- A small integer other than zero, as a double. -/
theorem exists_ofInt_eq {n : Int} (hne : n.natAbs ≠ 0) (h : n.natAbs < 2 ^ 53) :
    ∃ s : Sign, (s.toBitVec.toNat == 1) = decide (n < 0) ∧
      Float.ofInt n = .ofModel (Float.Model.pack (.finite s (n.natAbs * 2 ^ headroom n.natAbs)
        (-(headroom n.natAbs : Int)) (normal_of_lt hne h).pos)) := by
  cases n with
  | ofNat n => exact ⟨.positive, rfl, ofNat_of_lt hne h⟩
  | negSucc n =>
      refine ⟨.negative, (decide_eq_true (Int.negSucc_lt_zero n)).symm, ?_⟩
      have hneg : Float.ofInt (.negSucc n) =
          .ofModel (Float.Model.pack
            (Float.ofNat (Int.negSucc n).natAbs).toModel.unpack.neg) := rfl
      have hunpack := (normal_of_lt hne h).unpack_pack .positive
      rw [hneg, ofNat_of_lt hne h]
      change Float.ofModel (Float.Model.pack (UnpackedFloat.neg
        (unpack Format.binary64 (pack Format.binary64 _)))) = _
      rw [hunpack]
      rfl

/-- **A small integer is exact as a double.** -/
theorem ofFloat_ofInt {n : Int} (hne : n.natAbs ≠ 0) (h : n.natAbs < 2 ^ 53) :
    Dyadic.ofFloat (Float.ofInt n) =
      ⟨decide (n < 0), n.natAbs * 2 ^ headroom n.natAbs, -(headroom n.natAbs : Int)⟩ := by
  obtain ⟨s, hsign, heq⟩ := exists_ofInt_eq hne h
  rw [heq, (normal_of_lt hne h).ofFloat_pack s, hsign]

theorem isFinite_ofInt {n : Int} (h : n.natAbs < 2 ^ 53) : (Float.ofInt n).isFinite = true := by
  by_cases hne : n.natAbs = 0
  · rw [Int.natAbs_eq_zero.mp hne]
    rfl
  · obtain ⟨s, -, heq⟩ := exists_ofInt_eq hne h
    rw [heq]
    change UnpackedFloat.isFinite (unpack Format.binary64 (pack Format.binary64 _)) = true
    rw [(normal_of_lt hne h).unpack_pack s]
    rfl

/-- A small integer has nothing right of the binary point. -/
theorem isWhole_ofInt {n : Int} (h : n.natAbs < 2 ^ 53) : isWhole (Float.ofInt n) = true := by
  by_cases hne : n.natAbs = 0
  · rw [Int.natAbs_eq_zero.mp hne]
    decide +kernel
  · have hzeros : n.natAbs * 2 ^ headroom n.natAbs % Nat.pow 2 (headroom n.natAbs) = 0 :=
      Nat.mul_mod_left _ _
    rw [isWhole, ofFloat_ofInt hne h, Dyadic.isWhole, Int.neg_neg, Int.toNat_natCast, hzeros]
    exact Bool.or_true _

/-- A small integer is its own whole part. -/
theorem wholePart_ofInt {n : Int} (h : n.natAbs < 2 ^ 53) : wholePart (Float.ofInt n) = n := by
  by_cases hne : n.natAbs = 0
  · rw [Int.natAbs_eq_zero.mp hne]
    decide +kernel
  · have hmagnitude : Dyadic.wholeMagnitude ⟨decide (n < 0),
        n.natAbs * 2 ^ headroom n.natAbs, -(headroom n.natAbs : Int)⟩ = n.natAbs := by
      rw [Dyadic.wholeMagnitude]
      split
      · next hnonneg =>
        dsimp only at hnonneg
        have hzero : headroom n.natAbs = 0 := by omega
        rw [hzero]
        exact (Nat.mul_one _).trans (Nat.mul_one _)
      · rw [Int.neg_neg, Int.toNat_natCast]
        exact Nat.mul_div_cancel _ (Nat.two_pow_pos _)
    simp only [wholePart, ofFloat_ofInt hne h, hmagnitude, decide_eq_true_eq]
    split <;> omega

end JsonExpr.Decimal
