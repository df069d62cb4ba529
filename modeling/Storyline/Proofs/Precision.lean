import Mathlib
import Storyline.Decimal.Precision

set_option autoImplicit false

/-!
A number that is widened and narrowed again is the number it was. Every finite number of single precision is one of double
precision, written with more digits, and rounding leaves alone what its format has already.
-/

namespace Storyline.Decimal

open Float.Model (UnpackedFloat Format totalExponent)
open Float.Model.UnpackedFloat (ExtendedMantissa Accuracy Sign pack unpack roundWithAccuracy shiftToTargetExponent)

/-! ### Rounding -/

theorem log2_scaled (mantissa count : Nat) (positive : 0 < mantissa) :
    (mantissa * 2 ^ count).log2 = mantissa.log2 + count := by
  induction count with
  | zero => simp
  | succ count ih =>
      have scaled : mantissa * 2 ^ (count + 1) = 2 * (mantissa * 2 ^ count) := by
        rw [Nat.pow_succ, Nat.mul_comm 2, Nat.mul_assoc]
      have nonzero := Nat.ne_of_gt (Nat.mul_pos positive (Nat.two_pow_pos count))
      rw [scaled, Nat.log2_two_mul nonzero, ih, Nat.add_assoc]

theorem shift_exact (mantissa more count : Nat) :
    (⟨mantissa * 2 ^ (more + count), false, false⟩ : ExtendedMantissa) >>> count = ⟨mantissa * 2 ^ more, false, false⟩ := by
  induction count generalizing more with
  | zero => rfl
  | succ count ih =>
      have shifted := ih (more + 1)
      rw [show more + 1 + count = more + (count + 1) by omega] at shifted
      exact (congrArg ExtendedMantissa.shiftRightOne shifted).trans
        (by simp [ExtendedMantissa.shiftRightOne, Nat.pow_succ, ← Nat.mul_assoc])

-- The number is written with the exponent that its format has for it.
def Canonical (format : Format) (mantissa : Nat) (exponent : Int) : Prop :=
  format.targetExponent (totalExponent mantissa exponent) = exponent

section Rounding

variable (format : Format) (sign : Sign) (mantissa count : Nat) (exponent : Int) (positive : 0 < mantissa)

include positive in
theorem total_scaled : totalExponent (mantissa * 2 ^ count) (exponent - count) = totalExponent mantissa exponent := by
  simp only [totalExponent, log2_scaled mantissa count positive]
  omega

include positive in
theorem shift_to_canonical (canonical : Canonical format mantissa exponent) :
    shiftToTargetExponent format (mantissa * 2 ^ count) (exponent - count) .exact =
      (⟨mantissa, false, false⟩, exponent) := by
  have shifted := shift_exact mantissa 0 count
  rw [Nat.zero_add] at shifted
  rw [Canonical] at canonical
  simp [shiftToTargetExponent, UnpackedFloat.shiftToExponent, ExtendedMantissa.ofMantissaAndAccuracy,
    total_scaled mantissa count exponent positive, canonical, shifted]

theorem round_canonical (canonical : Canonical format mantissa exponent) :
    roundWithAccuracy format sign (mantissa * 2 ^ count) (exponent - count) .exact =
      .finite sign mantissa exponent positive := by
  have shifted := shift_to_canonical format mantissa count exponent positive canonical
  have again := shift_to_canonical format mantissa 0 exponent positive canonical
  simp only [Nat.pow_zero, Nat.mul_one, Int.natCast_zero, Int.sub_zero] at again
  simp [roundWithAccuracy, shifted, ExtendedMantissa.roundedMantissa, ExtendedMantissa.accuracy,
    Accuracy.roundToNearestEven, again, Nat.ne_of_gt positive]

theorem round_long (canonical : Canonical format mantissa exponent) :
    UnpackedFloat.round format sign (mantissa * 2 ^ count) (exponent - count) = .finite sign mantissa exponent positive := by
  have rounded := round_canonical format sign mantissa count exponent positive canonical
  rw [Canonical] at canonical
  simp [UnpackedFloat.round, UnpackedFloat.decreaseExponent, total_scaled mantissa count exponent positive, canonical,
    rounded]

theorem round_short (canonical : Canonical format (mantissa * 2 ^ count) (exponent - count)) :
    UnpackedFloat.round format sign mantissa exponent =
      .finite sign (mantissa * 2 ^ count) (exponent - count) (Nat.mul_pos positive (Nat.two_pow_pos count)) := by
  have rounded := round_canonical format sign _ 0 _ (Nat.mul_pos positive (Nat.two_pow_pos count)) canonical
  simp only [Nat.pow_zero, Nat.mul_one, Int.natCast_zero, Int.sub_zero] at rounded
  rw [Canonical, total_scaled mantissa count exponent positive] at canonical
  simp [UnpackedFloat.round, UnpackedFloat.decreaseExponent, canonical, Nat.shiftLeft_eq, rounded]

end Rounding

/-! ### The fields of a number -/

theorem implicit_bit (width : Nat) (fraction : BitVec width) : (1#1 ++ fraction).toNat = 2 ^ width + fraction.toNat := by
  rw [BitVec.toNat_append, ← Nat.shiftLeft_add_eq_or_of_lt fraction.isLt, BitVec.toNat_ofNat, Nat.shiftLeft_eq]
  simp

theorem implicit_bit_back (width mantissa : Nat) (full : mantissa.log2 = width) (positive : 0 < mantissa) :
    (1#1 ++ BitVec.ofNat width mantissa).toNat = mantissa := by
  obtain ⟨low, high⟩ := (Nat.log2_eq_iff (Nat.ne_of_gt positive)).mp full
  have below : (mantissa - 2 ^ width) % 2 ^ width = mantissa - 2 ^ width := Nat.mod_eq_of_lt (by omega)
  rw [implicit_bit, BitVec.toNat_ofNat, Nat.mod_eq_sub_mod low, below]
  omega

theorem unpack_pack_normal (format : Format) (sign : Sign) (mantissa : Nat) (exponent : Int) (positive : 0 < mantissa)
    (full : mantissa.log2 = format.mantissaBitsWithoutImplicit) (field : Nat) (low : 0 < field)
    (high : field + 1 < 2 ^ format.exponentBits)
    (biased : exponent = field - ((format.exponentBias : Int) + format.mantissaBitsWithoutImplicit)) :
    unpack format (pack format (.finite sign mantissa exponent positive)) =
      .finite sign mantissa exponent positive := by
  have number : (exponent + format.exponentBias + format.mantissaBitsWithoutImplicit).toNat = field := by omega
  have stored : (BitVec.ofNat format.exponentBits field).toNat = field := by
    rw [BitVec.toNat_ofNat, Nat.mod_eq_of_lt (by omega)]
  have finite : BitVec.ofNat format.exponentBits field ≠ -BitVec.ofNat format.exponentBits 1 := by
    intro ones
    rw [BitVec.neg_one_eq_allOnes, ← BitVec.toNat_inj, stored, BitVec.toNat_allOnes] at ones
    omega
  have normal : BitVec.ofNat format.exponentBits field ≠ BitVec.ofNat format.exponentBits 0 := by
    intro zeros
    rw [← BitVec.toNat_inj, stored, BitVec.toNat_zero] at zeros
    omega
  have bits : mantissa.log2 + 1 = format.mantissaBits := by rw [full, Format.mantissaBits, Nat.add_comm]
  simp only [pack, number, if_neg (Nat.not_le.mpr high), if_pos bits, unpack, UnpackedFloat.unpackSign_packComponents,
    UnpackedFloat.unpackExponent_packComponents, UnpackedFloat.unpackMantissa_packComponents, finite, normal, if_false, stored,
    Sign.ofBitVec_toBitVec, implicit_bit_back _ mantissa full positive, ← biased]

/-! ### Single precision -/

-- What a finite number of single precision can be.
inductive Single : UnpackedFloat → Prop where
  | zero (sign : Sign) : Single (.zero sign)
  | finite (sign : Sign) (mantissa : Nat) (exponent : Int) (positive : 0 < mantissa)
      (canonical : exponent = max ((mantissa.log2 : Int) - 23 + exponent) (-149)) (high : exponent ≤ 104) :
      Single (.finite sign mantissa exponent positive)

theorem unpack_single (bits : BitVec 32) :
    (unpack .binary32 bits).isFinite = true → Single (unpack .binary32 bits) := by
  fun_cases unpack .binary32 bits with
  | case1 | case2 =>
      intro finite
      cases finite
  | case3 => exact fun _ => .zero _
  | case4 fraction field exponent _ _ _ subnormal nonzero =>
      have positive : fraction.toNat ≠ 0 := fun zero => nonzero (BitVec.toNat_inj.mp zero)
      have short : fraction.toNat.log2 < 23 := (Nat.log2_lt positive).mpr fraction.isLt
      have lowest : exponent + 1 = -149 := by
        simp only [exponent, subnormal]
        rfl
      exact fun _ => .finite _ _ _ _ (by omega) (by omega)
  | case5 fraction field exponent _ _ finite normal =>
      have short : fraction.toNat < 2 ^ 23 := fraction.isLt
      have bound : field.toNat < 2 ^ 8 := field.isLt
      have above : field.toNat ≠ 0 := fun zero => normal (BitVec.toNat_inj.mp zero)
      have below : field.toNat ≠ 255 := fun ones => finite (BitVec.toNat_inj.mp ones)
      have value : (1#1 ++ fraction).toNat = 2 ^ 23 + fraction.toNat := implicit_bit 23 fraction
      have full : (1#1 ++ fraction).toNat.log2 = 23 := (Nat.log2_eq_iff (by omega)).mpr (by omega)
      have biased : exponent = field.toNat - 150 := rfl
      exact fun _ => .finite _ _ _ _ (by omega) (by omega)

/-! ### There and back -/

-- Double precision has room for every number of single precision: filled up to 53 digits none is subnormal.
theorem fits_double (number : UnpackedFloat) (single : Single number) :
    let wide := unpack .binary64 (pack .binary64 (fit .binary64 number))
    wide.isFinite = true ∧ fit .binary32 wide = number := by
  cases single with
  | zero sign => cases sign <;> exact ⟨rfl, rfl⟩
  | finite sign mantissa exponent positive canonical high =>
      obtain ⟨count, full⟩ : ∃ count, mantissa.log2 + count = 52 := ⟨52 - mantissa.log2, by omega⟩
      have long : (mantissa * 2 ^ count).log2 = 52 := by rw [log2_scaled mantissa count positive, full]
      have bias : Format.binary64.exponentBias = 1023 := rfl
      have wide : Canonical .binary64 (mantissa * 2 ^ count) (exponent - count) := by
        simp only [Canonical, Format.targetExponent, totalExponent, Format.mantissaBits, Format.minExponent, long]
        omega
      have narrow : Canonical .binary32 mantissa exponent := by
        simp only [Canonical, Format.targetExponent, totalExponent, Format.mantissaBits, Format.minExponent]
        omega
      have read := unpack_pack_normal .binary64 sign _ (exponent - count) (Nat.mul_pos positive (Nat.two_pow_pos count)) long
        (exponent - count + 1075).toNat (by omega) (by simp only; omega) (by simp only [bias]; omega)
      simp only [fit, round_short .binary64 sign mantissa count exponent positive wide, read]
      exact ⟨rfl, round_long .binary32 sign mantissa count exponent positive narrow⟩

theorem narrow_widen (x : Float32) (finite : x.isFinite = true) : (widen x).isFinite = true ∧ narrow (widen x) = x := by
  obtain ⟨⟨⟨bits⟩, valid⟩⟩ := x
  obtain ⟨wide, back⟩ := fits_double _ (unpack_single bits finite)
  refine ⟨wide, (congrArg (fun number => Float32.ofModel (.pack number)) back).trans ?_⟩
  simp only [Float32.Model.pack, UnpackedFloat.pack_unpack_of_valid valid]

end Storyline.Decimal
