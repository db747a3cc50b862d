import CqlSchema.Decimal.Shortest
import Mathlib

/-! The bits of a float. A finite one is told by its sign, significand and exponent, its bits give it
back, and it equals itself. -/
namespace CqlSchema.Decimal

open Float.Model (Format)
open Float.Model.UnpackedFloat

variable (bits : BitVec Format.binary64.numBits)

theorem mantissaToNat : (unpackMantissa bits).toNat = bits.toNat % 2 ^ 52 := by
  simp [unpackMantissa, BitVec.extractLsb_toNat]

theorem exponentToNat : (unpackExponent bits).toNat = bits.toNat / 2 ^ 52 % 2 ^ 11 := by
  simp [unpackExponent, BitVec.extractLsb_toNat, Nat.shiftRight_eq_div_pow]

theorem signToNat : (unpackSign bits).toNat = bits.toNat / 2 ^ 63 := by
  have small := bits.isLt
  simp only [Format.numBits] at small
  simp [unpackSign, BitVec.extractLsb_toNat, Nat.shiftRight_eq_div_pow]
  omega

theorem appendToNat {n m : Nat} (high : BitVec n) (low : BitVec m) :
    (high ++ low).toNat = high.toNat * 2 ^ m + low.toNat := by
  rw [BitVec.toNat_append, ← Nat.shiftLeft_add_eq_or_of_lt low.isLt, Nat.shiftLeft_eq]

theorem componentsToNat (sign : BitVec 1) (exponent : BitVec Format.binary64.exponentBits)
    (mantissa : BitVec Format.binary64.mantissaBitsWithoutImplicit) :
    (packComponents Format.binary64 (Sign.ofBitVec sign) exponent mantissa).toNat =
      sign.toNat * 2 ^ 63 + exponent.toNat * 2 ^ 52 + mantissa.toNat := by
  have kept : ∀ sign : BitVec 1, (Sign.ofBitVec sign).toBitVec = sign := by decide
  rw [packComponents, appendToNat, appendToNat, kept]
  simp
  omega

theorem componentsKept :
    packComponents Format.binary64 (Sign.ofBitVec (unpackSign bits)) (unpackExponent bits)
      (unpackMantissa bits) = bits := by
  have whole := bits.isLt
  simp only [Format.numBits] at whole
  apply BitVec.eq_of_toNat_eq
  rw [componentsToNat, mantissaToNat, exponentToNat, signToNat]
  omega

theorem packSubnormal (sign : Sign) {mantissa : BitVec 52} (some : 0 < mantissa.toNat) :
    pack Format.binary64 (.finite sign mantissa.toNat (-1074) some) =
      packComponents Format.binary64 sign 0#_ mantissa := by
  have small : ¬mantissa.toNat.log2 + 1 = Format.binary64.mantissaBits := by
    have below := (Nat.log2_lt (k := 52) (Nat.ne_of_gt some)).mpr mantissa.isLt
    have : Format.binary64.mantissaBits = 53 := rfl
    omega
  have kept : BitVec.ofNat 52 mantissa.toNat = mantissa := by simp
  simp only [pack]
  rw [if_neg (by decide), if_neg small, kept]

theorem packNormal (sign : Sign) {exponent : BitVec 11} {mantissa : BitVec 52}
    (finite : exponent.toNat < 2047) {some : 0 < 2 ^ 52 + mantissa.toNat} :
    pack Format.binary64 (.finite sign (2 ^ 52 + mantissa.toNat) (exponent.toNat - 1075) some) =
      packComponents Format.binary64 sign exponent mantissa := by
  have below := mantissa.isLt
  have leading : (2 ^ 52 + mantissa.toNat).log2 + 1 = Format.binary64.mantissaBits := by
    have : Format.binary64.mantissaBits = 53 := rfl
    have := (Nat.log2_eq_iff (k := 52) (Nat.ne_of_gt some)).mpr (by omega)
    omega
  have biased : ((exponent.toNat - 1075 : Int) + Format.binary64.exponentBias + (52 : Nat)).toNat =
      exponent.toNat := by
    have bias : (Format.binary64.exponentBias : Int) = 1023 := rfl
    omega
  have exponentKept : BitVec.ofNat 11 exponent.toNat = exponent := by simp
  have mantissaKept : BitVec.ofNat 52 (2 ^ 52 + mantissa.toNat) = mantissa := by
    apply BitVec.eq_of_toNat_eq
    rw [BitVec.toNat_ofNat]
    omega
  simp only [pack]
  rw [biased, if_neg (by omega), if_pos leading, exponentKept, mantissaKept]

theorem packUnpack (finite : unpackExponent bits ≠ -1#_) :
    pack Format.binary64 (unpack Format.binary64 bits) = bits := by
  have kept := componentsKept bits
  have notLast : (unpackExponent bits).toNat ≠ 2047 := by
    intro last
    exact finite (BitVec.eq_of_toNat_eq (by rw [last]; rfl))
  have biased : (unpackExponent bits).toNat < 2048 := (unpackExponent bits).isLt
  simp only [unpack, if_neg finite]
  split
  · rename_i least
    rw [least] at kept ⊢
    split
    · rename_i none
      rw [none] at kept
      exact kept
    · exact (packSubnormal _ _).trans kept
  · have normal : (1#1 ++ unpackMantissa bits).toNat = 2 ^ 52 + (unpackMantissa bits).toNat := by
      rw [appendToNat]
      rfl
    refine Eq.trans ?_ kept
    simp only [normal]
    exact packNormal _ (by omega)

theorem biasedToNat (bits : UInt64) :
    (bits >>> 52 &&& 0x7ff).toNat = bits.toNat / 2 ^ 52 % 2 ^ 11 := by
  rw [UInt64.toNat_and, UInt64.toNat_shiftRight, Nat.shiftRight_eq_div_pow]
  exact Nat.and_two_pow_sub_one_eq_mod _ 11

theorem fractionToNat (bits : UInt64) :
    (bits &&& 0xfffffffffffff).toNat = bits.toNat % 2 ^ 52 := by
  rw [UInt64.toNat_and]
  exact Nat.and_two_pow_sub_one_eq_mod _ 52

theorem negativeIff (bits : UInt64) : (bits >>> 63 == 1) = decide (bits.toNat / 2 ^ 63 = 1) := by
  rw [Bool.eq_iff_iff, beq_iff_eq, decide_eq_true_eq, ← UInt64.toNat_inj, UInt64.toNat_shiftRight,
    Nat.shiftRight_eq_div_pow]
  rfl

/-- Significand and exponent of a finite float. Only the least exponent goes with a significand that
does not fill its bits. -/
structure Regular (significand : Nat) (exponent : Int) : Prop where
  small : significand < 0x20000000000000
  lowest : -1074 ≤ exponent
  highest : exponent ≤ 971
  filled : 0x10000000000000 ≤ significand ∨ exponent = -1074

def magnitudeBits (significand : Nat) (exponent : Int) : Nat :=
  significand + (exponent + 1074).toNat * 0x10000000000000

theorem finiteBits {bits : UInt64} {negative : Bool} {significand : Nat} {exponent : Int}
    (finite : Binary64.ofBits bits = .finite negative significand exponent) :
    Regular significand exponent ∧ bits.toNat =
      (if negative then 0x8000000000000000 else 0) + magnitudeBits significand exponent := by
  have whole : bits.toNat < 0x10000000000000000 := bits.toNat_lt
  have biased := biasedToNat bits
  have fraction := fractionToNat bits
  have sign : (if (bits >>> 63 == 1) = true then 0x8000000000000000 else 0) =
      bits.toNat / 0x8000000000000000 * 0x8000000000000000 := by
    rw [negativeIff]
    simp only [decide_eq_true_eq]
    split <;> omega
  simp only [Binary64.ofBits] at finite
  split at finite
  · split at finite <;> cases finite
  · split at finite
    · rename_i least
      cases finite
      refine ⟨⟨?_, ?_, ?_, ?_⟩, ?bits⟩
      case bits => rw [sign, magnitudeBits]; omega
      all_goals omega
    · cases finite
      refine ⟨⟨?_, ?_, ?_, ?_⟩, ?bits⟩
      case bits => rw [sign, magnitudeBits]; omega
      all_goals omega

theorem finiteParts {x : Float} (finite : isFinite x = true) :
    ∃ negative significand exponent,
      Binary64.ofFloat x = .finite negative significand exponent := by
  unfold isFinite at finite
  split at finite
  · exact ⟨_, _, _, ‹_›⟩
  · cases finite

theorem notLastExponent {x : Float} (finite : isFinite x = true) :
    @unpackExponent Format.binary64 x.toBits.toBitVec ≠ -1#_ := by
  intro last
  obtain ⟨negative, significand, exponent, parts⟩ := finiteParts finite
  obtain ⟨⟨small, lowest, highest, filled⟩, bits⟩ := finiteBits parts
  have exponentBits := exponentToNat x.toBits.toBitVec
  rw [last] at exponentBits
  have all : x.toBits.toNat / 2 ^ 52 % 2 ^ 11 = 2047 := exponentBits.symm
  cases negative
  all_goals
    simp only [Bool.false_eq_true, if_false, if_true, magnitudeBits] at bits
    omega

theorem ofBitsToBits {x : Float} (finite : isFinite x = true) : Float.ofBits x.toBits = x := by
  have kept := packUnpack x.toBits.toBitVec (notLastExponent finite)
  obtain ⟨⟨bits, valid⟩⟩ := x
  change Float.ofModel (Float.Model.ofBits bits) = _
  congr 1
  change pack Format.binary64 (unpack Format.binary64 bits.toBitVec) = bits.toBitVec at kept
  simp only [Float.Model.ofBits, Float.Model.pack, Float.Model.mk.injEq]
  rw [kept]

theorem beqSelf {x : Float} (finite : isFinite x = true) : (x == x) = true := by
  have exponent := notLastExponent finite
  change Float.Model.UnpackedFloat.beq (unpack Format.binary64 x.toBits.toBitVec)
    (unpack Format.binary64 x.toBits.toBitVec) = true
  have numbered : unpack Format.binary64 x.toBits.toBitVec ≠ .notANumber := by
    simp only [unpack, if_neg exponent]
    split
    · split <;> simp
    · simp
  cases shape : unpack Format.binary64 x.toBits.toBitVec with
  | notANumber => exact absurd shape numbered
  | infinity sign => cases sign <;> rfl
  | zero sign => rfl
  | finite sign mantissa exponent positive =>
    cases sign <;> simp [Float.Model.UnpackedFloat.beq, Float.Model.UnpackedFloat.compare]

end CqlSchema.Decimal
