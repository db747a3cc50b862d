import CqlSchema.Decimal.Nearest
import CqlSchema.Proofs.Decimal.Bits

/-! The float nearest to a fraction. If the fraction lies among the reals that round to a finite float,
the bits worked out for it are the bits of that float. -/
namespace CqlSchema.Decimal

/-- The reals that round to `significand · 2 ^ exponent`. The ends belong to it if the significand is
even. -/
structure RoundsTo (significand : Nat) (exponent : Int) (value : ℚ) : Prop where
  low : (4 * significand - quartersBelow significand exponent) * 2 ^ (exponent - 2) ≤ value
  high : value ≤ (4 * significand + 2) * 2 ^ (exponent - 2)
  inside : significand % 2 = 1 →
    (4 * significand - quartersBelow significand exponent) * 2 ^ (exponent - 2) < value ∧
      value < (4 * significand + 2) * 2 ^ (exponent - 2)

theorem roundDivEq {numerator denominator nearest : Nat} (positive : 0 < denominator)
    (low : 2 * nearest * denominator ≤ 2 * numerator + denominator)
    (high : 2 * numerator ≤ 2 * nearest * denominator + denominator)
    (inside : nearest % 2 = 1 → 2 * nearest * denominator < 2 * numerator + denominator ∧
      2 * numerator < 2 * nearest * denominator + denominator) :
    roundDiv numerator denominator = nearest := by
  have division := Nat.div_add_mod numerator denominator
  have remainder := Nat.mod_lt numerator positive
  generalize below : numerator / denominator = quotient at division
  generalize left : numerator % denominator = rest at division remainder
  have notBelow : quotient ≤ nearest := by
    by_contra small
    have := Nat.mul_le_mul_left denominator (Nat.succ_le_of_lt (Nat.lt_of_not_le small))
    nlinarith
  have notAbove : nearest ≤ quotient + 1 := by
    by_contra large
    have := Nat.mul_le_mul_left denominator (Nat.succ_le_of_lt (Nat.lt_of_not_le large))
    nlinarith
  simp only [roundDiv, below, left]
  have twice (n : Nat) : 2 * n * denominator = 2 * (denominator * n) := by ring
  rw [twice] at low high inside
  obtain rfl | rfl : nearest = quotient ∨ nearest = quotient + 1 := by omega
  · have rounds : (2 * rest < denominator || 2 * rest == denominator && nearest % 2 == 0) = true := by
      simp only [Bool.or_eq_true, Bool.and_eq_true, decide_eq_true_eq, beq_iff_eq]
      omega
    rw [if_pos rounds]
  · rw [Nat.mul_succ] at low high inside
    have rounds :
        ¬(2 * rest < denominator || 2 * rest == denominator && quotient % 2 == 0) = true := by
      simp only [Bool.or_eq_true, Bool.and_eq_true, decide_eq_true_eq, beq_iff_eq]
      omega
    rw [if_neg rounds]

theorem twoMul {a b sum : ℤ} (added : a + b = sum) : (2 : ℚ) ^ a * 2 ^ b = 2 ^ sum := by
  rw [← zpow_add₀ two_ne_zero, added]

theorem toNatRatio (base : ℚ) (exponent : ℤ) :
    base ^ exponent.toNat / base ^ (-exponent).toNat = base ^ exponent := by
  rcases le_total 0 exponent with up | down
  · rw [Int.toNat_of_nonpos (by omega : -exponent ≤ 0), pow_zero, div_one, ← zpow_natCast,
      Int.toNat_of_nonneg up]
  · rw [Int.toNat_of_nonpos down, pow_zero, ← zpow_natCast, Int.toNat_of_nonneg (by omega), one_div,
      ← zpow_neg, neg_neg]

/-- The exponent of the power of two at or below a fraction. -/
def leading (numerator denominator : Nat) : ℤ :=
  let order : ℤ := (numerator.log2 : ℤ) - denominator.log2
  if denominator * Nat.pow 2 order.toNat ≤ numerator * Nat.pow 2 (-order).toNat then order
  else order - 1

variable {numerator denominator significand : Nat} {exponent : ℤ}

theorem powLog {n : Nat} (positive : 0 < n) :
    (2 : ℚ) ^ (n.log2 : ℤ) ≤ n ∧ (n : ℚ) < 2 ^ ((n.log2 : ℤ) + 1) := by
  constructor
  · rw [zpow_natCast]
    exact_mod_cast Nat.log2_self_le (Nat.ne_of_gt positive)
  · have above := Nat.lt_log2_self (n := n)
    rw [← Nat.cast_succ, zpow_natCast]
    exact_mod_cast above

theorem scaledLe (positive : 0 < denominator) (factor : ℚ) (order : ℤ) :
    factor * 2 ^ order ≤ numerator / denominator ↔
      factor * (denominator * Nat.pow 2 order.toNat : Nat) ≤
        (numerator * Nat.pow 2 (-order).toNat : Nat) := by
  have scale : (0 : ℚ) < 2 ^ (-order).toNat := by positivity
  have bottom : (0 : ℚ) < denominator := by exact_mod_cast positive
  rw [← toNatRatio 2 order, ← mul_div_assoc, div_le_div_iff₀ scale bottom, Nat.pow_eq, Nat.pow_eq]
  push_cast
  rw [mul_assoc, mul_comm ((2 : ℚ) ^ order.toNat)]

theorem scaledGe (positive : 0 < denominator) (factor : ℚ) (order : ℤ) :
    numerator / denominator ≤ factor * 2 ^ order ↔
      ((numerator * Nat.pow 2 (-order).toNat : Nat) : ℚ) ≤
        factor * (denominator * Nat.pow 2 order.toNat : Nat) := by
  have scale : (0 : ℚ) < 2 ^ (-order).toNat := by positivity
  have bottom : (0 : ℚ) < denominator := by exact_mod_cast positive
  rw [← toNatRatio 2 order, ← mul_div_assoc, div_le_div_iff₀ bottom scale, Nat.pow_eq, Nat.pow_eq]
  push_cast
  rw [mul_assoc, mul_comm ((2 : ℚ) ^ order.toNat)]

theorem leadingBounds (some : 0 < numerator) (positive : 0 < denominator) :
    (2 : ℚ) ^ leading numerator denominator ≤ numerator / denominator ∧
      (numerator / denominator : ℚ) < 2 ^ (leading numerator denominator + 1) := by
  obtain ⟨topLow, topHigh⟩ := powLog some
  obtain ⟨bottomLow, bottomHigh⟩ := powLog positive
  have bottom : (0 : ℚ) < denominator := by exact_mod_cast positive
  have below : (2 : ℚ) ^ ((numerator.log2 : ℤ) - denominator.log2 - 1) ≤ numerator / denominator := by
    rw [le_div_iff₀ bottom]
    calc (2 : ℚ) ^ ((numerator.log2 : ℤ) - denominator.log2 - 1) * denominator
        ≤ 2 ^ ((numerator.log2 : ℤ) - denominator.log2 - 1) * 2 ^ ((denominator.log2 : ℤ) + 1) := by
          gcongr
      _ = 2 ^ (numerator.log2 : ℤ) := twoMul (by ring)
      _ ≤ numerator := topLow
  have above : (numerator / denominator : ℚ) < 2 ^ ((numerator.log2 : ℤ) - denominator.log2 + 1) := by
    rw [div_lt_iff₀ bottom]
    calc (numerator : ℚ) < 2 ^ ((numerator.log2 : ℤ) + 1) := topHigh
      _ = 2 ^ ((numerator.log2 : ℤ) - denominator.log2 + 1) * 2 ^ (denominator.log2 : ℤ) :=
          (twoMul (by ring)).symm
      _ ≤ 2 ^ ((numerator.log2 : ℤ) - denominator.log2 + 1) * denominator := by gcongr
  unfold leading
  simp only
  split
  · rename_i reaches
    refine ⟨?_, above⟩
    rw [← one_mul ((2 : ℚ) ^ _), scaledLe positive, one_mul]
    exact_mod_cast reaches
  · rename_i short
    refine ⟨below, lt_of_not_ge fun reaches => short ?_⟩
    rw [sub_add_cancel, ← one_mul ((2 : ℚ) ^ _), scaledLe positive, one_mul] at reaches
    exact_mod_cast reaches

theorem nearestBitsShape (some : 0 < numerator) :
    let exponent := max (leading numerator denominator - 52) (-1074)
    nearestBits numerator denominator =
      min (roundDiv (numerator * Nat.pow 2 (-exponent).toNat)
          (denominator * Nat.pow 2 exponent.toNat) + (exponent + 1074).toNat * 0x10000000000000)
        infiniteBits := by
  have shift (p : Prop) [Decidable p] (order : ℤ) :
      (if p then order - 52 else order - 53) = (if p then order else order - 1) - 52 := by
    split <;> omega
  simp only [nearestBits, if_neg (Nat.ne_of_gt some), leading, shift]

theorem roundDivAt (positive : 0 < denominator) {nearest : Nat} {unit : ℤ}
    (low : (nearest - 1 / 2 : ℚ) * 2 ^ unit ≤ numerator / denominator)
    (high : (numerator / denominator : ℚ) ≤ (nearest + 1 / 2) * 2 ^ unit)
    (inside : nearest % 2 = 1 → (nearest - 1 / 2 : ℚ) * 2 ^ unit < numerator / denominator ∧
      (numerator / denominator : ℚ) < (nearest + 1 / 2) * 2 ^ unit) :
    roundDiv (numerator * Nat.pow 2 (-unit).toNat) (denominator * Nat.pow 2 unit.toNat) = nearest := by
  rw [scaledLe positive] at low
  rw [scaledGe positive] at high
  simp only [← not_le, scaledLe positive, scaledGe positive] at inside
  generalize numerator * Nat.pow 2 (-unit).toNat = top at low high inside ⊢
  have scaled : 0 < denominator * Nat.pow 2 unit.toNat :=
    Nat.mul_pos positive (Nat.pow_pos (by decide))
  generalize denominator * Nat.pow 2 unit.toNat = bottom at low high inside scaled ⊢
  refine roundDivEq scaled ?_ ?_ fun odd => ⟨?_, ?_⟩
  · have : (2 * nearest * bottom : ℚ) ≤ 2 * top + bottom := by linarith
    exact_mod_cast this
  · have : (2 * top : ℚ) ≤ 2 * nearest * bottom + bottom := by linarith
    exact_mod_cast this
  · have := (inside odd).1
    have : (2 * nearest * bottom : ℚ) < 2 * top + bottom := by linarith
    exact_mod_cast this
  · have := (inside odd).2
    have : (2 * top : ℚ) < 2 * nearest * bottom + bottom := by linarith
    exact_mod_cast this

theorem quartersBelowCases (significand : Nat) (exponent : ℤ) :
    (quartersBelow significand exponent = 1 ∧ significand = 0x10000000000000 ∧ -1074 < exponent) ∨
      (quartersBelow significand exponent = 2 ∧
        ¬(significand = 0x10000000000000 ∧ -1074 < exponent)) := by
  unfold quartersBelow
  split
  · exact .inl ⟨rfl, ‹_›⟩
  · exact .inr ⟨rfl, ‹_›⟩

theorem quartersBelowAtMost (significand : Nat) (exponent : ℤ) :
    (quartersBelow significand exponent : ℚ) ≤ 2 := by
  obtain ⟨gap, -⟩ | ⟨gap, -⟩ := quartersBelowCases significand exponent
  all_goals norm_num [gap]

theorem unitQuarters (exponent : ℤ) : (2 : ℚ) ^ exponent = 4 * 2 ^ (exponent - 2) := by
  have four : (2 : ℚ) ^ (2 : ℤ) = 4 := by norm_num
  rw [← four, twoMul (by ring)]

theorem quarterPos (exponent : ℤ) : (0 : ℚ) < 2 ^ (exponent - 2) := zpow_pos two_pos _

theorem RoundsTo.below {value : ℚ} (rounds : RoundsTo significand exponent value)
    (regular : Regular significand exponent) : value < 2 ^ (exponent + 53) := by
  have small : (significand : ℚ) ≤ 0x1fffffffffffff := by
    exact_mod_cast Nat.le_of_lt_succ regular.small
  calc value ≤ (4 * significand + 2) * 2 ^ (exponent - 2) := rounds.high
    _ < 2 ^ (55 : ℤ) * 2 ^ (exponent - 2) := by
        refine mul_lt_mul_of_pos_right ?_ (quarterPos exponent)
        norm_num
        linarith
    _ = 2 ^ (exponent + 53) := twoMul (by ring)

section

variable (regular : Regular significand exponent)
  (rounds : RoundsTo significand exponent (numerator / denominator))
  (some : 0 < numerator) (positive : 0 < denominator)

include regular rounds some positive

theorem unitAtMost : leading numerator denominator - 52 ≤ exponent := by
  obtain ⟨reached, -⟩ := leadingBounds some positive
  have := (zpow_lt_zpow_iff_right₀ one_lt_two).mp (reached.trans_lt (rounds.below regular))
  omega

theorem unitAtLeast (normal : -1074 < exponent) :
    exponent - 1 ≤ leading numerator denominator - 52 := by
  obtain ⟨-, short⟩ := leadingBounds some positive
  have filled : (0x10000000000000 : ℚ) ≤ significand := by
    have := regular.filled.resolve_right (by omega)
    exact_mod_cast this
  have gap := quartersBelowAtMost significand exponent
  have above : (2 : ℚ) ^ (exponent + 51) < 2 ^ (leading numerator denominator + 1) := by
    calc (2 : ℚ) ^ (exponent + 51) = 2 ^ (53 : ℤ) * 2 ^ (exponent - 2) :=
          (twoMul (by ring)).symm
      _ ≤ (4 * significand - quartersBelow significand exponent) * 2 ^ (exponent - 2) := by
          refine mul_le_mul_of_nonneg_right ?_ (quarterPos exponent).le
          norm_num
          linarith
      _ ≤ numerator / denominator := rounds.low
      _ < 2 ^ (leading numerator denominator + 1) := short
  have := (zpow_lt_zpow_iff_right₀ one_lt_two).mp above
  omega

omit regular some in
theorem roundDivUnit :
    roundDiv (numerator * Nat.pow 2 (-exponent).toNat) (denominator * Nat.pow 2 exponent.toNat) =
      significand := by
  have gap := quartersBelowAtMost significand exponent
  have closer : (significand - 1 / 2 : ℚ) * 2 ^ exponent ≤
      (4 * significand - quartersBelow significand exponent) * 2 ^ (exponent - 2) := by
    rw [unitQuarters, ← mul_assoc]
    refine mul_le_mul_of_nonneg_right ?_ (quarterPos exponent).le
    linarith
  have half : ((significand + 1 / 2 : ℚ)) * 2 ^ exponent =
      (4 * significand + 2) * 2 ^ (exponent - 2) := by rw [unitQuarters]; ring
  refine roundDivAt positive (closer.trans rounds.low) (half ▸ rounds.high) fun odd => ?_
  exact ⟨closer.trans_lt (rounds.inside odd).1, half ▸ (rounds.inside odd).2⟩

theorem roundDivBelow (smaller : leading numerator denominator - 52 ≤ exponent - 1)
    (normal : -1074 < exponent) :
    significand = 0x10000000000000 ∧
      roundDiv (numerator * Nat.pow 2 (-(exponent - 1)).toNat)
        (denominator * Nat.pow 2 (exponent - 1).toNat) = 0x20000000000000 := by
  obtain ⟨-, short⟩ := leadingBounds some positive
  -- The unit of the quotient is smaller only below a power of two, which it is rounded up to.
  have quarter := quarterPos exponent
  have unit : (2 : ℚ) ^ (exponent - 1) = 2 * 2 ^ (exponent - 2) := by
    rw [← zpow_one_add₀ two_ne_zero]
    congr 1
    ring
  have below : (numerator / denominator : ℚ) < 0x40000000000000 * 2 ^ (exponent - 2) := by
    calc (numerator / denominator : ℚ) < 2 ^ (leading numerator denominator + 1) := short
      _ ≤ 2 ^ (exponent + 52) := zpow_le_zpow_right₀ one_le_two (by omega)
      _ = 2 ^ (54 : ℤ) * 2 ^ (exponent - 2) := (twoMul (by ring)).symm
      _ = 0x40000000000000 * 2 ^ (exponent - 2) := by norm_num
  have power : significand = 0x10000000000000 := by
    have filled := regular.filled.resolve_right (by omega)
    by_contra other
    have gap := quartersBelowAtMost significand exponent
    have more : (0x10000000000001 : ℚ) ≤ significand := by
      exact_mod_cast (by omega : 0x10000000000001 ≤ significand)
    have := (mul_lt_mul_iff_left₀ quarter).mp (rounds.low.trans_lt below)
    linarith
  have low := rounds.low
  rw [quartersBelow, if_pos ⟨power, normal⟩, power] at low
  refine ⟨power, roundDivAt positive ?_ ?_ fun odd => absurd odd (by decide)⟩
  · rw [unit]
    norm_num at low ⊢
    linarith
  · rw [unit]
    norm_num at below ⊢
    linarith

theorem nearestBitsEq :
    nearestBits numerator denominator = magnitudeBits significand exponent := by
  have finite : magnitudeBits significand exponent ≤ infiniteBits := by
    obtain ⟨small, lowest, highest, filled⟩ := regular
    simp only [magnitudeBits, infiniteBits]
    omega
  have atMost := unitAtMost regular rounds some positive
  have lowest := regular.lowest
  rw [nearestBitsShape some]
  by_cases same : max (leading numerator denominator - 52) (-1074) = exponent
  · simp only [same, roundDivUnit rounds positive]
    exact Nat.min_eq_left finite
  · have normal : -1074 < exponent := by omega
    have atLeast := unitAtLeast regular rounds some positive normal
    have below : max (leading numerator denominator - 52) (-1074) = exponent - 1 := by omega
    obtain ⟨power, roundedUp⟩ := roundDivBelow regular rounds some positive (by omega) normal
    have carried : 0x20000000000000 + (exponent - 1 + 1074).toNat * 0x10000000000000 =
        magnitudeBits significand exponent := by
      rw [magnitudeBits, power]
      omega
    simp only [below, roundedUp, carried]
    exact Nat.min_eq_left finite

end

theorem digitsBounds {digits : Nat} (some : 0 < digits) :
    10 ^ ((Nat.toDigits 10 digits).length - 1) ≤ digits ∧
      digits < 10 ^ (Nat.toDigits 10 digits).length := by
  have filled : 0 < (Nat.toDigits 10 digits).length := Nat.length_toDigits_pos
  constructor
  · by_cases single : (Nat.toDigits 10 digits).length = 1
    · rw [single]
      exact some
    · have short := Nat.length_toDigits_le_iff (b := 10) (n := digits)
        (k := (Nat.toDigits 10 digits).length - 1) (by decide) (by omega)
      exact Nat.le_of_not_lt fun less => by have := short.mpr less; omega
  · exact (Nat.length_toDigits_le_iff (by decide) filled).mp le_rfl

theorem finestBelow : (10 : ℚ) ^ (-324 : ℤ) < 2 ^ (-1075 : ℤ) := by
  have powers : 2 ^ 1075 < 10 ^ 324 := by decide +kernel
  have cast : (2 : ℚ) ^ 1075 < 10 ^ 324 := by exact_mod_cast powers
  rw [zpow_neg, zpow_neg]
  exact inv_strictAnti₀ (by positivity) (by exact_mod_cast cast)

theorem coarsestAbove : (2 : ℚ) ^ (1024 : ℤ) < 10 ^ (309 : ℤ) := by
  have powers : 2 ^ 1024 < 10 ^ 309 := by decide +kernel
  exact_mod_cast powers

theorem roundsBounds {value : ℚ} (regular : Regular significand exponent)
    (some : 0 < significand) (rounds : RoundsTo significand exponent value) :
    2 ^ (-1075 : ℤ) ≤ value ∧ value < 2 ^ (1024 : ℤ) := by
  have gap := quartersBelowAtMost significand exponent
  have least : (1 : ℚ) ≤ significand := by exact_mod_cast some
  have lowest := regular.lowest
  have highest := regular.highest
  constructor
  · calc (2 : ℚ) ^ (-1075 : ℤ) = 2 * 2 ^ (-1076 : ℤ) := by rw [← zpow_one_add₀ two_ne_zero]; rfl
      _ ≤ (4 * significand - quartersBelow significand exponent) * 2 ^ (exponent - 2) := by
          refine mul_le_mul (by linarith) ?_ (by positivity) (by linarith)
          exact zpow_le_zpow_right₀ one_le_two (by omega)
      _ ≤ value := rounds.low
  · exact (rounds.below regular).trans_le (zpow_le_zpow_right₀ one_le_two (by omega))

theorem roundsGiven {digits : Nat} {power : ℤ} (regular : Regular significand exponent)
    (some : 0 < significand) (rounds : RoundsTo significand exponent (digits * 10 ^ power)) :
    0 < digits := by
  rcases Nat.eq_zero_or_pos digits with rfl | given
  · have atLeast := (roundsBounds regular some rounds).1
    rw [Nat.cast_zero, zero_mul] at atLeast
    exact absurd atLeast (not_le.mpr (by positivity))
  · exact given

theorem orderBounds {digits : Nat} {power : ℤ} (regular : Regular significand exponent)
    (some : 0 < significand) (rounds : RoundsTo significand exponent (digits * 10 ^ power))
    (given : 0 < digits) :
    -400 ≤ power + (Nat.toDigits 10 digits).length ∧
      power + (Nat.toDigits 10 digits).length ≤ 400 := by
  obtain ⟨atLeast, below⟩ := roundsBounds regular some rounds
  obtain ⟨low, high⟩ := digitsBounds given
  have filled : 0 < (Nat.toDigits 10 digits).length := Nat.length_toDigits_pos
  generalize (Nat.toDigits 10 digits).length = length at low high filled ⊢
  have shift : (0 : ℚ) < 10 ^ power := by positivity
  constructor
  · have above : (10 : ℚ) ^ (-324 : ℤ) < 10 ^ (length + power) := by
      calc (10 : ℚ) ^ (-324 : ℤ) < 2 ^ (-1075 : ℤ) := finestBelow
        _ ≤ digits * 10 ^ power := atLeast
        _ ≤ 10 ^ (length : ℤ) * 10 ^ power := by
            refine mul_le_mul_of_nonneg_right ?_ shift.le
            rw [zpow_natCast]
            exact_mod_cast high.le
        _ = 10 ^ (length + power) := by rw [← zpow_add₀ (by norm_num)]
    have := (zpow_lt_zpow_iff_right₀ (by norm_num)).mp above
    omega
  · have under : (10 : ℚ) ^ ((length - 1 : Nat) + power) < 10 ^ (309 : ℤ) := by
      calc (10 : ℚ) ^ ((length - 1 : Nat) + power) = 10 ^ ((length - 1 : Nat) : ℤ) * 10 ^ power := by
            rw [← zpow_add₀ (by norm_num)]
        _ ≤ digits * 10 ^ power := by
            refine mul_le_mul_of_nonneg_right ?_ shift.le
            rw [zpow_natCast]
            exact_mod_cast low
        _ < 2 ^ (1024 : ℤ) := below
        _ < 10 ^ (309 : ℤ) := coarsestAbove
    have := (zpow_lt_zpow_iff_right₀ (by norm_num)).mp under
    omega

theorem nearestEq {x : Float} {negative : Bool} {digits : Nat} {power : ℤ}
    (parts : Binary64.ofFloat x = .finite negative significand exponent) (some : 0 < significand)
    (rounds : RoundsTo significand exponent (digits * 10 ^ power)) :
    nearest negative digits power = x := by
  obtain ⟨regular, bits⟩ := finiteBits parts
  have given := roundsGiven regular some rounds
  obtain ⟨notSmall, notLarge⟩ := orderBounds regular some rounds given
  have fraction : (digits * 10 ^ power : ℚ) =
      (digits * Nat.pow 10 power.toNat : Nat) / (Nat.pow 10 (-power).toNat : Nat) := by
    rw [← toNatRatio 10 power, Nat.pow_eq, Nat.pow_eq]
    push_cast
    rw [mul_div_assoc]
  rw [fraction] at rounds
  have magnitude := nearestBitsEq regular rounds
    (Nat.mul_pos given (Nat.pow_pos (by decide))) (Nat.pow_pos (by decide))
  have finite : isFinite x = true := by simp [isFinite, parts]
  have whole : (if negative then 0x8000000000000000 + magnitudeBits significand exponent
      else magnitudeBits significand exponent) = x.toBits.toNat := by
    rw [bits]
    cases negative <;> simp
  have reached :
      ¬(decide (digits = 0) || decide (power + (Nat.toDigits 10 digits).length < -400)) = true := by
    simp only [Bool.or_eq_true, decide_eq_true_eq]
    omega
  simp only [nearest, if_neg reached, if_neg (not_lt.mpr notLarge), magnitude, whole]
  rw [UInt64.ofNat_toNat, ofBitsToBits finite]

theorem nearestZero {x : Float} {negative : Bool}
    (parts : Binary64.ofFloat x = .finite negative 0 exponent) (power : ℤ) :
    nearest negative 0 power = x := by
  obtain ⟨regular, bits⟩ := finiteBits parts
  have least : exponent = -1074 := regular.filled.resolve_left (by decide)
  have finite : isFinite x = true := by simp [isFinite, parts]
  have whole : (if negative then 0x8000000000000000 + 0 else 0) = x.toBits.toNat := by
    rw [bits, least]
    cases negative <;> rfl
  simp only [nearest, decide_true, Bool.true_or, if_true, whole]
  rw [UInt64.ofNat_toNat, ofBitsToBits finite]

end CqlSchema.Decimal
