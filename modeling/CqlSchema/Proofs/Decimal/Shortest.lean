import CqlSchema.Proofs.Decimal.Nearest

/-! The digits found for a finite float lie among the reals that round to it, and some are found
whatever the float: at the latest on the grid that is finer than half the least float. -/
namespace CqlSchema.Decimal

variable {significand : Nat} {exponent grid : ℤ}

theorem gridRatio (exponent grid : ℤ) :
    (gridStep exponent grid : ℚ) / gridQuarter exponent grid = 10 ^ grid / 2 ^ (exponent - 2) := by
  have inverse : (2 : ℚ) ^ (exponent - 2) = (2 ^ (2 - exponent))⁻¹ := by
    rw [← zpow_neg, neg_sub]
  rw [inverse, div_inv_eq_mul, ← toNatRatio 10 grid, ← toNatRatio 2 (2 - exponent), neg_sub, gridStep,
    gridQuarter, Nat.pow_eq, Nat.pow_eq, Nat.pow_eq, Nat.pow_eq]
  push_cast
  rw [div_mul_div_comm]

theorem quarterPositive (exponent grid : ℤ) : 0 < gridQuarter exponent grid :=
  Nat.mul_pos (Nat.pow_pos (by decide)) (Nat.pow_pos (by decide))

theorem stepPositive (exponent grid : ℤ) : 0 < gridStep exponent grid :=
  Nat.mul_pos (Nat.pow_pos (by decide)) (Nat.pow_pos (by decide))

theorem gridCross (exponent grid : ℤ) (digits : Nat) :
    (digits * gridStep exponent grid * 2 ^ (exponent - 2) : ℚ) =
      digits * 10 ^ grid * gridQuarter exponent grid := by
  have quarter : (gridQuarter exponent grid : ℚ) ≠ 0 :=
    Nat.cast_ne_zero.mpr (quarterPositive exponent grid).ne'
  rw [mul_assoc, (div_eq_div_iff quarter (quarterPos exponent).ne').mp (gridRatio exponent grid),
    mul_assoc]

theorem quartersLe (quarters digits : Nat) :
    quarters * gridQuarter exponent grid ≤ digits * gridStep exponent grid ↔
      (quarters * 2 ^ (exponent - 2) : ℚ) ≤ digits * 10 ^ grid := by
  have quarter : (0 : ℚ) < gridQuarter exponent grid :=
    Nat.cast_pos.mpr (quarterPositive exponent grid)
  rw [← Nat.cast_le (α := ℚ), Nat.cast_mul, Nat.cast_mul,
    ← mul_le_mul_iff_left₀ (quarterPos exponent), gridCross,
    mul_right_comm, mul_le_mul_iff_left₀ quarter]

theorem pointLe (quarters digits : Nat) :
    digits * gridStep exponent grid ≤ quarters * gridQuarter exponent grid ↔
      (digits * 10 ^ grid : ℚ) ≤ quarters * 2 ^ (exponent - 2) := by
  have quarter : (0 : ℚ) < gridQuarter exponent grid :=
    Nat.cast_pos.mpr (quarterPositive exponent grid)
  rw [← Nat.cast_le (α := ℚ), Nat.cast_mul, Nat.cast_mul,
    ← mul_le_mul_iff_left₀ (quarterPos exponent), gridCross,
    mul_right_comm (quarters : ℚ), mul_le_mul_iff_left₀ quarter]

theorem insideRounds (some : 0 < significand) {digits : Nat}
    (inside : isInside significand exponent grid (digits * gridStep exponent grid) = true) :
    RoundsTo significand exponent (digits * 10 ^ grid) := by
  have gap : quartersBelow significand exponent ≤ 4 * significand := by
    obtain ⟨gap, -⟩ | ⟨gap, -⟩ := quartersBelowCases significand exponent <;> omega
  have below : ((4 * significand - quartersBelow significand exponent : Nat) : ℚ) =
      4 * significand - quartersBelow significand exponent := by
    push_cast [Nat.cast_sub gap]
    rfl
  have above : ((4 * significand + 2 : Nat) : ℚ) = 4 * significand + 2 := by push_cast; rfl
  simp only [isInside] at inside
  split at inside
  · rename_i even
    simp only [Bool.and_eq_true, decide_eq_true_eq, quartersLe, pointLe, below, above] at inside
    exact ⟨inside.1, inside.2, fun odd => by omega⟩
  · simp only [Bool.and_eq_true, decide_eq_true_eq, ← not_le, quartersLe, pointLe, below, above]
      at inside
    simp only [not_le] at inside
    exact ⟨inside.1.le, inside.2.le, fun _ => inside⟩

theorem onGridInside {tie : Tie} {digits : Nat}
    (hit : onGrid? tie significand exponent grid = some digits) :
    isInside significand exponent grid (digits * gridStep exponent grid) = true := by
  simp only [onGrid?] at hit
  split at hit
  · cases hit
  · cases hit; assumption
  · cases hit; assumption
  · rename_i below above
    split at hit
    · cases hit; exact below
    · split at hit
      · cases hit; exact above
      · split at hit
        · cases hit
          split <;> assumption
        · cases hit; exact above

theorem onGridFine (tie : Tie) (significand : Nat)
    (fine : gridStep exponent grid < 2 * gridQuarter exponent grid) :
    ∃ digits, onGrid? tie significand exponent grid = some digits := by
  -- The point right above the float is less than half a unit away from it.
  have step := stepPositive exponent grid
  have division := Nat.div_add_mod (4 * significand * gridQuarter exponent grid)
    (gridStep exponent grid)
  have remainder := Nat.mod_lt (4 * significand * gridQuarter exponent grid) step
  have above : isInside significand exponent grid
      ((4 * significand * gridQuarter exponent grid / gridStep exponent grid + 1) *
        gridStep exponent grid) = true := by
    have gap : (4 * significand - quartersBelow significand exponent) * gridQuarter exponent grid ≤
        4 * significand * gridQuarter exponent grid :=
      Nat.mul_le_mul_right _ (Nat.sub_le _ _)
    have point : (4 * significand * gridQuarter exponent grid / gridStep exponent grid + 1) *
        gridStep exponent grid = gridStep exponent grid *
          (4 * significand * gridQuarter exponent grid / gridStep exponent grid) +
            gridStep exponent grid := by ring
    simp only [isInside, point, Nat.add_mul]
    split
    · simp only [Bool.and_eq_true, decide_eq_true_eq]
      omega
    · simp only [Bool.and_eq_true, decide_eq_true_eq]
      omega
  simp only [onGrid?, above]
  split
  · contradiction
  · contradiction
  · exact ⟨_, rfl⟩
  · split
    · exact ⟨_, rfl⟩
    · split
      · exact ⟨_, rfl⟩
      · split <;> exact ⟨_, rfl⟩

theorem finestGrid (lowest : -1074 ≤ exponent) :
    gridStep exponent (-324) < 2 * gridQuarter exponent (-324) := by
  have below : (10 : ℚ) ^ (-324 : ℤ) < 2 * 2 ^ (exponent - 2) := by
    calc (10 : ℚ) ^ (-324 : ℤ) < 2 ^ (-1075 : ℤ) := finestBelow
      _ ≤ 2 ^ (exponent - 1) := zpow_le_zpow_right₀ one_le_two (by omega)
      _ = 2 * 2 ^ (exponent - 2) := by rw [← zpow_one_add₀ two_ne_zero]; congr 1; ring
  rw [← not_le, ← Nat.one_mul (gridStep exponent (-324)), quartersLe, not_le]
  simpa using below

theorem coarsestHit {tie : Tie} {steps : Nat}
    (hit : ∃ digits, onGrid? tie significand exponent (grid - steps) = some digits) :
    onGrid? tie significand exponent (coarsest tie significand exponent grid (steps + 1)).exponent =
      some (coarsest tie significand exponent grid (steps + 1)).digits := by
  induction steps generalizing grid with
  | zero =>
    obtain ⟨digits, hit⟩ := hit
    rw [Nat.cast_zero, sub_zero] at hit
    simp [coarsest, hit]
  | succ steps ih =>
    rw [coarsest]
    split
    · assumption
    · refine ih ?_
      rw [sub_sub, add_comm 1]
      exact_mod_cast hit

theorem shortestRounds (tie : Tie) (regular : Regular significand exponent) (some : 0 < significand) :
    RoundsTo significand exponent
      ((shortest tie significand exponent).digits * 10 ^ (shortest tie significand exponent).exponent) := by
  have last : ∃ digits, onGrid? tie significand exponent (309 - (633 : Nat)) = .some digits :=
    onGridFine tie significand (finestGrid regular.lowest)
  rw [shortest, if_neg some.ne']
  exact insideRounds some (onGridInside (coarsestHit last))

theorem shortestZero (tie : Tie) (regular : Regular significand exponent)
    (none : (shortest tie significand exponent).digits = 0) :
    significand = 0 ∧ shortest tie significand exponent = ⟨0, 0⟩ := by
  rcases Nat.eq_zero_or_pos significand with rfl | some
  · exact ⟨rfl, if_pos rfl⟩
  · have given := roundsGiven regular some (shortestRounds tie regular some)
    exact absurd none given.ne'

end CqlSchema.Decimal
