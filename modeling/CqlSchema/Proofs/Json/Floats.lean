import CqlSchema.Proofs.Decimal.Shortest
import CqlSchema.Proofs.Json.Reading

/-! Floats read back. Every layout of a decimal number has the parts of a number of the same value, and
never those of a whole one, so that a finite float is read as the float it is. -/
namespace CqlSchema.Json

open Decimal (Digits natural)

namespace NumberParts

def digits (parts : NumberParts) : Nat := Nat.ofDigitChars 10 (parts.whole ++ parts.fraction) 0

def power10 (parts : NumberParts) : ℤ := parts.power.getD 0 - parts.fraction.length

/-- The parts stand for a decimal number, written so that it is no whole one. -/
structure Spells (parts : NumberParts) (number : Digits) : Prop where
  formed : parts.WellFormed
  noInteger : (parts.fraction.isEmpty && parts.power.isNone) = false
  value : (parts.digits * 10 ^ parts.power10 : ℚ) = number.digits * 10 ^ number.exponent

theorem zerosDigits (count : Nat) : ∀ c ∈ List.replicate count '0', c.isDigit = true := by
  intro c inside
  rw [List.eq_of_mem_replicate inside]
  decide

def wholeParts (negative : Bool) (number : Digits) : NumberParts :=
  ⟨negative, natural number.digits ++ List.replicate number.exponent.toNat '0', ['0'], none⟩

theorem wholeSpells (negative : Bool) {number : Digits} (up : 0 ≤ number.exponent)
    (zero : number.digits = 0 → number.exponent = 0) :
    (wholeParts negative number).Spells number where
  formed := by
    refine ⟨by simp [wholeParts, natural], fun c inside => ?_, by simp [wholeParts], fun leading => ?_⟩
    · rcases List.mem_append.mp inside with digit | added
      · exact Decimal.naturalDigits c digit
      · exact zerosDigits _ c added
    · obtain ⟨c, rest, shape, -⟩ := Decimal.naturalStart number.digits
      rcases Nat.eq_zero_or_pos number.digits with none | some
      · simp [wholeParts, none, zero none, Decimal.naturalZero]
      · refine absurd ?_ (Decimal.naturalLeading some)
        simpa [wholeParts, shape] using leading
  noInteger := rfl
  value := by
    have digits : (wholeParts negative number).digits = number.digits * 10 ^ number.exponent.toNat * 10 := by
      simp only [NumberParts.digits, wholeParts, natural, Nat.ofDigitChars_append,
        Nat.ofDigitChars_ten_toDigits, Nat.ofDigitChars_replicate_zero]
      change 10 * (10 ^ number.exponent.toNat * number.digits) + 0 = _
      ring
    have power : (10 : ℚ) ^ number.exponent = 10 ^ number.exponent.toNat := by
      rw [← zpow_natCast, Int.toNat_of_nonneg up]
    rw [digits, power]
    simp [power10, wholeParts]

def pointedParts (negative : Bool) (number : Digits) : NumberParts :=
  let digits := natural number.digits
  let before := digits.length - (-number.exponent).toNat
  ⟨negative, digits.take before, digits.drop before, none⟩

theorem pointedSpells (negative : Bool) {number : Digits} (down : number.exponent < 0)
    (inside : (-number.exponent).toNat < (natural number.digits).length)
    (zero : number.digits = 0 → number.exponent = 0) :
    (pointedParts negative number).Spells number where
  formed := by
    have some : 0 < number.digits := Nat.pos_of_ne_zero fun none => by have := zero none; omega
    obtain ⟨c, rest, shape, -⟩ := Decimal.naturalStart number.digits
    have noZero := Decimal.naturalLeading some
    obtain ⟨before, positive⟩ := Nat.exists_eq_succ_of_ne_zero (Nat.sub_ne_zero_of_lt inside)
    have start : (pointedParts negative number).whole = c :: rest.take before := by
      simp only [pointedParts]
      rw [positive, shape, List.take_succ_cons]
    refine ⟨by simp [start], fun c inside => ?_, fun c inside => ?_, fun leading => ?_⟩
    · exact Decimal.naturalDigits c (List.mem_of_mem_take inside)
    · exact Decimal.naturalDigits c (List.mem_of_mem_drop inside)
    · refine absurd ?_ noZero
      simpa [start, shape] using leading
  noInteger := by
    simp only [pointedParts, Bool.and_eq_false_iff, List.isEmpty_eq_false_iff]
    left
    rw [ne_eq, List.drop_eq_nil_iff]
    omega
  value := by
    have digits : (pointedParts negative number).digits = number.digits := by
      simp [NumberParts.digits, pointedParts, natural]
    have power : (pointedParts negative number).power10 = number.exponent := by
      simp [power10, pointedParts]
      omega
    rw [digits, power]

def smallParts (negative : Bool) (number : Digits) : NumberParts :=
  let digits := natural number.digits
  ⟨negative, ['0'], List.replicate ((-number.exponent).toNat - digits.length) '0' ++ digits, none⟩

theorem smallSpells (negative : Bool) {number : Digits} (down : number.exponent < 0)
    (outside : ¬(-number.exponent).toNat < (natural number.digits).length) :
    (smallParts negative number).Spells number where
  formed := by
    refine ⟨by simp [smallParts], by simp [smallParts], fun c inside => ?_, fun _ => rfl⟩
    rcases List.mem_append.mp inside with added | digit
    · exact zerosDigits _ c added
    · exact Decimal.naturalDigits c digit
  noInteger := by simp [smallParts, natural]
  value := by
    have digits : (smallParts negative number).digits = number.digits := by
      have leading : Nat.ofDigitChars 10 ['0'] 0 = 0 := rfl
      simp only [NumberParts.digits, smallParts, natural, Nat.ofDigitChars_append, leading,
        Nat.ofDigitChars_replicate_zero, Nat.mul_zero, Nat.ofDigitChars_ten_toDigits]
    have power : (smallParts negative number).power10 = number.exponent := by
      simp [power10, smallParts]
      omega
    rw [digits, power]

def scientificParts (negative : Bool) (number : Digits) : NumberParts :=
  let digits := natural number.digits
  ⟨negative, digits.take 1, digits.drop 1, some (number.exponent + (digits.length - 1 : Nat))⟩

theorem scientificSpells (negative : Bool) (number : Digits) :
    (scientificParts negative number).Spells number where
  formed := by
    obtain ⟨c, rest, shape, -⟩ := Decimal.naturalStart number.digits
    refine ⟨by simp [scientificParts, shape], fun c inside => ?_, fun c inside => ?_, fun _ => ?_⟩
    · exact Decimal.naturalDigits c (List.mem_of_mem_take inside)
    · exact Decimal.naturalDigits c (List.mem_of_mem_drop inside)
    · simp [scientificParts, shape]
  noInteger := by simp [scientificParts]
  value := by
    have digits : (scientificParts negative number).digits = number.digits := by
      simp only [NumberParts.digits, scientificParts, List.take_append_drop, natural,
        Nat.ofDigitChars_ten_toDigits]
    have power : (scientificParts negative number).power10 = number.exponent := by
      simp [power10, scientificParts]
    rw [digits, power]

end NumberParts

open NumberParts Decimal

theorem plainText {parts : NumberParts} {number : Digits} (spells : parts.Spells number)
    (noPower : parts.power = none) :
    parts.text = signed parts.negative (parts.whole ++ '.' :: parts.fraction) := by
  have noInteger := spells.noInteger
  rw [noPower] at noInteger
  have filled : parts.fraction.isEmpty = false := by simpa using noInteger
  simp [NumberParts.text, fractionText, powerText, filled, noPower]

theorem layoutSpells (negative : Bool) (number : Digits)
    (zero : number.digits = 0 → number.exponent = 0) :
    ∃ parts : NumberParts, parts.negative = negative ∧
      parts.text = signed negative (pointedOrScientific number) ∧ parts.Spells number := by
  unfold pointedOrScientific
  simp only
  split
  · by_cases up : 0 ≤ number.exponent
    · have spells := wholeSpells negative up zero
      refine ⟨wholeParts negative number, rfl, ?_, spells⟩
      have noPoint : '.' ∉ natural number.digits := fun inside =>
        absurd (naturalDigits '.' inside) (by decide)
      have bare : '.' ∉ natural number.digits ++ List.replicate number.exponent.toNat '0' := by
        simp [noPoint]
      simp only [positional, up, if_true, List.contains_eq_mem, bare, decide_false, Bool.false_eq_true,
        if_false]
      exact plainText spells rfl
    · by_cases inside : (-number.exponent).toNat < (natural number.digits).length
      · have spells := pointedSpells negative (not_le.mp up) inside zero
        refine ⟨pointedParts negative number, rfl, ?_, spells⟩
        simp only [positional, up, if_false, inside, if_true, List.contains_eq_mem, List.mem_append,
          List.mem_cons, true_or, or_true, decide_true]
        exact plainText spells rfl
      · have spells := smallSpells negative (not_le.mp up) inside
        refine ⟨smallParts negative number, rfl, ?_, spells⟩
        simp only [positional, up, if_false, inside, List.contains_eq_mem, List.mem_cons, true_or,
          or_true, decide_true, if_true]
        exact plainText spells rfl
  · refine ⟨scientificParts negative number, rfl, ?_, scientificSpells negative number⟩
    simp [NumberParts.text, scientificParts, fractionText, powerText, scientific]

theorem spelledFloat {x : Float} {negative : Bool} {significand : Nat} {exponent : ℤ}
    (shape : Binary64.ofFloat x = .finite negative significand exponent) {parts : NumberParts}
    (sign : parts.negative = negative) (spells : parts.Spells (shortest .even significand exponent)) :
    numberOfParts parts.negative parts.whole parts.fraction parts.power = some (.float x) := by
  obtain ⟨regular, bits⟩ := finiteBits shape
  have finite : isFinite x = true := by simp [isFinite, shape]
  have digits : natural? 10 (parts.whole ++ parts.fraction) = some parts.digits := by
    refine naturalValue (fun c inside => ?_) (by simp [spells.formed.filled])
    exact (List.mem_append.mp inside).elim (spells.formed.whole c) (spells.formed.fraction c)
  have nearest : Decimal.nearest negative parts.digits parts.power10 = x := by
    rcases Nat.eq_zero_or_pos significand with rfl | some
    · have value := spells.value
      rw [shortest, if_pos rfl, Nat.cast_zero, zero_mul] at value
      have none : parts.digits = 0 := by
        exact_mod_cast (mul_eq_zero.mp value).resolve_right (by positivity)
      rw [none, nearestZero shape]
    · refine nearestEq shape some ?_
      rw [spells.value]
      exact shortestRounds .even regular some
  rw [NumberParts.power10] at nearest
  simp only [numberOfParts, digits, sign, Option.bind_eq_bind, Option.bind_some,
    spells.noInteger, Bool.false_and, Bool.false_eq_true, if_false, nearest, finite, if_true]

theorem readsFloat {x : Float} (finite : isFinite x = true) : Reads (writeFloat x) (.float x) := by
  obtain ⟨negative, significand, exponent, shape⟩ := finiteParts finite
  have zero : (shortest .even significand exponent).digits = 0 →
      (shortest .even significand exponent).exponent = 0 := by
    intro none
    rw [(shortestZero .even (finiteBits shape).1 none).2]
  obtain ⟨parts, sign, text, spells⟩ := layoutSpells negative _ zero
  rw [writeFloat, json?, shape]
  simp only [Option.getD_some, ← text]
  exact readsNumber spells.formed (spelledFloat shape sign spells)

end CqlSchema.Json
