import CqlSchema.Json.Reader
import CqlSchema.Json.Writer
import CqlSchema.Proofs.Decimal.Digits
import CqlSchema.Proofs.Text.Following

/-! Numbers read back. A written number is a sign, digits without a leading zero, a fraction and a
power of ten, each where there is one; the reader finds the same parts as long as what follows
cannot belong to the number. -/
namespace CqlSchema.Json

def extendsNumber (c : Char) : Bool := c.isDigit || c == '.' || c == 'e' || c == 'E'

structure NumberParts where
  negative : Bool
  whole : Text
  fraction : Text
  power : Option Int

namespace NumberParts

def fractionText (parts : NumberParts) : Text :=
  if parts.fraction.isEmpty then [] else '.' :: parts.fraction

def powerText (parts : NumberParts) : Text :=
  match parts.power with
  | none => []
  | some power => 'e' :: (if power < 0 then '-' else '+') :: Decimal.natural power.natAbs

def text (parts : NumberParts) : Text :=
  Decimal.signed parts.negative (parts.whole ++ (parts.fractionText ++ parts.powerText))

structure WellFormed (parts : NumberParts) : Prop where
  filled : parts.whole ≠ []
  whole : ∀ c ∈ parts.whole, c.isDigit = true
  fraction : ∀ c ∈ parts.fraction, c.isDigit = true
  leading : parts.whole.head? = some '0' → parts.whole.length = 1

variable {parts : NumberParts} {rest : Text}

theorem powerAvoids (parts : NumberParts) (stop : Text.Avoids extendsNumber rest) :
    Text.Avoids Char.isDigit (parts.powerText ++ rest) := by
  unfold powerText
  split
  · exact Text.avoidsMono (fun c digit => by simp [extendsNumber, digit]) stop
  · simp

theorem fractionAvoids (parts : NumberParts) (stop : Text.Avoids extendsNumber rest) :
    Text.Avoids Char.isDigit (parts.fractionText ++ parts.powerText ++ rest) := by
  unfold fractionText
  split
  · exact parts.powerAvoids stop
  · simp

theorem readFractionText (digits : ∀ c ∈ parts.fraction, c.isDigit = true)
    (stop : Text.Avoids extendsNumber rest) :
    readFraction (parts.fractionText ++ parts.powerText ++ rest) =
      some (parts.fraction, parts.powerText ++ rest) := by
  have behind := parts.powerAvoids stop
  unfold fractionText
  cases shape : parts.fraction with
  | nil =>
    have noPoint : (parts.powerText ++ rest).head? ≠ some '.' := by
      unfold powerText
      split
      · exact Text.avoidsHead stop (by decide)
      · simp
    simp only [List.isEmpty_nil, if_true, List.nil_append]
    cases tail : parts.powerText ++ rest with
    | nil => rfl
    | cons c more =>
      rw [readFraction]
      rintro after ⟨⟩
      simp [tail] at noPoint
  | cons c fraction =>
    rw [shape] at digits
    have pointed : readFraction ('.' :: (c :: fraction ++ (parts.powerText ++ rest))) =
        some (c :: fraction, parts.powerText ++ rest) := by
      rw [readFraction, Text.takeRun digits behind, Text.dropRun digits behind]
      rfl
    simpa using pointed

theorem readPowerText (stop : Text.Avoids extendsNumber rest) :
    readPower (parts.powerText ++ rest) = some (parts.power, rest) := by
  unfold powerText
  cases parts.power with
  | none =>
    cases rest with
    | nil => rfl
    | cons c more =>
      have other := (Text.avoidsCons extendsNumber c more).mp stop
      simp only [extendsNumber, Bool.or_eq_false_iff, beq_eq_false_iff_ne] at other
      simp [readPower, other.1.2, other.2]
  | some power =>
    have digits := Decimal.naturalDigits (n := power.natAbs)
    have behind : Text.Avoids Char.isDigit rest :=
      Text.avoidsMono (fun c digit => by simp [extendsNumber, digit]) stop
    by_cases below : power < 0
    · have value : -(power.natAbs : Int) = power := by omega
      simp only [readPower, below, if_true, List.cons_append, decide_true, Bool.true_or, Decimal.sign,
        Text.takeRun digits behind, Text.dropRun digits behind, Decimal.naturalRead]
      exact congrArg (fun n => some (some n, rest)) value
    · have value : (power.natAbs : Int) = power := by omega
      simp only [readPower, below, if_false, if_true, List.cons_append, decide_true, Bool.true_or,
        Decimal.sign, Text.takeRun digits behind, Text.dropRun digits behind, Decimal.naturalRead,
        Bool.false_eq_true]
      exact congrArg (fun n => some (some n, rest)) value

theorem readBody (formed : parts.WellFormed) (stop : Text.Avoids extendsNumber rest) :
    let body := parts.whole ++ (parts.fractionText ++ parts.powerText) ++ rest
    body.takeWhile Char.isDigit = parts.whole ∧
      body.dropWhile Char.isDigit = parts.fractionText ++ parts.powerText ++ rest := by
  have behind := parts.fractionAvoids stop
  rw [List.append_assoc]
  exact ⟨Text.takeRun formed.whole behind, Text.dropRun formed.whole behind⟩

theorem signRead (formed : parts.WellFormed) (rest : Text) :
    ((parts.text ++ rest).head? == some '-') = parts.negative ∧
      (if parts.negative then (parts.text ++ rest).drop 1 else parts.text ++ rest) =
        parts.whole ++ (parts.fractionText ++ parts.powerText) ++ rest := by
  obtain ⟨c, more, shape⟩ := List.exists_cons_of_ne_nil formed.filled
  have digit := formed.whole c (by simp [shape])
  have noSign : c ≠ '-' := by rintro rfl; exact absurd digit (by decide)
  cases sign : parts.negative <;> simp [text, sign, Decimal.signed, shape, noSign]

theorem readNumberText (formed : parts.WellFormed) (stop : Text.Avoids extendsNumber rest) :
    readNumber (parts.text ++ rest) =
      (numberOfParts parts.negative parts.whole parts.fraction parts.power).map (·, rest) := by
  obtain ⟨sign, body⟩ := signRead formed rest
  obtain ⟨whole, behind⟩ := readBody formed stop
  have noLeadingZero :
      ¬(parts.whole.isEmpty || (parts.whole.head? == some '0' && 1 < parts.whole.length)) = true := by
    have filled := formed.filled
    have leading := formed.leading
    simp only [Bool.or_eq_true, List.isEmpty_iff, Bool.and_eq_true, beq_iff_eq, decide_eq_true_eq,
      not_or, not_and]
    exact ⟨filled, fun zero => by simp [leading zero]⟩
  simp only [readNumber, sign, body, whole, behind, if_neg noLeadingZero,
    readFractionText formed.fraction stop, readPowerText stop, Option.bind_eq_bind,
    Option.bind_some]
  cases numberOfParts parts.negative parts.whole parts.fraction parts.power <;> rfl

def ofInteger (n : Int) : NumberParts := ⟨decide (n < 0), Decimal.natural n.natAbs, [], none⟩

theorem ofIntegerText (n : Int) : (ofInteger n).text = Decimal.integer n := by
  cases n <;> simp [ofInteger, text, Decimal.signed, fractionText, powerText, Decimal.integer]

theorem naturalWhole (n : Nat) :
    (Decimal.natural n).head? = some '0' → (Decimal.natural n).length = 1 := by
  intro zero
  cases n with
  | zero => rfl
  | succ n => exact absurd zero (Decimal.naturalLeading (Nat.succ_pos n))

theorem ofIntegerFormed (n : Int) : (ofInteger n).WellFormed where
  filled := Nat.toDigits_ne_nil
  whole := Decimal.naturalDigits
  fraction := by simp [ofInteger]
  leading := naturalWhole n.natAbs

theorem integerMeant {n : Int} (low : -0x8000000000000000 ≤ n) (high : n < 0x10000000000000000) :
    numberOfParts (ofInteger n).negative (ofInteger n).whole (ofInteger n).fraction
      (ofInteger n).power = some (.integer n) := by
  have value : (if n < 0 then -(n.natAbs : Int) else n.natAbs) = n := by omega
  have noMinusZero : (decide (n < 0) && n.natAbs == 0) = false := by
    simp only [Bool.and_eq_false_iff, decide_eq_false_iff_not, beq_eq_false_iff_ne]
    omega
  simp only [numberOfParts, ofInteger, List.append_nil, Decimal.naturalRead, noMinusZero,
    Option.bind_eq_bind, Option.bind_some, decide_eq_true_eq, value, low, high, decide_true,
    List.isEmpty_nil, Option.isNone_none, Bool.not_false, Bool.and_true, if_true]

end NumberParts
end CqlSchema.Json
