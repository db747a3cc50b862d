import CqlSchema.Decimal.Layout

/-! Which characters a written number is made of, and which one it starts with. That is all the
surroundings of a number need to know; its digits play no part. -/
namespace CqlSchema.Decimal

def isNumberChar (c : Char) : Bool := c.isAlphanum || c == '.' || c == '-'

/-- A digit or a sign, or the first letter of a value that is not finite. -/
def startsNumber (c : Char) : Bool := c.isDigit || c == '-' || c == 'i' || c == 'N'

structure NumberText (text : Text) : Prop where
  characters : ∀ c ∈ text, isNumberChar c = true
  start : ∃ c rest, text = c :: rest ∧ startsNumber c = true

theorem digitNumberChar {c : Char} (digit : c.isDigit = true) : isNumberChar c = true := by
  simp [isNumberChar, Char.isAlphanum, digit]

theorem startNumberChar {c : Char} (start : startsNumber c = true) : isNumberChar c = true := by
  simp only [startsNumber, Bool.or_eq_true, beq_iff_eq] at start
  rcases start with ((digit | rfl) | rfl) | rfl
  · exact digitNumberChar digit
  · rfl
  · rfl
  · rfl

theorem naturalDigits {n : Nat} : ∀ c ∈ natural n, c.isDigit = true :=
  fun _ inside => Nat.isDigit_of_mem_toDigits (by decide) (by decide) inside

theorem naturalStart (n : Nat) : ∃ c rest, natural n = c :: rest ∧ c.isDigit = true := by
  have filled : natural n ≠ [] := Nat.toDigits_ne_nil
  obtain ⟨c, rest, shape⟩ := List.exists_cons_of_ne_nil filled
  exact ⟨c, rest, shape, naturalDigits c (shape ▸ List.mem_cons_self)⟩

theorem naturalNumber (n : Nat) : NumberText (natural n) := by
  obtain ⟨c, rest, shape, digit⟩ := naturalStart n
  exact ⟨fun d inside => digitNumberChar (naturalDigits d inside),
    c, rest, shape, by simp [startsNumber, digit]⟩

theorem negativeNumber {text : Text} (number : NumberText text) : NumberText ('-' :: text) := by
  refine ⟨fun c inside => ?_, '-', text, rfl, by decide⟩
  rcases List.mem_cons.mp inside with rfl | behind
  · decide
  · exact number.characters c behind

theorem integerNumber (n : Int) : NumberText (integer n) := by
  cases n with
  | ofNat n => exact naturalNumber n
  | negSucc n => exact negativeNumber (naturalNumber (n + 1))

theorem appendNumber {text more : Text} (number : NumberText text)
    (characters : ∀ c ∈ more, isNumberChar c = true) : NumberText (text ++ more) := by
  obtain ⟨c, rest, shape, start⟩ := number.start
  refine ⟨fun d inside => ?_, c, rest ++ more, by simp [shape], start⟩
  exact (List.mem_append.mp inside).elim (number.characters d) (characters d)

theorem positionalNumber (number : Digits) : NumberText (positional number) := by
  have digits := naturalNumber number.digits
  unfold positional
  simp only
  split
  · refine appendNumber digits fun c inside => ?_
    rw [List.eq_of_mem_replicate inside]
    decide
  · split
    · rename_i small
      obtain ⟨c, rest, shape, digit⟩ := naturalStart number.digits
      have front : NumberText ((natural number.digits).take
          ((natural number.digits).length - (-number.exponent).toNat)) := by
        refine ⟨fun d inside => digits.characters d (List.mem_of_mem_take inside), ?_⟩
        obtain ⟨count, positive⟩ := Nat.exists_eq_succ_of_ne_zero (Nat.sub_ne_zero_of_lt small)
        rw [positive, shape]
        exact ⟨c, rest.take count, rfl, by simp [startsNumber, digit]⟩
      refine appendNumber front fun d inside => ?_
      rcases List.mem_cons.mp inside with rfl | behind
      · decide
      · exact digits.characters d (List.mem_of_mem_drop behind)
    · refine ⟨fun c inside => ?_, '0', _, rfl, by decide⟩
      simp only [List.mem_cons, List.mem_append, List.mem_replicate] at inside
      rcases inside with rfl | rfl | ⟨-, rfl⟩ | digit
      · decide
      · decide
      · decide
      · exact digits.characters c digit

theorem signedNumber (negative : Bool) {text : Text} (number : NumberText text) :
    NumberText (signed negative text) := by
  cases negative with
  | false => exact number
  | true => exact negativeNumber number

theorem plainNumber (x : Float) : NumberText (plain x) := by
  unfold plain
  split
  · exact ⟨List.all_eq_true.mp (by decide), 'N', _, rfl, by decide⟩
  · exact signedNumber _ ⟨List.all_eq_true.mp (by decide), 'i', _, rfl, by decide⟩
  · exact signedNumber _ (positionalNumber _)

end CqlSchema.Decimal
