import CqlSchema.Decimal.Read
import CqlSchema.Proofs.Decimal.Characters

/-! Decimal digits read back as the number they write. -/
namespace CqlSchema.Decimal

theorem digitValue {c : Char} (digit : c.isDigit = true) :
    digit? 10 c = some (c.toNat - '0'.toNat) := by
  obtain ⟨low, high⟩ : '0' ≤ c ∧ c ≤ '9' := by
    simpa [Char.isDigit, Char.le_def] using digit
  have small : c.toNat - 48 < 10 := by
    have : c.toNat ≤ 57 := high
    omega
  simp [digit?, low, high, small]

theorem digitsValue {text : Text} (digits : ∀ c ∈ text, c.isDigit = true) (value : Nat) :
    digitsAfter? 10 value text = some (Nat.ofDigitChars 10 text value) := by
  induction text generalizing value with
  | nil => rfl
  | cons c rest ih =>
    rw [digitsAfter?, digitValue (digits c List.mem_cons_self), Option.bind_some,
      ih fun d behind => digits d (List.mem_cons_of_mem c behind), Nat.ofDigitChars_cons,
      Nat.mul_comm value]

theorem naturalValue {text : Text} (digits : ∀ c ∈ text, c.isDigit = true) (filled : text ≠ []) :
    natural? 10 text = some (Nat.ofDigitChars 10 text 0) := by
  rw [natural?, if_neg (by simpa using filled), digitsValue digits]

theorem naturalRead (n : Nat) : natural? 10 (natural n) = some n := by
  rw [naturalValue naturalDigits Nat.toDigits_ne_nil, natural, Nat.ofDigitChars_ten_toDigits]

theorem naturalLeading {n : Nat} (positive : 0 < n) : (natural n).head? ≠ some '0' := by
  induction n using Nat.strongRecOn with
  | _ n ih =>
    unfold natural at ih ⊢
    by_cases small : n < 10
    · rw [Nat.toDigits_of_lt_base small]
      have noZero : ∀ digit < 10, 0 < digit → Nat.digitChar digit ≠ '0' := by decide
      simpa using noZero n small positive
    · rw [Nat.toDigits_of_base_le (by decide) (by omega), List.head?_append]
      obtain ⟨c, rest, shape, -⟩ := naturalStart (n / 10)
      have earlier := ih (n / 10) (by omega) (by omega)
      rw [natural] at shape
      rw [shape] at earlier ⊢
      simpa using earlier

theorem naturalZero : natural 0 = ['0'] := Nat.toDigits_zero 10

end CqlSchema.Decimal
