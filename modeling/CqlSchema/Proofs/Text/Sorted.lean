import CqlSchema.Text.Sorted

/-! A search among words that are in order finds every word that is there. -/
namespace CqlSchema.Text

theorem precedesAsymm {first second : Text} (before : precedes first second = true) :
    precedes second first = false := by
  induction first generalizing second with
  | nil =>
    cases second with
    | nil => cases before
    | cons d more => rfl
  | cons c rest ih =>
    cases second with
    | nil => cases before
    | cons d more =>
      simp only [precedes, Bool.or_eq_true, decide_eq_true_eq, Bool.and_eq_true, beq_iff_eq,
        Bool.or_eq_false_iff, decide_eq_false_iff_not, Bool.and_eq_false_iff,
        beq_eq_false_iff_ne] at before ⊢
      rcases before with lower | ⟨same, later⟩
      · have apart : d ≠ c := by
          intro same
          rw [same] at lower
          omega
        exact ⟨by omega, .inl apart⟩
      · rw [same]
        exact ⟨by omega, .inr (ih later)⟩

def InOrder (words : List Text) : Prop :=
  words.Pairwise fun first second => precedes first second = true

theorem searchWithinIff {words : List Text} {word : Text} {steps : Nat} (ordered : InOrder words)
    (enough : words.length ≤ steps) : searchWithin word steps words = true ↔ word ∈ words := by
  -- In each step the half that is given up is one where the word could not stand.
  induction steps generalizing words with
  | zero =>
    have none : words = [] := List.length_eq_zero_iff.mp (by omega)
    simp [searchWithin, none]
  | succ steps ih =>
    have halves := List.take_append_drop (words.length / 2) words
    rw [searchWithin]
    cases rest : words.drop (words.length / 2) with
    | nil =>
      have short := List.drop_eq_nil_iff.mp rest
      have none : words = [] := List.length_eq_zero_iff.mp (by omega)
      simp [none]
    | cons middle above =>
      rw [rest] at halves
      have size := congrArg List.length halves
      simp only [List.length_append, List.length_take, List.length_cons] at size
      have split : word ∈ words ↔
          word ∈ words.take (words.length / 2) ∨ word = middle ∨ word ∈ above := by
        rw [← List.mem_cons, ← List.mem_append, halves]
      rw [InOrder, ← halves, List.pairwise_append, List.pairwise_cons] at ordered
      obtain ⟨low, ⟨later, high⟩, earlier⟩ := ordered
      simp only [split]
      by_cases same : word = middle
      · simp [same]
      · by_cases before : precedes word middle = true
        · have absent : word ∉ above := by
            intro inside
            simp [precedesAsymm (later word inside)] at before
          simp [same, before, absent, ih low (by simp; omega)]
        · have absent : word ∉ words.take (words.length / 2) := by
            intro inside
            exact before (earlier word inside middle List.mem_cons_self)
          simp [same, before, absent, ih high (by omega)]

theorem searchIff {words : List Text} (ordered : InOrder words) (word : Text) :
    search words word = true ↔ word ∈ words :=
  searchWithinIff ordered (Nat.le_refl _)

/-- Out of order, a word may stand in the half that is given up. -/
example : search ["b".toList, "a".toList] "b".toList = false := by decide

end CqlSchema.Text
