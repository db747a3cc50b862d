import CqlSchema.Proofs.Text.Following

/-! Texts that say the same wherever they stand at the head of one and the same text. What may follow
them is part of the question: a name ends where no further letter of it could stand. Larger texts
are settled piece by piece, from the left. -/
namespace CqlSchema.Text

/-- Where the two texts with their rests are one text, `same` holds and the rests are one text. -/
def Settled (ends : Text → Prop) (first second : Text) (same : Prop) : Prop :=
  ∀ r s, ends r → ends s → first ++ r = second ++ s → same ∧ r = s

def differ (first second : Text) : Bool := (first.zip second).any fun pair => pair.1 != pair.2

theorem differApart {first second : Text} (clash : differ first second = true) (r s : Text) :
    first ++ r ≠ second ++ s := by
  intro whole
  induction first generalizing second with
  | nil => simp [differ] at clash
  | cons c rest ih =>
    cases second with
    | nil => simp [differ] at clash
    | cons d more =>
      simp only [List.cons_append, List.cons.injEq] at whole
      obtain ⟨rfl, tails⟩ := whole
      refine ih ?_ tails
      simpa [differ] using clash

section
variable {ends mid : Text → Prop} {a b c d : Text} {p q : Prop}

theorem settledMono (settled : Settled mid a b p) (narrower : ∀ r, ends r → mid r) :
    Settled ends a b p :=
  fun r s left right whole => settled r s (narrower r left) (narrower s right) whole

theorem settledSymm (settled : Settled ends a b p) : Settled ends b a p :=
  fun r s left right whole => (settled s r right left whole.symm).imp id Eq.symm

theorem settledImp (settled : Settled ends a b p) (implied : p → q) : Settled ends a b q :=
  fun r s left right whole => (settled r s left right whole).imp implied id

theorem settledAppend (front : Settled mid a b p) (rear : p → Settled ends c d q)
    (left : ∀ r, ends r → mid (c ++ r)) (right : ∀ r, ends r → mid (d ++ r)) :
    Settled ends (a ++ c) (b ++ d) (p ∧ q) := by
  intro r s first second whole
  rw [List.append_assoc, List.append_assoc] at whole
  obtain ⟨known, tails⟩ := front _ _ (left r first) (right s second) whole
  obtain ⟨more, same⟩ := rear known r s first second tails
  exact ⟨⟨known, more⟩, same⟩

theorem settledBehind (words : Text) (rear : Settled ends c d q) :
    Settled ends (words ++ c) (words ++ d) q := by
  intro r s first second whole
  rw [List.append_assoc, List.append_assoc, List.append_cancel_left_eq] at whole
  exact rear r s first second whole

theorem settledBefore (words : Text) (front : Settled mid a b p) (fits : ∀ r, mid (words ++ r)) :
    Settled ends (a ++ words) (b ++ words) p := by
  have empty : p → Settled ends words words True :=
    fun _ r s _ _ whole => ⟨trivial, List.append_cancel_left whole⟩
  exact settledImp (settledAppend front empty (fun r _ => fits r) (fun r _ => fits r)) And.left

theorem settledWord {α : Type} [DecidableEq α] (word : α → Text)
    (apart : ∀ x y, x ≠ y → differ (word x) (word y) = true) (x y : α) :
    Settled ends (word x) (word y) (x = y) := by
  intro r s _ _ whole
  by_cases same : x = y
  · subst same
    exact ⟨rfl, List.append_cancel_left whole⟩
  · exact absurd whole (differApart (apart x y same) r s)

/-- Words that stand or do not stand, before texts that do not start with them. -/
theorem settledGiven (given taken : Bool) (words : Text) (rear : Settled ends c d q)
    (left : ∀ r s, words ++ s ≠ c ++ r) (right : ∀ r s, words ++ s ≠ d ++ r) :
    Settled ends ((if given then words else []) ++ c) ((if taken then words else []) ++ d)
      (given = taken ∧ q) := by
  intro r s first second whole
  cases given <;> cases taken <;>
    simp only [if_true, if_false, Bool.false_eq_true, List.append_assoc] at whole ⊢
  · simpa using rear r s first second whole
  · exact absurd whole.symm (left r _)
  · exact absurd whole (right s _)
  · simpa using rear r s first second (List.append_cancel_left whole)

theorem settledRun {letter : Char → Bool} (left : ∀ x ∈ a, letter x = true)
    (right : ∀ x ∈ b, letter x = true) : Settled (Avoids letter) a b (a = b) := by
  intro r s first second whole
  have runs := congrArg (List.takeWhile letter) whole
  rw [takeRun left first, takeRun right second] at runs
  subst runs
  exact ⟨rfl, List.append_cancel_left whole⟩

theorem settledEnclosed (quote : Char) (x y : Text) :
    Settled (fun r => r.head? ≠ some quote) (enclosed quote x) (enclosed quote y) (x = y) := by
  intro r s first second whole
  simp only [enclosed, List.cons_append, List.append_assoc, List.nil_append, List.cons.injEq,
    true_and] at whole
  have reads := congrArg (readEnclosed quote) whole
  rw [readEnclosedDoubled quote x r first, readEnclosedDoubled quote y s second] at reads
  simpa using reads

end

theorem fitsMore {ends mid : Text → Prop} {separator : Text} (between : ∀ r, mid (separator ++ r))
    (after : ∀ r, ends r → mid r) (parts : List Text) (r : Text) (allowed : ends r) :
    mid (parts.flatMap (separator ++ ·) ++ r) := by
  cases parts with
  | nil => exact after r allowed
  | cons part more => simpa using between _

section
variable {α β : Type} {ends mid : Text → Prop} {separator : Text} {written : α → Text}
  {meaning : α → β}

theorem settledMore {xs ys : List α}
    (items : ∀ x ∈ xs, ∀ y ∈ ys, Settled mid (written x) (written y) (meaning x = meaning y))
    (between : ∀ r, mid (separator ++ r)) (after : ∀ r, ends r → mid r)
    (apart : ∀ x r s, ends r → r ≠ separator ++ (written x ++ s)) :
    Settled ends ((xs.map written).flatMap (separator ++ ·))
      ((ys.map written).flatMap (separator ++ ·)) (xs.map meaning = ys.map meaning) := by
  -- An item that only one list has would have to start what stands behind the other.
  induction xs generalizing ys with
  | nil =>
    cases ys with
    | nil => exact fun r s _ _ whole => ⟨rfl, whole⟩
    | cons y ys =>
      intro r s first _ whole
      exact absurd (by simpa using whole) (apart y r _ first)
  | cons x xs ih =>
    cases ys with
    | nil =>
      intro r s _ second whole
      exact absurd (by simpa using whole.symm) (apart x s _ second)
    | cons y ys =>
      have heads := items x (by simp) y (by simp)
      have tails := ih fun x inside y (member : y ∈ ys) =>
        items x (List.mem_cons_of_mem _ inside) y (List.mem_cons_of_mem _ member)
      have fits := fitsMore between after
      have both := settledBehind separator
        (settledAppend heads (fun _ => tails) (fits _) (fits _))
      simpa using both

theorem settledItems {x y : α} {xs ys : List α}
    (items : ∀ x' ∈ x :: xs, ∀ y' ∈ y :: ys,
      Settled mid (written x') (written y') (meaning x' = meaning y'))
    (between : ∀ r, mid (separator ++ r)) (after : ∀ r, ends r → mid r)
    (apart : ∀ x r s, ends r → r ≠ separator ++ (written x ++ s)) :
    Settled ends (joined separator ((x :: xs).map written))
      (joined separator ((y :: ys).map written)) ((x :: xs).map meaning = (y :: ys).map meaning) := by
  have heads := items x (by simp) y (by simp)
  have tails := settledMore (fun x inside y member =>
    items x (List.mem_cons_of_mem _ inside) y (List.mem_cons_of_mem _ member))
    between after apart
  have fits := fitsMore between after
  have both := settledAppend heads (fun _ => tails) (fits _) (fits _)
  simpa [joined] using both

theorem joinedAppend {parts : List Text} (given : parts ≠ []) (separator last : Text) :
    joined separator (parts ++ [last]) = joined separator parts ++ (separator ++ last) := by
  cases parts with
  | nil => exact absurd rfl given
  | cons part rest => simp [joined]

theorem settledJoined {xs ys : List α}
    (items : ∀ x ∈ xs, ∀ y ∈ ys, Settled mid (written x) (written y) (meaning x = meaning y))
    (between : ∀ r, mid (separator ++ r)) (after : ∀ r, ends r → mid r)
    (apart : ∀ x r s, ends r → r ≠ separator ++ (written x ++ s))
    (filled : ∀ x r s, ends r → r ≠ written x ++ s) :
    Settled ends (joined separator (xs.map written)) (joined separator (ys.map written))
      (xs.map meaning = ys.map meaning) := by
  cases xs with
  | nil =>
    cases ys with
    | nil => exact fun r s _ _ whole => ⟨rfl, whole⟩
    | cons y ys =>
      intro r s first _ whole
      exact absurd (by simpa [joined] using whole) (filled y r _ first)
  | cons x xs =>
    cases ys with
    | nil =>
      intro r s _ second whole
      exact absurd (by simpa [joined] using whole.symm) (filled x s _ second)
    | cons y ys => exact settledItems items between after apart

end

end CqlSchema.Text
