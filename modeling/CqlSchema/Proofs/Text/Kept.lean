import CqlSchema.Proofs.Text.Scan

/-! Which characters a text has outside its quotes. Names and types have small letters there, words
have capital ones, and what is quoted plays no part. -/
namespace CqlSchema.Text

/-- Outside quotes the text has only characters of a class, and no quote is left open. -/
structure Kept (p : Char → Bool) (text : Text) : Prop where
  closed : quotingAfter none text = none
  within : ∀ c ∈ outside none text, p c = true

section
variable {p q : Char → Bool} {first second text : Text}

theorem classApart {c d : Char} (held : p c = true) (other : p d = false) : c ≠ d := by
  intro same
  rw [same, other] at held
  cases held

theorem keptNil : Kept p [] := ⟨rfl, by simp [outside]⟩

theorem keptAppend (front : Kept p first) (rear : Kept p second) : Kept p (first ++ second) where
  closed := by rw [quotingAppend, front.closed, rear.closed]
  within := by
    rw [outsideAppend, front.closed]
    intro c inside
    exact (List.mem_append.mp inside).elim (front.within c) (rear.within c)

theorem keptMono (wider : ∀ c, p c = true → q c = true) (kept : Kept p text) : Kept q text :=
  ⟨kept.closed, fun c inside => wider c (kept.within c inside)⟩

theorem keptExcept {c : Char} (other : p c = false) (kept : Kept p text) :
    Kept (fun d => d != c) text :=
  keptMono (fun _ inside => bne_iff_ne.mpr (classApart inside other)) kept

theorem outsideUnquoted (unquoted : ∀ c ∈ text, isQuote c = false) :
    quotingAfter none text = none ∧ outside none text = text := by
  induction text with
  | nil => exact ⟨rfl, rfl⟩
  | cons c rest ih =>
    obtain ⟨first, others⟩ := List.forall_mem_cons.mp unquoted
    obtain ⟨closed, same⟩ := ih others
    have step : quotingStep none c = none := by simp [quotingStep, first]
    refine ⟨?_, by simp [outside, step, same]⟩
    simpa [quotingAfter, step] using closed

theorem keptUnquoted (inside : ∀ c ∈ text, p c = true) (single : p '\'' = false)
    (double : p '"' = false) : Kept p text := by
  have unquoted : ∀ c ∈ text, isQuote c = false := by
    intro c member
    rw [isQuote, Bool.or_eq_false_iff, beq_eq_false_iff_ne, beq_eq_false_iff_ne]
    exact ⟨classApart (inside c member) single, classApart (inside c member) double⟩
  obtain ⟨closed, same⟩ := outsideUnquoted unquoted
  exact ⟨closed, by rwa [same]⟩

theorem keptWords (inside : text.all (fun c => p c && !isQuote c) = true) : Kept p text := by
  simp only [List.all_eq_true, Bool.and_eq_true, Bool.not_eq_true'] at inside
  obtain ⟨closed, same⟩ := outsideUnquoted fun c member => (inside c member).2
  exact ⟨closed, fun c member => (inside c (same ▸ member)).1⟩

theorem keptEnclosed {quote : Char} (isOne : isQuote quote = true) (content : Text) :
    Kept p (enclosed quote content) := by
  obtain ⟨stays, nothing⟩ := insideDoubled isOne content
  have opened : quotingStep none quote = some quote := by simp [quotingStep, isOne]
  have shut : quotingStep (some quote) quote = none := by simp [quotingStep]
  refine ⟨(containedEnclosed isOne content).closed, ?_⟩
  simp [enclosed, outside, opened, outsideAppend, nothing, stays, shut]

theorem keptOptional {given : Prop} [Decidable given] (kept : Kept p text) :
    Kept p (if given then text else []) := by
  split
  · exact kept
  · exact keptNil

theorem keptFlatMap {α : Type} {parts : List α} {written : α → Text}
    (each : ∀ part ∈ parts, Kept p (written part)) : Kept p (parts.flatMap written) := by
  induction parts with
  | nil => exact keptNil
  | cons part rest ih =>
    obtain ⟨head, tail⟩ := List.forall_mem_cons.mp each
    exact keptAppend head (ih tail)

theorem keptJoined {separator : Text} {parts : List Text} (between : Kept p separator)
    (each : ∀ part ∈ parts, Kept p part) : Kept p (joined separator parts) := by
  cases parts with
  | nil => exact keptNil
  | cons part rest =>
    obtain ⟨head, tail⟩ := List.forall_mem_cons.mp each
    exact keptAppend head (keptFlatMap fun other inside => keptAppend between (tail other inside))

end

theorem outsideAt {before behind : Text} {c : Char} (start : quotingAfter none before = none)
    (unquoted : isQuote c = false) : c ∈ outside none (before ++ c :: behind) := by
  rw [outsideAppend, start]
  simp [outside, quotingStep, unquoted]

end CqlSchema.Text
