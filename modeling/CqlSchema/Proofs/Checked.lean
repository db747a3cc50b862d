import CqlSchema.DefinitionError
import Mathlib.Data.List.Forall2

/-! Checks that run one after the other, the value behind them, and the two checks that statements
begin with. -/
namespace CqlSchema

theorem boundOk {ε α β : Type} {first : Except ε α} {next : α → Except ε β} {value : β} :
    (first >>= next) = .ok value ↔ ∃ x, first = .ok x ∧ next x = .ok value := by
  cases first <;> simp [bind, Except.bind]

theorem transformedOk {ε α β : Type} {first : Except ε α} {f : α → β} {value : β} :
    first.map f = .ok value ↔ ∃ x, first = .ok x ∧ value = f x := by
  cases first <;> simp [Except.map, eq_comm]

theorem thenOk {ε β : Type} {first : Except ε Unit} {next : Except ε β} {value : β} :
    (do first; next) = .ok value ↔ first = .ok () ∧ next = .ok value := by
  cases first <;> simp [bind, Except.bind]

theorem unlessOk {ε β : Type} {fault : Prop} [Decidable fault] {error : ε} {next : Except ε β}
    {value : β} :
    (do if fault then Except.error error
        next : Except ε β) = .ok value ↔ ¬fault ∧ next = .ok value := by
  by_cases holds : fault <;> simp [holds, bind, Except.bind]

theorem boundError {ε α β : Type} {first : Except ε α} {next : α → Except ε β} {error : ε} :
    (first >>= next) = .error error ↔
      first = .error error ∨ ∃ x, first = .ok x ∧ next x = .error error := by
  cases first <;> simp [bind, Except.bind]

theorem thenError {ε β : Type} {first : Except ε Unit} {next : Except ε β} {error : ε} :
    (do first; next) = .error error ↔
      first = .error error ∨ first = .ok () ∧ next = .error error := by
  cases first <;> simp [bind, Except.bind]

theorem unlessError {ε β : Type} {fault : Prop} [Decidable fault] {refusal error : ε}
    {next : Except ε β} :
    (do if fault then Except.error refusal
        next : Except ε β) = .error error ↔
      fault ∧ refusal = error ∨ ¬fault ∧ next = .error error := by
  by_cases holds : fault <;> simp [holds, bind, Except.bind]

theorem elseOk {ε β : Type} {fault : Prop} [Decidable fault] {refusal : ε} {next : Except ε β}
    {value : β} :
    (if fault then .error refusal else next) = .ok value ↔ ¬fault ∧ next = .ok value := by
  by_cases holds : fault <;> simp [holds]

theorem elseError {ε β : Type} {fault : Prop} [Decidable fault] {refusal error : ε}
    {next : Except ε β} :
    (if fault then .error refusal else next) = .error error ↔
      fault ∧ refusal = error ∨ ¬fault ∧ next = .error error := by
  by_cases holds : fault <;> simp [holds]

theorem checkedValue {ε α : Type} (check : Except ε Unit) (value : α) :
    (do check; return value) = check.map fun _ => value := by
  cases check <;> rfl

theorem mappedError {ε α β : Type} {f : α → Except ε β} {xs : List α} {error : ε} :
    xs.mapM f = .error error ↔
      ∃ before refused after, xs = before ++ refused :: after ∧
        (∀ x ∈ before, ∃ y, f x = .ok y) ∧ f refused = .error error := by
  induction xs with
  | nil => simp [pure, Except.pure]
  | cons x rest ih =>
    rw [List.mapM_cons]
    cases first : f x with
    | error other =>
      constructor
      · intro failed
        cases failed
        exact ⟨[], x, rest, rfl, by simp, first⟩
      · rintro ⟨before, refused, after, shape, passed, failed⟩
        cases before with
        | nil =>
          cases shape
          cases first.symm.trans failed
          rfl
        | cons y before =>
          cases shape
          obtain ⟨value, found⟩ := passed x List.mem_cons_self
          cases first.symm.trans found
    | ok value =>
      have onward : (do let y ← Except.ok value; let ys ← rest.mapM f; pure (y :: ys)) =
          Except.error error ↔ rest.mapM f = .error error := by
        cases rest.mapM f <;> simp [bind, Except.bind, pure, Except.pure]
      rw [onward, ih]
      constructor
      · rintro ⟨before, refused, after, rfl, passed, failed⟩
        refine ⟨x :: before, refused, after, rfl, fun y inside => ?_, failed⟩
        rcases List.mem_cons.mp inside with rfl | behind
        · exact ⟨value, first⟩
        · exact passed y behind
      · rintro ⟨before, refused, after, shape, passed, failed⟩
        cases before with
        | nil =>
          cases shape
          cases first.symm.trans failed
        | cons y before =>
          cases shape
          exact ⟨before, refused, after, rfl, fun z inside => passed z (by simp [inside]), failed⟩

theorem mappedEach {ε α β : Type} {f : α → Except ε β} {xs : List α} {ys : List β} :
    xs.mapM f = .ok ys ↔ List.Forall₂ (fun x y => f x = .ok y) xs ys := by
  induction xs generalizing ys with
  | nil => cases ys <;> simp [pure, Except.pure]
  | cons x rest ih =>
    rw [List.mapM_cons, boundOk]
    cases ys with
    | nil => simp [boundOk, pure, Except.pure]
    | cons y others => simp [boundOk, pure, Except.pure, ih]

theorem mappedLength {ε α β : Type} {f : α → Except ε β} {xs : List α} {ys : List β}
    (mapped : xs.mapM f = .ok ys) : ys.length = xs.length :=
  (mappedEach.mp mapped).length_eq.symm

theorem mappedOk {ε α β : Type} {f : α → Except ε β} {xs : List α} {ys : List β}
    (mapped : xs.mapM f = .ok ys) : ∀ y ∈ ys, ∃ x ∈ xs, f x = .ok y := by
  have each := mappedEach.mp mapped
  clear mapped
  induction each with
  | nil => simp
  | cons found _ ih =>
    intro y inside
    rcases List.mem_cons.mp inside with rfl | behind
    · exact ⟨_, List.mem_cons_self, found⟩
    · obtain ⟨x, member, same⟩ := ih y behind
      exact ⟨x, List.mem_cons_of_mem _ member, same⟩

theorem mappedTold {ε α β : Type} {f : α → Except ε β} {xs ys : List α} {zs : List β}
    (told : ∀ {x y z}, f x = .ok z → f y = .ok z → x = y) (left : xs.mapM f = .ok zs)
    (right : ys.mapM f = .ok zs) : xs = ys := by
  have each := mappedEach.mp left
  have again := mappedEach.mp right
  clear left right
  induction each generalizing ys with
  | nil =>
    cases again
    rfl
  | cons found _ ih =>
    cases again with
    | cons other others => rw [told found other, ih others]

theorem mappedForall {ε α β : Type} {f : α → Except ε β} {xs : List α} {ys : List β} {p : α → Prop}
    {q : β → Prop} (mapped : xs.mapM f = .ok ys) (same : ∀ {x y}, f x = .ok y → (p x ↔ q y)) :
    (∀ x ∈ xs, p x) ↔ ∀ y ∈ ys, q y := by
  have each := mappedEach.mp mapped
  clear mapped
  induction each with
  | nil => simp
  | cons found _ ih =>
    rw [List.forall_mem_cons, List.forall_mem_cons]
    exact and_congr (same found) ih

theorem mappedAll {ε α β : Type} {f : α → Except ε β} {xs : List α} :
    (∃ ys, xs.mapM f = .ok ys) ↔ ∀ x ∈ xs, ∃ y, f x = .ok y := by
  induction xs with
  | nil => simp [pure, Except.pure]
  | cons x rest ih =>
    rw [List.mapM_cons, List.forall_mem_cons, ← ih]
    simp only [boundOk]
    constructor
    · rintro ⟨_, first, found, others, more, -⟩
      exact ⟨⟨first, found⟩, others, more⟩
    · rintro ⟨⟨first, found⟩, others, more⟩
      exact ⟨_, first, found, others, more, rfl⟩

theorem requireNameOk {name : String} {statement : StatementKind} :
    requireName name statement = .ok () ↔ name ≠ "" := by
  simp [requireName, String.isEmpty_iff]

theorem requireQualifierOk {keyspace : Option String} {statement : StatementKind} :
    requireQualifier keyspace statement = .ok () ↔ keyspace ≠ some "" := by
  simp [requireQualifier]

theorem requireNameError {name : String} {statement : StatementKind} {error : DefinitionError}
    (refused : requireName name statement = .error error) :
    name = "" ∧ error = .missingName statement := by
  rw [requireName, elseError, String.isEmpty_iff] at refused
  rcases refused with ⟨blank, same⟩ | ⟨-, passed⟩
  · exact ⟨blank, same.symm⟩
  · cases passed

theorem requireQualifierError {keyspace : Option String} {statement : StatementKind}
    {error : DefinitionError} (refused : requireQualifier keyspace statement = .error error) :
    keyspace = some "" ∧ error = .emptyIdentifier (.qualifier statement) := by
  rw [requireQualifier, elseError] at refused
  rcases refused with ⟨blank, same⟩ | ⟨-, passed⟩
  · exact ⟨blank, same.symm⟩
  · cases passed

end CqlSchema
