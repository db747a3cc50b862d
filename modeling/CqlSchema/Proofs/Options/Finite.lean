import CqlSchema.Options.Basic
import CqlSchema.Proofs.Decimal.Bits

/-! Options that come back from a document as they were written into it: every float in them, however
deep, is finite. Any other float comes back as a flag. -/
namespace CqlSchema.OptionValue

mutual

/-- How many maps stand around one another in a value. -/
def depth : OptionValue → Nat
  | .map entries => entriesDepth entries + 1
  | _ => 0

def entriesDepth : Options → Nat
  | [] => 0
  | (_, value) :: rest => max (depth value) (entriesDepth rest)

end

mutual

/-- What a value is read as where it was written. -/
def returned : OptionValue → OptionValue
  | .flag => .flag
  | .text value => .text value
  | .integer value => .integer value
  | .float value => if Decimal.isFinite value then .float value else .flag
  | .boolean value => .boolean value
  | .map entries => .map (returnedEntries entries)

def returnedEntries : Options → Options
  | [] => []
  | (name, value) :: rest => (name, returned value) :: returnedEntries rest

end

inductive Contains : OptionValue → OptionValue → Prop
  | itself (value : OptionValue) : Contains value value
  | entry {entries : Options} {name : String} {value inner : OptionValue}
      (member : (name, value) ∈ entries) (inside : Contains value inner) :
      Contains (.map entries) inner

def Finite (value : OptionValue) : Prop :=
  ∀ x, value.Contains (.float x) → Decimal.isFinite x = true

theorem finiteScalar {value : OptionValue} (noMap : ∀ entries, value ≠ .map entries)
    (noFloat : ∀ x, value ≠ .float x) : value.Finite := by
  rintro x (_ | ⟨member, inside⟩)
  · exact absurd rfl (noFloat x)
  · exact absurd rfl (noMap _)

theorem finiteFloat {x : Float} : (OptionValue.float x).Finite ↔ Decimal.isFinite x = true := by
  constructor
  · intro finite
    exact finite x (.itself _)
  · rintro finite _ (_ | _)
    exact finite

theorem finiteMap {entries : Options} :
    (OptionValue.map entries).Finite ↔ ∀ entry ∈ entries, entry.2.Finite := by
  constructor
  · intro finite entry member x inside
    exact finite x (.entry member inside)
  · rintro finite x (_ | ⟨member, inside⟩)
    exact finite _ member x inside

mutual

theorem returnedSame : ∀ value : OptionValue, same value.returned value = true ↔ value.Finite
  | .flag => iff_of_true rfl (finiteScalar nofun nofun)
  | .text value => iff_of_true (by simp [returned, same]) (finiteScalar nofun nofun)
  | .integer value => iff_of_true (by simp [returned, same]) (finiteScalar nofun nofun)
  | .boolean value => iff_of_true (by simp [returned, same]) (finiteScalar nofun nofun)
  | .float value => by
    rw [finiteFloat, returned]
    by_cases finite : Decimal.isFinite value = true
    · simp [finite, same, Decimal.beqSelf finite]
    · simp [finite, same]
  | .map entries => by rw [returned, same, returnedEntriesSame entries, finiteMap]

theorem returnedEntriesSame : ∀ entries : Options,
    sameEntries (returnedEntries entries) entries = true ↔ ∀ entry ∈ entries, entry.2.Finite
  | [] => by simp [returnedEntries, sameEntries]
  | (name, value) :: rest => by
    simp only [returnedEntries, sameEntries, beq_self_eq_true, Bool.true_and, Bool.and_eq_true,
      List.forall_mem_cons, returnedSame value, returnedEntriesSame rest]

end

mutual

theorem returnedFinite : ∀ value : OptionValue, value.Finite → value.returned = value
  | .flag, _ => rfl
  | .text _, _ => rfl
  | .integer _, _ => rfl
  | .boolean _, _ => rfl
  | .float value, finite => by rw [returned, if_pos (finiteFloat.mp finite)]
  | .map entries, finite => by rw [returned, returnedEntriesFinite entries (finiteMap.mp finite)]

theorem returnedEntriesFinite : ∀ entries : Options,
    (∀ entry ∈ entries, entry.2.Finite) → returnedEntries entries = entries
  | [], _ => rfl
  | (name, value) :: rest, finite => by
    obtain ⟨first, others⟩ := List.forall_mem_cons.mp finite
    rw [returnedEntries, returnedFinite value first, returnedEntriesFinite rest others]

end

theorem sameEntriesIff (first second : Options) : (first == second) = sameEntries first second := by
  induction first generalizing second with
  | nil => cases second <;> rfl
  | cons entry rest ih =>
    cases second with
    | nil => rfl
    | cons other others =>
      rw [List.cons_beq_cons, ih]
      rfl

end CqlSchema.OptionValue
