import CqlSchema.Options.Check
import CqlSchema.Proofs.Checked
import CqlSchema.Proofs.Options.Setting
import Mathlib.Data.List.Nodup

/-! What the check of options says of every map inside them, however deep. It does not depend on where
the options stand, except that a flag may stand at the top only. -/
namespace CqlSchema

namespace Options

/-- The names are given, and no two of them are the same. -/
structure Named (same : String → String → Bool) (options : Options) : Prop where
  given : ∀ name ∈ names options, name ≠ ""
  distinct : (names options).Pairwise fun first second => same first second = false

inductive MapWithin : Options → Options → Prop
  | here {options entries : Options} {name : String} (inside : (name, .map entries) ∈ options) :
      MapWithin options entries
  | deeper {options entries inner : Options} {name : String}
      (inside : (name, .map entries) ∈ options) (deep : MapWithin entries inner) :
      MapWithin options inner

theorem firstRepeatedNone {same : String → String → Bool} {earlier list : List String} :
    firstRepeated? same earlier list = none ↔
      (∀ name ∈ list, ∀ other ∈ earlier, same other name = false) ∧
        list.Pairwise fun first second => same first second = false := by
  induction list generalizing earlier with
  | nil => simp [firstRepeated?]
  | cons name rest ih =>
    by_cases repeated : earlier.any (same · name) = true
    · obtain ⟨other, inside, equal⟩ := List.any_eq_true.mp repeated
      simp only [firstRepeated?, repeated, if_true, reduceCtorEq, false_iff, not_and]
      intro apart
      exact absurd (apart name List.mem_cons_self other inside) (by simp [equal])
    · have fresh : ∀ other ∈ earlier, same other name = false := by simpa using repeated
      simp only [firstRepeated?, repeated, Bool.false_eq_true, if_false, ih, List.mem_append,
        List.mem_singleton, List.forall_mem_cons, List.pairwise_cons]
      constructor
      · rintro ⟨apart, distinct⟩
        exact ⟨⟨fresh, fun next inside other before => apart next inside other (.inl before)⟩,
          fun next inside => apart next inside name (.inr rfl), distinct⟩
      · rintro ⟨⟨-, apart⟩, first, distinct⟩
        refine ⟨fun next inside other before => ?_, distinct⟩
        rcases before with before | rfl
        · exact apart next inside other before
        · exact first next inside

theorem checkNamesOk {same : String → String → Bool} {path : OptionPath} {options : Options} :
    checkNames same path options = .ok () ↔ Named same options := by
  unfold checkNames
  by_cases empty : (names options).any (·.isEmpty) = true
  · simp only [empty, if_true, reduceCtorEq, false_iff]
    obtain ⟨name, inside, blank⟩ := List.any_eq_true.mp empty
    exact fun named => named.given name inside (String.isEmpty_iff.mp blank)
  · have given : ∀ name ∈ names options, name ≠ "" := by
      rintro name inside rfl
      exact empty (List.any_eq_true.mpr ⟨"", inside, rfl⟩)
    simp only [empty, Bool.false_eq_true, if_false]
    cases repeated : firstRepeated? same [] (names options) with
    | none => exact iff_of_true rfl ⟨given, (firstRepeatedNone.mp repeated).2⟩
    | some name =>
      refine iff_of_false nofun fun named => ?_
      have unrepeated : firstRepeated? same [] (names options) = none :=
        firstRepeatedNone.mpr ⟨by simp, named.distinct⟩
      rw [repeated] at unrepeated
      cases unrepeated

theorem checkValuesOk {path : OptionPath} {options : Options} :
    checkValues path options = .ok () ↔
      ∀ entry ∈ options, checkValue (path ++ [entry.1]) (!path.isEmpty) entry.2 = .ok () := by
  induction options with
  | nil => simp [checkValues]
  | cons entry rest ih => simp [checkValues, thenOk, ih]

end Options

namespace OptionValue

/-- The value can stand for an option, or for an entry of a map. -/
inductive Held : Bool → OptionValue → Prop
  | flag : Held false .flag
  | text {insideMap : Bool} (value : String) : Held insideMap (.text value)
  | integer {insideMap : Bool} (value : Int64) : Held insideMap (.integer value)
  | float {insideMap : Bool} {value : Float} (finite : Decimal.isFinite value = true) :
      Held insideMap (.float value)
  | boolean {insideMap : Bool} (value : Bool) : Held insideMap (.boolean value)
  | map {insideMap : Bool} {entries : Options} (named : Options.Named (· == ·) entries)
      (held : ∀ entry ∈ entries, Held true entry.2) : Held insideMap (.map entries)

theorem heldMap {insideMap : Bool} {entries : Options} :
    Held insideMap (.map entries) ↔
      Options.Named (· == ·) entries ∧ ∀ entry ∈ entries, Held true entry.2 := by
  constructor
  · rintro (_ | _ | _ | _ | _ | ⟨named, held⟩)
    exact ⟨named, held⟩
  · rintro ⟨named, held⟩
    exact .map named held

theorem heldInside {value : OptionValue} (held : value.Held false) (given : value ≠ .flag) :
    value.Held true := by
  cases held with
  | flag => exact absurd rfl given
  | text value => exact .text value
  | integer value => exact .integer value
  | float finite => exact .float finite
  | boolean value => exact .boolean value
  | map named held => exact .map named held

theorem heldGiven {value : OptionValue} (held : value.Held true) : value ≠ .flag := by
  rintro rfl
  cases held

theorem checkValueOk {path : OptionPath} {insideMap : Bool} {value : OptionValue}
    (placed : path ≠ []) :
    Options.checkValue path insideMap value = .ok () ↔ value.Held insideMap := by
  induction value using inductOn generalizing path insideMap with
  | flag =>
    cases insideMap with
    | true => simpa [Options.checkValue] using fun held : Held true .flag => heldGiven held rfl
    | false => simpa [Options.checkValue] using Held.flag
  | text value => simpa [Options.checkValue] using Held.text value
  | integer value => simpa [Options.checkValue] using Held.integer value
  | boolean value => simpa [Options.checkValue] using Held.boolean value
  | float value =>
    simp only [Options.checkValue, ite_eq_left_iff, reduceCtorEq, imp_false, not_not]
    constructor
    · exact .float
    · rintro (_ | _ | _ | finite)
      exact finite
  | map entries ih =>
    have inside : (!path.isEmpty) = true := by simpa using placed
    rw [Options.checkValue, thenOk, Options.checkNamesOk, Options.checkValuesOk, heldMap, inside]
    refine and_congr_right fun _ => forall₂_congr fun entry member => ?_
    exact ih entry member (by simp)

end OptionValue

namespace Options

theorem checkOk {options : Options} :
    check options = .ok () ↔
      Named Text.sameLetters options ∧ ∀ entry ∈ options, entry.2.Held false := by
  rw [check, thenOk, checkNamesOk, checkValuesOk]
  refine and_congr_right fun _ => forall₂_congr fun entry _ => ?_
  exact OptionValue.checkValueOk (by simp)

theorem namedExactly {options : Options} (named : Named Text.sameLetters options) :
    Named (· == ·) options := by
  refine ⟨named.given, named.distinct.imp fun {first second} apart => ?_⟩
  rw [beq_eq_false_iff_ne]
  rintro rfl
  simp [Text.sameLetters] at apart

theorem namedNodup {options : Options} (named : Named (· == ·) options) :
    (names options).Nodup :=
  named.distinct.imp fun apart => by simpa using apart

/-- A map that holds stands over maps that hold, and so on down. -/
theorem heldWithin {options entries : Options} {insideMap : Bool}
    (held : ∀ entry ∈ options, entry.2.Held insideMap) (within : MapWithin options entries) :
    Named (· == ·) entries ∧ ∀ entry ∈ entries, entry.2.Held true := by
  induction within generalizing insideMap with
  | here inside => exact OptionValue.heldMap.mp (held _ inside)
  | deeper inside deep ih => exact ih (OptionValue.heldMap.mp (held _ inside)).2

end Options
end CqlSchema
