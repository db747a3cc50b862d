import CqlSchema.Proofs.Json.Floats

/-! What is written is read back as it was, but for a float that is no number: it is read as null. -/
namespace CqlSchema.Json

theorem readsInteger (value : Int64) : Reads (Decimal.integer value.toInt) (.integer value.toInt) := by
  have low := value.le_toInt
  have high := value.toInt_lt
  rw [← NumberParts.ofIntegerText]
  exact readsNumber (NumberParts.ofIntegerFormed _) (NumberParts.integerMeant low (by omega))

namespace Output

mutual

def value : Output → Json
  | .null => .null
  | .boolean value => .boolean value
  | .integer value => .integer value.toInt
  | .float value => if Decimal.isFinite value then .float value else .null
  | .string value => .string (.ok value)
  | .array items => .array (itemValues items)
  | .object members => .object (memberValues members)

def itemValues : List Output → List Json
  | [] => []
  | item :: rest => value item :: itemValues rest

def memberValues : List (String × Output) → List (JsonString × Json)
  | [] => []
  | (name, item) :: rest => (.ok name, value item) :: memberValues rest

end

theorem readsFloatText (x : Float) :
    Reads (writeFloat x) (if Decimal.isFinite x then .float x else .null) := by
  split
  · exact readsFloat ‹_›
  · rename_i unfinite
    have noText : Decimal.json? x = none := by
      unfold Decimal.json?
      split
      · rename_i shape
        simp [Decimal.isFinite, shape] at unfinite
      · rfl
    rw [writeFloat, noText]
    exact readsNull

mutual

theorem reads : ∀ output : Output, Reads output.text output.value
  | .null => readsNull
  | .boolean value => readsBoolean value
  | .integer value => readsInteger value
  | .float value => by rw [text, Output.value]; exact readsFloatText value
  | .string value => readsString value
  | .array items => by rw [text, value]; exact readsArray (itemsRead items)
  | .object members => by rw [text, value]; exact readsObject (membersRead members)

theorem itemsRead : ∀ items : List Output, List.Forall₂ Reads (itemTexts items) (itemValues items)
  | [] => .nil
  | item :: rest => by rw [itemTexts, itemValues]; exact .cons (reads item) (itemsRead rest)

theorem membersRead : ∀ members : List (String × Output),
    List.Forall₂ MemberReads (memberTexts members) (memberValues members)
  | [] => .nil
  | (name, output) :: rest => by
    rw [memberTexts, memberValues]
    exact .cons (.named name (reads output)) (membersRead rest)

end

theorem textRead (output : Output) : read? output.text = some output.value :=
  readWhole output.reads

end Output
end CqlSchema.Json
