import CqlSchema.Document.Declaration
import CqlSchema.Proofs.Document.Members

/-! Options read where they were written. That succeeds as far as maps may stand around one another, and
gives each value as what it is read as, under its name and in its place. -/
namespace CqlSchema.Document

open Json (Output)

def readEntry (fuel : Nat) (entry : JsonNode × JsonNode) : Except String (String × OptionValue) := do
  let name ← readText entry.1
  let value ← readValueWithin fuel entry.2
  pure (name, value)

theorem readScalar {value : OptionValue} (noMap : ∀ entries, value ≠ .map entries) (levels : Nat) :
    readValueWithin (levels + 1) (nodeOf levels value.output) = .ok value.returned := by
  cases value with
  | flag => rfl
  | text value => rfl
  | boolean value => rfl
  | float value =>
    rw [OptionValue.output, OptionValue.returned, nodeOf, Output.value]
    by_cases finite : Decimal.isFinite value = true
    · rw [if_pos finite, if_pos finite]
      rfl
    · rw [if_neg finite, if_neg finite]
      rfl
  | integer value =>
    have fits : value.toInt < 0x8000000000000000 := value.toInt_lt
    rw [OptionValue.output, OptionValue.returned, nodeOf, Output.value]
    change (if value.toInt < 0x8000000000000000 then _ else _) = _
    rw [if_pos fits, Int64.ofInt_toInt]
    rfl
  | map entries => exact absurd rfl (noMap entries)

theorem readScalarReturned {value : OptionValue} (noMap : ∀ entries, value ≠ .map entries)
    (levels : Nat) (read : OptionValue) :
    readValueWithin (levels + 1) (nodeOf levels value.output) = .ok read ↔
      value.depth ≤ levels ∧ read = value.returned := by
  have flat : value.depth = 0 := by
    cases value with
    | map entries => exact absurd rfl (noMap entries)
    | _ => rfl
  rw [readScalar noMap, flat]
  simp [eq_comm]

theorem readMapInside (entries : Options) (levels : Nat) :
    readValueWithin (levels + 2) (nodeOf (levels + 1) (OptionValue.map entries).output) =
      ((memberNodes levels (OptionValue.memberOutputs entries)).mapM (readEntry (levels + 1))).map
        OptionValue.map := by
  rw [OptionValue.output, nodeOf, Output.value, readValueWithin]
  simp only [Source.given, JsonNode.given, membersInside]
  change ((memberNodes levels (OptionValue.memberOutputs entries)).mapM (readEntry (levels + 1)) >>=
    fun entries => pure (OptionValue.map entries)) = _
  cases (memberNodes levels (OptionValue.memberOutputs entries)).mapM (readEntry (levels + 1)) <;> rfl

theorem readMapTooDeep (entries : Options) :
    readValueWithin 1 (nodeOf 0 (OptionValue.map entries).output) = .error nestedTooDeep := by
  rw [OptionValue.output, nodeOf, Output.value]
  rfl

mutual

theorem readValueReturned : ∀ (value : OptionValue) (levels : Nat) (read : OptionValue),
    readValueWithin (levels + 1) (nodeOf levels value.output) = .ok read ↔
      value.depth ≤ levels ∧ read = value.returned
  | .flag, levels, read => readScalarReturned (by simp) levels read
  | .text value, levels, read => readScalarReturned (by simp) levels read
  | .integer value, levels, read => readScalarReturned (by simp) levels read
  | .float value, levels, read => readScalarReturned (by simp) levels read
  | .boolean value, levels, read => readScalarReturned (by simp) levels read
  | .map entries, 0, read => by
    rw [readMapTooDeep]
    simp [OptionValue.depth]
  | .map entries, levels + 1, read => by
    rw [readMapInside, OptionValue.depth, OptionValue.returned, Nat.add_le_add_iff_right]
    simp only [transformedOk, readEntriesReturned entries levels, and_assoc, exists_and_left,
      exists_eq_left]

theorem readEntriesReturned : ∀ (entries : Options) (levels : Nat) (read : Options),
    (memberNodes levels (OptionValue.memberOutputs entries)).mapM (readEntry (levels + 1)) = .ok read ↔
      OptionValue.entriesDepth entries ≤ levels ∧ read = OptionValue.returnedEntries entries
  | [], levels, read => by
    simp [OptionValue.memberOutputs, memberNodes, OptionValue.entriesDepth,
      OptionValue.returnedEntries, pure, Except.pure, eq_comm]
  | (name, value) :: rest, levels, read => by
    have named : readText (nodeOf levels (.string name)) = (.ok name : Except String String) := rfl
    have first (found : String × OptionValue) :
        readEntry (levels + 1) (nodeOf levels (.string name), nodeOf levels value.output) = .ok found ↔
          value.depth ≤ levels ∧ found = (name, value.returned) := by
      rw [readEntry, named, boundOk]
      simp only [Except.ok.injEq, exists_eq_left', boundOk, readValueReturned value levels]
      simp [pure, Except.pure, eq_comm]
    rw [OptionValue.memberOutputs, memberNodes, List.map_cons, ← memberNodes, List.mapM_cons, boundOk,
      OptionValue.entriesDepth, OptionValue.returnedEntries, Nat.max_le]
    simp only [first, boundOk, readEntriesReturned rest levels]
    simp [pure, Except.pure, eq_comm, and_assoc]

end

theorem readOptionsReturned (options : Options) (levels : Nat) (read : Options) :
    readOptions (nodeOf (levels + 1) options.output) = .ok read ↔
      OptionValue.entriesDepth options ≤ levels ∧ read = OptionValue.returnedEntries options := by
  have entries : readOptions (nodeOf (levels + 1) options.output) =
      (memberNodes levels (OptionValue.memberOutputs options)).mapM (readEntry (levels + 1)) := by
    rw [Options.output, nodeOf, Output.value, readOptions]
    simp only [Source.entries, JsonNode.entries, membersInside]
    change (memberNodes levels _).mapM _ = _
    rw [memberNodes, List.mapM_map, List.mapM_map]
    rfl
  rw [entries, readEntriesReturned]

theorem foldOptions {σ : Type} {fields : List (Field (Except String) JsonNode σ)} {levels : Nat}
    {node : JsonNode} {value read : σ} {options : Options} (put : Options → σ) (blank : put [] = value)
    (reads : ∀ output, readMember fields (levels + 1) node value ("options", output) =
      (readOptions (nodeOf (levels + 1) output)).map put) :
    (optionsMember options).foldlM (readMember fields (levels + 1) node) value = .ok read ↔
      OptionValue.entriesDepth options ≤ levels ∧
        read = put (OptionValue.returnedEntries options) := by
  cases options with
  | nil => simp [optionsMember, OptionValue.entriesDepth, OptionValue.returnedEntries, blank, pure,
      Except.pure, eq_comm]
  | cons entry rest =>
    have written : optionsMember (entry :: rest) = [("options", Options.output (entry :: rest))] := rfl
    rw [written, List.foldlM_cons, reads]
    simp only [List.foldlM_nil, bind_pure, transformedOk, readOptionsReturned _ levels, and_assoc,
      exists_and_left, exists_eq_left]

end CqlSchema.Document
