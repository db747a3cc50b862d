import CqlSchema.Proofs.DataType.RoundTrip
import CqlSchema.Proofs.Document.Records

/-! A schema written as a JSON document and read again. It comes back as it was if and only if its options
nest no deeper than the reader goes, every float in them is finite, and the text of every type of a column
is parsed as that type. -/
namespace CqlSchema

open Document

namespace Schema

def optionLists (schema : Schema) : List Options :=
  schema.keyspaces.map (·.options) ++ schema.tables.map (·.options) ++ schema.indexes.map (·.options)

/-- No option has more than so many maps around one another. -/
def NestsWithin (levels : Nat) (schema : Schema) : Prop :=
  ∀ options ∈ schema.optionLists, OptionValue.entriesDepth options ≤ levels

def FloatsFinite (schema : Schema) : Prop :=
  ∀ options ∈ schema.optionLists, ∀ entry ∈ options, entry.2.Finite

def TypesReadBack (schema : Schema) : Prop :=
  ∀ table ∈ schema.tables, ∀ column ∈ table.columns,
    DataType.parse (String.ofList column.type.text) = .ok column.type

end Schema

theorem eachBack {α : Type} [BEq α] {relation : α → α → Prop} (xs : List α) :
    (∃ ys, List.Forall₂ relation xs ys ∧ (ys == xs) = true) ↔
      ∀ x ∈ xs, ∃ y, relation x y ∧ (y == x) = true := by
  induction xs with
  | nil => simp
  | cons x rest ih =>
    rw [List.forall_mem_cons, ← ih]
    constructor
    · rintro ⟨_, _ | ⟨first, others⟩, equal⟩
      rw [List.cons_beq_cons, Bool.and_eq_true] at equal
      exact ⟨⟨_, first, equal.1⟩, _, others, equal.2⟩
    · rintro ⟨⟨y, first, same⟩, ys, others, equal⟩
      exact ⟨y :: ys, .cons first others, by rw [List.cons_beq_cons, same, equal]; rfl⟩

theorem optionsBack (options : Options) :
    (OptionValue.returnedEntries options == options) = true ↔ ∀ entry ∈ options, entry.2.Finite := by
  rw [OptionValue.sameEntriesIff, OptionValue.returnedEntriesSame]

namespace Column

theorem same (first second : Column) :
    (first == second) = (first.name == second.name && (first.type == second.type &&
      (first.key == second.key && (first.ordinal == second.ordinal &&
        first.ordering == second.ordering)))) := rfl

theorem back (column : Column) :
    (∃ read, column.ReadAs read ∧ (read == column) = true) ↔
      DataType.parse (String.ofList column.type.text) = .ok column.type := by
  constructor
  · rintro ⟨_, ⟨type, parsed, rfl⟩, equal⟩
    simp only [same, beq_self_eq_true, Bool.and_true, Bool.true_and, beq_iff_eq] at equal
    rw [parsed, equal]
  · intro parsed
    exact ⟨column, ⟨_, parsed, rfl⟩, by simp [same]⟩

end Column

namespace Keyspace

theorem same (first second : Keyspace) :
    (first == second) = (first.name == second.name && (first.ifNotExists == second.ifNotExists &&
      first.options == second.options)) := rfl

theorem back (levels : Nat) (keyspace : Keyspace) :
    (∃ read, keyspace.ReadAs levels read ∧ (read == keyspace) = true) ↔
      OptionValue.entriesDepth keyspace.options ≤ levels ∧
        ∀ entry ∈ keyspace.options, entry.2.Finite := by
  simp only [ReadAs, and_assoc, exists_and_left, exists_eq_left, same, beq_self_eq_true, Bool.true_and,
    optionsBack]

end Keyspace

namespace Index

theorem same (first second : Index) :
    (first == second) = (first.keyspace == second.keyspace && (first.name == second.name &&
      (first.table == second.table && (first.column == second.column &&
        (first.target == second.target && (first.customClass == second.customClass &&
          (first.ifNotExists == second.ifNotExists && first.options == second.options))))))) := rfl

theorem back (levels : Nat) (index : Index) :
    (∃ read, index.ReadAs levels read ∧ (read == index) = true) ↔
      OptionValue.entriesDepth index.options ≤ levels ∧ ∀ entry ∈ index.options, entry.2.Finite := by
  simp only [ReadAs, and_assoc, exists_and_left, exists_eq_left, same, beq_self_eq_true, Bool.true_and,
    optionsBack]

end Index

namespace Table

theorem same (first second : Table) :
    (first == second) = (first.keyspace == second.keyspace && (first.name == second.name &&
      (first.ifNotExists == second.ifNotExists && (first.columns == second.columns &&
        first.options == second.options)))) := rfl

theorem back (levels : Nat) (table : Table) :
    (∃ read, table.ReadAs levels read ∧ (read == table) = true) ↔
      (OptionValue.entriesDepth table.options ≤ levels ∧
        ∀ entry ∈ table.options, entry.2.Finite) ∧
      ∀ column ∈ table.columns,
        DataType.parse (String.ofList column.type.text) = .ok column.type := by
  simp only [← Column.back, ← eachBack]
  constructor
  · rintro ⟨_, ⟨shallow, columns, each, rfl⟩, equal⟩
    simp only [same, beq_self_eq_true, Bool.true_and, Bool.and_eq_true, optionsBack] at equal
    exact ⟨⟨shallow, equal.2⟩, columns, each, equal.1⟩
  · rintro ⟨⟨shallow, finite⟩, columns, each, equal⟩
    refine ⟨_, ⟨shallow, columns, each, rfl⟩, ?_⟩
    simp only [same, beq_self_eq_true, Bool.true_and, equal, optionsBack]
    exact finite

end Table

namespace Schema

theorem same (first second : Schema) :
    (first == second) = (first.keyspaces == second.keyspaces && (first.tables == second.tables &&
      first.indexes == second.indexes)) := rfl

theorem forallOptions {schema : Schema} {holds : Options → Prop} :
    (∀ options ∈ schema.optionLists, holds options) ↔
      (∀ keyspace ∈ schema.keyspaces, holds keyspace.options) ∧
        (∀ table ∈ schema.tables, holds table.options) ∧
          ∀ index ∈ schema.indexes, holds index.options := by
  simp only [optionLists, List.mem_append, or_imp, forall_and, List.forall_mem_map, and_assoc]

theorem back (levels : Nat) (schema : Schema) :
    (∃ read, schema.ReadAs levels read ∧ (read == schema) = true) ↔
      schema.NestsWithin levels ∧ schema.FloatsFinite ∧ schema.TypesReadBack := by
  have parts : (∃ read, schema.ReadAs levels read ∧ (read == schema) = true) ↔
      (∃ read, List.Forall₂ (Keyspace.ReadAs levels) schema.keyspaces read ∧
        (read == schema.keyspaces) = true) ∧
      (∃ read, List.Forall₂ (Table.ReadAs levels) schema.tables read ∧
        (read == schema.tables) = true) ∧
      ∃ read, List.Forall₂ (Index.ReadAs levels) schema.indexes read ∧
        (read == schema.indexes) = true := by
    constructor
    · rintro ⟨read, ⟨keyspaces, tables, indexes⟩, equal⟩
      simp only [same, Bool.and_eq_true] at equal
      exact ⟨⟨_, keyspaces, equal.1⟩, ⟨_, tables, equal.2.1⟩, _, indexes, equal.2.2⟩
    · rintro ⟨⟨keyspaces, eachKeyspace, first⟩, ⟨tables, eachTable, second⟩, indexes, eachIndex, third⟩
      refine ⟨⟨keyspaces, tables, indexes⟩, ⟨eachKeyspace, eachTable, eachIndex⟩, ?_⟩
      rw [same, first, second, third]
      rfl
  rw [parts]
  simp only [eachBack, Keyspace.back, Table.back, Index.back, NestsWithin, FloatsFinite, TypesReadBack,
    forallOptions, forall_and]
  tauto

theorem readAsItself {levels : Nat} {schema : Schema} (shallow : schema.NestsWithin levels)
    (finite : schema.FloatsFinite) (types : schema.TypesReadBack) : schema.ReadAs levels schema := by
  obtain ⟨keyspacesShallow, tablesShallow, indexesShallow⟩ := forallOptions.mp shallow
  obtain ⟨keyspacesFinite, tablesFinite, indexesFinite⟩ := forallOptions.mp finite
  refine ⟨?_, ?_, ?_⟩
  · refine List.forall₂_same.mpr fun keyspace member => ⟨keyspacesShallow keyspace member, ?_⟩
    rw [OptionValue.returnedEntriesFinite _ (keyspacesFinite keyspace member)]
  · refine List.forall₂_same.mpr fun table member =>
      ⟨tablesShallow table member, table.columns, ?_, ?_⟩
    · exact List.forall₂_same.mpr fun column inside => ⟨_, types table member column inside, rfl⟩
    · rw [OptionValue.returnedEntriesFinite _ (tablesFinite table member)]
  · refine List.forall₂_same.mpr fun index member => ⟨indexesShallow index member, ?_⟩
    rw [OptionValue.returnedEntriesFinite _ (indexesFinite index member)]

theorem jsonRead (schema read : Schema) :
    ofJsonText readSchema schema.json = .ok read ↔ schema.ReadAs 123 read := by
  rw [← readSchemaReturned 122, ofJsonText, json, Json.Output.textRead]
  change (readSchema (nodeOf 127 schema.output)).mapError _ = _ ↔ _
  cases readSchema (nodeOf 127 schema.output) <;> simp [Except.mapError]

/-- A schema comes back from its JSON document as an equal one exactly if its options nest no deeper than
the reader goes, all its floats are finite and all its types are read back from their texts. Then it
comes back as it was. -/
theorem jsonReadsBack (schema : Schema) :
    ((∃ read, ofJsonText readSchema schema.json = .ok read ∧ (read == schema) = true) ↔
      schema.NestsWithin 123 ∧ schema.FloatsFinite ∧ schema.TypesReadBack) ∧
    (schema.NestsWithin 123 ∧ schema.FloatsFinite ∧ schema.TypesReadBack →
      ofJsonText readSchema schema.json = .ok schema) := by
  constructor
  · simp only [jsonRead]
    exact back 123 schema
  · rintro ⟨shallow, finite, types⟩
    exact (jsonRead schema schema).mpr (readAsItself shallow finite types)

theorem repeatedOptionsReadBack :
    let compaction := OptionValue.map
      [("class", .text "Leveled"), ("ratio", .float 0.1), ("class", .flag)]
    let events : Table :=
      { name := "events",
        columns := [{ name := "tags", type := .map (.native .text) (.frozen (.list (.native .int))) }],
        options := [("compaction", compaction), ("compaction", .integer 1)] }
    let schema : Schema := { tables := [events] }
    ofJsonText readSchema schema.json = .ok schema := by
  intro compaction events schema
  have shallow : schema.NestsWithin 123 := by
    simp [NestsWithin, optionLists, schema, events, compaction, OptionValue.entriesDepth,
      OptionValue.depth]
  have finite : schema.FloatsFinite := by
    simp only [FloatsFinite, ← optionsBack]
    decide +kernel
  have types : schema.TypesReadBack := by
    simp only [TypesReadBack, schema, events, List.forall_mem_singleton]
    exact DataType.parseOwnText (by simp [DataType.Readable])
  exact (jsonReadsBack schema).2 ⟨shallow, finite, types⟩

end Schema
end CqlSchema
