import CqlSchema.Proofs.Options.Depth
import CqlSchema.Proofs.Statement.Rendering

/-! The options that are written are those that were checked. Only an index writes its options one
level further down, where a flag has no value to stand for it. -/
namespace CqlSchema

namespace Index

theorem checkOk {index : Index} : index.check = .ok () ↔
    requireName index.table .createIndex = .ok () ∧
    requireQualifier index.keyspace .createIndex = .ok () ∧
    ¬index.name = some "" ∧ ¬index.column.isEmpty = true ∧ Options.check index.options = .ok () := by
  rw [check, thenOk, thenOk, unlessOk, unlessOk]

theorem writtenOptionsHeld {index : Index} :
    (∀ entry ∈ index.writtenOptions, entry.2.Held false) ↔
      index.options = [] ∨ (OptionValue.map index.options).Held false := by
  unfold writtenOptions
  cases shape : index.options with
  | nil => simp
  | cons entry rest => simp

theorem writtenOptionsNamed (index : Index) :
    Options.Named Text.sameLetters index.writtenOptions := by
  unfold writtenOptions
  split
  · exact ⟨by simp [Options.names], by simp [Options.names]⟩
  · exact ⟨by simp [Options.names], by simp [Options.names]⟩

theorem writtenOptionsPass {index : Index} (checked : Options.check index.options = .ok ()) :
    Options.check index.writtenOptions = .ok () ↔ ∀ entry ∈ index.options, entry.2 ≠ .flag := by
  obtain ⟨named, held⟩ := Options.checkOk.mp checked
  rw [Options.checkOk, writtenOptionsHeld, OptionValue.heldMap]
  constructor
  · rintro ⟨-, empty | ⟨-, inside⟩⟩
    · simp [empty]
    · exact fun entry member => OptionValue.heldGiven (inside entry member)
  · intro given
    refine ⟨index.writtenOptionsNamed, .inr ⟨Options.namedExactly named, fun entry member => ?_⟩⟩
    exact OptionValue.heldInside (held entry member) (given entry member)

theorem writtenMaps {index : Index} {entries : Options}
    (within : Options.MapWithin index.writtenOptions entries) :
    entries = index.options ∨ Options.MapWithin index.options entries := by
  have only : ∀ {name inner}, (name, OptionValue.map inner) ∈ index.writtenOptions →
      inner = index.options := by
    intro name inner inside
    unfold writtenOptions at inside
    split at inside <;> simp_all
  cases within with
  | here inside => exact .inl (only inside)
  | deeper inside deep => exact .inr (only inside ▸ deep)

end Index

namespace Statement

def givenOptions : Statement → Options
  | createKeyspace keyspace => keyspace.options
  | alterKeyspace alteration => alteration.options
  | createTable table => table.options
  | alterTable alteration => alteration.options
  | createIndex index => index.options
  | drop _ => []

theorem givenOptionsChecked {statement : Statement} (checked : statement.check = .ok ()) :
    Options.check statement.givenOptions = .ok () := by
  cases statement with
  | createKeyspace keyspace => exact (thenOk.mp checked).2
  | alterKeyspace alteration =>
    rw [check, KeyspaceAlteration.check, thenOk, unlessOk] at checked
    obtain ⟨-, -, options⟩ := checked
    exact options
  | createTable table =>
    obtain ⟨-, -, -, -, -, -, -, options⟩ := Table.checkOk.mp checked
    exact options
  | alterTable alteration =>
    rw [check, TableAlteration.check, thenOk, thenOk, thenOk, unlessOk] at checked
    obtain ⟨-, -, -, -, options⟩ := checked
    exact options
  | createIndex index =>
    obtain ⟨-, -, -, -, options⟩ := Index.checkOk.mp checked
    exact options
  | drop removal => rfl

/-- No option of an index is a flag. Flags of other statements stand outside of every map. -/
def FlagsOutsideMaps : Statement → Prop
  | createIndex index => ∀ entry ∈ index.options, entry.2 ≠ .flag
  | createKeyspace _ | alterKeyspace _ | createTable _ | alterTable _ | drop _ => True

theorem renderedMapsNamed {statement : Statement} {entries : Options}
    (checked : statement.check = .ok ())
    (within : Options.MapWithin statement.rendering.options entries) :
    Options.Named (· == ·) entries ∧ ∀ entry ∈ entries, entry.2 = .flag →
      ∃ index, statement = createIndex index ∧ entry ∈ index.options := by
  obtain ⟨named, held⟩ := Options.checkOk.mp (givenOptionsChecked checked)
  have kept : Options.MapWithin statement.givenOptions entries →
      Options.Named (· == ·) entries ∧ ∀ entry ∈ entries, entry.2 = .flag →
        ∃ index, statement = createIndex index ∧ entry ∈ index.options := by
    intro within
    obtain ⟨named, values⟩ := Options.heldWithin held within
    exact ⟨named, fun entry member flag =>
      absurd flag (OptionValue.heldGiven (values entry member))⟩
  cases statement with
  | createIndex index =>
    rcases Index.writtenMaps within with rfl | deep
    · exact ⟨Options.namedExactly named, fun entry member _ => ⟨index, rfl, member⟩⟩
    · exact kept deep
  | drop removal => cases within <;> contradiction
  | createKeyspace _ | alterKeyspace _ | createTable _ | alterTable _ => exact kept within

theorem renderedOptionsPassIff {statement : Statement} (checked : statement.check = .ok ()) :
    statement.text = .ok (Options.terminated statement.rendering.body statement.rendering.leading
      statement.rendering.options) ∧
    (Options.check statement.rendering.options = .ok () ↔ statement.FlagsOutsideMaps) ∧
    ∀ entries, Options.MapWithin statement.rendering.options entries →
      (Options.names entries).Nodup ∧ ∀ entry ∈ entries, entry.1 ≠ "" ∧
        (entry.2 = .flag → ∃ index, statement = createIndex index ∧ entry ∈ index.options) := by
  have passed := givenOptionsChecked checked
  refine ⟨textOk.mpr ⟨checked, rfl⟩, ?_, fun entries within => ?_⟩
  · cases statement with
    | createIndex index => exact Index.writtenOptionsPass passed
    | createKeyspace _ | alterKeyspace _ | createTable _ | alterTable _ | drop _ =>
      exact iff_of_true passed trivial
  · obtain ⟨named, flags⟩ := renderedMapsNamed checked within
    refine ⟨Options.namedNodup named, fun entry member => ⟨?_, flags entry member⟩⟩
    exact named.given entry.1 (List.mem_map_of_mem member)

theorem nestedIndexOptionsPass :
    let analyzer : Options := [("Mode", .text "x"), ("mode", .integer 2)]
    let index : Index :=
      { table := "users", column := "bio", customClass := some "C",
        options := [("analyzer", .map analyzer), ("case", .boolean true)] }
    (createIndex index).check = .ok () ∧
      Options.check (createIndex index).rendering.options = .ok () ∧
      Options.MapWithin (createIndex index).rendering.options analyzer ∧
      (Options.names analyzer).Nodup := by
  intro analyzer index
  have named : Options.Named (· == ·) analyzer :=
    ⟨by simp [analyzer, Options.names], by simp [analyzer, Options.names]⟩
  have held : Options.check index.options = .ok () := by
    refine Options.checkOk.mpr ⟨⟨by simp [index, Options.names], ?_⟩, ?_⟩
    · simp [index, Options.names, show Text.sameLetters "analyzer" "case" = false from rfl]
    · simp only [index, List.forall_mem_cons, List.not_mem_nil, false_implies, implies_true,
        and_true]
      exact ⟨.map named (by simp [analyzer, OptionValue.Held.text, OptionValue.Held.integer]),
        .boolean true⟩
  have checked : (createIndex index).check = .ok () :=
    Index.checkOk.mpr ⟨rfl, rfl, by simp [index], by simp [index], held⟩
  have within : Options.MapWithin (createIndex index).rendering.options analyzer :=
    .deeper (.head _) (.here (.head _))
  obtain ⟨-, passes, maps⟩ := renderedOptionsPassIff checked
  exact ⟨checked, passes.mpr (by simp [FlagsOutsideMaps, index]), within, (maps analyzer within).1⟩

/-- A flag among the options of an index stands in a map, where it has no value. -/
theorem indexFlagWrittenWithoutValue :
    let index : Index := { table := "users", column := "bio", options := [("mode", .flag)] }
    (createIndex index).check = .ok () ∧
      (createIndex index).text =
        .ok "CREATE INDEX ON users (bio) WITH OPTIONS = \x7b'mode': \x7d;".toList ∧
      Options.check (createIndex index).rendering.options =
        .error (.invalidOptionValue ["OPTIONS", "mode"] .flagInMap) ∧
      Options.MapWithin (createIndex index).rendering.options [("mode", .flag)] :=
  ⟨rfl, rfl, rfl, .here (.head _)⟩

end Statement
end CqlSchema
