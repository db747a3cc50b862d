import CqlSchema.Proofs.Plan
import CqlSchema.Proofs.Statement.Unambiguous

/-! What the drops of a schema depend on: its names, and nothing else of it. A table is dropped however
unsound its columns are. In turn a script of drops tells every name that is declared. -/
namespace CqlSchema

theorem Removal.told {first second : Removal} {text : Text}
    (left : (Statement.drop first).text = .ok text)
    (right : (Statement.drop second).text = .ok text) : first = second := by
  obtain ⟨-, written⟩ := Statement.textOk.mp left
  obtain ⟨-, again⟩ := Statement.textOk.mp right
  rw [Statement.textClauses] at written again
  have whole := written.trans again.symm
  have kinds : first.kind = second.kind := Statement.tellsKind whole
  exact (Removal.settledBody kinds _ _ (tailEndsBody _) (tailEndsBody _) whole).1

namespace Schema

/-- The two schemas declare the same names in the same order. An index that has no name goes by the
one it is given by default. -/
structure NamedAlike (first second : Schema) : Prop where
  keyspaces : first.keyspaces.map (·.name) = second.keyspaces.map (·.name)
  tables : first.tables.map (fun table => (table.keyspace, table.name)) =
    second.tables.map fun table => (table.keyspace, table.name)
  indexes : first.indexes.map (fun index => (index.keyspace, index.effectiveName)) =
    second.indexes.map fun index => (index.keyspace, index.effectiveName)

/-- What is declared, in the order in which it is dropped. -/
def dropped (schema : Schema) : List SchemaObject :=
  (schema.indexes.map Index.object).reverse ++ (schema.tables.map Table.object).reverse ++
    (schema.keyspaces.map Keyspace.object).reverse

def removalText (object : SchemaObject) : Except DefinitionError Text :=
  (Statement.drop { object, ifExists := true }).text

theorem scriptDrop (schema : Schema) : schema.script .drop = schema.dropped.mapM removalText := by
  have planned : schema.plan .drop =
      schema.dropped.map fun object => .drop { object, ifExists := true } := by
    simp [plan, Action.drops, Action.creates, removals, dropped]
  rw [script, planned, List.mapM_map]
  rfl

theorem droppedByNames {first second : Schema} (alike : NamedAlike first second) :
    first.dropped = second.dropped := by
  have keyspaces := congrArg (List.map SchemaObject.keyspace) alike.keyspaces
  have tables := congrArg (List.map fun name => SchemaObject.table ⟨name.1, name.2⟩) alike.tables
  have indexes := congrArg (List.map fun name => SchemaObject.index ⟨name.1, name.2⟩) alike.indexes
  rw [List.map_map, List.map_map] at keyspaces tables indexes
  exact congrArg₂ (· ++ ·)
    (congrArg₂ (· ++ ·) (congrArg List.reverse indexes) (congrArg List.reverse tables))
    (congrArg List.reverse keyspaces)

/-- The names of the objects of one kind. -/
def namesOf (kind : StatementKind) (objects : List SchemaObject) : List (Option String × String) :=
  (objects.filter (·.removalKind = kind)).map fun object =>
    (object.qualifiedName.keyspace, object.qualifiedName.name)

theorem namesOfAppend (kind : StatementKind) (first second : List SchemaObject) :
    namesOf kind (first ++ second) = namesOf kind first ++ namesOf kind second := by
  simp [namesOf]

theorem namesOfKind {α : Type} (declared : List α) {object : α → SchemaObject}
    {kind : StatementKind} (each : ∀ x, (object x).removalKind = kind) :
    namesOf kind (declared.map object).reverse =
      (declared.map fun x =>
        ((object x).qualifiedName.keyspace, (object x).qualifiedName.name)).reverse := by
  simp [namesOf, List.filter_map, Function.comp_def, each]

theorem namesOfOther {α : Type} (declared : List α) {object : α → SchemaObject}
    {kind other : StatementKind} (each : ∀ x, (object x).removalKind = other)
    (apart : other ≠ kind) : namesOf kind (declared.map object).reverse = [] := by
  simp [namesOf, List.filter_map, Function.comp_def, each, apart]

theorem namesDropped (schema : Schema) :
    namesOf .dropIndex schema.dropped =
      (schema.indexes.map fun index => (index.keyspace, index.effectiveName)).reverse ∧
    namesOf .dropTable schema.dropped =
      (schema.tables.map fun table => (table.keyspace, table.name)).reverse ∧
    namesOf .dropKeyspace schema.dropped =
      (schema.keyspaces.map fun keyspace => (none, keyspace.name)).reverse := by
  have index : ∀ index : Index, index.object.removalKind = .dropIndex := fun _ => rfl
  have table : ∀ table : Table, table.object.removalKind = .dropTable := fun _ => rfl
  have keyspace : ∀ keyspace : Keyspace, keyspace.object.removalKind = .dropKeyspace :=
    fun _ => rfl
  simp only [dropped, namesOfAppend]
  refine ⟨?_, ?_, ?_⟩
  · rw [namesOfKind _ index, namesOfOther _ table (by decide), namesOfOther _ keyspace (by decide),
      List.append_nil, List.append_nil]
    rfl
  · rw [namesOfOther _ index (by decide), namesOfKind _ table, namesOfOther _ keyspace (by decide),
      List.nil_append, List.append_nil]
    rfl
  · rw [namesOfOther _ index (by decide), namesOfOther _ table (by decide), namesOfKind _ keyspace,
      List.nil_append, List.nil_append]
    rfl

theorem alikeOfDropped {first second : Schema} (same : first.dropped = second.dropped) :
    NamedAlike first second := by
  obtain ⟨indexes, tables, keyspaces⟩ := first.namesDropped
  obtain ⟨others, relations, spaces⟩ := second.namesDropped
  rw [same] at indexes tables keyspaces
  have named := List.reverse_inj.mp (keyspaces.symm.trans spaces)
  refine ⟨?_, List.reverse_inj.mp (tables.symm.trans relations),
    List.reverse_inj.mp (indexes.symm.trans others)⟩
  simpa [Function.comp_def] using congrArg (List.map Prod.snd) named

theorem removalTextOk {object : SchemaObject} :
    (∃ text, removalText object = .ok text) ↔
      object.qualifiedName.name ≠ "" ∧ object.qualifiedName.keyspace ≠ some "" := by
  have checked : Removal.check { object, ifExists := true } = .ok () ↔ _ := Removal.checkOk
  rw [← checked]
  constructor
  · intro written
    obtain ⟨text, written⟩ := written
    exact (Statement.textOk.mp written).1
  · intro passed
    exact ⟨_, Statement.droppedText passed⟩

theorem scriptDropOk {schema : Schema} :
    (∃ script, schema.script .drop = .ok script) ↔
      (∀ keyspace ∈ schema.keyspaces, keyspace.name ≠ "") ∧
      (∀ table ∈ schema.tables, table.name ≠ "" ∧ table.keyspace ≠ some "") ∧
      ∀ index ∈ schema.indexes, index.name ≠ some "" ∧ index.keyspace ≠ some "" := by
  have keyspace : ∀ keyspace : Keyspace, (∃ text, removalText keyspace.object = .ok text) ↔
      keyspace.name ≠ "" := by
    intro keyspace
    rw [removalTextOk]
    simp [Keyspace.object, SchemaObject.qualifiedName]
  have table : ∀ table : Table, (∃ text, removalText table.object = .ok text) ↔
      table.name ≠ "" ∧ table.keyspace ≠ some "" := fun _ => removalTextOk
  have index : ∀ index : Index, (∃ text, removalText index.object = .ok text) ↔
      index.name ≠ some "" ∧ index.keyspace ≠ some "" := by
    intro index
    rw [removalTextOk]
    exact and_congr_left' (not_congr Index.effectiveNameEmpty)
  rw [scriptDrop, mappedAll]
  simp only [dropped, List.forall_mem_append, List.mem_reverse, List.forall_mem_map, keyspace, table,
    index]
  exact ⟨fun each => ⟨each.2, each.1.2, each.1.1⟩, fun each => ⟨⟨each.2.2, each.2.1⟩, each.1⟩⟩

theorem dropsGoByNames :
    (∀ first second : Schema, NamedAlike first second →
      first.script .drop = second.script .drop) ∧
    (∀ (first second : Schema) (script : List Text), first.script .drop = .ok script →
      second.script .drop = .ok script → NamedAlike first second) ∧
    ∀ schema : Schema, (∃ script, schema.script .drop = .ok script) ↔
      (∀ keyspace ∈ schema.keyspaces, keyspace.name ≠ "") ∧
      (∀ table ∈ schema.tables, table.name ≠ "" ∧ table.keyspace ≠ some "") ∧
      ∀ index ∈ schema.indexes, index.name ≠ some "" ∧ index.keyspace ≠ some "" := by
  refine ⟨fun first second alike => ?_, fun first second script left right => ?_,
    fun _ => scriptDropOk⟩
  · rw [scriptDrop, scriptDrop, droppedByNames alike]
  · rw [scriptDrop] at left right
    refine alikeOfDropped (mappedTold (fun written again => ?_) left right)
    exact congrArg Removal.object (Removal.told written again)

/-- A table without columns cannot be created, and the two indexes are on different columns. -/
theorem unsoundTableDroppedAlike :
    let sound : Schema :=
      { keyspaces := [{ name := "Shop" }],
        tables :=
          [{ keyspace := some "Shop", name := "a_b",
             columns := [{ name := "id", type := .native .uuid, key := some .partition }] }],
        indexes := [{ keyspace := some "Shop", table := "a_b", column := "c" }] }
    let unsound : Schema :=
      { keyspaces := [{ name := "Shop", ifNotExists := true }],
        tables := [{ keyspace := some "Shop", name := "a_b" }],
        indexes := [{ keyspace := some "Shop", table := "a", column := "b_c" }] }
    let script := ["DROP INDEX IF EXISTS \"Shop\".a_b_c_idx;".toList,
      "DROP TABLE IF EXISTS \"Shop\".a_b;".toList, "DROP KEYSPACE IF EXISTS \"Shop\";".toList]
    NamedAlike sound unsound ∧ unsound.script .create = .error (.noColumns "a_b") ∧
      sound.script .drop = .ok script ∧ unsound.script .drop = .ok script ∧
      ∀ table ∈ unsound.tables, table.name ≠ "" ∧ table.keyspace ≠ some "" := by
  intro sound unsound script
  obtain ⟨same, told, dropped⟩ := dropsGoByNames
  have sameNames : NamedAlike sound unsound := ⟨rfl, rfl, rfl⟩
  have written : sound.script .drop = .ok script := by rfl
  have again : unsound.script .drop = .ok script := (same sound unsound sameNames).symm.trans written
  exact ⟨told sound unsound script written again, rfl, written, again,
    ((dropped unsound).mp ⟨script, again⟩).2.1⟩

end Schema
end CqlSchema
