import CqlSchema.Command.Run
import CqlSchema.Proofs.Statement.WrittenOptions
import Mathlib

/-! Which scripts a schema has. Whatever can be created can be dropped, so a schema that checks has a
script for every action, and the command line answers accordingly. -/
namespace CqlSchema

/-- The name that an index gets when it has none is never empty. -/
theorem Index.effectiveNameEmpty {index : Index} :
    index.effectiveName = "" ↔ index.name = some "" := by
  unfold effectiveName
  cases index.name with
  | some name => simp
  | none => simp

namespace Removal

theorem checkOk {removal : Removal} : removal.check = .ok () ↔
    removal.object.qualifiedName.name ≠ "" ∧ removal.object.qualifiedName.keyspace ≠ some "" := by
  rw [check, thenOk, requireNameOk, requireQualifierOk]

theorem ofKeyspace {keyspace : Keyspace} {ifExists : Bool} (checked : keyspace.check = .ok ()) :
    check { object := keyspace.object, ifExists } = .ok () := by
  rw [Keyspace.check, thenOk, requireNameOk] at checked
  exact checkOk.mpr ⟨checked.1, by simp [Keyspace.object, SchemaObject.qualifiedName]⟩

theorem ofTable {table : Table} {ifExists : Bool} (checked : table.check = .ok ()) :
    check { object := table.object, ifExists } = .ok () := by
  obtain ⟨named, qualified, -⟩ := Table.checkOk.mp checked
  exact checkOk.mpr ⟨requireNameOk.mp named, requireQualifierOk.mp qualified⟩

theorem ofIndex {index : Index} {ifExists : Bool} (checked : index.check = .ok ()) :
    check { object := index.object, ifExists } = .ok () := by
  obtain ⟨-, qualified, given, -⟩ := Index.checkOk.mp checked
  have named : index.effectiveName ≠ "" := fun empty => given (Index.effectiveNameEmpty.mp empty)
  exact checkOk.mpr ⟨named, requireQualifierOk.mp qualified⟩

end Removal

namespace Schema

theorem scriptOk {schema : Schema} {action : Action} :
    (∃ script, schema.script action = .ok script) ↔
      ∀ statement ∈ schema.plan action, statement.check = .ok () := by
  rw [script, mappedAll]
  refine forall₂_congr fun statement _ => ?_
  simp [Statement.textOk]

theorem removalsChecked {schema : Schema}
    (checked : ∀ statement ∈ schema.creations, statement.check = .ok ()) :
    ∀ statement ∈ schema.removals, statement.check = .ok () := by
  intro statement inside
  simp only [removals, List.map_append, List.map_map, List.map_reverse, List.mem_append,
    List.mem_reverse, List.mem_map, Function.comp_apply] at inside
  simp only [creations, List.mem_append, List.mem_map] at checked
  rcases inside with (⟨index, member, rfl⟩ | ⟨table, member, rfl⟩) | ⟨keyspace, member, rfl⟩
  · exact Removal.ofIndex (checked (.createIndex index) (.inr ⟨index, member, rfl⟩))
  · exact Removal.ofTable (checked (.createTable table) (.inl (.inr ⟨table, member, rfl⟩)))
  · exact Removal.ofKeyspace
      (checked (.createKeyspace keyspace) (.inl (.inl ⟨keyspace, member, rfl⟩)))

theorem scriptNone (schema : Schema) : schema.script .none = .ok [] := rfl

theorem scriptRecreate (schema : Schema) : schema.script .recreate = do
    return (← schema.script .drop) ++ (← schema.script .create) := by
  simp [script, plan, Action.drops, Action.creates, List.mapM_append]

theorem scriptsOfCreation {schema : Schema} {creation : List Text}
    (created : schema.script .create = .ok creation) :
    schema.script .none = .ok [] ∧ ∃ removal, schema.script .drop = .ok removal ∧
      schema.script .recreate = .ok (removal ++ creation) := by
  have checked := scriptOk.mp ⟨creation, created⟩
  simp only [plan, Action.drops, Action.creates, Bool.false_eq_true, if_false, if_true,
    List.nil_append] at checked
  obtain ⟨removal, dropped⟩ : ∃ removal, schema.script .drop = .ok removal := by
    rw [scriptOk]
    simpa [plan, Action.drops, Action.creates] using removalsChecked checked
  refine ⟨schema.scriptNone, removal, dropped, ?_⟩
  rw [scriptRecreate, dropped, created]
  rfl

theorem creationOfRecreation {schema : Schema} {script : List Text}
    (recreated : schema.script .recreate = .ok script) :
    ∃ creation, schema.script .create = .ok creation := by
  rw [scriptRecreate] at recreated
  obtain ⟨removal, -, rest⟩ := boundOk.mp recreated
  obtain ⟨creation, created, -⟩ := boundOk.mp rest
  exact ⟨creation, created⟩

theorem creationLength {schema : Schema} {creation : List Text}
    (created : schema.script .create = .ok creation) :
    creation.length = schema.keyspaces.length + schema.tables.length + schema.indexes.length := by
  rw [mappedLength created]
  simp [plan, Action.drops, Action.creates, creations, Nat.add_assoc]

theorem scriptOfCreation {schema : Schema} {creation : List Text}
    (created : schema.script .create = .ok creation) (action : Action) :
    ∃ script, schema.script action = .ok script := by
  obtain ⟨none, removal, dropped, recreated⟩ := scriptsOfCreation created
  cases action with
  | none => exact ⟨_, none⟩
  | create => exact ⟨_, created⟩
  | recreate => exact ⟨_, recreated⟩
  | drop => exact ⟨_, dropped⟩

end Schema

namespace Command

variable {σ : Type} {system : FileSystem (StateM σ)} {path : String} {state : σ}

theorem generateExits {action : Action} :
    ((generate system path action none).run state).1.exit = 0 ↔
      ∃ schema script, ((Schema.load system path).run state).1 = .ok schema ∧
        schema.script action = .ok script := by
  simp only [generate, StateT.run, bind, StateT.bind]
  rcases Schema.load system path state with ⟨loaded, after⟩
  cases loaded with
  | error error => simp [pure, StateT.pure, failed]
  | ok schema =>
    cases written : schema.script action with
    | error error => simp [pure, StateT.pure, failed, written]
    | ok script => simp [pure, StateT.pure, written]

theorem generateOutcome {action : Action} {schema : Schema} {script : List Text}
    (loaded : ((Schema.load system path).run state).1 = .ok schema)
    (written : schema.script action = .ok script) :
    ((generate system path action none).run state).1.stdout =
      String.ofList (script.flatMap fun statement => statement ++ ['\n']) := by
  simp only [generate, StateT.run, bind, StateT.bind] at loaded ⊢
  rcases shape : Schema.load system path state with ⟨result, after⟩
  rw [shape] at loaded
  cases loaded
  simp only [written]
  rfl

theorem checkExits :
    ((check system path).run state).1.exit = 0 ↔
      ∃ schema creation, ((Schema.load system path).run state).1 = .ok schema ∧
        schema.script .create = .ok creation := by
  simp only [check, StateT.run, bind, StateT.bind]
  rcases Schema.load system path state with ⟨loaded, after⟩
  cases loaded with
  | error error => simp [pure, StateT.pure, failed]
  | ok schema =>
    cases written : schema.script .create with
    | error error => simp [pure, StateT.pure, failed, written]
    | ok script => simp [pure, StateT.pure, written]

theorem countsWritten (path : String) (schema : Schema) (statements : Nat) :
    countsText path schema statements = s!"{path}: {schema.keyspaces.length} keyspace(s), " ++
      s!"{schema.tables.length} table(s), {schema.indexes.length} index(es), " ++
      s!"{statements} statement(s) OK\n" := by
  have keyspaces : " keyspace(s), " = " keyspace(s)" ++ ", " := rfl
  have tables : " table(s), " = " table(s)" ++ ", " := rfl
  have indexes : " index(es), " = " index(es)" ++ ", " := rfl
  simp only [countsText, ToString.toString, keyspaces, tables, indexes, String.append_assoc]

theorem checkOutcome {schema : Schema} {creation : List Text}
    (loaded : ((Schema.load system path).run state).1 = .ok schema)
    (created : schema.script .create = .ok creation) :
    ((check system path).run state).1.stdout =
      s!"{path}: {schema.keyspaces.length} keyspace(s), " ++
      s!"{schema.tables.length} table(s), {schema.indexes.length} index(es), " ++
      s!"{creation.length} statement(s) OK\n" := by
  simp only [check, StateT.run, bind, StateT.bind] at loaded ⊢
  rcases shape : Schema.load system path state with ⟨result, after⟩
  rw [shape] at loaded
  cases loaded
  simp only [created]
  exact countsWritten path schema creation.length

end Command

theorem checkedSchemaHasEveryScript :
    (∀ (schema : Schema) (creation : List Text), schema.script .create = .ok creation →
      schema.script .none = .ok [] ∧ ∃ removal, schema.script .drop = .ok removal ∧
        schema.script .recreate = .ok (removal ++ creation)) ∧
    (∀ (schema : Schema) (script : List Text), schema.script .recreate = .ok script →
      ∃ creation, schema.script .create = .ok creation) ∧
    (∀ (schema : Schema) (action : Action) (error : DefinitionError),
      schema.script action = .error error ↔ ∃ before refused after,
        schema.plan action = before ++ refused :: after ∧
        (∀ statement ∈ before, ∃ text, statement.text = .ok text) ∧
        refused.text = .error error) ∧
    ∀ {σ : Type} (system : Command.FileSystem (StateM σ)) (path : String) (state : σ),
      let checked := ((Command.check system path).run state).1
      let generated (action : Action) := ((Command.generate system path action none).run state).1
      (checked.exit = 0 ↔ (generated .create).exit = 0) ∧
      (checked.exit = 0 → ∃ schema creation,
        ((Schema.load system path).run state).1 = .ok schema ∧
        schema.script .create = .ok creation ∧
        creation.length =
          schema.keyspaces.length + schema.tables.length + schema.indexes.length ∧
        checked.stdout = s!"{path}: {schema.keyspaces.length} keyspace(s), " ++
          s!"{schema.tables.length} table(s), {schema.indexes.length} index(es), " ++
          s!"{creation.length} statement(s) OK\n" ∧
        (generated .create).stdout =
          String.ofList (creation.flatMap fun statement => statement ++ ['\n']) ∧
        ∀ action, (generated action).exit = 0) := by
  refine ⟨fun _ _ => Schema.scriptsOfCreation, fun _ _ => Schema.creationOfRecreation,
    fun _ _ _ => mappedError, fun system path state => ?_⟩
  refine ⟨Command.checkExits.trans Command.generateExits.symm, fun passed => ?_⟩
  obtain ⟨schema, creation, loaded, created⟩ := Command.checkExits.mp passed
  refine ⟨schema, creation, loaded, created, Schema.creationLength created, ?_, ?_, fun action => ?_⟩
  · exact Command.checkOutcome loaded created
  · exact Command.generateOutcome loaded created
  · obtain ⟨script, written⟩ := Schema.scriptOfCreation created action
    exact Command.generateExits.mpr ⟨schema, script, loaded, written⟩

theorem namelessIndexHasEveryScript :
    let schema : Schema := { indexes := [{ table := "t", column := "c" }] }
    let text := "indexes: [\x7btable: t, column: c\x7d]"
    let folder : Command.Folder := ⟨[(["s.yaml"], .bytes text.toUTF8)]⟩
    let creation := ["CREATE INDEX ON t (c);".toList]
    let removal := ["DROP INDEX IF EXISTS t_c_idx;".toList]
    schema.script .create = .ok creation ∧ schema.script .drop = .ok removal ∧
      schema.script .recreate = .ok (removal ++ creation) ∧
      ((Command.check Command.Folder.system "s.yaml").run folder).1.exit = 0 ∧
      ((Command.generate Command.Folder.system "s.yaml" .recreate none).run folder).1.exit = 0 := by
  intro schema text folder creation removal
  have created : schema.script .create = .ok creation := by rfl
  have dropped : schema.script .drop = .ok removal := by rfl
  have loaded : ((Schema.load Command.Folder.system "s.yaml").run folder).1 = .ok schema := by cbv
  obtain ⟨every, -, -, commands⟩ := checkedSchemaHasEveryScript
  obtain ⟨-, found, removed, recreated⟩ := every schema creation created
  cases dropped.symm.trans removed
  obtain ⟨-, onward⟩ := commands Command.Folder.system "s.yaml" folder
  have passed := Command.checkExits.mpr ⟨schema, creation, loaded, created⟩
  obtain ⟨-, -, -, -, -, -, -, exits⟩ := onward passed
  exact ⟨created, dropped, recreated, passed, exits .recreate⟩

end CqlSchema
