import CqlSchema.Proofs.Document.Options

/-! The records of a schema read where they were written. Each comes back with the fields it had, but for
its types, which are parsed again, and the floats in its options. -/
namespace CqlSchema

open Document
open Json (Output)

def Column.ReadAs (column read : Column) : Prop :=
  ∃ type, DataType.parse (String.ofList column.type.text) = .ok type ∧ read = { column with type }

def Table.ReadAs (levels : Nat) (table read : Table) : Prop :=
  OptionValue.entriesDepth table.options ≤ levels ∧
    ∃ columns, List.Forall₂ Column.ReadAs table.columns columns ∧
      read = { table with columns, options := OptionValue.returnedEntries table.options }

def Keyspace.ReadAs (levels : Nat) (keyspace read : Keyspace) : Prop :=
  OptionValue.entriesDepth keyspace.options ≤ levels ∧
    read = { keyspace with options := OptionValue.returnedEntries keyspace.options }

def Index.ReadAs (levels : Nat) (index read : Index) : Prop :=
  OptionValue.entriesDepth index.options ≤ levels ∧
    read = { index with options := OptionValue.returnedEntries index.options }

structure Schema.ReadAs (levels : Nat) (schema read : Schema) : Prop where
  keyspaces : List.Forall₂ (Keyspace.ReadAs levels) schema.keyspaces read.keyspaces
  tables : List.Forall₂ (Table.ReadAs levels) schema.tables read.tables
  indexes : List.Forall₂ (Index.ReadAs levels) schema.indexes read.indexes

namespace Document

theorem readListEach {α β : Type} {read : JsonNode → Except String β} {output : α → Output}
    {relation : α → β → Prop} {levels : Nat}
    (each : ∀ x y, read (nodeOf levels (output x)) = .ok y ↔ relation x y) (xs : List α) (ys : List β) :
    readList read (nodeOf (levels + 1) (.array (xs.map output))) = .ok ys ↔
      List.Forall₂ relation xs ys := by
  have items : readList read (nodeOf (levels + 1) (.array (xs.map output))) =
      xs.mapM fun x => read (nodeOf levels (output x)) := by
    rw [readList, nodeOf, Output.value, itemValuesMap]
    change (List.map _ (List.map _ (List.map output xs))).mapM read = _
    rw [List.mapM_map, List.mapM_map, List.mapM_map]
    rfl
  simp only [items, mappedEach, each]

theorem foldList {α β σ : Type} {fields : List (Field (Except String) JsonNode σ)} {levels : Nat}
    {node : JsonNode} {name : String} {value found : σ} {read : JsonNode → Except String β}
    {output : α → Output} {relation : α → β → Prop} {xs : List α} (put : List β → σ)
    (each : ∀ x y, read (nodeOf levels (output x)) = .ok y ↔ relation x y)
    (reads : ∀ output, readMember fields (levels + 1) node value (name, output) =
      (readList read (nodeOf (levels + 1) output)).map put) :
    readMember fields (levels + 1) node value (name, .array (xs.map output)) = .ok found ↔
      ∃ ys, List.Forall₂ relation xs ys ∧ found = put ys := by
  simp only [reads, transformedOk, readListEach each]

theorem optionalName {α : Type} (name : String) (output : α → Output) (given : Option α) :
    ((optionalMember name output given).map (·.1)).Sublist [name] := by
  cases given <;> simp [optionalMember]

theorem optionsName (options : Options) :
    ((optionsMember options).map (·.1)).Sublist ["options"] := by
  cases options <;> simp [optionsMember]

theorem readOrdinal (ordinal : UInt32) (levels : Nat) :
    readOptional Source.ordinal (nodeOf levels (Column.ordinalOutput ordinal)) =
      (.ok (some ordinal) : Except String (Option UInt32)) := by
  have size : ordinal.toNat < UInt32.size := ordinal.toNat_lt
  have value : (Int64.ofNat ordinal.toNat).toInt = ordinal.toNat :=
    Int64.toInt_ofNat_of_lt (Nat.lt_trans size (by decide))
  have inRange : (decide (0 ≤ (ordinal.toNat : Int)) && decide ((ordinal.toNat : Int) < UInt32.size)) =
      true := by
    simp only [Bool.and_eq_true, decide_eq_true_eq]
    omega
  have read : JsonNode.ordinal (nodeOf levels (Column.ordinalOutput ordinal)) = .ok ordinal := by
    rw [Column.ordinalOutput, nodeOf, Output.value, value]
    simp only [JsonNode.ordinal, inRange, if_true, Int.toNat_natCast, UInt32.ofNat_toNat]
  change some <$> JsonNode.ordinal (nodeOf levels (Column.ordinalOutput ordinal)) = _
  rw [read]
  rfl

theorem readTypeText (owner : JsonNode) (levels : Nat) (type : DataType) :
    readTypeFor owner (nodeOf levels type.output) =
      (DataType.parse (String.ofList type.text)).mapError TypeError.message := by
  have text : readText (nodeOf levels type.output) =
      (.ok (String.ofList type.text) : Except String String) := rfl
  rw [readTypeFor, text]
  simp only [bind, Except.bind]
  cases DataType.parse (String.ofList type.text) <;> rfl

variable {node : JsonNode} {levels : Nat}

theorem columnDistinct (column : Column) : (column.members.map (·.1)).Nodup := by
  have inOrder : (column.members.map (·.1)).Sublist ["name", "type", "key", "ordinal", "ordering"] := by
    simp only [Column.members, List.map_append]
    exact (((List.Sublist.refl ["name", "type"]).append (optionalName "key" _ _)).append
      (optionalName "ordinal" _ _)).append (optionalName "ordering" _ _)
  exact inOrder.nodup (by decide)

theorem columnComplete (column : Column) :
    ∀ field ∈ (columnFields : List (Field (Except String) JsonNode Column)), field.required = true →
      field.name ∈ column.members.map (·.1) := by
  simp [columnFields, Column.members]

theorem columnFold (column : Column) {type : DataType}
    (parsed : DataType.parse (String.ofList column.type.text) = .ok type) :
    column.members.foldlM (readMember columnFields levels node) { name := "", type := .native .text } =
      .ok { column with type } := by
  obtain ⟨name, written, role, ordinal, ordering⟩ := column
  have first : readMember columnFields levels node { name := "", type := .native .text }
      ("name", .string name) = .ok { name, type := .native .text } := rfl
  have second : readMember columnFields levels node { name, type := .native .text }
      ("type", written.output) = .ok { name, type } := by
    change (readTypeFor node (nodeOf levels written.output) >>= fun type =>
      pure ({ name, type } : Column)) = _
    rw [readTypeText, parsed]
    rfl
  have third : (optionalMember "key" KeyRole.output role).foldlM (readMember columnFields levels node)
      { name, type } = .ok { name, type, key := role } :=
    foldOptional (fun key => ({ name, type, key } : Column)) rfl fun role => by cases role <;> rfl
  have fourth : (optionalMember "ordinal" Column.ordinalOutput ordinal).foldlM
      (readMember columnFields levels node) { name, type, key := role } =
        .ok { name, type, key := role, ordinal } := by
    refine foldOptional (fun ordinal => ({ name, type, key := role, ordinal } : Column)) rfl
      fun ordinal => ?_
    change (do
      let ordinal ← readOptional Source.ordinal (nodeOf levels (Column.ordinalOutput ordinal))
      pure ({ name, type, key := role, ordinal } : Column)) = _
    rw [readOrdinal]
    rfl
  have fifth : (optionalMember "ordering" Direction.output ordering).foldlM
      (readMember columnFields levels node) { name, type, key := role, ordinal } =
        .ok { name, type, key := role, ordinal, ordering } :=
    foldOptional (fun ordering => ({ name, type, key := role, ordinal, ordering } : Column)) rfl
      fun direction => by cases direction <;> rfl
  simp only [Column.members, List.foldlM_append, List.foldlM_cons, List.foldlM_nil, first, second,
    third, fourth, fifth, bind, Except.bind, pure, Except.pure]

theorem columnRefused (column : Column) {error : TypeError}
    (refused : DataType.parse (String.ofList column.type.text) = .error error) :
    column.members.foldlM (readMember columnFields levels node) { name := "", type := .native .text } =
      .error error.message := by
  have second (start : Column) : readMember columnFields levels node start ("type", column.type.output) =
      .error error.message := by
    change (readTypeFor node (nodeOf levels column.type.output) >>= fun type =>
      pure { start with type }) = _
    rw [readTypeText, refused]
    rfl
  simp only [Column.members, List.cons_append, List.foldlM_cons, second]
  rfl

theorem readColumnReturned (levels : Nat) (column read : Column) :
    readColumn (nodeOf (levels + 1) column.output) = .ok read ↔ column.ReadAs read := by
  rw [Column.output, readColumn, readRecordMembers (columnDistinct column) (columnComplete column)]
  cases parsed : DataType.parse (String.ofList column.type.text) with
  | ok type =>
    rw [columnFold column parsed]
    simp [Column.ReadAs, parsed, eq_comm]
  | error error =>
    rw [columnRefused column parsed]
    simp [Column.ReadAs, parsed]

theorem tableDistinct (table : Table) : (table.members.map (·.1)).Nodup := by
  have inOrder : (table.members.map (·.1)).Sublist
      ["keyspace", "name", "ifNotExists", "columns", "options"] := by
    simp only [Table.members, List.map_append]
    exact ((optionalName "keyspace" _ _).append (List.Sublist.refl ["name", "ifNotExists", "columns"])).append
      (optionsName table.options)
  exact inOrder.nodup (by decide)

theorem readTableReturned (levels : Nat) (table read : Table) :
    readTable (nodeOf (levels + 3) table.output) = .ok read ↔ table.ReadAs (levels + 1) read := by
  rw [Table.output, readTable, readRecordMembers (tableDistinct table) (by simp [tableFields])]
  generalize nodeOf (levels + 2 + 1) (.object table.members) = node
  obtain ⟨keyspace, name, ifNotExists, columns, options⟩ := table
  have first : (optionalMember "keyspace" Output.string keyspace).foldlM
      (readMember tableFields (levels + 2) node) {} = .ok { keyspace } :=
    foldOptional (fun keyspace => ({ keyspace } : Table)) rfl fun _ => rfl
  have second : readMember tableFields (levels + 2) node { keyspace } ("name", .string name) =
      .ok { keyspace, name } := rfl
  have third : readMember tableFields (levels + 2) node { keyspace, name }
      ("ifNotExists", .boolean ifNotExists) = .ok { keyspace, name, ifNotExists } := rfl
  have fourth (found : Table) : readMember tableFields (levels + 2) node { keyspace, name, ifNotExists }
      ("columns", .array (columns.map Column.output)) = .ok found ↔
        ∃ read, List.Forall₂ Column.ReadAs columns read ∧
          found = { keyspace, name, ifNotExists, columns := read } :=
    foldList (fun columns => ({ keyspace, name, ifNotExists, columns } : Table))
      (readColumnReturned levels) fun _ => rfl
  have fifth (found : List Column) : (optionsMember options).foldlM
      (readMember tableFields (levels + 2) node) { keyspace, name, ifNotExists, columns := found } =
        .ok read ↔ OptionValue.entriesDepth options ≤ levels + 1 ∧ read =
          { keyspace, name, ifNotExists, columns := found,
            options := OptionValue.returnedEntries options } := by
    refine foldOptions (fun options =>
      ({ keyspace, name, ifNotExists, columns := found, options } : Table)) rfl fun output => ?_
    rfl
  simp only [Table.members, List.foldlM_append, List.foldlM_cons, List.foldlM_nil, first, second, third,
    boundOk, fourth, Except.ok.injEq, exists_eq_left', Table.ReadAs]
  constructor
  · rintro ⟨_, ⟨_, ⟨found, each, rfl⟩, ⟨⟩⟩, last⟩
    obtain ⟨shallow, rfl⟩ := (fifth found).mp last
    exact ⟨shallow, found, each, rfl⟩
  · rintro ⟨shallow, found, each, rfl⟩
    exact ⟨_, ⟨_, ⟨found, each, rfl⟩, rfl⟩, (fifth found).mpr ⟨shallow, rfl⟩⟩

theorem keyspaceDistinct (keyspace : Keyspace) : (keyspace.members.map (·.1)).Nodup := by
  have inOrder : (keyspace.members.map (·.1)).Sublist ["name", "ifNotExists", "options"] := by
    simp only [Keyspace.members, List.map_append]
    exact (List.Sublist.refl ["name", "ifNotExists"]).append (optionsName keyspace.options)
  exact inOrder.nodup (by decide)

theorem readKeyspaceReturned (levels : Nat) (keyspace read : Keyspace) :
    readKeyspace (nodeOf (levels + 2) keyspace.output) = .ok read ↔ keyspace.ReadAs levels read := by
  rw [Keyspace.output, readKeyspace,
    readRecordMembers (keyspaceDistinct keyspace) (by simp [keyspaceFields])]
  generalize nodeOf (levels + 1 + 1) (.object keyspace.members) = node
  obtain ⟨name, ifNotExists, options⟩ := keyspace
  have first : readMember keyspaceFields (levels + 1) node {} ("name", .string name) =
      .ok { name } := rfl
  have second : readMember keyspaceFields (levels + 1) node { name }
      ("ifNotExists", .boolean ifNotExists) = .ok { name, ifNotExists } := rfl
  have third : (optionsMember options).foldlM (readMember keyspaceFields (levels + 1) node)
      { name, ifNotExists } = .ok read ↔ OptionValue.entriesDepth options ≤ levels ∧
        read = { name, ifNotExists, options := OptionValue.returnedEntries options } :=
    foldOptions (fun options => ({ name, ifNotExists, options } : Keyspace)) rfl fun _ => rfl
  simp only [Keyspace.members, List.foldlM_append, List.foldlM_cons, List.foldlM_nil, first, second,
    boundOk, pure, Except.pure, Except.ok.injEq, exists_eq_left', third, Keyspace.ReadAs]

theorem indexDistinct (index : Index) : (index.members.map (·.1)).Nodup := by
  have inOrder : (index.members.map (·.1)).Sublist
      ["keyspace", "name", "table", "column", "target", "using", "ifNotExists", "options"] := by
    simp only [Index.members, List.map_append]
    exact (((((optionalName "keyspace" _ _).append (optionalName "name" _ _)).append
      (List.Sublist.refl ["table", "column", "target"])).append (optionalName "using" _ _)).append
      (List.Sublist.refl ["ifNotExists"])).append (optionsName index.options)
  exact inOrder.nodup (by decide)

theorem readIndexReturned (levels : Nat) (index read : Index) :
    readIndex (nodeOf (levels + 2) index.output) = .ok read ↔ index.ReadAs levels read := by
  rw [Index.output, readIndex, readRecordMembers (indexDistinct index) (by simp [indexFields])]
  generalize nodeOf (levels + 1 + 1) (.object index.members) = node
  obtain ⟨keyspace, name, table, column, target, customClass, ifNotExists, options⟩ := index
  have first : (optionalMember "keyspace" Output.string keyspace).foldlM
      (readMember indexFields (levels + 1) node) {} = .ok { keyspace } :=
    foldOptional (fun keyspace => ({ keyspace } : Index)) rfl fun _ => rfl
  have second : (optionalMember "name" Output.string name).foldlM
      (readMember indexFields (levels + 1) node) { keyspace } = .ok { keyspace, name } :=
    foldOptional (fun name => ({ keyspace, name } : Index)) rfl fun _ => rfl
  have third : [("table", Output.string table), ("column", .string column),
      ("target", target.output)].foldlM (readMember indexFields (levels + 1) node) { keyspace, name } =
        .ok { keyspace, name, table, column, target } := by
    cases target <;> rfl
  have fourth : (optionalMember "using" Output.string customClass).foldlM
      (readMember indexFields (levels + 1) node) { keyspace, name, table, column, target } =
        .ok { keyspace, name, table, column, target, customClass } :=
    foldOptional (fun customClass =>
      ({ keyspace, name, table, column, target, customClass } : Index)) rfl fun _ => rfl
  have fifth : [("ifNotExists", Output.boolean ifNotExists)].foldlM
      (readMember indexFields (levels + 1) node)
        { keyspace, name, table, column, target, customClass } =
          .ok { keyspace, name, table, column, target, customClass, ifNotExists } := rfl
  have sixth : (optionsMember options).foldlM (readMember indexFields (levels + 1) node)
      { keyspace, name, table, column, target, customClass, ifNotExists } = .ok read ↔
        OptionValue.entriesDepth options ≤ levels ∧
          read = { keyspace, name, table, column, target, customClass, ifNotExists,
                   options := OptionValue.returnedEntries options } :=
    foldOptions (fun options =>
      ({ keyspace, name, table, column, target, customClass, ifNotExists, options } : Index)) rfl
      fun _ => rfl
  simp only [Index.members, List.foldlM_append, first, second, third, fourth, fifth, boundOk,
    Except.ok.injEq, exists_eq_left', sixth, Index.ReadAs]

theorem readSchemaReturned (levels : Nat) (schema read : Schema) :
    readSchema (nodeOf (levels + 5) schema.output) = .ok read ↔ schema.ReadAs (levels + 1) read := by
  obtain ⟨keyspaces, tables, indexes⟩ := schema
  rw [Schema.output, readSchema, readRecordMembers (by simp) (by simp [schemaFields])]
  generalize nodeOf (levels + 4 + 1) (.object _) = node
  have first (found : Schema) : readMember schemaFields (levels + 4) node {}
      ("keyspaces", .array (keyspaces.map Keyspace.output)) = .ok found ↔
        ∃ read, List.Forall₂ (Keyspace.ReadAs (levels + 1)) keyspaces read ∧
          found = { keyspaces := read } :=
    foldList (fun keyspaces => ({ keyspaces } : Schema)) (readKeyspaceReturned (levels + 1))
      fun _ => rfl
  have second (before : List Keyspace) (found : Schema) :
      readMember schemaFields (levels + 4) node { keyspaces := before }
        ("tables", .array (tables.map Table.output)) = .ok found ↔
          ∃ read, List.Forall₂ (Table.ReadAs (levels + 1)) tables read ∧
            found = { keyspaces := before, tables := read } :=
    foldList (fun tables => ({ keyspaces := before, tables } : Schema)) (readTableReturned levels)
      fun _ => rfl
  have third (before : List Keyspace) (between : List Table) (found : Schema) :
      readMember schemaFields (levels + 4) node { keyspaces := before, tables := between }
        ("indexes", .array (indexes.map Index.output)) = .ok found ↔
          ∃ read, List.Forall₂ (Index.ReadAs (levels + 1)) indexes read ∧
            found = { keyspaces := before, tables := between, indexes := read } :=
    foldList (fun indexes => ({ keyspaces := before, tables := between, indexes } : Schema))
      (readIndexReturned (levels + 1)) fun _ => rfl
  simp only [List.foldlM_cons, List.foldlM_nil, boundOk, first]
  constructor
  · rintro ⟨_, ⟨before, eachKeyspace, rfl⟩, _, between, _, last, ⟨⟩⟩
    obtain ⟨tablesRead, eachTable, rfl⟩ := (second before _).mp between
    obtain ⟨indexesRead, eachIndex, rfl⟩ := (third before tablesRead _).mp last
    exact ⟨eachKeyspace, eachTable, eachIndex⟩
  · rintro ⟨eachKeyspace, eachTable, eachIndex⟩
    exact ⟨_, ⟨_, eachKeyspace, rfl⟩, _, (second _ _).mpr ⟨_, eachTable, rfl⟩, _,
      (third _ _ _).mpr ⟨_, eachIndex, rfl⟩, rfl⟩

end Document
end CqlSchema
