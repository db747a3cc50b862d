import CqlSchema.Proofs.Name
import CqlSchema.Proofs.Script

/-! The order of the planned statements. What is created last is dropped first, and a drop names its
object letter by letter as the statement that creates it. -/
namespace CqlSchema

namespace Text

/-- The characters up to the first blank or semicolon outside double quotes. -/
def identifier (quoted : Bool) : Text → Text
  | [] => []
  | c :: rest =>
    if !quoted && (c == ' ' || c == ';') then []
    else c :: identifier (quoted != (c == '"')) rest

def identifierBehind (opening text : Text) : Option Text :=
  if opening.isPrefixOf text then some (identifier false (text.drop opening.length)) else none

theorem identifierOpened {opening rest : Text} :
    identifierBehind opening (opening ++ rest) = some (identifier false rest) := by
  simp [identifierBehind]

theorem identifierPlain {run rest : Text} (plain : ∀ c ∈ run, Name.isPlainChar c = true) :
    identifier false (run ++ rest) = run ++ identifier false rest := by
  induction run with
  | nil => rfl
  | cons c run ih =>
    obtain ⟨first, others⟩ := List.forall_mem_cons.mp plain
    have other : ∀ d, Name.isPlainChar d = false → (c == d) = false := by
      intro d excluded
      rw [beq_eq_false_iff_ne]
      intro same
      rw [same, excluded] at first
      cases first
    rw [List.cons_append, identifier, other ' ' (by decide), other ';' (by decide),
      other '"' (by decide)]
    simp [ih others]

theorem identifierInside (content rest : Text) :
    identifier true (doubled '"' content ++ '"' :: rest) =
      doubled '"' content ++ '"' :: identifier false rest := by
  induction content with
  | nil => rfl
  | cons c content ih =>
    by_cases same : c = '"'
    · simpa [doubled, same, identifier] using ih
    · have other : (c == '"') = false := beq_eq_false_iff_ne.mpr same
      simpa [doubled, same, identifier, other] using ih

theorem identifierName (name : String) (rest : Text) :
    identifier false (Name.text name ++ rest) = Name.text name ++ identifier false rest := by
  unfold Name.text
  split
  · rename_i plain
    rw [Bool.and_eq_true] at plain
    exact identifierPlain (Name.plainChars plain.1)
  · simp [enclosed, identifier, identifierInside]

theorem identifierQualified (name : QualifiedName) (rest : Text) :
    identifier false (name.text ++ rest) = name.text ++ identifier false rest := by
  obtain ⟨keyspace, name⟩ := name
  cases keyspace with
  | none => exact identifierName name rest
  | some keyspace =>
    have point : ∀ more : Text, identifier false ('.' :: more) = '.' :: identifier false more := by
      intro more
      rfl
    simp only [QualifiedName.text, List.append_assoc, List.cons_append, identifierName, point]

end Text

namespace Statement

/-- The object that a statement brings into being. -/
def creates? : Statement → Option SchemaObject
  | createKeyspace keyspace => some (.keyspace keyspace.name)
  | createTable table => some (.table ⟨table.keyspace, table.name⟩)
  | createIndex index => some (.index ⟨index.keyspace, index.effectiveName⟩)
  | alterKeyspace _ | alterTable _ | drop _ => none

def drops? : Statement → Option SchemaObject
  | drop removal => some removal.object
  | createKeyspace _ | createTable _ | createIndex _ | alterKeyspace _ | alterTable _ => none

/-- A statement that creates an object, turned into the one that drops it if it is there. -/
def undone (statement : Statement) : Statement :=
  match statement.creates? with
  | some object => .drop { object, ifExists := true }
  | none => statement

end Statement

namespace Schema

theorem planCreate (schema : Schema) : schema.plan .create =
    schema.keyspaces.map .createKeyspace ++ schema.tables.map .createTable ++
      schema.indexes.map .createIndex := by
  simp [plan, creations, Action.drops, Action.creates]

theorem planCreates (schema : Schema) :
    ∀ statement ∈ schema.plan .create, ∃ object, statement.creates? = some object := by
  intro statement inside
  simp only [planCreate, List.mem_append, List.mem_map] at inside
  rcases inside with (⟨keyspace, -, same⟩ | ⟨table, -, same⟩) | ⟨index, -, same⟩
  · exact same ▸ ⟨_, rfl⟩
  · exact same ▸ ⟨_, rfl⟩
  · exact same ▸ ⟨_, rfl⟩

theorem planDrop (schema : Schema) :
    schema.plan .drop = (schema.plan .create).reverse.map Statement.undone := by
  have dropped : schema.plan .drop = schema.removals := by
    simp [plan, Action.drops, Action.creates]
  rw [dropped, planCreate, removals]
  simp only [List.reverse_append, List.map_append, List.map_reverse, List.map_map, List.append_assoc]
  rfl

theorem planRecreate (schema : Schema) :
    schema.plan .recreate = schema.plan .drop ++ schema.plan .create := by
  simp [plan, Action.drops, Action.creates]

theorem undoneCreation {schema : Schema} {created : Statement}
    (inside : created ∈ schema.plan .create) : created.undone.drops? = created.creates? := by
  obtain ⟨object, creates⟩ := schema.planCreates created inside
  simp [Statement.undone, creates, Statement.drops?]

theorem droppedAsCreated (schema : Schema) (object : SchemaObject) :
    (schema.plan .drop).countP (·.drops? == some object) =
      (schema.plan .create).countP (·.creates? == some object) := by
  rw [planDrop, List.countP_map, List.countP_reverse]
  refine List.countP_congr fun created inside => ?_
  simp [undoneCreation inside]

theorem droppedAt {schema : Schema} {place : Nat} {created : Statement}
    (found : (schema.plan .create)[place]? = some created) :
    (schema.plan .drop)[(schema.plan .create).length - 1 - place]? = some created.undone := by
  obtain ⟨inside, -⟩ := List.getElem?_eq_some_iff.mp found
  have back : (schema.plan .create).length - 1 - ((schema.plan .create).length - 1 - place) =
      place := by omega
  rw [planDrop, List.getElem?_map, List.getElem?_reverse (by omega), back, found, Option.map_some]

end Schema

namespace Statement

def unlessThere (ifNotExists : Bool) : Text :=
  if ifNotExists then "IF NOT EXISTS ".toList else []

theorem keyspaceCreated (keyspace : Keyspace) : (createKeyspace keyspace).rendering.text =
    ("CREATE KEYSPACE ".toList ++ unlessThere keyspace.ifNotExists) ++
      (keyspace.object.qualifiedName.text ++
        (Options.withClauses [] keyspace.options ++ [';'])) := by
  unfold Rendering.text Options.terminated
  rw [← List.append_assoc, ← List.append_assoc]
  rfl

theorem tableCreated (table : Table) : ∃ rest, (createTable table).rendering.text =
    ("CREATE TABLE ".toList ++ unlessThere table.ifNotExists) ++
      (table.object.qualifiedName.text ++ ' ' :: rest) := by
  have behind (opening name item closing tail : Text) :
      opening ++ name ++ " (".toList ++ item ++ closing ++ tail ++ [';'] =
        opening ++ (name ++ ' ' :: ('(' :: (item ++ closing ++ tail ++ [';']))) := by
    simp
  exact ⟨_, behind _ _ _ _ _⟩

theorem droppedText {object : SchemaObject} {ifExists : Bool}
    (checked : Removal.check { object, ifExists } = .ok ()) :
    (drop { object, ifExists }).text = .ok (Removal.body { object, ifExists } ++ [';']) := by
  rw [textOk]
  exact ⟨checked, by simp [rendering, Rendering.text, Options.terminated, Options.withClauses]⟩

theorem droppedName {object : SchemaObject} {opening : Text}
    (opens : object.removalKind.words.toList ++ " IF EXISTS ".toList = opening) :
    Text.identifierBehind opening (Removal.body { object, ifExists := true } ++ [';']) =
      some object.qualifiedName.text := by
  have body : Removal.body { object, ifExists := true } ++ [';'] =
      opening ++ (object.qualifiedName.text ++ [';']) := by
    simp [Removal.body, Removal.kind, ← opens]
  rw [body, Text.identifierOpened, Text.identifierQualified]
  simp [Text.identifier]

/-- A statement that names its object behind its opening words, and the drop of that object. -/
theorem namedAlike {statement : Statement} {object : SchemaObject} {opening dropping rest : Text}
    (creates : statement.creates? = some object)
    (checked : Removal.check { object, ifExists := true } = .ok ())
    (ended : Text.identifier false rest = [])
    (drops : object.removalKind.words.toList ++ " IF EXISTS ".toList = dropping) :
    ∃ dropped name, statement.undone.text = .ok dropped ∧
      Text.identifierBehind opening (opening ++ (object.qualifiedName.text ++ rest)) = some name ∧
      Text.identifierBehind dropping dropped = some name := by
  have undone : statement.undone = .drop { object, ifExists := true } := by
    rw [Statement.undone, creates]
  refine ⟨_, object.qualifiedName.text, undone ▸ droppedText checked, ?_, droppedName drops⟩
  rw [Text.identifierOpened, Text.identifierQualified, ended, List.append_nil]

theorem keyspaceNamedAlike {keyspace : Keyspace} {created : Text}
    (written : (createKeyspace keyspace).text = .ok created) :
    ∃ dropped name, (createKeyspace keyspace).undone.text = .ok dropped ∧
      Text.identifierBehind ("CREATE KEYSPACE ".toList ++ unlessThere keyspace.ifNotExists)
        created = some name ∧
      Text.identifierBehind "DROP KEYSPACE IF EXISTS ".toList dropped = some name := by
  obtain ⟨checked, same⟩ := textOk.mp written
  have drops : StatementKind.dropKeyspace.words.toList ++ " IF EXISTS ".toList =
      "DROP KEYSPACE IF EXISTS ".toList := by decide
  have ended : Text.identifier false (Options.withClauses [] keyspace.options ++ [';']) = [] := by
    unfold Options.withClauses
    split <;> rfl
  rw [← same, keyspaceCreated]
  exact namedAlike rfl (Removal.ofKeyspace checked) ended drops

theorem tableNamedAlike {table : Table} {created : Text}
    (written : (createTable table).text = .ok created) :
    ∃ dropped name, (createTable table).undone.text = .ok dropped ∧
      Text.identifierBehind ("CREATE TABLE ".toList ++ unlessThere table.ifNotExists) created =
        some name ∧
      Text.identifierBehind "DROP TABLE IF EXISTS ".toList dropped = some name := by
  obtain ⟨checked, same⟩ := textOk.mp written
  obtain ⟨rest, opened⟩ := tableCreated table
  have drops : StatementKind.dropTable.words.toList ++ " IF EXISTS ".toList =
      "DROP TABLE IF EXISTS ".toList := by decide
  rw [← same, opened]
  exact namedAlike rfl (Removal.ofTable checked) rfl drops

end Statement

theorem dropsMirrorCreations :
    (∀ schema : Schema,
      schema.plan .create = schema.keyspaces.map .createKeyspace ++
        schema.tables.map .createTable ++ schema.indexes.map .createIndex ∧
      schema.plan .drop = (schema.plan .create).reverse.map Statement.undone ∧
      (∀ (place : Nat) (created : Statement), (schema.plan .create)[place]? = some created →
        ∃ object, created.creates? = some object ∧
          (schema.plan .drop)[(schema.plan .create).length - 1 - place]? =
            some (.drop { object, ifExists := true })) ∧
      (∀ object, (schema.plan .drop).countP (·.drops? == some object) =
        (schema.plan .create).countP (·.creates? == some object)) ∧
      schema.plan .recreate = schema.plan .drop ++ schema.plan .create ∧
      schema.plan .none = []) ∧
    (∀ (keyspace : Keyspace) (created : Text),
      (Statement.createKeyspace keyspace).text = .ok created →
      ∃ dropped name, (Statement.createKeyspace keyspace).undone.text = .ok dropped ∧
        Text.identifierBehind ("CREATE KEYSPACE ".toList ++ Statement.unlessThere keyspace.ifNotExists)
          created = some name ∧
        Text.identifierBehind "DROP KEYSPACE IF EXISTS ".toList dropped = some name) ∧
    ∀ (table : Table) (created : Text), (Statement.createTable table).text = .ok created →
      ∃ dropped name, (Statement.createTable table).undone.text = .ok dropped ∧
        Text.identifierBehind ("CREATE TABLE ".toList ++ Statement.unlessThere table.ifNotExists)
          created = some name ∧
        Text.identifierBehind "DROP TABLE IF EXISTS ".toList dropped = some name := by
  refine ⟨fun schema => ?_, fun _ _ => Statement.keyspaceNamedAlike,
    fun _ _ => Statement.tableNamedAlike⟩
  refine ⟨schema.planCreate, schema.planDrop, ?_, schema.droppedAsCreated, schema.planRecreate, rfl⟩
  intro place created found
  obtain ⟨object, creates⟩ := schema.planCreates created (List.mem_of_getElem? found)
  refine ⟨object, creates, ?_⟩
  rw [Schema.droppedAt found, Statement.undone, creates]

theorem quotedTableDroppedByName :
    let shop : Keyspace := { name := "Shop; North" }
    let sales : Table :=
      { keyspace := some "Shop; North", name := "day", ifNotExists := true,
        columns := [{ name := "id", type := .native .uuid, key := some .partition }] }
    let schema : Schema :=
      { keyspaces := [{ name := "a" }, shop], tables := [sales],
        indexes := [{ table := "day", column := "c" }] }
    let created :=
      "CREATE TABLE IF NOT EXISTS \"Shop; North\".day (id uuid, PRIMARY KEY (id));".toList
    (schema.plan .drop)[1]? = some (.drop { object := sales.object, ifExists := true }) ∧
      (∃ dropped name, (Statement.createKeyspace shop).undone.text = .ok dropped ∧
        Text.identifierBehind "CREATE KEYSPACE ".toList
          "CREATE KEYSPACE \"Shop; North\";".toList = some name ∧
        Text.identifierBehind "DROP KEYSPACE IF EXISTS ".toList dropped = some name) ∧
      (Statement.createTable sales).text = .ok created ∧
      ∃ dropped name, (Statement.createTable sales).undone.text = .ok dropped ∧
        Text.identifierBehind "CREATE TABLE IF NOT EXISTS ".toList created = some name ∧
        Text.identifierBehind "DROP TABLE IF EXISTS ".toList dropped = some name := by
  intro shop sales schema created
  obtain ⟨planned, keyspaces, tables⟩ := dropsMirrorCreations
  obtain ⟨-, -, mirrored, -⟩ := planned schema
  obtain ⟨object, creates, dropped⟩ := mirrored 2 (.createTable sales) rfl
  cases creates
  have partition : sales.keyOrder .partition = sales.columns := by cbv
  have clustering : sales.keyOrder .clustering = [] := by cbv
  have made : (Statement.createKeyspace { name := "Shop; North" }).text =
      .ok "CREATE KEYSPACE \"Shop; North\";".toList := by rfl
  have written : (Statement.createTable sales).text = .ok created := by
    refine Statement.textOk.mpr ⟨by cbv, ?_⟩
    show Rendering.text ⟨sales.body (sales.keyOrder .partition) (sales.keyOrder .clustering),
      Table.clusteringOrder (sales.keyOrder .clustering), []⟩ = created
    rw [partition, clustering]
    simp only [sales, created]
    rfl
  exact ⟨dropped, keyspaces shop _ made, written, tables sales created written⟩

end CqlSchema
