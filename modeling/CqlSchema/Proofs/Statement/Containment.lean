import CqlSchema.Command.Run
import CqlSchema.Proofs.Decimal.Characters
import CqlSchema.Proofs.Name
import CqlSchema.Proofs.Statement.Rendering
import CqlSchema.Proofs.Text.Scan
import Mathlib

/-! Whatever the names and values of a statement are, none of them leaves its quotes: up to its
semicolon a statement is contained. The names of the options of keyspaces and tables are the one
part that is written as it is given. -/
namespace CqlSchema
open Text (Contained isHarmless containedAppend containedHarmless)

theorem containedWords (words : Text) (harmless : words.all isHarmless = true) :
    Contained words := containedHarmless (List.all_eq_true.mp harmless)

theorem harmlessUnless {c : Char} (harmful : isHarmless c = false) :
    c ∈ ['\'', '"', ';', '(', ')', '<', '>', '\x7b', '\x7d'] := by
  by_contra other
  simp only [List.mem_cons, List.not_mem_nil, or_false, not_or] at other
  have free : Text.closing? c = none := by
    unfold Text.closing?
    split <;> simp_all
  simp [isHarmless, Text.isQuote, Text.isClosing, free, other] at harmful

theorem containedClass {p : Char → Bool} {text : Text} (inside : ∀ c ∈ text, p c = true)
    (free : ['\'', '"', ';', '(', ')', '<', '>', '\x7b', '\x7d'].all (fun c => !p c) = true) :
    Contained text := by
  refine containedHarmless fun c member => ?_
  by_contra harmful
  have excluded := List.all_eq_true.mp free c (harmlessUnless (by simpa using harmful))
  simp [inside c member] at excluded

theorem containedName (name : String) : Contained (Name.text name) := by
  unfold Name.text
  split
  · rename_i plain
    simp only [Bool.and_eq_true] at plain
    exact containedClass (Name.plainChars plain.1) (by decide)
  · exact Text.containedEnclosed (by decide) _

theorem containedQualified (name : QualifiedName) : Contained name.text := by
  unfold QualifiedName.text
  split
  · have point : Contained ['.'] := containedWords _ rfl
    exact containedAppend (containedName _) (containedAppend point (containedName _))
  · exact containedName _

theorem containedNumber {text : Text} (number : Decimal.NumberText text) : Contained text :=
  containedClass number.characters (by decide)

theorem containedLiteral (value : String) : Contained (Literal.text value) :=
  Text.containedEnclosed (by decide) _

theorem containedBracketed (words : String) (bracket : Char) {opening body : Text} {close : Char}
    (split : opening = words.toList ++ [bracket]) (harmless : words.toList.all isHarmless = true)
    (pair : Text.closing? bracket = some close) (inner : Contained body) :
    Contained (opening ++ body ++ [close]) := by
  subst split
  simpa using containedAppend (containedWords _ harmless) (Text.containedBracketed pair inner)

mutual

theorem containedType (type : DataType) : Contained type.text := by
  cases type with
  | native type =>
    rw [DataType.textNative]
    cases type <;> exact containedWords _ rfl
  | list element =>
    rw [DataType.textList]
    exact containedBracketed "list" '<' rfl rfl rfl
      (containedType element)
  | set element =>
    rw [DataType.textSet]
    exact containedBracketed "set" '<' rfl rfl rfl
      (containedType element)
  | frozen inner =>
    rw [DataType.textFrozen]
    exact containedBracketed "frozen" '<' rfl rfl rfl
      (containedType inner)
  | map key value =>
    rw [DataType.textMap, List.append_assoc "map<".toList, List.append_assoc "map<".toList]
    refine containedBracketed "map" '<' rfl rfl rfl ?_
    exact containedAppend (containedAppend (containedType key) (containedWords _ rfl))
      (containedType value)
  | tuple elements =>
    rw [DataType.textTuple]
    exact containedBracketed "tuple" '<' rfl rfl rfl
      (Text.containedJoined (containedWords _ rfl) (containedTypes elements))
  | defined name =>
    rw [DataType.textDefined]
    exact containedQualified _

theorem containedTypes (types : List DataType) : ∀ part ∈ DataType.texts types, Contained part := by
  cases types with
  | nil => simp [DataType.texts]
  | cons type rest =>
    intro part inside
    rw [DataType.texts] at inside
    rcases List.mem_cons.mp inside with rfl | behind
    · exact containedType type
    · exact containedTypes rest part behind

end

mutual

theorem containedValue (value : OptionValue) : Contained value.rendered := by
  cases value with
  | flag => exact Text.containedNil
  | text value => exact containedLiteral value
  | integer value => exact containedNumber (Decimal.integerNumber _)
  | float value => exact containedNumber (Decimal.plainNumber _)
  | boolean value => cases value <;> exact containedWords _ rfl
  | map entries =>
    rw [OptionValue.rendered]
    exact Text.containedBracketed rfl
      (Text.containedJoined (containedWords _ rfl) (containedEntries entries))

theorem containedEntries (entries : Options) :
    ∀ part ∈ Options.renderedEntries entries, Contained part := by
  cases entries with
  | nil => simp [Options.renderedEntries]
  | cons entry rest =>
    intro part inside
    obtain ⟨key, value⟩ := entry
    rw [Options.renderedEntries] at inside
    rcases List.mem_cons.mp inside with rfl | behind
    · exact containedAppend (containedAppend (containedLiteral key) (containedWords _ rfl))
        (containedValue value)
    · exact containedEntries rest part behind

end

theorem containedClause {name : String} (harmless : name.toList.all isHarmless = true)
    (value : OptionValue) : Contained (Options.clause name value) := by
  unfold Options.clause
  split
  · exact containedWords _ harmless
  · exact containedAppend
      (containedAppend (containedWords _ harmless) (containedWords _ rfl))
      (containedValue value)

def Rendering.unended (rendering : Rendering) : Text :=
  rendering.body ++ Options.withClauses rendering.leading rendering.options

theorem containedRendering {rendering : Rendering} (body : Contained rendering.body)
    (leading : ∀ clause ∈ rendering.leading, Contained clause)
    (names : ∀ name ∈ Options.names rendering.options, name.toList.all isHarmless = true) :
    Contained rendering.unended := by
  refine containedAppend body ?_
  unfold Options.withClauses
  split
  · exact Text.containedNil
  · rename_i clauses filled
    refine containedAppend (containedWords _ rfl)
      (Text.containedJoined (containedWords _ rfl) fun clause inside => ?_)
    rcases List.mem_append.mp inside with early | late
    · exact leading clause early
    · obtain ⟨entry, member, rfl⟩ := List.mem_map.mp late
      exact containedClause (names _ (List.mem_map_of_mem member)) _

theorem containedNames (columns : List Column) :
    ∀ part ∈ Table.columnNames columns, Contained part := by
  intro part inside
  obtain ⟨column, -, rfl⟩ := List.mem_map.mp inside
  exact containedName _

theorem containedComma : Contained ", ".toList := containedWords _ rfl

theorem containedPrimaryKey (partition clustering : List Column) :
    Contained (Table.primaryKey partition clustering) := by
  refine containedBracketed "PRIMARY KEY " '(' rfl rfl rfl
    (Text.containedJoined containedComma fun part inside => ?_)
  rcases List.mem_cons.mp inside with rfl | behind
  · have names := Text.containedJoined containedComma (containedNames partition)
    unfold Table.partitionItem
    simp only
    split
    · exact Text.containedBracketed rfl names
    · exact names
  · exact containedNames clustering part behind

theorem containedClusteringOrder (clustering : List Column) :
    ∀ clause ∈ Table.clusteringOrder clustering, Contained clause := by
  intro clause inside
  unfold Table.clusteringOrder at inside
  split at inside
  · cases inside
  · simp only [List.mem_singleton] at inside
    subst inside
    refine containedBracketed "CLUSTERING ORDER BY " '(' rfl rfl rfl
      (Text.containedJoined containedComma fun part member => ?_)
    obtain ⟨column, -, rfl⟩ := List.mem_map.mp member
    refine containedAppend (containedName _) (containedWords (' ' :: _) ?_)
    cases column.ordering.getD .asc <;> decide

theorem containedColumnItem (column : Column) : Contained (Table.columnItem column) := by
  have space : Contained [' '] := containedWords _ rfl
  exact containedAppend (containedName _) (containedAppend space (containedType _))

theorem containedOptional (given : Bool) (words : Text) (harmless : words.all isHarmless = true) :
    Contained (if given then words else []) := by
  split
  · exact containedWords words harmless
  · exact Text.containedNil

theorem containedTableBody (table : Table) (partition clustering : List Column) :
    Contained (table.body partition clustering) := by
  unfold Table.body
  simp only [List.append_assoc]
  refine containedAppend (containedWords _ rfl) (containedAppend
    (containedOptional _ _ rfl) (containedAppend (containedQualified _) ?_))
  rw [← List.append_assoc]
  refine containedBracketed " " '(' rfl rfl rfl
    (Text.containedJoined containedComma fun part inside => ?_)
  rcases List.mem_append.mp inside with item | key
  · obtain ⟨column, -, rfl⟩ := List.mem_map.mp item
    exact containedColumnItem column
  · rw [List.mem_singleton.mp key]
    exact containedPrimaryKey _ _

theorem containedChange (change : ColumnChange) : Contained change.text := by
  have space : Contained [' '] := containedWords _ rfl
  cases change with
  | alter column type =>
    exact containedAppend (containedAppend
      (containedAppend (containedWords _ rfl) (containedName _))
      (containedWords _ rfl)) (containedType _)
  | add column type =>
    exact containedAppend (containedAppend (containedWords _ rfl) (containedName _))
      (containedAppend space (containedType _))
  | drop column => exact containedAppend (containedWords _ rfl) (containedName _)
  | rename old new =>
    exact containedAppend (containedAppend
      (containedAppend (containedWords _ rfl) (containedName _))
      (containedWords _ rfl)) (containedName _)

theorem containedAlterationBody (alteration : TableAlteration) : Contained alteration.body := by
  unfold TableAlteration.body
  refine containedAppend (containedAppend (containedWords _ rfl) (containedQualified _)) ?_
  split
  · exact Text.containedNil
  · have space : Contained [' '] := containedWords _ rfl
    refine containedAppend space (Text.containedJoined containedComma fun part inside => ?_)
    obtain ⟨change, -, rfl⟩ := List.mem_map.mp inside
    exact containedChange change

theorem containedColumnTarget (index : Index) : Contained index.columnItem := by
  unfold Index.columnItem
  split
  · rename_i function found
    refine containedAppend ?_ (Text.containedBracketed rfl (containedName _))
    cases target : index.target <;> simp only [target, IndexTarget.function?] at found <;>
      cases found <;> exact containedWords _ rfl
  · exact containedName _

theorem containedIndexBody (index : Index) : Contained index.body := by
  have space : Contained [' '] := containedWords _ rfl
  unfold Index.body
  simp only [List.append_assoc]
  refine containedAppend ?_ (containedAppend (containedOptional _ _ rfl)
    (containedAppend ?_ (containedAppend (containedWords _ rfl)
      (containedAppend (containedQualified _) ?_))))
  · split <;> exact containedWords _ rfl
  · split
    · exact containedAppend (containedName _) space
    · exact Text.containedNil
  · rw [← List.append_assoc, ← List.append_assoc]
    refine containedAppend (containedBracketed " " '(' rfl rfl rfl
      (containedColumnTarget index)) ?_
    split
    · exact containedAppend (containedWords _ rfl) (containedLiteral _)
    · exact Text.containedNil

theorem containedRemovalBody (removal : Removal) : Contained removal.body := by
  have space : Contained [' '] := containedWords _ rfl
  refine containedAppend ?_ (containedAppend space
    (containedAppend (containedOptional _ _ rfl) (containedQualified _)))
  cases removal.kind <;> exact containedWords _ rfl

namespace Statement

def rawNames (statement : Statement) : List String := Options.names statement.rawOptions

theorem containedBody (statement : Statement) : Contained statement.rendering.body := by
  cases statement with
  | createKeyspace keyspace =>
    exact containedAppend (containedAppend (containedWords _ rfl)
      (containedOptional _ _ rfl)) (containedName _)
  | alterKeyspace alteration =>
    exact containedAppend (containedWords _ rfl) (containedName _)
  | createTable table => exact containedTableBody table _ _
  | alterTable alteration => exact containedAlterationBody alteration
  | createIndex index => exact containedIndexBody index
  | drop removal => exact containedRemovalBody removal

theorem containedUnended (statement : Statement)
    (harmless : ∀ name ∈ statement.rawNames, name.toList.all isHarmless = true) :
    Contained statement.rendering.unended := by
  refine containedRendering statement.containedBody ?_ ?_
  · cases statement with
    | createTable table => exact containedClusteringOrder _
    | createKeyspace _ | alterKeyspace _ | alterTable _ | createIndex _ | drop _ =>
      simp [rendering]
  · cases statement with
    | createKeyspace _ | alterKeyspace _ | createTable _ | alterTable _ => exact harmless
    | createIndex index =>
      intro name inside
      have only : name = "OPTIONS" := by
        simp only [rendering, Index.writtenOptions] at inside
        split at inside <;> simp_all [Options.names]
      subst only
      decide
    | drop removal => simp [rendering, Options.names]

end Statement

namespace Schema

def rawNames (schema : Schema) : List String :=
  schema.keyspaces.flatMap (fun keyspace => Options.names keyspace.options) ++
    schema.tables.flatMap fun table => Options.names table.options

theorem plannedRawNames {schema : Schema} {action : Action} {statement : Statement}
    (planned : statement ∈ schema.plan action) :
    ∀ name ∈ statement.rawNames, name ∈ schema.rawNames := by
  have cases : statement ∈ schema.removals ∨ statement ∈ schema.creations := by
    unfold plan at planned
    rcases List.mem_append.mp planned with drop | create
    · split at drop
      · exact .inl drop
      · cases drop
    · split at create
      · exact .inr create
      · cases create
  intro name inside
  rcases cases with drop | create
  · obtain ⟨object, -, rfl⟩ := List.mem_map.mp drop
    cases inside
  · simp only [creations, List.mem_append, List.mem_map] at create
    rcases create with (⟨keyspace, member, rfl⟩ | ⟨table, member, rfl⟩) | ⟨index, member, rfl⟩
    · exact List.mem_append_left _ (List.mem_flatMap.mpr ⟨keyspace, member, inside⟩)
    · exact List.mem_append_right _ (List.mem_flatMap.mpr ⟨table, member, inside⟩)
    · cases inside

theorem scriptContained {schema : Schema} {action : Action} {script : List Text}
    (harmless : ∀ name ∈ schema.rawNames, name.toList.all isHarmless = true)
    (written : schema.script action = .ok script) :
    ∀ text ∈ script, ∃ body, text = body ++ [';'] ∧ Contained body := by
  intro text inside
  obtain ⟨statement, planned, found⟩ := mappedOk written text inside
  obtain ⟨-, rfl⟩ := Statement.textOk.mp found
  refine ⟨statement.rendering.unended, rfl, statement.containedUnended fun name member => ?_⟩
  exact harmless name (plannedRawNames planned name member)

end Schema

theorem generatePrints {folder : Command.Folder} {path : String} {schema : Schema} {action : Action}
    {script : List Text}
    (loaded : (Schema.load Command.Folder.system path).run folder = (.ok schema, folder))
    (written : schema.script action = .ok script) :
    (Command.generate Command.Folder.system path action none).run folder =
      ({ stdout := String.ofList (Command.scriptText script) }, folder) := by
  unfold Command.generate
  simp only [StateT.run, bind, StateT.bind] at loaded ⊢
  rw [loaded]
  simp only [written]
  rfl

theorem statementsStayInQuotes :
    (∀ (statement : Statement) (text : Text),
      (∀ name ∈ statement.rawNames, name.toList.all isHarmless = true) →
      statement.text = .ok text →
      ∃ body, text = body ++ [';'] ∧ Text.quotingAfter none text = none ∧
        Text.outside none text = Text.outside none body ++ [';'] ∧
        ';' ∉ Text.outside none body ∧ Text.bracketsMatch (Text.outside none text) = true) ∧
    (∀ (schema : Schema) (action : Action) (script : List Text),
      (∀ name ∈ schema.rawNames, name.toList.all isHarmless = true) →
      schema.script action = .ok script →
      Text.cutStatements none [] (Command.scriptText script) = script) ∧
    ∀ (folder : Command.Folder) (path : String) (schema : Schema) (action : Action)
      (script : List Text),
      (Schema.load Command.Folder.system path).run folder = (.ok schema, folder) →
      schema.script action = .ok script →
      (Command.generate Command.Folder.system path action none).run folder =
        ({ stdout := String.ofList (Command.scriptText script) }, folder) := by
  refine ⟨fun statement text harmless written => ?_, fun schema action script harmless written => ?_,
    fun _ _ _ _ _ => generatePrints⟩
  · obtain ⟨-, rfl⟩ := Statement.textOk.mp written
    have contained := statement.containedUnended harmless
    have ending : Text.outside none (statement.rendering.unended ++ [';']) =
        Text.outside none statement.rendering.unended ++ [';'] := by
      rw [Text.outsideAppend, contained.closed]
      rfl
    refine ⟨statement.rendering.unended, rfl, ?_, ending, contained.single, ?_⟩
    · show Text.quotingAfter none (statement.rendering.unended ++ [';']) = none
      rw [Text.quotingAppend, contained.closed]
      rfl
    · show Text.bracketsMatch (Text.outside none (statement.rendering.unended ++ [';'])) = true
      rw [ending, Text.bracketsMatch, Text.unwindAppend, contained.nested]
      rfl
  · exact Text.cutStatementsLines (Schema.scriptContained harmless written)

theorem hostileKeyspaceStaysInQuotes :
    let schema : Schema := { keyspaces := [{ name := "a'; b" }] }
    let folder : Command.Folder := ⟨[(["s.yaml"], .bytes "keyspaces: [name: \"a'; b\"]".toUTF8)]⟩
    let text := "CREATE KEYSPACE \"a'; b\";".toList
    schema.script .create = .ok [text] ∧
    (∃ body, text = body ++ [';'] ∧ Text.quotingAfter none text = none ∧
      Text.outside none text = Text.outside none body ++ [';'] ∧
      ';' ∉ Text.outside none body ∧ Text.bracketsMatch (Text.outside none text) = true) ∧
    Text.cutStatements none [] (Command.scriptText [text]) = [text] ∧
    (Command.generate Command.Folder.system "s.yaml" .create none).run folder =
      ({ stdout := String.ofList (Command.scriptText [text]) }, folder) := by
  intro schema folder text
  have plain : ∀ name ∈ schema.rawNames, name.toList.all isHarmless = true := by
    simp [schema, Schema.rawNames, Options.names]
  have planned : schema.script .create = .ok [text] := by rfl
  have loaded : (Schema.load Command.Folder.system "s.yaml").run folder = (.ok schema, folder) := by
    cbv
  refine ⟨planned, statementsStayInQuotes.1 (.createKeyspace { name := "a'; b" }) text ?_ rfl,
    statementsStayInQuotes.2.1 schema .create [text] plain planned,
    statementsStayInQuotes.2.2 folder "s.yaml" schema .create [text] loaded planned⟩
  simp [Statement.rawNames, Statement.rawOptions, Options.names]

end CqlSchema
