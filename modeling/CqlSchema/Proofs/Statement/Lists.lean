import CqlSchema.Proofs.Statement.ClauseCuts
import CqlSchema.Proofs.Statement.Unambiguous
import CqlSchema.Proofs.Statement.WrittenOptions
import CqlSchema.Proofs.Table.Items
import CqlSchema.Proofs.Table.Refusal

/-! The lists of a statement found again in its text: the changes of a table, the columns with the
primary key, and the clauses behind WITH. A reader that knows quotes and brackets and nothing else
cuts each list at its separator and gets one item for each element, in order. How an item is written
is said form by form, apart from what writes it. -/
namespace CqlSchema

/-- What stands between the first opening bracket and the closing one that belongs to it. -/
def Text.bracketed? (text : Text) : Option Text :=
  match cut? .flat ['('] none 0 text with
  | none => none
  | some (_, behind) => (cut? .round [')'] none 0 behind).map (·.1)

theorem Text.bracketedBetween {before inside : Text} (behind : Text)
    (opening : Kept isOrdinary before) (passes : Free .round [')'] 0 inside) :
    bracketed? (before ++ ['('] ++ inside ++ ')' :: behind) = some inside := by
  have first : Passes .flat ['('] 0 (fun _ => True) before :=
    passesFirst opening rfl rfl fun _ => rfl
  have start : cut? .flat ['('] none 0 (before ++ (['('] ++ (inside ++ ')' :: behind))) =
      some (before, inside ++ ')' :: behind) := cutBehind (by simp) first trivial
  have stop : cut? .round [')'] none 0 (inside ++ ([')'] ++ behind)) = some (inside, behind) :=
    cutBehind (by simp) passes.passes trivial
  rw [List.append_assoc, List.append_assoc, bracketed?, start]
  simp only [List.singleton_append] at stop
  simp only [stop, Option.map_some]

theorem Text.eachWritten {α : Type} {form : α → Text → Prop} {write : α → Text}
    (agree : ∀ item written, form item written ↔ written = write item) {items : List α}
    {texts : List Text} : List.Forall₂ form items texts ↔ texts = items.map write := by
  have same : form = fun item written => write item = written := by
    funext item written
    exact propext ((agree item written).trans eq_comm)
  rw [same, ← List.forall₂_map_left_iff, List.forall₂_eq_eq_eq, eq_comm]

namespace ColumnChange

inductive Written : ColumnChange → Text → Prop
  | alter (column : String) (type : DataType) : Written (alter column type)
      ("ALTER ".toList ++ Name.text column ++ " TYPE ".toList ++ type.text)
  | add (column : String) (type : DataType) : Written (add column type)
      ("ADD ".toList ++ Name.text column ++ ' ' :: type.text)
  | drop (column : String) : Written (drop column) ("DROP ".toList ++ Name.text column)
  | rename (old new : String) : Written (rename old new)
      ("RENAME ".toList ++ Name.text old ++ " TO ".toList ++ Name.text new)

theorem writtenIff (change : ColumnChange) (written : Text) :
    change.Written written ↔ written = change.text := by
  constructor
  · intro form
    cases form <;> rfl
  · rintro rfl
    cases change <;> constructor

end ColumnChange

namespace Table

/-- The names of the partition stand in brackets of their own where there are several. -/
inductive KeyWritten : List Column → List Column → Text → Prop
  | single (column : Column) (clustering : List Column) : KeyWritten [column] clustering
      ("PRIMARY KEY (".toList ++ Text.joined ", ".toList
        ((column :: clustering).map fun column => Name.text column.name) ++ [')'])
  | several (first second : Column) (rest clustering : List Column) :
    KeyWritten (first :: second :: rest) clustering
      ("PRIMARY KEY (".toList ++ Text.joined ", ".toList
        (('(' :: (Text.joined ", ".toList
          ((first :: second :: rest).map fun column => Name.text column.name) ++ [')'])) ::
            clustering.map fun column => Name.text column.name) ++ [')'])

theorem keyWrittenIff {partition clustering : List Column} (given : partition ≠ []) {key : Text} :
    KeyWritten partition clustering key ↔ key = primaryKey partition clustering := by
  constructor
  · intro form
    unfold primaryKey
    cases form with
    | single column =>
      rw [partitionSingle]
      rfl
    | several first second rest =>
      rw [partitionSeveral]
      rfl
  · rintro rfl
    unfold primaryKey
    match partition with
    | [column] =>
      rw [partitionSingle]
      exact .single column clustering
    | first :: second :: rest =>
      rw [partitionSeveral]
      exact .several first second rest clustering

end Table

namespace Options

inductive EntryWritten : String × OptionValue → Text → Prop
  | flag (name : String) : EntryWritten (name, .flag) name.toList
  | value (name : String) {value : OptionValue} (given : value ≠ .flag) :
    EntryWritten (name, value) (name.toList ++ " = ".toList ++ value.rendered)

theorem entryWrittenIff (entry : String × OptionValue) (written : Text) :
    EntryWritten entry written ↔ written = clause entry.1 entry.2 := by
  obtain ⟨name, value⟩ := entry
  constructor
  · intro form
    cases form with
    | flag => rfl
    | value _ given =>
      cases value with
      | flag => exact absurd rfl given
      | text _ | integer _ | float _ | boolean _ | map _ => rfl
  · rintro rfl
    cases value with
    | flag => exact .flag name
    | text _ | integer _ | float _ | boolean _ | map _ => exact .value name (by simp)

theorem clausesWritten {options : Options} {written : List Text} :
    List.Forall₂ EntryWritten options written ↔
      written = (Clause.ofOptions options).map Clause.text := by
  rw [Text.eachWritten entryWrittenIff, Clause.ofOptions, List.map_map]
  rfl

end Options

theorem Name.withless (name : String) : Text.Withless (Name.text name) :=
  Text.keptExcept rfl (Name.keptText name)

theorem QualifiedName.withless (name : QualifiedName) : Text.Withless name.text :=
  Text.keptExcept rfl name.keptText

theorem DataType.withless (type : DataType) : Text.Withless type.text :=
  Text.keptExcept rfl type.keptText

theorem withlessWords (text : Text)
    (plain : text.all (fun c => c != 'W' && !Text.isQuote c) = true) : Text.Withless text :=
  Text.keptWords plain

theorem ColumnChange.withless (change : ColumnChange) : Text.Withless change.text := by
  cases change with
  | alter column type =>
    exact Text.keptAppend (Text.keptAppend (Text.keptAppend (withlessWords _ rfl)
      (Name.withless column)) (withlessWords _ rfl)) type.withless
  | add column type =>
    exact Text.keptAppend (Text.keptAppend (withlessWords _ rfl) (Name.withless column))
      (Text.keptAppend (withlessWords [' '] rfl) type.withless)
  | drop column => exact Text.keptAppend (withlessWords _ rfl) (Name.withless column)
  | rename old new =>
    exact Text.keptAppend (Text.keptAppend (Text.keptAppend (withlessWords _ rfl)
      (Name.withless old)) (withlessWords _ rfl)) (Name.withless new)

namespace Table

theorem withlessPrimaryKey (partition clustering : List Column) :
    Text.Withless (primaryKey partition clustering) := by
  have names (columns : List Column) : ∀ part ∈ columnNames columns, Text.Withless part := by
    intro part inside
    obtain ⟨column, -, rfl⟩ := List.mem_map.mp inside
    exact Name.withless column.name
  have item : Text.Withless (partitionItem partition) := by
    have joined := Text.keptJoined (withlessWords ", ".toList rfl) (names partition)
    unfold partitionItem
    simp only
    split
    · exact Text.keptAppend (withlessWords ['('] rfl)
        (Text.keptAppend joined (withlessWords [')'] rfl))
    · exact joined
  refine Text.keptAppend (Text.keptAppend (withlessWords _ rfl) ?_) (withlessWords [')'] rfl)
  exact Text.keptJoined (withlessWords _ rfl) (List.forall_mem_cons.mpr ⟨item, names clustering⟩)

theorem withlessItems (table : Table) (partition clustering : List Column) :
    ∀ part ∈ table.items partition clustering, Text.Withless part := by
  intro part inside
  rcases List.mem_append.mp inside with item | key
  · obtain ⟨column, -, rfl⟩ := List.mem_map.mp item
    exact Text.keptExcept rfl (keptColumnItem column)
  · rw [List.mem_singleton.mp key]
    exact withlessPrimaryKey partition clustering

end Table

theorem Index.withlessBody (index : Index) : Text.Withless index.body := by
  have item : Text.Withless index.columnItem := by
    unfold Index.columnItem
    split
    · rename_i function found
      refine Text.keptAppend ?_ (Text.keptAppend (withlessWords ['('] rfl)
        (Text.keptAppend (Name.withless index.column) (withlessWords [')'] rfl)))
      cases target : index.target <;> simp only [target, IndexTarget.function?] at found <;>
        cases found <;> exact withlessWords _ rfl
    · exact Name.withless index.column
  unfold Index.body
  simp only [List.append_assoc]
  refine Text.keptAppend ?_ (Text.keptAppend (Text.keptOptional (withlessWords _ rfl))
    (Text.keptAppend ?_ (Text.keptAppend (withlessWords _ rfl)
      (Text.keptAppend (QualifiedName.withless _) (Text.keptAppend (withlessWords _ rfl)
        (Text.keptAppend item (Text.keptAppend (withlessWords [')'] rfl) ?_)))))))
  · split <;> exact withlessWords _ rfl
  · split
    · exact Text.keptAppend (Name.withless _) (withlessWords [' '] rfl)
    · exact Text.keptNil
  · split
    · exact Text.keptAppend (withlessWords _ rfl) (Text.keptEnclosed rfl _)
    · exact Text.keptNil

namespace Statement

theorem withlessBody (statement : Statement) : Text.Withless statement.rendering.body := by
  cases statement with
  | createKeyspace keyspace =>
    exact Text.keptAppend (Text.keptAppend (withlessWords _ rfl)
      (Text.keptOptional (withlessWords _ rfl))) (Name.withless keyspace.name)
  | alterKeyspace alteration =>
    exact Text.keptAppend (withlessWords _ rfl) (Name.withless alteration.name)
  | createTable table =>
    refine Text.keptAppend (Text.keptAppend (Text.keptAppend (Text.keptAppend (Text.keptAppend
      (withlessWords _ rfl) (Text.keptOptional (withlessWords _ rfl))) table.qualifiedName.withless)
      (withlessWords _ rfl)) ?_) (withlessWords [')'] rfl)
    exact Text.keptJoined (withlessWords _ rfl) (table.withlessItems _ _)
  | alterTable alteration =>
    refine Text.keptAppend (Text.keptAppend (withlessWords _ rfl)
      alteration.qualifiedName.withless) ?_
    split
    · exact Text.keptNil
    · refine Text.keptAppend (withlessWords [' '] rfl)
        (Text.keptJoined (withlessWords _ rfl) fun part inside => ?_)
      obtain ⟨change, -, rfl⟩ := List.mem_map.mp inside
      exact change.withless
  | createIndex index => exact index.withlessBody
  | drop removal =>
    refine Text.keptAppend ?_ (Text.keptAppend (withlessWords [' '] rfl) (Text.keptAppend
      (Text.keptOptional (withlessWords _ rfl)) (QualifiedName.withless _)))
    cases removal.kind <;> exact withlessWords _ rfl

/-- Some clustering column declares a direction. -/
def Directed : Statement → Prop
  | createTable table => ∃ column ∈ table.columnsOf .clustering, column.ordering ≠ none
  | createKeyspace _ | alterKeyspace _ | alterTable _ | createIndex _ | drop _ => False

theorem orderingNone (table : Table) :
    Clause.ordering (table.keyOrder .clustering) = [] ↔ ¬(createTable table).Directed := by
  have members := fun column : Column => (table.keyOrderPerm .clustering).mem_iff (a := column)
  simp [Clause.ordering, Directed, members]

theorem clausesNone {statement : Statement} :
    statement.clauses = [] ↔ statement.givenOptions = [] ∧ ¬statement.Directed := by
  have options {options : Options} : Clause.ofOptions options = [] ↔ options = [] :=
    List.map_eq_nil_iff
  cases statement with
  | createTable table =>
    rw [clauses, givenOptions, List.append_eq_nil_iff, options, orderingNone, and_comm]
  | createIndex index =>
    have written : index.writtenOptions = [] ↔ index.options = [] := by
      simp [Index.writtenOptions]
    rw [clauses, givenOptions, options, written]
    simp [Directed]
  | createKeyspace _ | alterKeyspace _ | alterTable _ =>
    simp [clauses, givenOptions, Directed, options]
  | drop _ => simp [clauses, givenOptions, Directed]

/-- The clause in front of the options, which only a table with a direction has. -/
inductive OrderWritten : Statement → List Text → Prop
  | absent {statement : Statement} (undirected : ¬statement.Directed) : OrderWritten statement []
  | present {table : Table} {clustering : List Column} (directed : (createTable table).Directed)
      (sorted : table.keyColumns .clustering = .ok clustering) : OrderWritten (createTable table)
      ["CLUSTERING ORDER BY (".toList ++ Text.joined ", ".toList (clustering.map fun column =>
        Name.text column.name ++
          (if column.ordering = some .desc then " DESC" else " ASC").toList) ++ [')']]

theorem orderItemForm (column : Column) : Table.orderItem column = Name.text column.name ++
    (if column.ordering = some .desc then " DESC" else " ASC").toList := by
  unfold Table.orderItem
  rcases column.ordering with _ | _ | _ <;> rfl

theorem orderingForm {table : Table} (checked : table.check = .ok ()) :
    OrderWritten (createTable table)
      ((Clause.ordering (table.keyOrder .clustering)).map Clause.text) := by
  by_cases directed : (createTable table).Directed
  · have given : Clause.ordering (table.keyOrder .clustering) ≠ [] :=
      fun none => (orderingNone table).mp none directed
    obtain ⟨-, -, -, -, -, -, sorted, -⟩ := Table.checkOk.mp checked
    have written := OrderWritten.present directed sorted
    simp only [← orderItemForm] at written
    unfold Clause.ordering at given ⊢
    split at given
    · exact absurd rfl given
    · rename_i declared
      rw [if_neg declared]
      exact written
  · rw [(orderingNone table).mpr directed]
    exact .absent directed

theorem clausesWritten {statement : Statement} (checked : statement.check = .ok ()) :
    ∃ order written, statement.clauses.map Clause.text = order ++ written ∧
      statement.OrderWritten order ∧
      List.Forall₂ Options.EntryWritten statement.rendering.options written := by
  cases statement with
  | createTable table =>
    exact ⟨_, _, List.map_append, orderingForm checked, Options.clausesWritten.mpr rfl⟩
  | createKeyspace _ | alterKeyspace _ | alterTable _ | createIndex _ =>
    exact ⟨[], _, rfl, .absent (by simp [Directed]), Options.clausesWritten.mpr rfl⟩
  | drop _ => exact ⟨[], [], rfl, .absent (by simp [Directed]), .nil⟩

theorem clausesFound {statement : Statement} (checked : statement.check = .ok ())
    (plain : statement.PlainOptions) :
    ∃ text order written, statement.text = .ok text ∧
      (Text.cut? .flat "WITH".toList none 0 text = none ↔
        statement.givenOptions = [] ∧ ¬statement.Directed) ∧
      Text.clauses text = order ++ written ∧ statement.OrderWritten order ∧
      List.Forall₂ Options.EntryWritten statement.rendering.options written := by
  obtain ⟨order, written, parts, leads, each⟩ := clausesWritten checked
  refine ⟨_, order, written, textOk.mpr ⟨checked, rfl⟩, ?_, ?_, leads, each⟩
  · rw [textClauses, ← clausesNone]
    exact Clause.withIffClauses statement.withlessBody
  · rw [textClauses, Clause.clausesTail statement.withlessBody,
      Clause.recutPlain (plainClauses plain), parts]

end Statement

theorem TableAlteration.changesFound {alteration : TableAlteration}
    (checked : alteration.check = .ok ()) :
    ∃ text part, alteration.statement = .ok text ∧
      Text.unclaused text = "ALTER TABLE ".toList ++ alteration.qualifiedName.text ++ part ∧
      (alteration.changes = [] ∧ part = [] ∨ ∃ list, part = ' ' :: list ∧
        List.Forall₂ ColumnChange.Written alteration.changes
          (Text.pieces .angled ", ".toList list)) := by
  let statement := Statement.alterTable alteration
  have written : alteration.statement = .ok statement.rendering.text :=
    Statement.textOk.mpr ⟨show statement.check = .ok () from checked, rfl⟩
  have body : Text.unclaused statement.rendering.text = alteration.body := by
    rw [Statement.textClauses]
    exact Clause.unclausedTail statement.withlessBody
  refine ⟨_, _, written, body, ?_⟩
  cases given : alteration.changes with
  | nil => exact .inl ⟨rfl, rfl⟩
  | cons first rest =>
    have pieces : Text.pieces .angled ", ".toList
        (Text.joined ", ".toList ((first :: rest).map ColumnChange.text)) =
          (first :: rest).map ColumnChange.text := by
      refine Text.piecesFree (by simp) (by simp) fun part inside => ?_
      obtain ⟨change, -, rfl⟩ := List.mem_map.mp inside
      exact change.freeText Text.Brackets.angledAngles
    refine .inr ⟨Text.joined ", ".toList (alteration.changes.map ColumnChange.text), ?_, ?_⟩
    · rw [given]
      rfl
    · rw [given, pieces]
      exact (Text.eachWritten ColumnChange.writtenIff).mpr rfl

theorem Table.freeItems (table : Table) (partition clustering : List Column) :
    Text.Free .round [')'] 0 (Text.joined ", ".toList (table.items partition clustering)) := by
  have comma : Text.Kept DataType.isTypeChar ", ".toList := Text.keptWords rfl
  refine Text.crossedJoined (Text.freely (Text.passesFirst comma rfl rfl fun _ => rfl))
    fun part inside => ?_
  rcases List.mem_append.mp inside with item | key
  · obtain ⟨column, -, rfl⟩ := List.mem_map.mp item
    exact Text.freely (Text.passesFirst (keptColumnItem column) rfl rfl fun _ => rfl)
  · rw [List.mem_singleton.mp key]
    exact freePrimaryKey Text.Brackets.roundRounds rfl rfl (by decide) _ _

theorem Table.itemsFound {table : Table} (checked : table.check = .ok ()) :
    ∃ text inside partition clustering key, table.statement = .ok text ∧
      table.keyColumns .partition = .ok partition ∧ table.keyColumns .clustering = .ok clustering ∧
      Text.bracketed? text = some inside ∧
      Text.pieces .angledOrRound ", ".toList inside =
        table.columns.map (fun column => Name.text column.name ++ ' ' :: column.type.text) ++
          [key] ∧
      KeyWritten partition clustering key := by
  obtain ⟨-, -, -, -, partition, given, clustering, -⟩ := checkOk.mp checked
  refine ⟨_, Text.joined ", ".toList
    (table.items (table.keyOrder .partition) (table.keyOrder .clustering)), _, _, _,
    statementWritten checked, partition, clustering, ?_, ?_, (keyWrittenIff given).mpr rfl⟩
  · have spaced (front : Text) : front ++ " (".toList = front ++ [' '] ++ ['('] := by
      rw [List.append_assoc]
      rfl
    have opening : table.opening = "CREATE TABLE ".toList ++
        (if table.ifNotExists then "IF NOT EXISTS ".toList else []) ++
          table.qualifiedName.text ++ [' '] ++ ['('] := spaced _
    rw [opening]
    refine Text.bracketedBetween _ ?_ ?_
    · exact Text.keptAppend (Text.keptAppend (Text.keptAppend (Text.keptWords rfl)
        (Text.keptOptional (Text.keptWords rfl))) table.qualifiedName.ordinaryText)
        (Text.keptWords rfl)
    · exact table.freeItems _ _
  · refine Text.piecesFree (by simp [items]) (by simp) fun part inside => ?_
    rcases List.mem_append.mp inside with item | key
    · obtain ⟨column, -, rfl⟩ := List.mem_map.mp item
      exact freeColumnItem Text.Brackets.bothAngles column
    · rw [List.mem_singleton.mp key]
      exact freePrimaryKey Text.Brackets.bothRounds rfl rfl (by decide) _ _

theorem listsHaveOneItemEach :
    (∀ alteration : TableAlteration, alteration.check = .ok () →
      ∃ text part, alteration.statement = .ok text ∧
        Text.unclaused text = "ALTER TABLE ".toList ++ alteration.qualifiedName.text ++ part ∧
        (alteration.changes = [] ∧ part = [] ∨ ∃ list, part = ' ' :: list ∧
          List.Forall₂ ColumnChange.Written alteration.changes
            (Text.pieces .angled ", ".toList list))) ∧
    (∀ table : Table, table.check = .ok () →
      ∃ text inside partition clustering key, table.statement = .ok text ∧
        table.keyColumns .partition = .ok partition ∧
        table.keyColumns .clustering = .ok clustering ∧
        Text.bracketed? text = some inside ∧
        Text.pieces .angledOrRound ", ".toList inside =
          table.columns.map (fun column => Name.text column.name ++ ' ' :: column.type.text) ++
            [key] ∧
        Table.KeyWritten partition clustering key) ∧
    ∀ statement : Statement, statement.check = .ok () → statement.PlainOptions →
      ∃ text order written, statement.text = .ok text ∧
        (Text.cut? .flat "WITH".toList none 0 text = none ↔
          statement.givenOptions = [] ∧ ¬statement.Directed) ∧
        Text.clauses text = order ++ written ∧ statement.OrderWritten order ∧
        List.Forall₂ Options.EntryWritten statement.rendering.options written :=
  ⟨fun _ => TableAlteration.changesFound, fun _ => Table.itemsFound,
    fun _ => Statement.clausesFound⟩

theorem hostileNamesLeaveLists :
    let nested : DataType := .map (.native .text) (.tuple [.native .int, .defined "c, d>"])
    let alteration : TableAlteration := { name := "t", changes := [.add "a, b" nested, .drop "x"] }
    let key : Column := { name := "id, (", type := .native .int, key := some .partition }
    let seen : Column :=
      { name := "\" WITH ", type := .native .int, key := some .clustering, ordering := some .desc }
    let table : Table :=
      { name := "t (", columns := [key, seen], options := [("AND", .text "a AND b")] }
    alteration.check = .ok () ∧ table.check = .ok () ∧ (Statement.createTable table).PlainOptions ∧
    (∃ text list, alteration.statement = .ok text ∧
      Text.unclaused text = "ALTER TABLE t ".toList ++ list ∧
      Text.pieces .angled ", ".toList list =
        ["ADD \"a, b\" map<text, tuple<int, \"c, d>\">>".toList, "DROP x".toList]) ∧
    (∃ text inside, table.statement = .ok text ∧ Text.bracketed? text = some inside ∧
      Text.pieces .angledOrRound ", ".toList inside =
        ["\"id, (\" int".toList, "\"\"\" WITH \" int".toList,
          "PRIMARY KEY (\"id, (\", \"\"\" WITH \")".toList]) ∧
    ∃ text, (Statement.createTable table).text = .ok text ∧
      Text.cut? .flat "WITH".toList none 0 text ≠ none ∧
      Text.clauses text =
        ["CLUSTERING ORDER BY (\"\"\" WITH \" DESC)".toList, "AND = 'a AND b'".toList] := by
  intro nested alteration key seen table
  have altered : alteration.check = .ok () := by cbv
  have checked : table.check = .ok () := by cbv
  have plain : (Statement.createTable table).PlainOptions := by
    intro entry inside
    cases List.mem_singleton.mp inside
    exact .inl (List.all_eq_true.mp (by decide))
  have named : alteration.qualifiedName.text = ['t'] := by cbv
  have keyed : table.keyColumns .partition = .ok [key] := by cbv
  have sorted : table.keyColumns .clustering = .ok [seen] := by cbv
  obtain ⟨alterations, creations, statements⟩ := listsHaveOneItemEach
  refine ⟨altered, checked, plain, ?_, ?_, ?_⟩
  · obtain ⟨text, part, written, body, none | ⟨list, rfl, each⟩⟩ := alterations alteration altered
    · cases none.1
    · rw [named] at body
      refine ⟨text, list, written, body, ?_⟩
      rw [(Text.eachWritten ColumnChange.writtenIff).mp each]
      decide
  · obtain ⟨text, inside, partition, clustering, item, written, first, second, enclosed, items,
      last⟩ := creations table checked
    cases keyed.symm.trans first
    cases sorted.symm.trans second
    refine ⟨text, inside, written, enclosed, ?_⟩
    rw [items, (Table.keyWrittenIff (by simp)).mp last]
    decide
  · obtain ⟨text, order, written, whole, unled, clauses, leads, options⟩ :=
      statements (.createTable table) checked plain
    have given : ¬(table.options = []) := by decide
    refine ⟨text, whole, fun missing => given (unled.mp missing).1, ?_⟩
    rw [clauses, Options.clausesWritten.mp options]
    cases leads with
    | absent undirected =>
      have listed : seen ∈ table.columnsOf .clustering := by simp [Table.columnsOf, table, seen, key]
      exact absurd ⟨seen, listed, by simp [seen]⟩ undirected
    | present directed listed =>
      cases sorted.symm.trans listed
      decide

end CqlSchema
