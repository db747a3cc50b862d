import CqlSchema.Proofs.Statement.Bodies

/-! Writing a statement loses nothing: two statements with one text have one description. The text is
cut into its opening words, the rest of the body and the clauses, and each part is settled by the
modules before. -/
namespace CqlSchema.Statement

def openings : StatementKind → List Text
  | .createIndex => [Index.creating false, Index.creating true]
  | kind => [kind.words.toList ++ [' ']]

theorem openingsApart {kind other : StatementKind} (apart : kind ≠ other) :
    ∀ a ∈ openings kind, ∀ b ∈ openings other, Text.differ a b = true := by
  have all : (openings kind).all (fun a => (openings other).all (Text.differ a)) = true := by
    cases kind <;> cases other <;> first | rfl | exact absurd rfl apart
  exact fun a inside b member => List.all_eq_true.mp (List.all_eq_true.mp all a inside) b member

theorem tableOpening (table : Table) (partition clustering : List Column) :
    ∃ rest, table.body partition clustering = "CREATE TABLE ".toList ++ rest := by
  unfold Table.body
  simp only [List.append_assoc]
  exact ⟨_, rfl⟩

theorem bodyOpening (statement : Statement) :
    ∃ opening ∈ openings statement.kind, ∃ rest, statement.rendering.body = opening ++ rest := by
  cases statement with
  | createKeyspace keyspace =>
    have words : "CREATE KEYSPACE ".toList ∈ openings .createKeyspace := by decide
    exact ⟨_, words, _, List.append_assoc _ _ _⟩
  | alterKeyspace alteration =>
    have words : "ALTER KEYSPACE ".toList ∈ openings .alterKeyspace := by decide
    exact ⟨_, words, _, rfl⟩
  | createTable table =>
    have words : "CREATE TABLE ".toList ∈ openings .createTable := by decide
    exact ⟨_, words, tableOpening table _ _⟩
  | alterTable alteration =>
    have words : "ALTER TABLE ".toList ∈ openings .alterTable := by decide
    exact ⟨_, words, _, List.append_assoc _ _ _⟩
  | createIndex index =>
    refine ⟨Index.creating index.isCustom, ?_, _, index.bodyWritten⟩
    cases index.isCustom <;> simp [openings, kind]
  | drop removal =>
    refine ⟨removal.kind.words.toList ++ [' '], ?_, _, (List.append_cons _ _ _)⟩
    obtain ⟨object, ifExists⟩ := removal
    cases object <;> exact List.mem_singleton.mpr rfl

theorem tellsKind {first second : Statement} {r s : Text}
    (whole : first.rendering.body ++ r = second.rendering.body ++ s) : first.kind = second.kind := by
  by_contra apart
  obtain ⟨a, inside, rest, shape⟩ := first.bodyOpening
  obtain ⟨b, member, more, other⟩ := second.bodyOpening
  rw [shape, other, List.append_assoc, List.append_assoc] at whole
  exact Text.differApart (openingsApart apart a inside b member) _ _ whole

def clauses : Statement → List Clause
  | createTable table =>
    Clause.ordering (table.keyOrder .clustering) ++ Clause.ofOptions table.options
  | createKeyspace keyspace => Clause.ofOptions keyspace.options
  | alterKeyspace alteration => Clause.ofOptions alteration.options
  | alterTable alteration => Clause.ofOptions alteration.options
  | createIndex index => Clause.ofOptions index.writtenOptions
  | drop _ => []

theorem textClauses (statement : Statement) :
    statement.rendering.text = statement.rendering.body ++ Clause.tail statement.clauses := by
  unfold Rendering.text Options.terminated
  rw [List.append_assoc]
  congr 1
  cases statement with
  | createTable table =>
    have written := Clause.tailWritten (Clause.ordering (table.keyOrder .clustering)) table.options
    rw [← Clause.orderingWritten] at written
    exact written
  | createKeyspace _ | alterKeyspace _ | alterTable _ | createIndex _ | drop _ =>
    exact Clause.tailWritten [] _

/-- The options that are written as they are given have one word as their name, or are the flag of
two words. -/
def PlainOptions (statement : Statement) : Prop :=
  ∀ entry ∈ statement.rawOptions, Options.PlainEntry entry

theorem plainClauses {statement : Statement} (plain : statement.PlainOptions) :
    ∀ clause ∈ statement.clauses, clause.Plain := by
  cases statement with
  | createTable table =>
    intro clause inside
    exact (List.mem_append.mp inside).elim (Clause.orderingPlain _ clause)
      (Clause.optionsPlain plain clause)
  | createKeyspace _ | alterKeyspace _ | alterTable _ => exact Clause.optionsPlain plain
  | createIndex index =>
    refine Clause.optionsPlain fun entry inside => .inl ?_
    simp only [Index.writtenOptions] at inside
    split at inside
    · cases inside
    · cases List.mem_singleton.mp inside
      have word : "OPTIONS".toList.all DataType.isWordChar = true := by decide
      exact List.all_eq_true.mp word
  | drop removal =>
    intro clause inside
    cases inside

theorem tellsParts (first second : Statement) {same : Prop}
    (bodies : Text.Settled EndsBody first.rendering.body second.rendering.body same)
    (left : first.PlainOptions) (right : second.PlainOptions)
    (texts : first.rendering.text = second.rendering.text) :
    same ∧ first.clauses.map Clause.meaning = second.clauses.map Clause.meaning := by
  rw [textClauses, textClauses] at texts
  obtain ⟨known, tails⟩ := bodies _ _ (tailEndsBody _) (tailEndsBody _) texts
  exact ⟨known, Clause.tellsTail (plainClauses left) (plainClauses right) tails⟩

theorem tellsOptions {options others : Options}
    (same : (Clause.ofOptions options).map Clause.meaning =
      (Clause.ofOptions others).map Clause.meaning) :
    Options.settings options = Options.settings others := by
  rw [Clause.optionsMeaning, Clause.optionsMeaning] at same
  exact (List.map_inj_right fun _ _ => Sum.inr.inj).mp same

theorem tellsIndexOptions {index other : Index}
    (same : (Clause.ofOptions index.writtenOptions).map Clause.meaning =
      (Clause.ofOptions other.writtenOptions).map Clause.meaning) :
    Options.settings index.options = Options.settings other.options := by
  have written := tellsOptions same
  unfold Index.writtenOptions at written
  cases left : index.options <;> cases right : other.options <;>
    simp_all [Options.settings, OptionValue.setting]

theorem readableOfParsed {types : List DataType}
    (parsed : ∀ type ∈ types, ∃ input, DataType.parse input = .ok type) :
    ∀ type ∈ types, type.Readable := by
  intro type inside
  obtain ⟨input, read⟩ := parsed type inside
  exact DataType.parsedReadable read

theorem changesReadable {alteration : TableAlteration}
    (types : ∀ type ∈ (alterTable alteration).types, type.Readable) :
    ∀ change ∈ alteration.changes, ∀ type ∈ change.types, type.Readable :=
  fun change inside type member => types type (List.mem_flatMap.mpr ⟨change, inside, member⟩)

theorem tellsDirections {table other : Table}
    (same : Clause.orderTold (table.keyOrder .clustering) =
      Clause.orderTold (other.keyOrder .clustering)) : table.directions = other.directions := by
  have told (table : Table) : table.directions =
      (Clause.orderTold (table.keyOrder .clustering)).map (List.map Prod.snd) := by
    unfold Table.directions Clause.orderTold
    simp only
    split
    · rfl
    · simp
  rw [told, told, same]

theorem tellsTable {table other : Table}
    (types : ∀ type ∈ (createTable table).types, type.Readable)
    (types' : ∀ type ∈ (createTable other).types, type.Readable)
    (plain : (createTable table).PlainOptions) (plain' : (createTable other).PlainOptions)
    (checked : table.check = .ok ()) (checked' : other.check = .ok ())
    (texts : (createTable table).rendering.text = (createTable other).rendering.text) :
    (createTable table).description = (createTable other).description := by
  obtain ⟨-, -, columns, -, -, keyed, -⟩ := Table.checkOk.mp checked
  obtain ⟨-, -, columns', -, -, keyed', -⟩ := Table.checkOk.mp checked'
  have bodies := Table.settledBody (table.keyOrder .clustering) (other.keyOrder .clustering)
    columns columns' keyed keyed'
    (fun column inside => types _ (List.mem_map_of_mem inside))
    (fun column inside => types' _ (List.mem_map_of_mem inside))
  obtain ⟨⟨given, name, items, partition, clustering⟩, clauseTexts⟩ :=
    tellsParts (.createTable table) (.createTable other) bodies plain plain' texts
  simp only [clauses, List.map_append, Clause.orderingMeaning, Clause.optionsMeaning] at clauseTexts
  obtain ⟨order, options⟩ := Clause.meaningTells clauseTexts
  rw [description, description, given, name, items, partition, clustering, tellsDirections order,
    options]

theorem textTellsDescription {first second : Statement} {text : Text}
    (types : ∀ type ∈ first.types, ∃ input, DataType.parse input = .ok type)
    (types' : ∀ type ∈ second.types, ∃ input, DataType.parse input = .ok type)
    (plain : first.PlainOptions) (plain' : second.PlainOptions)
    (written : first.text = .ok text) (written' : second.text = .ok text) :
    first.kind = second.kind ∧ first.description = second.description := by
  obtain ⟨checked, shape⟩ := textOk.mp written
  obtain ⟨checked', shape'⟩ := textOk.mp written'
  have texts := shape.trans shape'.symm
  have kinds : first.kind = second.kind := by
    rw [textClauses, textClauses] at texts
    exact tellsKind texts
  refine ⟨kinds, ?_⟩
  -- Statements of two kinds open differently, which leaves one statement to compare with in each case.
  cases first with
  | createKeyspace keyspace =>
    cases second with
    | createKeyspace other =>
      obtain ⟨⟨given, name⟩, clauses⟩ := tellsParts (.createKeyspace keyspace)
        (.createKeyspace other) (keyspace.settledBody other) plain plain' texts
      rw [description, description, given, name, tellsOptions clauses]
    | drop removal => exact absurd kinds.symm (removal.kindApart (by simp [kind]))
    | alterKeyspace _ | createTable _ | alterTable _ | createIndex _ => cases kinds
  | alterKeyspace alteration =>
    cases second with
    | alterKeyspace other =>
      obtain ⟨name, clauses⟩ := tellsParts (.alterKeyspace alteration) (.alterKeyspace other)
        (alteration.settledBody other) plain plain' texts
      rw [description, description, name, tellsOptions clauses]
    | drop removal => exact absurd kinds.symm (removal.kindApart (by simp [kind]))
    | createKeyspace _ | createTable _ | alterTable _ | createIndex _ => cases kinds
  | createTable table =>
    cases second with
    | createTable other =>
      exact tellsTable (readableOfParsed types) (readableOfParsed types') plain plain' checked
        checked' texts
    | drop removal => exact absurd kinds.symm (removal.kindApart (by simp [kind]))
    | createKeyspace _ | alterKeyspace _ | alterTable _ | createIndex _ => cases kinds
  | alterTable alteration =>
    cases second with
    | alterTable other =>
      have bodies := TableAlteration.settledBody (changesReadable (readableOfParsed types))
        (changesReadable (readableOfParsed types'))
      obtain ⟨⟨name, changes⟩, clauses⟩ :=
        tellsParts (.alterTable alteration) (.alterTable other) bodies plain plain' texts
      rw [description, description, name, changes, tellsOptions clauses]
    | drop removal => exact absurd kinds.symm (removal.kindApart (by simp [kind]))
    | createKeyspace _ | alterKeyspace _ | createTable _ | createIndex _ => cases kinds
  | createIndex index =>
    cases second with
    | createIndex other =>
      obtain ⟨⟨-, given, name, table, ⟨target, column⟩, customClass⟩, clauses⟩ :=
        tellsParts (.createIndex index) (.createIndex other) (index.settledBody other) plain plain'
          texts
      rw [description, description, given, name, table, target, column, customClass,
        tellsIndexOptions clauses]
    | drop removal => exact absurd kinds.symm (removal.kindApart (by simp [kind]))
    | createKeyspace _ | alterKeyspace _ | createTable _ | alterTable _ => cases kinds
  | drop removal =>
    cases second with
    | drop other =>
      obtain ⟨same, -⟩ := tellsParts (.drop removal) (.drop other) (Removal.settledBody kinds) plain
        plain' texts
      rw [same]
    | createKeyspace _ | alterKeyspace _ | createTable _ | alterTable _ | createIndex _ =>
      exact absurd kinds (removal.kindApart (by simp [kind]))

theorem undeclaredDirectionTold :
    let id : Column := { name := "Id", type := .native .int, key := some .partition }
    let time : Column :=
      { name := "A,", type := .defined "X", key := some .clustering }
    let rank : Column :=
      { name := "B", type := .native .int, key := some .clustering, ordering := some .desc }
    let options : Options := [("p", .integer 1), ("COMPACT STORAGE", .flag)]
    let table : Table := { name := "T", columns := [id, time, rank], options }
    let other : Table := { table with columns := [id.atOrdinal 1, time.clusteredBy .asc, rank] }
    let text := "CREATE TABLE \"T\" (\"Id\" int, \"A,\" \"X\", ".toList ++ "\"B\" int, ".toList ++
      "PRIMARY KEY (\"Id\", \"A,\", \"B\")) ".toList ++ "WITH CLUSTERING ORDER BY ".toList ++
      "(\"A,\" ASC, \"B\" DESC) AND p = 1 ".toList ++ "AND COMPACT STORAGE;".toList
    (createTable table).text = .ok text ∧ (createTable other).text = .ok text ∧
      (createTable table).kind = (createTable other).kind ∧
      (createTable table).description = (createTable other).description := by
  intro id time rank options table other text
  have partition : table.keyOrder .partition = [id] := by cbv
  have clustering : table.keyOrder .clustering = [time, rank] := by cbv
  have partition' : other.keyOrder .partition = [id.atOrdinal 1] := by cbv
  have clustering' : other.keyOrder .clustering = [time.clusteredBy .asc, rank] := by cbv
  have checked : table.check = .ok () :=
    Table.checkOk.mpr ⟨rfl, rfl, by simp [table], rfl, by cbv, by simp [partition], by cbv, rfl⟩
  have checked' : other.check = .ok () :=
    Table.checkOk.mpr ⟨rfl, rfl, by simp [other], rfl, by cbv, by simp [partition'], by cbv, rfl⟩
  have written : (createTable table).text = .ok text := by
    refine textOk.mpr ⟨checked, ?_⟩
    show Rendering.text ⟨table.body (table.keyOrder .partition) (table.keyOrder .clustering),
      Table.clusteringOrder (table.keyOrder .clustering), options⟩ = text
    rw [partition, clustering]
    simp only [table, id, time, rank, options, text]
    rfl
  have written' : (createTable other).text = .ok text := by
    refine textOk.mpr ⟨checked', ?_⟩
    show Rendering.text ⟨other.body (other.keyOrder .partition) (other.keyOrder .clustering),
      Table.clusteringOrder (other.keyOrder .clustering), options⟩ = text
    rw [partition', clustering']
    simp only [other, table, id, time, rank, options, text]
    rfl
  have parsed : ∀ type ∈ [id.type, time.type, rank.type],
      ∃ input, DataType.parse input = .ok type := by
    have int : DataType.parse "int" = .ok (.native .int) := by cbv
    have defined : DataType.parse "X" = .ok (.defined "X") := by cbv
    simp only [List.forall_mem_cons, List.not_mem_nil, false_implies, implies_true, and_true]
    exact ⟨⟨_, int⟩, ⟨_, defined⟩, ⟨_, int⟩⟩
  have plain : ∀ entry ∈ options, Options.PlainEntry entry := by
    have word : ∀ c ∈ "p".toList, DataType.isWordChar c = true :=
      List.all_eq_true.mp (by decide)
    simp only [options, List.forall_mem_cons, List.not_mem_nil, false_implies, implies_true,
      and_true]
    exact ⟨.inl word, .inr ⟨rfl, rfl⟩⟩
  exact ⟨written, written', textTellsDescription parsed parsed plain plain written written'⟩

end CqlSchema.Statement
