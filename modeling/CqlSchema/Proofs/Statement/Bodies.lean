import CqlSchema.Proofs.Statement.Clauses
import CqlSchema.Proofs.Statement.Description

/-! What the body of a statement tells, kind by kind. No two kinds start with the same words, and
within a kind the body tells everything but the clauses that stand behind it. -/
namespace CqlSchema

def EndsBody (r : Text) : Prop := (∃ more, r = " WITH ".toList ++ more) ∨ r = [';']

theorem tailEndsBody (clauses : List Clause) : EndsBody (Clause.tail clauses) := by
  cases clauses with
  | nil => exact .inr rfl
  | cons first rest => exact .inl ⟨_, rfl⟩

theorem bodyFollows {r : Text} (ends : EndsBody r) : DataType.Follows r := by
  rcases ends with ⟨more, rfl⟩ | rfl
  · have space : ∀ c ∈ [' '], Text.isBlank c = true := List.all_eq_true.mp (by decide)
    have skipped : Text.skipBlanks (" WITH ".toList ++ more) = "WITH ".toList ++ more :=
      (Text.skipBlanksAppend space _).trans (Text.skipBlanksCons 'W' (by decide) _)
    refine ⟨Text.avoidsFirst rfl rfl, ?_⟩
    rw [skipped]
    exact fun opens => by cases opens
  · exact followsChar (by decide) (by decide) (by decide)

theorem bodyEndsName {r : Text} (ends : EndsBody r) : Text.Avoids Name.continues r :=
  followsName (bodyFollows ends)

theorem bodyEndsQualified {r : Text} (ends : EndsBody r) : Text.Avoids QualifiedName.continues r := by
  rcases ends with ⟨more, rfl⟩ | rfl
  · exact Text.avoidsFirst rfl rfl
  · exact Text.avoidsFirst rfl rfl

theorem Keyspace.settledBody (first second : Keyspace) :
    Text.Settled EndsBody first.body second.body
      (first.ifNotExists = second.ifNotExists ∧ first.name = second.name) := by
  have names := Text.settledMono (Name.settledText first.name second.name) fun r => bodyEndsName
  unfold body
  rw [List.append_assoc, List.append_assoc]
  refine Text.settledBehind _ (Text.settledGiven _ _ _ names ?_ ?_)
  · exact fun _ s => Name.textApart _ (Text.avoidsFirst rfl rfl) _
  · exact fun _ s => Name.textApart _ (Text.avoidsFirst rfl rfl) _

theorem KeyspaceAlteration.settledBody (first second : KeyspaceAlteration) :
    Text.Settled EndsBody first.body second.body (first.name = second.name) :=
  Text.settledBehind _ (Text.settledMono (Name.settledText _ _) fun _ => bodyEndsName)

namespace TableAlteration

theorem changeApart (change : ColumnChange) {r : Text} (ends : EndsBody r) (s : Text) :
    r ≠ ' ' :: (change.text ++ s) := by
  obtain ⟨rest, shape⟩ := change.textWord
  rw [shape, List.append_assoc]
  rcases ends with ⟨more, rfl⟩ | rfl
  · have clash : Text.differ " WITH ".toList (' ' :: change.word) = true := by cases change <;> rfl
    exact Text.differApart clash more _
  · exact fun whole => by cases congrArg List.head? whole

def changesText (changes : List ColumnChange) : Text :=
  if changes.isEmpty then [] else ' ' :: Text.joined ", ".toList (changes.map ColumnChange.text)

theorem settledNoChange (change : ColumnChange) (rest : List ColumnChange) {same : Prop} :
    Text.Settled EndsBody (changesText []) (changesText (change :: rest)) same := by
  intro r s ends _ whole
  have shape : r = ' ' :: (change.text ++ ((rest.map ColumnChange.text).flatMap
      (", ".toList ++ ·) ++ s)) := by
    rw [← List.append_assoc]
    exact whole
  exact absurd shape (changeApart change ends _)

theorem settledChanges {first second : List ColumnChange}
    (left : ∀ change ∈ first, ∀ type ∈ change.types, type.Readable)
    (right : ∀ change ∈ second, ∀ type ∈ change.types, type.Readable) :
    Text.Settled EndsBody (changesText first) (changesText second) (first = second) := by
  cases first with
  | nil =>
    cases second with
    | nil => exact fun r s _ _ whole => ⟨rfl, whole⟩
    | cons y ys => exact settledNoChange y ys
  | cons x xs =>
    cases second with
    | nil => exact Text.settledSymm (settledNoChange x xs)
    | cons y ys =>
      have items : Text.Settled EndsBody
          (Text.joined ", ".toList ((x :: xs).map ColumnChange.text))
          (Text.joined ", ".toList ((y :: ys).map ColumnChange.text))
          ((x :: xs).map id = (y :: ys).map id) := by
        refine Text.settledItems (fun x' inside y' member =>
          ColumnChange.settledText (left x' inside) (right y' member)) commaFollows
          (fun _ => bodyFollows) ?_
        rintro x' _ s ends rfl
        rcases ends with ⟨more, whole⟩ | whole
        · cases congrArg List.head? whole
        · cases congrArg List.head? whole
      rw [List.map_id, List.map_id] at items
      exact Text.settledBehind [' '] items

theorem settledBody {first second : TableAlteration}
    (left : ∀ change ∈ first.changes, ∀ type ∈ change.types, type.Readable)
    (right : ∀ change ∈ second.changes, ∀ type ∈ change.types, type.Readable) :
    Text.Settled EndsBody first.body second.body
      (first.qualifiedName = second.qualifiedName ∧ first.changes = second.changes) := by
  have space (changes : List ColumnChange) (r : Text) (ends : EndsBody r) :
      Text.Avoids QualifiedName.continues (changesText changes ++ r) := by
    cases changes with
    | nil => exact bodyEndsQualified ends
    | cons => exact Text.avoidsFirst rfl rfl
  have both := Text.settledAppend
    (QualifiedName.settledText first.qualifiedName second.qualifiedName)
    (fun _ => settledChanges left right) (space first.changes) (space second.changes)
  unfold body
  rw [List.append_assoc, List.append_assoc]
  exact Text.settledBehind _ both

end TableAlteration

namespace Table

theorem keyStart (partition clustering : List Column) (r : Text) :
    ∃ more, ", ".toList ++ (primaryKey partition clustering ++ r) =
      ", PRIMARY KEY (".toList ++ more := by
  unfold primaryKey
  simp only [List.append_assoc]
  exact ⟨_, rfl⟩

theorem settledBody {first second : Table} {partition partition' : List Column}
    (clustering clustering' : List Column) (columns : first.columns ≠ []) (columns' : second.columns ≠ [])
    (keyed : partition ≠ []) (keyed' : partition' ≠ [])
    (left : ∀ column ∈ first.columns, column.type.Readable)
    (right : ∀ column ∈ second.columns, column.type.Readable) :
    Text.Settled EndsBody (first.body partition clustering) (second.body partition' clustering')
      (first.ifNotExists = second.ifNotExists ∧ first.qualifiedName = second.qualifiedName ∧
        first.columns.map (fun column => (column.name, column.type)) =
          second.columns.map (fun column => (column.name, column.type)) ∧
        partition.map (·.name) = partition'.map (·.name) ∧
        clustering.map (·.name) = clustering'.map (·.name)) := by
  have key : Text.Settled (fun _ => True) (primaryKey partition clustering)
      (primaryKey partition' clustering') _ := settledPrimaryKey keyed keyed'
  have keys : Text.Settled EndsBody _ _ _ :=
    Text.settledBehind ", ".toList (Text.settledBefore [')'] key fun _ => trivial)
  have items := Text.settledAppend (settledColumns left right) (fun _ => keys)
    (fun r _ => by simpa using keyStart partition clustering (')' :: r))
    (fun r _ => by simpa using keyStart partition' clustering' (')' :: r))
  have named := Text.settledAppend
    (QualifiedName.settledText first.qualifiedName second.qualifiedName)
    (fun _ => Text.settledBehind " (".toList items)
    (fun _ _ => Text.avoidsFirst rfl rfl) (fun _ _ => Text.avoidsFirst rfl rfl)
  unfold body
  rw [Text.joinedAppend (by simpa using columns), Text.joinedAppend (by simpa using columns')]
  simp only [List.append_assoc]
  refine Text.settledBehind _ (Text.settledGiven _ _ _ named ?_ ?_)
  · intro r s
    rw [List.append_assoc]
    exact QualifiedName.textApart _ (Text.avoidsFirst rfl rfl) _
  · intro r s
    rw [List.append_assoc]
    exact QualifiedName.textApart _ (Text.avoidsFirst rfl rfl) _

end Table

namespace Index

/-- The target that stands in brackets, by its first letter; names start with no capital. -/
def targetOf (item : Text) : IndexTarget :=
  match item.head? with
  | some 'K' => .keys
  | some 'V' => .values
  | some 'E' => .entries
  | some 'F' => .full
  | _ => .column

theorem nameTarget (name : String) (rest : Text) : targetOf (Name.text name ++ rest) = .column := by
  obtain ⟨c, more, shape, opening⟩ := Name.textOpens name
  rw [shape, List.cons_append, targetOf, List.head?_cons]
  split <;> rename_i first <;> first | rfl | cases first; cases opening

theorem targetSeen (index : Index) (rest : Text) :
    targetOf (index.columnItem ++ rest) = index.target := by
  unfold columnItem
  cases index.target with
  | column => exact nameTarget index.column rest
  | keys | values | entries | full => rfl

theorem settledColumnItem (first second : Index) :
    Text.Settled (fun r => r.head? = some ')') first.columnItem second.columnItem
      (first.target = second.target ∧ first.column = second.column) := by
  intro r s before after whole
  have targets := congrArg targetOf whole
  rw [targetSeen, targetSeen] at targets
  have names := Text.settledMono (Name.settledText first.column second.column)
    fun _ => Table.bracketEndsName
  have items : Text.Settled (fun r => r.head? = some ')') first.columnItem second.columnItem
      (first.column = second.column) := by
    unfold columnItem
    rw [targets]
    split
    · exact Text.settledBehind _ (Text.settledBehind ['(']
        (Text.settledBefore [')'] names fun _ => rfl))
    · exact names
  exact (items r s before after whole).imp (fun columns => ⟨targets, columns⟩) id

def nameText : Option String → Text
  | some name => Name.text name ++ [' ']
  | none => []

theorem settledUnnamed {ends : Text → Prop} {a b : Text} {same : Prop} (name : String)
    (capital : ∀ r, Text.Avoids Name.opens (a ++ r)) :
    Text.Settled ends (nameText none ++ a) (nameText (some name) ++ b) same := by
  intro r s _ _ whole
  have shape : a ++ r = Name.text name ++ ([' '] ++ (b ++ s)) := by
    simpa [nameText] using whole
  exact absurd shape (Name.textApart name (capital r) _)

theorem givenApart (name : Option String) (a r s : Text) :
    "IF NOT EXISTS ".toList ++ s ≠ nameText name ++ ("ON ".toList ++ a) ++ r := by
  cases name with
  | none =>
    rw [nameText, List.nil_append, List.append_assoc]
    exact Text.differApart rfl s _
  | some name =>
    rw [nameText, List.append_assoc, List.append_assoc]
    exact Name.textApart name (Text.avoidsFirst rfl rfl) _

theorem settledNameText {ends : Text → Prop} {a b : Text} {q : Prop} (first second : Option String)
    (left : ∀ r, Text.Avoids Name.opens (a ++ r)) (right : ∀ r, Text.Avoids Name.opens (b ++ r))
    (rear : Text.Settled ends a b q) :
    Text.Settled ends (nameText first ++ a) (nameText second ++ b) (first = second ∧ q) := by
  cases first with
  | none =>
    cases second with
    | none => exact Text.settledImp rear fun same => ⟨rfl, same⟩
    | some other => exact settledUnnamed other left
  | some name =>
    cases second with
    | none => exact Text.settledSymm (settledUnnamed name right)
    | some other =>
      have names : Text.Settled (fun _ => True) (nameText (some name)) (nameText (some other))
          (name = other) :=
        Text.settledBefore [' '] (Name.settledText name other) fun r => Text.avoidsFirst rfl rfl
      refine Text.settledImp (Text.settledAppend names (fun _ => rear) ?_ ?_) fun same => ?_
      · exact fun _ _ => trivial
      · exact fun _ _ => trivial
      · exact ⟨congrArg some same.1, same.2⟩

def classText : Option String → Text
  | some customClass => " USING ".toList ++ Literal.text customClass
  | none => []

theorem settledClassless (customClass : String) {same : Prop} :
    Text.Settled EndsBody (classText none) (classText (some customClass)) same := by
  intro r s ends _ whole
  unfold classText at whole
  rw [List.nil_append, List.append_assoc] at whole
  rcases ends with ⟨more, rfl⟩ | rfl
  · exact absurd whole (Text.differApart rfl _ _)
  · cases congrArg List.head? whole

theorem bodyEndsLiteral {r : Text} (ends : EndsBody r) : r.head? ≠ some '\'' := by
  rcases ends with ⟨more, rfl⟩ | rfl
  · exact fun quoted => by cases quoted
  · exact fun quoted => by cases quoted

theorem settledClassText (first second : Option String) :
    Text.Settled EndsBody (classText first) (classText second) (first = second) := by
  cases first with
  | none =>
    cases second with
    | none => exact fun r s _ _ whole => ⟨rfl, whole⟩
    | some other => exact settledClassless other
  | some customClass =>
    cases second with
    | none => exact Text.settledSymm (settledClassless customClass)
    | some other =>
      have literals := Text.settledMono (Literal.settledText customClass other)
        fun _ => bodyEndsLiteral
      exact Text.settledImp (Text.settledBehind _ literals) (congrArg some)

def creating (custom : Bool) : Text :=
  if custom then "CREATE CUSTOM INDEX ".toList else "CREATE INDEX ".toList

theorem bodyWritten (index : Index) :
    index.body = creating index.isCustom ++
      ((if index.ifNotExists then "IF NOT EXISTS ".toList else []) ++ (nameText index.name ++
      ("ON ".toList ++ (QualifiedName.text ⟨index.keyspace, index.table⟩ ++
      (" (".toList ++ (index.columnItem ++ ([')'] ++ classText index.customClass))))))) := by
  unfold body
  simp only [List.append_assoc]
  rfl

theorem settledBody (first second : Index) :
    Text.Settled EndsBody first.body second.body
      (first.isCustom = second.isCustom ∧ first.ifNotExists = second.ifNotExists ∧
        first.name = second.name ∧
        (⟨first.keyspace, first.table⟩ : QualifiedName) = ⟨second.keyspace, second.table⟩ ∧
        (first.target = second.target ∧ first.column = second.column) ∧
        first.customClass = second.customClass) := by
  have targets := Text.settledAppend (settledColumnItem first second)
    (fun _ => Text.settledBehind [')'] (settledClassText first.customClass second.customClass))
    (fun _ _ => rfl) (fun _ _ => rfl)
  have tables := Text.settledAppend
    (QualifiedName.settledText ⟨first.keyspace, first.table⟩ ⟨second.keyspace, second.table⟩)
    (fun _ => Text.settledBehind " (".toList targets)
    (fun _ _ => Text.avoidsFirst rfl rfl) (fun _ _ => Text.avoidsFirst rfl rfl)
  have names := settledNameText first.name second.name
    (fun _ => Text.avoidsFirst rfl rfl) (fun _ => Text.avoidsFirst rfl rfl)
    (Text.settledBehind "ON ".toList tables)
  have apart : ∀ x y : Bool, x ≠ y → Text.differ (creating x) (creating y) = true := by decide
  have words : Text.Settled (fun _ => True) _ _ _ :=
    Text.settledWord creating apart first.isCustom second.isCustom
  have given := Text.settledGiven first.ifNotExists second.ifNotExists "IF NOT EXISTS ".toList names
    (fun _ _ => givenApart _ _ _ _) (fun _ _ => givenApart _ _ _ _)
  rw [bodyWritten, bodyWritten]
  exact Text.settledAppend words (fun _ => given) (fun _ _ => trivial) (fun _ _ => trivial)

end Index

namespace Removal

theorem kindApart (removal : Removal) {kind : StatementKind}
    (other : kind ∉ [.dropKeyspace, .dropTable, .dropIndex]) : removal.kind ≠ kind := by
  rintro rfl
  obtain ⟨object, ifExists⟩ := removal
  cases object <;> simp [Removal.kind, SchemaObject.removalKind] at other

theorem objectOfName {first second : SchemaObject} (kinds : first.removalKind = second.removalKind)
    (names : first.qualifiedName = second.qualifiedName) : first = second := by
  cases first <;> cases second <;>
    simp_all [SchemaObject.removalKind, SchemaObject.qualifiedName]

theorem settledBody {first second : Removal} (kinds : first.kind = second.kind) :
    Text.Settled EndsBody first.body second.body (first = second) := by
  have names := Text.settledMono (QualifiedName.settledText first.object.qualifiedName
    second.object.qualifiedName) fun _ => bodyEndsQualified
  have given := Text.settledGiven first.ifExists second.ifExists "IF EXISTS ".toList names
    (fun _ _ => QualifiedName.textApart _ (Text.avoidsFirst rfl rfl) _)
    (fun _ _ => QualifiedName.textApart _ (Text.avoidsFirst rfl rfl) _)
  unfold body
  rw [kinds]
  refine Text.settledImp (Text.settledBehind _ (Text.settledBehind [' '] given)) fun same => ?_
  obtain ⟨object, ifExists⟩ := first
  obtain ⟨other, ifExists'⟩ := second
  obtain ⟨rfl, name⟩ := same
  cases objectOfName kinds name
  rfl

end Removal

end CqlSchema
