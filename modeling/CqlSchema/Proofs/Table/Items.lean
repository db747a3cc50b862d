import CqlSchema.Proofs.Name.Meaning
import CqlSchema.Proofs.Table.Columns

/-! What a cut meets in the lists of a table: the names and types of its columns, its primary key,
and the changes of one. Names and words have no comma and no bracket outside quotes. A type has
commas between its angle brackets only, and the primary key between its round ones. -/
namespace CqlSchema

/-- A character of names and words, and the blank and the point between them. -/
def Text.isOrdinary (c : Char) : Bool := DataType.isWordChar c || c == ' ' || c == '.'

theorem Name.ordinaryText (name : String) : Text.Kept Text.isOrdinary (Name.text name) :=
  Text.keptMono (fun c plain => by simp [Text.isOrdinary, DataType.plainCharWord plain])
    (Name.keptText name)

theorem QualifiedName.keptText (name : QualifiedName) :
    Text.Kept (fun c => Name.isPlainChar c || c == '.') name.text := by
  have plain (name : String) :
      Text.Kept (fun c => Name.isPlainChar c || c == '.') (Name.text name) :=
    Text.keptMono (fun c plain => by simp [plain]) (Name.keptText name)
  obtain ⟨keyspace, name⟩ := name
  cases keyspace with
  | none => exact plain name
  | some keyspace =>
    have point : Text.Kept (fun c => Name.isPlainChar c || c == '.') ['.'] := Text.keptWords rfl
    exact Text.keptAppend (plain keyspace) (Text.keptAppend point (plain name))

theorem QualifiedName.ordinaryText (name : QualifiedName) :
    Text.Kept Text.isOrdinary name.text := by
  refine Text.keptMono (fun c inside => ?_) name.keptText
  simp only [Bool.or_eq_true] at inside
  rcases inside with plain | point
  · simp [Text.isOrdinary, DataType.plainCharWord plain]
  · simp [Text.isOrdinary, point]

namespace DataType

def isTypeChar (c : Char) : Bool :=
  Name.isPlainChar c || c == '.' || c == ',' || c == ' ' || c == '<' || c == '>'

theorem keptApplied {word body : Text} (name : Text.Kept isTypeChar word)
    (inner : Text.Kept isTypeChar body) : Text.Kept isTypeChar (word ++ body ++ ['>']) :=
  Text.keptAppend (Text.keptAppend name inner) (Text.keptWords rfl)

mutual

theorem keptText (type : DataType) : Text.Kept isTypeChar type.text := by
  cases type with
  | native type =>
    rw [textNative]
    cases type <;> exact Text.keptWords rfl
  | list element =>
    rw [textList]
    exact keptApplied (Text.keptWords rfl) (keptText element)
  | set element =>
    rw [textSet]
    exact keptApplied (Text.keptWords rfl) (keptText element)
  | map first second =>
    rw [textMap]
    refine Text.keptAppend (Text.keptAppend ?_ (keptText second)) (Text.keptWords rfl)
    exact Text.keptAppend (Text.keptAppend (Text.keptWords rfl) (keptText first))
      (Text.keptWords rfl)
  | tuple elements =>
    rw [textTuple]
    exact keptApplied (Text.keptWords rfl)
      (Text.keptJoined (Text.keptWords rfl) (keptTexts elements))
  | frozen inner =>
    rw [textFrozen]
    exact keptApplied (Text.keptWords rfl) (keptText inner)
  | defined name =>
    rw [textDefined]
    refine Text.keptMono (fun c inside => ?_) (definedName name).keptText
    simp only [Bool.or_eq_true] at inside
    simp only [isTypeChar, Bool.or_eq_true]
    tauto

theorem keptTexts (types : List DataType) : ∀ part ∈ texts types, Text.Kept isTypeChar part := by
  cases types with
  | nil => simp [texts]
  | cons type rest =>
    rw [texts, List.forall_mem_cons]
    exact ⟨keptText type, keptTexts rest⟩

end

section
variable {brackets : Text.Brackets}

theorem freeOrdinary (angled : brackets.Around '<' '>') {text : Text}
    (kept : Text.Kept Text.isOrdinary text) (depth : Nat) :
    Text.Free brackets ", ".toList depth text :=
  Text.freely (Text.passesFirst kept (angled.flat rfl) rfl fun _ => rfl)

theorem freeComma (angled : brackets.Around '<' '>') (depth : Nat) :
    Text.Free brackets ", ".toList (depth + 1) ", ".toList := by
  have comma : Text.Kept (fun c => c == ',' || c == ' ') ", ".toList := Text.keptWords rfl
  exact Text.freely (Text.passesFirst comma (angled.flat rfl) rfl (by simp))

theorem freeApplied (angled : brackets.Around '<' '>') (word : Text) {body : Text} {depth : Nat}
    (plain : word.all (fun c => Text.isOrdinary c && !Text.isQuote c) = true)
    (inner : Text.Free brackets ", ".toList (depth + 1) body) :
    Text.Free brackets ", ".toList depth (word ++ '<' :: (body ++ ['>'])) := by
  refine Text.crossedAppend (freeOrdinary angled (Text.keptWords plain) depth) (Text.freely ?_)
  refine Text.passesBracketed angled rfl rfl (fun _ rest found => ?_) (Text.freePasses inner)
  cases (List.cons_prefix_cons.mp found).1

mutual

theorem freeText (angled : brackets.Around '<' '>') (type : DataType) (depth : Nat) :
    Text.Free brackets ", ".toList depth type.text := by
  cases type with
  | native type =>
    rw [textNative]
    cases type <;> exact freeOrdinary angled (Text.keptWords rfl) depth
  | list element =>
    rw [textList, List.append_assoc]
    exact freeApplied angled "list".toList rfl (freeText angled element (depth + 1))
  | set element =>
    rw [textSet, List.append_assoc]
    exact freeApplied angled "set".toList rfl (freeText angled element (depth + 1))
  | map first second =>
    have inner := Text.crossedAppend (freeText angled first (depth + 1))
      (Text.crossedAppend (freeComma angled depth) (freeText angled second (depth + 1)))
    have applied := freeApplied angled "map".toList rfl inner
    simpa using applied
  | tuple elements =>
    rw [textTuple, List.append_assoc]
    exact freeApplied angled "tuple".toList rfl
      (Text.crossedJoined (freeComma angled depth) (freeTexts angled elements (depth + 1)))
  | frozen inner =>
    rw [textFrozen, List.append_assoc]
    exact freeApplied angled "frozen".toList rfl (freeText angled inner (depth + 1))
  | defined name =>
    rw [textDefined]
    exact freeOrdinary angled (definedName name).ordinaryText depth

theorem freeTexts (angled : brackets.Around '<' '>') (types : List DataType) (depth : Nat) :
    ∀ part ∈ texts types, Text.Free brackets ", ".toList depth part := by
  cases types with
  | nil => simp [texts]
  | cons type rest =>
    rw [texts, List.forall_mem_cons]
    exact ⟨freeText angled type depth, freeTexts angled rest depth⟩

end

end
end DataType

namespace Table

theorem columnItemWritten (column : Column) :
    columnItem column = Name.text column.name ++ ([' '] ++ column.type.text) := rfl

theorem keptColumnItem (column : Column) : Text.Kept DataType.isTypeChar (columnItem column) := by
  have name : Text.Kept DataType.isTypeChar (Name.text column.name) :=
    Text.keptMono (fun c plain => by simp [DataType.isTypeChar, plain]) (Name.keptText column.name)
  have space : Text.Kept DataType.isTypeChar [' '] := Text.keptWords rfl
  rw [columnItemWritten]
  exact Text.keptAppend name (Text.keptAppend space column.type.keptText)

theorem freeColumnItem {brackets : Text.Brackets} (angled : brackets.Around '<' '>')
    (column : Column) : Text.Free brackets ", ".toList 0 (columnItem column) := by
  have name := DataType.freeOrdinary angled (Name.ordinaryText column.name) 0
  have space : Text.Kept Text.isOrdinary [' '] := Text.keptWords rfl
  rw [columnItemWritten]
  exact Text.crossedAppend name (Text.crossedAppend (DataType.freeOrdinary angled space 0)
    (DataType.freeText angled column.type 0))

theorem keptOrderItem (column : Column) : Text.Kept Text.isOrdinary (orderItem column) := by
  have word : Text.Kept Text.isOrdinary (column.ordering.getD .asc).keyword.toList := by
    cases column.ordering.getD .asc <;> exact Text.keptWords rfl
  have space : Text.Kept Text.isOrdinary [' '] := Text.keptWords rfl
  exact Text.keptAppend (Name.ordinaryText column.name) (Text.keptAppend space word)

def isListChar (c : Char) : Bool := Text.isOrdinary c || c == ','

theorem keptColumnNames (columns : List Column) :
    Text.Kept isListChar (Text.joined ", ".toList (columnNames columns)) := by
  refine Text.keptJoined (Text.keptWords rfl) fun part inside => ?_
  obtain ⟨column, -, rfl⟩ := List.mem_map.mp inside
  exact Text.keptMono (fun c plain => by simp [isListChar, plain]) (Name.ordinaryText column.name)

section
variable {brackets : Text.Brackets} {s : Char} {more : Text} {depth : Nat}

theorem freeColumnNames (round : brackets.Around '(' ')') (unquoted : Text.isQuote s = false)
    (apart : Text.isOrdinary s = false) (columns : List Column) :
    ∀ part ∈ columnNames columns, Text.Free brackets (s :: more) depth part := by
  intro part inside
  obtain ⟨column, -, rfl⟩ := List.mem_map.mp inside
  exact Text.freely (Text.passesFirst (Name.ordinaryText column.name) (round.flat rfl) unquoted
    fun _ => apart)

theorem freePartition (round : brackets.Around '(' ')') (unquoted : Text.isQuote s = false)
    (apart : Text.isOrdinary s = false) (other : s ≠ '(') (partition : List Column) :
    Text.Free brackets (s :: more) depth (partitionItem partition) := by
  have names : ∀ part ∈ columnNames partition, Text.Free brackets (s :: more) depth part :=
    freeColumnNames round unquoted apart partition
  match partition with
  | [] => exact Text.crossedNil
  | [column] =>
    rw [partitionSingle]
    exact names _ (List.mem_singleton.mpr rfl)
  | first :: second :: rest =>
    rw [partitionSeveral]
    refine Text.freely (Text.passesBracketed round rfl rfl (fun _ rest found => ?_) ?_)
    · exact other (List.cons_prefix_cons.mp found).1
    · exact Text.passesFirst (keptColumnNames _) (round.flat rfl) unquoted (by simp)

theorem freeKeyList (round : brackets.Around '(' ')') (unquoted : Text.isQuote s = false)
    (apart : Text.isOrdinary s = false) (other : s ≠ '(')
    (comma : depth = 0 → isListChar s = false) (partition clustering : List Column) :
    Text.Free brackets (s :: more) depth
      (Text.joined ", ".toList (partitionItem partition :: columnNames clustering)) := by
  have between : Text.Kept isListChar ", ".toList := Text.keptWords rfl
  refine Text.crossedJoined
    (Text.freely (Text.passesFirst between (round.flat rfl) unquoted comma)) fun part inside => ?_
  rcases List.mem_cons.mp inside with rfl | name
  · exact freePartition round unquoted apart other partition
  · exact freeColumnNames round unquoted apart clustering part name

theorem primaryKeyWritten (partition clustering : List Column) :
    primaryKey partition clustering = "PRIMARY KEY ".toList ++ '(' ::
      (Text.joined ", ".toList (partitionItem partition :: columnNames clustering) ++ [')']) := by
  have opening : "PRIMARY KEY (".toList = "PRIMARY KEY ".toList ++ ['('] := rfl
  have inner (list : Text) : "PRIMARY KEY (".toList ++ list ++ [')'] =
      "PRIMARY KEY ".toList ++ '(' :: (list ++ [')']) := by
    simp only [opening, List.append_assoc, List.cons_append, List.nil_append]
  exact inner _

theorem freePrimaryKey (round : brackets.Around '(' ')') (unquoted : Text.isQuote s = false)
    (apart : Text.isOrdinary s = false) (other : s ≠ '(') (partition clustering : List Column) :
    Text.Free brackets (s :: more) depth (primaryKey partition clustering) := by
  have words : Text.Kept Text.isOrdinary "PRIMARY KEY ".toList := Text.keptWords rfl
  rw [primaryKeyWritten]
  refine Text.crossedAppend
    (Text.freely (Text.passesFirst words (round.flat rfl) unquoted fun _ => apart)) (Text.freely ?_)
  refine Text.passesBracketed round rfl rfl (fun _ rest found => ?_) (Text.freePasses ?_)
  · exact other (List.cons_prefix_cons.mp found).1
  · exact freeKeyList round unquoted apart other (by simp) partition clustering

end
end Table

theorem ColumnChange.freeText {brackets : Text.Brackets} (angled : brackets.Around '<' '>')
    (change : ColumnChange) : Text.Free brackets ", ".toList 0 change.text := by
  have words (text : Text)
      (plain : text.all (fun c => Text.isOrdinary c && !Text.isQuote c) = true) :
      Text.Free brackets ", ".toList 0 text :=
    DataType.freeOrdinary angled (Text.keptWords plain) 0
  have names (name : String) : Text.Free brackets ", ".toList 0 (Name.text name) :=
    DataType.freeOrdinary angled (Name.ordinaryText name) 0
  cases change with
  | alter column type =>
    exact Text.crossedAppend (Text.crossedAppend (Text.crossedAppend (words _ rfl) (names column))
      (words _ rfl)) (DataType.freeText angled type 0)
  | add column type =>
    exact Text.crossedAppend (Text.crossedAppend (words _ rfl) (names column))
      (Text.crossedAppend (words [' '] rfl) (DataType.freeText angled type 0))
  | drop column => exact Text.crossedAppend (words _ rfl) (names column)
  | rename old new =>
    exact Text.crossedAppend (Text.crossedAppend (Text.crossedAppend (words _ rfl) (names old))
      (words _ rfl)) (names new)

end CqlSchema
