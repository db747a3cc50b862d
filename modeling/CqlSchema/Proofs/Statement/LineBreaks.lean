import CqlSchema.Proofs.DataType.Quoting
import CqlSchema.Proofs.Decimal.Characters
import CqlSchema.Proofs.Statement.WrittenOptions
import CqlSchema.Proofs.Table.KeyOrder

/-! Where the line breaks of a statement come from. Its own words have none, and names and values are
copied with all their characters, so a statement is one line unless a name or a value is not. -/
namespace CqlSchema

/-- One of the strings has a line break. -/
def Broken (strings : List String) : Prop := ∃ string ∈ strings, '\n' ∈ string.toList

@[simp] theorem brokenNil : ¬Broken [] := by simp [Broken]

@[simp] theorem brokenCons {string : String} {rest : List String} :
    Broken (string :: rest) ↔ '\n' ∈ string.toList ∨ Broken rest := by simp [Broken]

@[simp] theorem brokenAppend {first second : List String} :
    Broken (first ++ second) ↔ Broken first ∨ Broken second := by
  simp only [Broken, List.mem_append, or_and_right, exists_or]

@[simp] theorem brokenFlatMap {α : Type} {parts : List α} {strings : α → List String} :
    Broken (parts.flatMap strings) ↔ ∃ part ∈ parts, Broken (strings part) := by
  simp only [Broken, List.mem_flatMap]
  constructor
  · intro broken
    obtain ⟨string, ⟨part, member, inside⟩, holds⟩ := broken
    exact ⟨part, member, string, inside, holds⟩
  · intro broken
    obtain ⟨part, member, string, inside, holds⟩ := broken
    exact ⟨string, ⟨part, member, inside⟩, holds⟩

namespace Text

@[simp] theorem breakJoined {separator : Text} (unbroken : '\n' ∉ separator) {parts : List Text} :
    '\n' ∈ joined separator parts ↔ ∃ part ∈ parts, '\n' ∈ part := by
  cases parts with
  | nil => simp
  | cons part rest => simp [joined, unbroken]

theorem memDoubled {quote c : Char} {content : Text} : c ∈ doubled quote content ↔ c ∈ content := by
  induction content with
  | nil => rfl
  | cons d rest ih =>
    rw [doubled]
    split
    · rename_i same
      simp [ih, same]
    · simp [ih]

@[simp] theorem breakEnclosed {quote : Char} (other : '\n' ≠ quote) {content : Text} :
    '\n' ∈ enclosed quote content ↔ '\n' ∈ content := by
  simp [enclosed, memDoubled, other]

theorem breakOptional {given : Bool} {words : Text} :
    '\n' ∈ (if given then words else []) ↔ given = true ∧ '\n' ∈ words := by
  cases given <;> simp

end Text

@[simp] theorem breakLiteral {value : String} : '\n' ∈ Literal.text value ↔ '\n' ∈ value.toList :=
  Text.breakEnclosed (by decide)

@[simp] theorem breakName {name : String} : '\n' ∈ Name.text name ↔ '\n' ∈ name.toList := by
  unfold Name.text
  split
  · rfl
  · exact Text.breakEnclosed (by decide)

def QualifiedName.strings (name : QualifiedName) : List String := name.keyspace.toList ++ [name.name]

@[simp] theorem breakQualified {name : QualifiedName} :
    '\n' ∈ name.text ↔ Broken name.strings := by
  obtain ⟨keyspace, name⟩ := name
  cases keyspace <;> simp [QualifiedName.text, QualifiedName.strings]

theorem breakNumber {text : Text} (number : Decimal.NumberText text) : '\n' ∉ text := by
  intro inside
  cases number.characters '\n' inside

namespace DataType

mutual

/-- The names of the defined types in the type, as they are given. -/
def strings : DataType → List String
  | native _ => []
  | list element => strings element
  | set element => strings element
  | map key value => strings key ++ strings value
  | tuple elements => stringsAll elements
  | frozen inner => strings inner
  | defined name => [name]

def stringsAll : List DataType → List String
  | [] => []
  | type :: rest => strings type ++ stringsAll rest

end

theorem breakDefined {name : String} : '\n' ∈ (definedName name).text ↔ '\n' ∈ name.toList := by
  by_cases point : '.' ∈ name.toList
  · obtain ⟨before, behind, whole, plain⟩ := List.eq_append_cons_of_mem point
    have parted := definedPointed plain behind
    rw [← whole, String.ofList_toList] at parted
    simp [parted, whole, QualifiedName.strings]
  · have alone := definedPointless point
    rw [String.ofList_toList] at alone
    simp [alone, QualifiedName.strings]

mutual

@[simp] theorem breakText (type : DataType) : '\n' ∈ type.text ↔ Broken type.strings := by
  cases type with
  | native type => cases type <;> simp [strings, NativeType.name]
  | list element | set element | frozen element => simp [strings, breakText element]
  | map key value => simp [strings, breakText key, breakText value]
  | tuple elements => simp [strings, breakTexts elements]
  | defined name => simp only [textDefined, breakDefined, strings, brokenCons, brokenNil, or_false]

theorem breakTexts (types : List DataType) :
    (∃ part ∈ texts types, '\n' ∈ part) ↔ Broken (stringsAll types) := by
  cases types with
  | nil => simp [texts, stringsAll]
  | cons type rest => simp [texts, stringsAll, breakText type, breakTexts rest]

end

end DataType

mutual

/-- The texts in the value and the keys of its maps, at every depth. -/
def OptionValue.strings : OptionValue → List String
  | .text value => [value]
  | .map entries => Options.strings entries
  | .flag | .integer _ | .float _ | .boolean _ => []

def Options.strings : Options → List String
  | [] => []
  | (name, value) :: rest => name :: (value.strings ++ Options.strings rest)

end

mutual

theorem OptionValue.breakRendered (value : OptionValue) :
    '\n' ∈ value.rendered ↔ Broken value.strings := by
  cases value with
  | flag => simp [OptionValue.rendered, OptionValue.strings]
  | text value => simp [OptionValue.rendered, OptionValue.strings]
  | integer value =>
    simp [OptionValue.rendered, OptionValue.strings, breakNumber (Decimal.integerNumber _)]
  | float value =>
    simp [OptionValue.rendered, OptionValue.strings, breakNumber (Decimal.plainNumber _)]
  | boolean value => cases value <;> simp [OptionValue.rendered, OptionValue.strings]
  | map entries => simp [OptionValue.rendered, OptionValue.strings, Options.breakEntries entries]

theorem Options.breakEntries (entries : Options) :
    (∃ part ∈ Options.renderedEntries entries, '\n' ∈ part) ↔ Broken (Options.strings entries) := by
  cases entries with
  | nil => simp [Options.renderedEntries, Options.strings]
  | cons entry rest =>
    simp [Options.renderedEntries, Options.strings, OptionValue.breakRendered entry.2,
      Options.breakEntries rest, or_assoc]

end

namespace Options

theorem breakClause {name : String} {value : OptionValue} :
    '\n' ∈ clause name value ↔ '\n' ∈ name.toList ∨ Broken value.strings := by
  unfold clause
  split
  · simp [OptionValue.strings]
  · simp [OptionValue.breakRendered]

theorem brokenStrings {options : Options} : Broken (strings options) ↔
    ∃ entry ∈ options, '\n' ∈ entry.1.toList ∨ Broken entry.2.strings := by
  induction options with
  | nil => simp [strings]
  | cons entry rest ih => simp [strings, ih, or_assoc]

theorem breakWithClauses {leading : List Text} {options : Options} :
    '\n' ∈ withClauses leading options ↔
      (∃ clause ∈ leading, '\n' ∈ clause) ∨ Broken (strings options) := by
  have clauses : (∃ part ∈ leading ++ options.map (fun entry => clause entry.1 entry.2), '\n' ∈ part) ↔
      (∃ clause ∈ leading, '\n' ∈ clause) ∨ Broken (strings options) := by
    simp only [List.mem_append, or_and_right, exists_or, List.mem_map, exists_exists_and_eq_and,
      breakClause, brokenStrings]
  rw [← clauses, withClauses]
  split
  · rename_i none
    simp [none]
  · simp

end Options

theorem Rendering.breakText {rendering : Rendering} : '\n' ∈ rendering.text ↔
    ('\n' ∈ rendering.body ∨ ∃ clause ∈ rendering.leading, '\n' ∈ clause) ∨
      Broken (Options.strings rendering.options) := by
  simp [text, Options.terminated, Options.breakWithClauses, or_assoc]

theorem Keyspace.breakBody {keyspace : Keyspace} :
    '\n' ∈ keyspace.body ↔ '\n' ∈ keyspace.name.toList := by
  unfold body
  simp only [List.mem_append, Text.breakOptional]
  simp

theorem KeyspaceAlteration.breakBody {alteration : KeyspaceAlteration} :
    '\n' ∈ alteration.body ↔ '\n' ∈ alteration.name.toList := by
  unfold body
  simp

def Column.strings (column : Column) : List String := column.name :: column.type.strings

namespace Table

def strings (table : Table) : List String :=
  table.qualifiedName.strings ++ table.columns.flatMap Column.strings

theorem breakColumnItem {column : Column} : '\n' ∈ columnItem column ↔ Broken column.strings := by
  simp [columnItem, Column.strings]

theorem breakColumnNames {columns : List Column} :
    '\n' ∈ Text.joined ", ".toList (columnNames columns) ↔
      ∃ column ∈ columns, '\n' ∈ column.name.toList := by
  simp [columnNames]

theorem breakPrimaryKey {partition clustering : List Column} :
    '\n' ∈ primaryKey partition clustering ↔
      ∃ column ∈ partition ++ clustering, '\n' ∈ column.name.toList := by
  have item : '\n' ∈ partitionItem partition ↔ ∃ column ∈ partition, '\n' ∈ column.name.toList := by
    rw [← breakColumnNames]
    unfold partitionItem
    simp only
    split <;> simp
  unfold primaryKey
  simp [item, columnNames, or_and_right, exists_or]

theorem breakClusteringOrder {clustering : List Column} {clause : Text}
    (member : clause ∈ clusteringOrder clustering) (inside : '\n' ∈ clause) :
    ∃ column ∈ clustering, '\n' ∈ column.name.toList := by
  unfold clusteringOrder at member
  split at member
  · cases member
  · have words : ∀ direction : Direction, '\n' ∉ direction.keyword.toList := by
      intro direction
      cases direction <;> simp [Direction.keyword]
    simpa [List.mem_singleton.mp member, words] using inside

theorem breakKeyOrder {table : Table} {role : KeyRole}
    (broken : ∃ column ∈ table.keyOrder role, '\n' ∈ column.name.toList) :
    ∃ column ∈ table.columns, Broken column.strings := by
  obtain ⟨column, member, inside⟩ := broken
  have declared := List.mem_of_mem_filter ((table.keyOrderPerm role).mem_iff.mp member)
  exact ⟨column, declared, brokenCons.mpr (.inl inside)⟩

/-- The key and its order name columns that stand in the statement already. -/
theorem breakBody {table : Table} :
    ('\n' ∈ table.rendering.body ∨ ∃ clause ∈ table.rendering.leading, '\n' ∈ clause) ↔
      Broken table.strings := by
  have order : (∃ clause ∈ clusteringOrder (table.keyOrder .clustering), '\n' ∈ clause) →
      ∃ column ∈ table.columns, Broken column.strings := by
    intro broken
    obtain ⟨clause, member, inside⟩ := broken
    exact breakKeyOrder (breakClusteringOrder member inside)
  have items : (∃ part ∈ table.columns.map columnItem ++
      [primaryKey (table.keyOrder .partition) (table.keyOrder .clustering)], '\n' ∈ part) ↔
      ∃ column ∈ table.columns, Broken column.strings := by
    simp only [List.mem_append, or_and_right, exists_or, List.mem_map, exists_exists_and_eq_and,
      breakColumnItem, List.mem_singleton, exists_eq_left, breakPrimaryKey]
    exact or_iff_left_of_imp fun broken => broken.elim breakKeyOrder breakKeyOrder
  have body : '\n' ∈ table.rendering.body ↔ Broken table.strings := by
    unfold rendering body
    rw [strings, brokenAppend, brokenFlatMap, ← items]
    simp only [List.mem_append, Text.breakOptional]
    simp
  rw [body, or_iff_left_of_imp]
  intro broken
  rw [strings, brokenAppend, brokenFlatMap]
  exact .inr (order broken)

end Table

namespace ColumnChange

def strings : ColumnChange → List String
  | alter column type | add column type => column :: type.strings
  | drop column => [column]
  | rename old new => [old, new]

theorem breakText {change : ColumnChange} : '\n' ∈ change.text ↔ Broken change.strings := by
  unfold text
  cases change <;> simp [strings]

end ColumnChange

namespace TableAlteration

def strings (alteration : TableAlteration) : List String :=
  alteration.qualifiedName.strings ++ alteration.changes.flatMap ColumnChange.strings

theorem breakBody {alteration : TableAlteration} :
    '\n' ∈ alteration.body ↔ Broken alteration.strings := by
  unfold body
  cases changes : alteration.changes with
  | nil => simp [strings, changes]
  | cons change rest => simp [strings, changes, ColumnChange.breakText]

end TableAlteration

namespace Index

def strings (index : Index) : List String :=
  index.name.toList ++ QualifiedName.strings ⟨index.keyspace, index.table⟩ ++ [index.column] ++
    index.customClass.toList

theorem breakColumnItem {index : Index} :
    '\n' ∈ index.columnItem ↔ '\n' ∈ index.column.toList := by
  cases target : index.target <;> simp [columnItem, target, IndexTarget.function?]

theorem breakBody {index : Index} : '\n' ∈ index.body ↔ Broken index.strings := by
  have custom : '\n' ∉ (if index.isCustom then "CREATE CUSTOM INDEX ".toList
      else "CREATE INDEX ".toList) := by
    split <;> simp
  unfold body
  simp only [List.mem_append, custom, Text.breakOptional]
  cases name : index.name <;> cases customClass : index.customClass <;>
    simp [strings, breakColumnItem, name, customClass, or_assoc]

theorem brokenWritten {index : Index} :
    Broken (Options.strings index.writtenOptions) ↔ Broken (Options.strings index.options) := by
  unfold writtenOptions
  cases options : index.options with
  | nil => simp [Options.strings]
  | cons entry rest => simp [Options.strings, OptionValue.strings]

end Index

theorem Removal.breakBody {removal : Removal} :
    '\n' ∈ removal.body ↔ Broken removal.object.qualifiedName.strings := by
  have words : '\n' ∉ removal.kind.words.toList := by
    cases removal.kind <;> simp [StatementKind.words]
  unfold body
  simp only [List.mem_append, List.mem_cons, words, Text.breakOptional]
  simp

namespace Statement

/-- The names that the statement copies, and the class of an index. -/
def named : Statement → List String
  | createKeyspace keyspace => [keyspace.name]
  | alterKeyspace alteration => [alteration.name]
  | createTable table => table.strings
  | alterTable alteration => alteration.strings
  | createIndex index => index.strings
  | drop removal => removal.object.qualifiedName.strings

/-- What the statement copies: names, and names and texts of options. -/
def strings (statement : Statement) : List String :=
  statement.named ++ Options.strings statement.givenOptions

theorem breakRendering {statement : Statement} :
    '\n' ∈ statement.rendering.text ↔ Broken statement.strings := by
  rw [Rendering.breakText, strings, brokenAppend]
  cases statement with
  | createKeyspace keyspace => simp [rendering, named, givenOptions, Keyspace.breakBody]
  | alterKeyspace alteration => simp [rendering, named, givenOptions, KeyspaceAlteration.breakBody]
  | createTable table => exact or_congr_left Table.breakBody
  | alterTable alteration => simp [rendering, named, givenOptions, TableAlteration.breakBody]
  | createIndex index => simp [rendering, named, givenOptions, Index.breakBody, Index.brokenWritten]
  | drop removal => simp [rendering, named, givenOptions, Removal.breakBody, Options.strings]

end Statement
end CqlSchema
