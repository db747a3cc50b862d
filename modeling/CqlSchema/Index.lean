import CqlSchema.Name
import CqlSchema.Options.Check
import CqlSchema.Options.Clause

/-! Indexes as declared. -/
namespace CqlSchema

inductive IndexTarget
  | column
  | keys
  | values
  | entries
  | full
  deriving DecidableEq, Repr

namespace IndexTarget

def name : IndexTarget → String
  | column => "column"
  | keys => "keys"
  | values => "values"
  | entries => "entries"
  | full => "full"

def function? : IndexTarget → Option String
  | column => none
  | keys => some "KEYS"
  | values => some "VALUES"
  | entries => some "ENTRIES"
  | full => some "FULL"

end IndexTarget

structure Index where
  keyspace : Option String := none
  name : Option String := none
  table : String := ""
  column : String := ""
  target : IndexTarget := .column
  customClass : Option String := none
  ifNotExists : Bool := false
  options : Options := []
  deriving BEq, Repr

namespace Index

def isCustom (index : Index) : Bool := index.customClass.isSome

def effectiveName (index : Index) : String :=
  index.name.getD (index.table ++ "_" ++ index.column ++ "_idx")

inductive Step
  | named (name : String)
  | inKeyspace (keyspace : String)
  | onTarget (target : IndexTarget)
  | ofClass (customClass : String)
  | ifNotExists
  | option (name : String) (value : OptionValue)
  deriving Repr

def Step.apply (index : Index) : Step → Index
  | named name => { index with name := some name }
  | inKeyspace keyspace => { index with keyspace := some keyspace }
  | onTarget target => { index with target }
  | ofClass customClass => { index with customClass := some customClass }
  | ifNotExists => { index with ifNotExists := true }
  | option name value => { index with options := index.options ++ [(name, value)] }

def ofSteps (table column : String) (steps : List Step) : Index :=
  steps.foldl Step.apply { table, column }

def check (index : Index) : Except DefinitionError Unit := do
  requireName index.table .createIndex
  requireQualifier index.keyspace .createIndex
  if index.name = some "" then .error (.emptyIdentifier (.indexName index.table))
  if index.column.isEmpty then .error (.emptyIdentifier (.indexColumn index.table))
  Options.check index.options

def writtenOptions (index : Index) : Options :=
  if index.options.isEmpty then [] else [("OPTIONS", .map index.options)]

def columnItem (index : Index) : Text :=
  match index.target.function? with
  | some function => function.toList ++ '(' :: (Name.text index.column ++ [')'])
  | none => Name.text index.column

def body (index : Index) : Text :=
  (if index.isCustom then "CREATE CUSTOM INDEX ".toList else "CREATE INDEX ".toList) ++
    (if index.ifNotExists then "IF NOT EXISTS ".toList else []) ++
    (match index.name with
      | some name => Name.text name ++ [' ']
      | none => []) ++
    "ON ".toList ++ QualifiedName.text ⟨index.keyspace, index.table⟩ ++
    " (".toList ++ index.columnItem ++ [')'] ++
    match index.customClass with
    | some customClass => " USING ".toList ++ Literal.text customClass
    | none => []

def statement (index : Index) : Except DefinitionError Text := do
  index.check
  return Options.terminated index.body [] index.writtenOptions

end Index
end CqlSchema
