import CqlSchema.Options.Check
import CqlSchema.Options.Clause
import CqlSchema.Table.Basic

/-! Changes of a table that exists. -/
namespace CqlSchema

inductive ColumnChange
  | alter (column : String) (type : DataType)
  | add (column : String) (type : DataType)
  | drop (column : String)
  | rename (old new : String)
  deriving BEq, Repr

namespace ColumnChange

def columns : ColumnChange → List String
  | alter column _ | add column _ | drop column => [column]
  | rename old new => [old, new]

def text : ColumnChange → Text
  | alter column type => "ALTER ".toList ++ Name.text column ++ " TYPE ".toList ++ type.text
  | add column type => "ADD ".toList ++ Name.text column ++ ' ' :: type.text
  | drop column => "DROP ".toList ++ Name.text column
  | rename old new => "RENAME ".toList ++ Name.text old ++ " TO ".toList ++ Name.text new

end ColumnChange

structure TableAlteration where
  keyspace : Option String := none
  name : String
  changes : List ColumnChange := []
  options : Options := []
  deriving BEq, Repr

namespace TableAlteration

def qualifiedName (alteration : TableAlteration) : QualifiedName :=
  ⟨alteration.keyspace, alteration.name⟩

inductive Step
  | inKeyspace (keyspace : String)
  | change (added : ColumnChange)
  | option (name : String) (value : OptionValue)
  deriving Repr

def Step.apply (alteration : TableAlteration) : Step → TableAlteration
  | .inKeyspace keyspace => { alteration with keyspace := some keyspace }
  | .change added => { alteration with changes := alteration.changes ++ [added] }
  | .option name value => { alteration with options := alteration.options ++ [(name, value)] }

def ofSteps (name : String) (steps : List Step) : TableAlteration :=
  steps.foldl Step.apply { name }

def checkChanges (table : String) (position : Nat) : List ColumnChange →
    Except DefinitionError Unit
  | [] => .ok ()
  | first :: rest =>
    if first.columns.any (·.isEmpty) then .error (.emptyIdentifier (.change position table))
    else checkChanges table (position + 1) rest

def check (alteration : TableAlteration) : Except DefinitionError Unit := do
  requireName alteration.name .alterTable
  requireQualifier alteration.keyspace .alterTable
  checkChanges alteration.name 1 alteration.changes
  if alteration.changes.isEmpty && alteration.options.isEmpty then
    .error (.nothingToAlter .alterTable alteration.name)
  Options.check alteration.options

def build (name : String) (steps : List Step) : Except DefinitionError TableAlteration := do
  let alteration := ofSteps name steps
  alteration.check
  return alteration

def body (alteration : TableAlteration) : Text :=
  "ALTER TABLE ".toList ++ alteration.qualifiedName.text ++
    if alteration.changes.isEmpty then []
    else ' ' :: Text.joined ", ".toList (alteration.changes.map ColumnChange.text)

def statement (alteration : TableAlteration) : Except DefinitionError Text := do
  alteration.check
  return Options.terminated alteration.body [] alteration.options

end TableAlteration
end CqlSchema
