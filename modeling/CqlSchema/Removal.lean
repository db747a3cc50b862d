import CqlSchema.Index
import CqlSchema.Keyspace
import CqlSchema.Table.Basic

/-! Statements that remove what was declared. -/
namespace CqlSchema

inductive SchemaObject
  | keyspace (name : String)
  | table (name : QualifiedName)
  | index (name : QualifiedName)
  deriving DecidableEq, Repr

namespace SchemaObject

def removalKind : SchemaObject → StatementKind
  | keyspace _ => .dropKeyspace
  | table _ => .dropTable
  | index _ => .dropIndex

def qualifiedName : SchemaObject → QualifiedName
  | keyspace name => ⟨none, name⟩
  | table name | index name => name

end SchemaObject

structure Removal where
  object : SchemaObject
  ifExists : Bool := false
  deriving DecidableEq, Repr

def SchemaObject.inKeyspace (keyspace : String) : SchemaObject → SchemaObject
  | .keyspace name => .keyspace name
  | .table name => .table { name with keyspace := some keyspace }
  | .index name => .index { name with keyspace := some keyspace }

namespace Removal

inductive Step
  | inKeyspace (keyspace : String)
  | ifExists
  deriving Repr

def Step.apply (removal : Removal) : Step → Removal
  | .inKeyspace keyspace => { removal with object := removal.object.inKeyspace keyspace }
  | .ifExists => { removal with ifExists := true }

def ofSteps (object : SchemaObject) (steps : List Step) : Removal :=
  steps.foldl Step.apply { object }

def kind (removal : Removal) : StatementKind := removal.object.removalKind

def check (removal : Removal) : Except DefinitionError Unit := do
  requireName removal.object.qualifiedName.name removal.kind
  requireQualifier removal.object.qualifiedName.keyspace removal.kind

def body (removal : Removal) : Text :=
  removal.kind.words.toList ++ ' ' :: ((if removal.ifExists then "IF EXISTS ".toList else []) ++
    removal.object.qualifiedName.text)

def statement (removal : Removal) : Except DefinitionError Text := do
  removal.check
  return Options.terminated removal.body [] []

end Removal

def Keyspace.object (keyspace : Keyspace) : SchemaObject := .keyspace keyspace.name

def Table.object (table : Table) : SchemaObject := .table table.qualifiedName

/-- An index is removed by the name the server knows it by. -/
def Index.object (index : Index) : SchemaObject := .index ⟨index.keyspace, index.effectiveName⟩

end CqlSchema
