import CqlSchema.Proofs.Options.Setting
import CqlSchema.Proofs.Statement.Rendering
import CqlSchema.Proofs.Table.Changes

/-! What a statement says, without what the check and the writing of it need besides: of the columns
of a table their names and types, the names of its key in order, and the directions that are
written. -/
namespace CqlSchema

inductive Description
  | createKeyspace (name : String) (ifNotExists : Bool) (options : List (String × Setting))
  | alterKeyspace (name : String) (options : List (String × Setting))
  | createTable (name : QualifiedName) (ifNotExists : Bool) (columns : List (String × DataType))
    (partition clustering : List String) (directions : Option (List Direction))
    (options : List (String × Setting))
  | alterTable (name : QualifiedName) (changes : List ColumnChange)
    (options : List (String × Setting))
  | createIndex (table : QualifiedName) (ifNotExists : Bool) (name : Option String)
    (column : String) (target : IndexTarget) (customClass : Option String)
    (options : List (String × Setting))
  | drop (removal : Removal)

/-- The directions that are written: none, or one for each clustering column. -/
def Table.directions (table : Table) : Option (List Direction) :=
  let clustering := table.keyOrder .clustering
  if clustering.all (·.ordering.isNone) then none
  else some (clustering.map fun column => column.ordering.getD .asc)

namespace Statement

def description : Statement → Description
  | createKeyspace keyspace =>
    .createKeyspace keyspace.name keyspace.ifNotExists (Options.settings keyspace.options)
  | alterKeyspace alteration =>
    .alterKeyspace alteration.name (Options.settings alteration.options)
  | createTable table =>
    .createTable table.qualifiedName table.ifNotExists
      (table.columns.map fun column => (column.name, column.type))
      ((table.keyOrder .partition).map (·.name)) ((table.keyOrder .clustering).map (·.name))
      table.directions (Options.settings table.options)
  | alterTable alteration =>
    .alterTable alteration.qualifiedName alteration.changes (Options.settings alteration.options)
  | createIndex index =>
    .createIndex ⟨index.keyspace, index.table⟩ index.ifNotExists index.name index.column
      index.target index.customClass (Options.settings index.options)
  | drop removal => .drop removal

def types : Statement → List DataType
  | createTable table => table.columns.map (·.type)
  | alterTable alteration => alteration.changes.flatMap ColumnChange.types
  | createKeyspace _ | alterKeyspace _ | createIndex _ | drop _ => []

end Statement
end CqlSchema
