import CqlSchema.Options.Check
import CqlSchema.Table.Key

/-! Tables that can be created. -/
namespace CqlSchema.Table

def checkColumn (table : String) (position : Nat) (earlier : List String) (column : Column) :
    Except DefinitionError Unit :=
  if column.name.isEmpty then .error (.emptyIdentifier (.column position table))
  else if earlier.contains column.name then .error (.duplicateColumn table column.name)
  else if column.ordering.isSome && !column.isClustering then
    .error (.orderingOnNonClusteringColumn table column.name)
  else if column.ordinal.isSome && column.key.isNone then
    .error (.ordinalOnNonKeyColumn table column.name)
  else if column.key.isSome && !column.type.canBeKey then
    .error (.invalidKeyColumnType table column.name column.type)
  else .ok ()

def checkColumns (table : String) (earlier : List String) : List Column →
    Except DefinitionError Unit
  | [] => .ok ()
  | column :: rest => do
    checkColumn table (earlier.length + 1) earlier column
    checkColumns table (earlier ++ [column.name]) rest

def check (table : Table) : Except DefinitionError Unit := do
  requireName table.name .createTable
  requireQualifier table.keyspace .createTable
  if table.columns.isEmpty then .error (.noColumns table.name)
  checkColumns table.name [] table.columns
  let partition ← table.keyColumns .partition
  if partition.isEmpty then .error (.noPartitionKey table.name)
  let _ ← table.keyColumns .clustering
  Options.check table.options

def build (name : String) (steps : List Step) : Except DefinitionError Table := do
  let table := ofSteps name steps
  table.check
  return table

end CqlSchema.Table
