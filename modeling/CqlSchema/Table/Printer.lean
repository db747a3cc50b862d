import CqlSchema.Options.Clause
import CqlSchema.Table.Check

/-! The statement that creates a table. -/
namespace CqlSchema.Table

def columnNames (columns : List Column) : List Text := columns.map fun column => Name.text column.name

def columnItem (column : Column) : Text := Name.text column.name ++ ' ' :: column.type.text

def partitionItem (partition : List Column) : Text :=
  let names := Text.joined ", ".toList (columnNames partition)
  if 1 < partition.length then '(' :: (names ++ [')']) else names

def primaryKey (partition clustering : List Column) : Text :=
  "PRIMARY KEY (".toList ++
    Text.joined ", ".toList (partitionItem partition :: columnNames clustering) ++ [')']

/-- The direction of every clustering column, if one of them declares a direction. -/
def clusteringOrder (clustering : List Column) : List Text :=
  if clustering.all (·.ordering.isNone) then []
  else
    let items := clustering.map fun column =>
      Name.text column.name ++ ' ' :: (column.ordering.getD .asc).keyword.toList
    ["CLUSTERING ORDER BY (".toList ++ Text.joined ", ".toList items ++ [')']]

def body (table : Table) (partition clustering : List Column) : Text :=
  "CREATE TABLE ".toList ++ (if table.ifNotExists then "IF NOT EXISTS ".toList else []) ++
    table.qualifiedName.text ++ " (".toList ++
    Text.joined ", ".toList (table.columns.map columnItem ++ [primaryKey partition clustering]) ++
    [')']

def statement (table : Table) : Except DefinitionError Text := do
  table.check
  let partition ← table.keyColumns .partition
  let clustering ← table.keyColumns .clustering
  return Options.terminated (table.body partition clustering) (clusteringOrder clustering)
    table.options

end CqlSchema.Table
