import CqlSchema.Index
import CqlSchema.Keyspace
import CqlSchema.Table.Basic

/-! A schema: what one document declares. -/
namespace CqlSchema

structure Schema where
  keyspaces : List Keyspace := []
  tables : List Table := []
  indexes : List Index := []
  deriving BEq, Repr

namespace Schema

def isEmpty (schema : Schema) : Bool :=
  schema.keyspaces.isEmpty && schema.tables.isEmpty && schema.indexes.isEmpty

def keyspace? (schema : Schema) (name : String) : Option Keyspace :=
  schema.keyspaces.find? (·.name == name)

def table? (schema : Schema) (keyspace : Option String) (name : String) : Option Table :=
  schema.tables.find? fun table =>
    table.name == name && (keyspace.isNone || table.keyspace == keyspace)

def indexesOn (schema : Schema) (table : String) : List Index :=
  schema.indexes.filter (·.table == table)

end Schema
end CqlSchema
