import CqlSchema.Json.Writer
import CqlSchema.Script

/-! Declarations written as JSON documents. A field that is absent, and options where there are none,
are left out. -/
namespace CqlSchema

namespace OptionValue

mutual

def output : OptionValue → Json.Output
  | .flag => .null
  | .text value => .string value
  | .integer value => .integer value
  | .float value => .float value
  | .boolean value => .boolean value
  | .map entries => .object (memberOutputs entries)

def memberOutputs : Options → List (String × Json.Output)
  | [] => []
  | (name, value) :: rest => (name, output value) :: memberOutputs rest

end

def json (value : OptionValue) : Text := value.output.text

end OptionValue

def Options.output (options : Options) : Json.Output := .object (OptionValue.memberOutputs options)

def Options.json (options : Options) : Text := options.output.text

namespace Document

def optionalMember {α : Type} (name : String) (output : α → Json.Output) :
    Option α → List (String × Json.Output)
  | some value => [(name, output value)]
  | none => []

def optionsMember (options : Options) : List (String × Json.Output) :=
  if options.isEmpty then [] else [("options", options.output)]

end Document

open Document

def DataType.output (type : DataType) : Json.Output := .string (String.ofList type.text)

def DataType.json (type : DataType) : Text := type.output.text

def KeyRole.output (role : KeyRole) : Json.Output := .string role.name

def KeyRole.json (role : KeyRole) : Text := role.output.text

def Direction.output (direction : Direction) : Json.Output := .string direction.name

def Direction.json (direction : Direction) : Text := direction.output.text

def IndexTarget.output (target : IndexTarget) : Json.Output := .string target.name

def IndexTarget.json (target : IndexTarget) : Text := target.output.text

def Action.json (action : Action) : Text := Json.writeString action.name

def Column.ordinalOutput (ordinal : UInt32) : Json.Output :=
  .integer (Int64.ofNat ordinal.toNat)

def Column.members (column : Column) : List (String × Json.Output) :=
  [("name", .string column.name), ("type", column.type.output)] ++
  optionalMember "key" KeyRole.output column.key ++
  optionalMember "ordinal" ordinalOutput column.ordinal ++
  optionalMember "ordering" Direction.output column.ordering

def Column.output (column : Column) : Json.Output := .object column.members

def Column.json (column : Column) : Text := column.output.text

def Table.members (table : Table) : List (String × Json.Output) :=
  optionalMember "keyspace" .string table.keyspace ++
  [("name", .string table.name), ("ifNotExists", .boolean table.ifNotExists),
   ("columns", .array (table.columns.map Column.output))] ++
  optionsMember table.options

def Table.output (table : Table) : Json.Output := .object table.members

def Table.json (table : Table) : Text := table.output.text

def Keyspace.members (keyspace : Keyspace) : List (String × Json.Output) :=
  [("name", .string keyspace.name), ("ifNotExists", .boolean keyspace.ifNotExists)] ++
  optionsMember keyspace.options

def Keyspace.output (keyspace : Keyspace) : Json.Output := .object keyspace.members

def Keyspace.json (keyspace : Keyspace) : Text := keyspace.output.text

def Index.members (index : Index) : List (String × Json.Output) :=
  optionalMember "keyspace" .string index.keyspace ++
  optionalMember "name" .string index.name ++
  [("table", .string index.table), ("column", .string index.column),
   ("target", index.target.output)] ++
  optionalMember "using" .string index.customClass ++
  [("ifNotExists", .boolean index.ifNotExists)] ++
  optionsMember index.options

def Index.output (index : Index) : Json.Output := .object index.members

def Index.json (index : Index) : Text := index.output.text

def Schema.output (schema : Schema) : Json.Output :=
  .object
    [("keyspaces", .array (schema.keyspaces.map Keyspace.output)),
     ("tables", .array (schema.tables.map Table.output)),
     ("indexes", .array (schema.indexes.map Index.output))]

def Schema.json (schema : Schema) : Text := schema.output.text

end CqlSchema
