import CqlSchema.Column
import CqlSchema.DataType.Printer
import CqlSchema.Statement.Kind

/-! Why a declaration has no statement. -/
namespace CqlSchema

/-- The names from an option of the declaration down to an entry of a map inside it. -/
abbrev OptionPath := List String

def OptionPath.text (path : OptionPath) : String := ".".intercalate path

/-- Where a name is missing. Positions count from one. -/
inductive NamePlace
  | option
  | optionKey (map : OptionPath)
  | qualifier (statement : StatementKind)
  | column (position : Nat) (table : String)
  | change (position : Nat) (table : String)
  | indexName (table : String)
  | indexColumn (table : String)
  deriving DecidableEq, Repr

def NamePlace.text : NamePlace → String
  | option => "option name"
  | optionKey map => s!"key of option '{map.text}'"
  | qualifier statement => s!"keyspace qualifier of {statement.words}"
  | column position table => s!"column {position} of table '{table}'"
  | change position table => s!"change {position} of {StatementKind.alterTable.words} '{table}'"
  | indexName table => s!"index name on table '{table}'"
  | indexColumn table => s!"index column on table '{table}'"

inductive ValueFault
  | flagInMap
  | notFinite
  deriving DecidableEq, Repr

def ValueFault.text : ValueFault → String
  | flagInMap => "a map entry needs a value"
  | notFinite => "floating point values must be finite"

inductive DefinitionError
  | missingName (statement : StatementKind)
  | emptyIdentifier (place : NamePlace)
  | noColumns (table : String)
  | noPartitionKey (table : String)
  | duplicateColumn (table column : String)
  | conflictingOrdinals (table : String) (key : KeyRole) (ordinals : List Nat)
  | orderingOnNonClusteringColumn (table column : String)
  | ordinalOnNonKeyColumn (table column : String)
  | invalidKeyColumnType (table column : String) (type : DataType)
  | duplicateOption (path : OptionPath)
  | invalidOptionValue (path : OptionPath) (fault : ValueFault)
  | nothingToAlter (statement : StatementKind) (name : String)
  deriving BEq, Repr

def DefinitionError.message : DefinitionError → String
  | missingName statement => s!"{statement.words} requires a name"
  | emptyIdentifier place => s!"Empty identifier in {place.text}"
  | noColumns table => s!"Table '{table}' has no columns"
  | noPartitionKey table => s!"Table '{table}' has no partition key column"
  | duplicateColumn table column =>
    s!"Column '{column}' is declared more than once in table '{table}'"
  | conflictingOrdinals table key ordinals =>
    let list := ", ".intercalate (ordinals.map Nat.repr)
    s!"Table '{table}' has conflicting {key.name} key ordinals [{list}]; " ++
      s!"expected 1..={ordinals.length}"
  | orderingOnNonClusteringColumn table column =>
    s!"Column '{column}' in table '{table}' declares an ordering but is not a clustering column"
  | ordinalOnNonKeyColumn table column =>
    s!"Column '{column}' in table '{table}' declares an ordinal but is not a key column"
  | invalidKeyColumnType table column type =>
    s!"Column '{column}' in table '{table}' has type {String.ofList type.text} " ++
      "which cannot be part of a primary key"
  | duplicateOption path => s!"Option '{path.text}' is specified more than once"
  | invalidOptionValue path fault => s!"Invalid value for option '{path.text}': {fault.text}"
  | nothingToAlter statement name => s!"{statement.words} '{name}' has no changes or options"

def requireName (name : String) (statement : StatementKind) : Except DefinitionError Unit :=
  if name.isEmpty then .error (.missingName statement) else .ok ()

def requireQualifier (keyspace : Option String) (statement : StatementKind) :
    Except DefinitionError Unit :=
  if keyspace = some "" then .error (.emptyIdentifier (.qualifier statement)) else .ok ()

end CqlSchema
