import CqlSchema.Schema
import CqlSchema.Statement.Basic
import CqlSchema.Text.Lowercase

/-! The statements that bring a schema into being, take it away, or both. -/
namespace CqlSchema

inductive Action
  | none
  | create
  | recreate
  | drop
  deriving DecidableEq, Repr

namespace Action

def name : Action → String
  | none => "none"
  | create => "create"
  | recreate => "recreate"
  | drop => "drop"

def drops : Action → Bool
  | recreate | drop => true
  | none | create => false

def creates : Action → Bool
  | create | recreate => true
  | none | drop => false

end Action

structure ActionError where
  input : String
  deriving DecidableEq, Repr

def ActionError.message (error : ActionError) : String :=
  s!"Unknown schema action '{error.input}'. Valid options: none, create, recreate, drop"

def Action.parse (input : String) : Except ActionError Action :=
  match String.ofList (Text.lowercase input.toList) with
  | "none" => .ok .none
  | "create" => .ok .create
  | "recreate" => .ok .recreate
  | "drop" => .ok .drop
  | _ => .error ⟨input⟩

namespace Schema

/-- Indexes go before their tables and tables before their keyspaces, the last declared first. -/
def removals (schema : Schema) : List Statement :=
  (schema.indexes.reverse.map Index.object ++ schema.tables.reverse.map Table.object ++
    schema.keyspaces.reverse.map Keyspace.object).map fun object =>
      .drop { object, ifExists := true }

/-- Keyspaces come before their tables and tables before their indexes, the first declared first. -/
def creations (schema : Schema) : List Statement :=
  schema.keyspaces.map .createKeyspace ++ schema.tables.map .createTable ++
    schema.indexes.map .createIndex

def plan (schema : Schema) (action : Action) : List Statement :=
  (if action.drops then schema.removals else []) ++
    if action.creates then schema.creations else []

/-- The texts of the planned statements, or the error of the first that has none. -/
def script (schema : Schema) (action : Action) : Except DefinitionError (List Text) :=
  (schema.plan action).mapM Statement.text

end Schema
end CqlSchema
