import CqlSchema.Statement.Writing

/-! Statements of every kind, and writing several of them into one text. -/
namespace CqlSchema

inductive Statement
  | createKeyspace (keyspace : Keyspace)
  | alterKeyspace (alteration : KeyspaceAlteration)
  | createTable (table : Table)
  | alterTable (alteration : TableAlteration)
  | createIndex (index : Index)
  | drop (removal : Removal)
  deriving BEq, Repr

namespace Statement

def kind : Statement → StatementKind
  | createKeyspace _ => .createKeyspace
  | alterKeyspace _ => .alterKeyspace
  | createTable _ => .createTable
  | alterTable _ => .alterTable
  | createIndex _ => .createIndex
  | drop removal => removal.kind

def check : Statement → Except DefinitionError Unit
  | createKeyspace keyspace => keyspace.check
  | alterKeyspace alteration => alteration.check
  | createTable table => table.check
  | alterTable alteration => alteration.check
  | createIndex index => index.check
  | drop removal => removal.check

def text : Statement → Except DefinitionError Text
  | createKeyspace keyspace => keyspace.statement
  | alterKeyspace alteration => alteration.statement
  | createTable table => table.statement
  | alterTable alteration => alteration.statement
  | createIndex index => index.statement
  | drop removal => removal.statement

def write : Statement → Writing Unit
  | createKeyspace keyspace => keyspace.write
  | alterKeyspace alteration => alteration.write
  | createTable table => table.write
  | alterTable alteration => alteration.write
  | createIndex index => index.write
  | drop removal => removal.write

def appendTo (written : Text) (statement : Statement) : Except DefinitionError Unit × Text :=
  statement.write.runOn written

def writeLine (statement : Statement) : Writing Unit := do
  statement.write
  Writing.push ['\n']

def appendLine (written : Text) (statement : Statement) : Except DefinitionError Unit × Text :=
  statement.writeLine.runOn written

def appendLines (written : Text) : List Statement → List (Except DefinitionError Unit × Text)
  | [] => []
  | statement :: rest =>
    let outcome := statement.appendLine written
    outcome :: appendLines outcome.2 rest

end Statement
end CqlSchema
