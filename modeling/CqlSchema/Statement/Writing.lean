import CqlSchema.Removal
import CqlSchema.Table.Alteration
import CqlSchema.Table.Printer

/-! Statements written into a buffer. What stands in the buffer when a declaration is refused stays
there, so a statement is begun only when nothing of it can be refused any more. -/
namespace CqlSchema

/-- Steps that add to a buffer and may be refused on the way. -/
abbrev Writing := ExceptT DefinitionError (StateM Text)

namespace Writing

def push (piece : Text) : Writing Unit := modify (· ++ piece)

def require {α : Type} (outcome : Except DefinitionError α) : Writing α := ExceptT.mk (pure outcome)

def pushStatement (body : Text) (leading : List Text) (options : Options) : Writing Unit := do
  push body
  push (Options.withClauses leading options)
  push [';']

/-- What the steps end in, and the buffer after them. -/
def runOn {α : Type} (written : Text) (steps : Writing α) : Except DefinitionError α × Text :=
  steps.run.run written

end Writing

open Writing

def Keyspace.write (keyspace : Keyspace) : Writing Unit := do
  require keyspace.check
  pushStatement keyspace.body [] keyspace.options

def KeyspaceAlteration.write (alteration : KeyspaceAlteration) : Writing Unit := do
  require alteration.check
  pushStatement alteration.body [] alteration.options

def Table.write (table : Table) : Writing Unit := do
  require table.check
  let partition ← require (table.keyColumns .partition)
  let clustering ← require (table.keyColumns .clustering)
  pushStatement (table.body partition clustering) (clusteringOrder clustering) table.options

def TableAlteration.write (alteration : TableAlteration) : Writing Unit := do
  require alteration.check
  pushStatement alteration.body [] alteration.options

def Index.write (index : Index) : Writing Unit := do
  require index.check
  pushStatement index.body [] index.writtenOptions

def Removal.write (removal : Removal) : Writing Unit := do
  require removal.check
  pushStatement removal.body [] []

end CqlSchema
