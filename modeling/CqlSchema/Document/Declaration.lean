import CqlSchema.DataType.Parser
import CqlSchema.Document.Record
import CqlSchema.Script

/-! Declarations read from a document of any format. -/
namespace CqlSchema.Document

variable {m : Type → Type} [Monad m] {ν : Type} [Source m ν]

/-- A type by its text. What is wrong with it is said of the node `owner`. -/
def readTypeFor (owner node : ν) : m DataType := do
  match DataType.parse (← readText node) with
  | .ok type => pure type
  | .error error => Source.fail owner error.message

def readType (node : ν) : m DataType := readTypeFor node node

def readAction (node : ν) : m Action := do
  match Action.parse (← readText node) with
  | .ok action => pure action
  | .error error => Source.fail node error.message

def readKeyRole (node : ν) : m KeyRole := do
  let word ← Source.choice ["partition", "clustered", "clustering"] node
  pure (if word == "partition" then .partition else .clustering)

def readDirection (node : ν) : m Direction := do
  let ascending := ["ASC", "asc", "ascending"]
  let word ← Source.choice (ascending ++ ["DESC", "desc", "descending"]) node
  pure (if ascending.contains word then .asc else .desc)

def readTarget (node : ν) : m IndexTarget := do
  let targets : List IndexTarget := [.column, .keys, .values, .entries, .full]
  let word ← Source.choice (targets.map (·.name)) node
  pure ((targets.find? (·.name == word)).getD .column)

def integerOutOfRange (value : Int) : String :=
  s!"integer option value {value} is out of range"

def readValueWithin : Nat → ν → m OptionValue
  | 0, node => Source.fail node nestedTooDeep
  | levels + 1, node => do
    match ← Source.given "a string, number, boolean, map or null" node with
    | .flag => pure .flag
    | .boolean value => pure (.boolean value)
    | .integer value =>
      if value < 0x8000000000000000 then pure (.integer (Int64.ofInt value))
      else Source.fail node (integerOutOfRange value)
    | .float value => pure (.float value)
    | .text value => pure (.text value)
    | .map entries =>
      let entries ← entries.mapM fun (nameNode, valueNode) => do
        let name ← readText nameNode
        let value ← readValueWithin levels valueNode
        pure (name, value)
      pure (.map entries)

def readValue (node : ν) : m OptionValue := readValueWithin (Source.levels node + 1) node

def readOptions (node : ν) : m Options := do
  let entries ← Source.entries "a map of option names to values" node
  entries.mapM fun (nameNode, valueNode) => do
    let name ← readText nameNode
    let value ← readValue valueNode
    pure (name, value)

def columnFields : List (Field m ν Column) :=
  [{ name := "name", required := true,
     read := fun _ node column => do pure { column with name := ← readText node } },
   { name := "type", required := true,
     read := fun owner node column => do pure { column with type := ← readTypeFor owner node } },
   { name := "key",
     read := fun _ node column => do
      pure { column with key := ← readOptional readKeyRole node } },
   { name := "ordinal",
     read := fun _ node column => do
      pure { column with ordinal := ← readOptional Source.ordinal node } },
   { name := "ordering",
     read := fun _ node column => do
      pure { column with ordering := ← readOptional readDirection node } }]

/-- Name and type are required, so nothing of the column it starts from is left. -/
def readColumn (node : ν) : m Column :=
  readRecord "struct ColumnSpecification" columnFields { name := "", type := .native .text } node

def tableFields : List (Field m ν Table) :=
  [{ name := "keyspace",
     read := fun _ node table => do
      pure { table with keyspace := ← readOptional readText node } },
   { name := "name", read := fun _ node table => do pure { table with name := ← readText node } },
   { name := "ifNotExists",
     read := fun _ node table => do pure { table with ifNotExists := ← Source.boolean node } },
   { name := "columns",
     read := fun _ node table => do pure { table with columns := ← readList readColumn node } },
   { name := "options",
     read := fun _ node table => do pure { table with options := ← readOptions node } }]

def readTable (node : ν) : m Table :=
  readRecord "struct CreateTableSpecification" tableFields {} node

def keyspaceFields : List (Field m ν Keyspace) :=
  [{ name := "name",
     read := fun _ node keyspace => do pure { keyspace with name := ← readText node } },
   { name := "ifNotExists",
     read := fun _ node keyspace => do
      pure { keyspace with ifNotExists := ← Source.boolean node } },
   { name := "options",
     read := fun _ node keyspace => do pure { keyspace with options := ← readOptions node } }]

def readKeyspace (node : ν) : m Keyspace :=
  readRecord "struct CreateKeyspaceSpecification" keyspaceFields {} node

def indexFields : List (Field m ν Index) :=
  [{ name := "keyspace",
     read := fun _ node index => do
      pure { index with keyspace := ← readOptional readText node } },
   { name := "name",
     read := fun _ node index => do pure { index with name := ← readOptional readText node } },
   { name := "table", read := fun _ node index => do pure { index with table := ← readText node } },
   { name := "column",
     read := fun _ node index => do pure { index with column := ← readText node } },
   { name := "target",
     read := fun _ node index => do pure { index with target := ← readTarget node } },
   { name := "using",
     read := fun _ node index => do
      pure { index with customClass := ← readOptional readText node } },
   { name := "ifNotExists",
     read := fun _ node index => do pure { index with ifNotExists := ← Source.boolean node } },
   { name := "options",
     read := fun _ node index => do pure { index with options := ← readOptions node } }]

def readIndex (node : ν) : m Index :=
  readRecord "struct CreateIndexSpecification" indexFields {} node

def schemaFields : List (Field m ν Schema) :=
  [{ name := "keyspaces",
     read := fun _ node schema => do
      pure { schema with keyspaces := ← readList readKeyspace node } },
   { name := "tables",
     read := fun _ node schema => do pure { schema with tables := ← readList readTable node } },
   { name := "indexes",
     read := fun _ node schema => do pure { schema with indexes := ← readList readIndex node } }]

def readSchema (node : ν) : m Schema := readRecord "struct Schema" schemaFields {} node

end CqlSchema.Document
