import CqlSchema.Column
import CqlSchema.DataType.Printer
import CqlSchema.Options.Basic

/-! Tables as declared. -/
namespace CqlSchema

structure Table where
  keyspace : Option String := none
  name : String := ""
  ifNotExists : Bool := false
  columns : List Column := []
  options : Options := []
  deriving BEq, Repr, Inhabited

namespace Table

def qualifiedName (table : Table) : QualifiedName := ⟨table.keyspace, table.name⟩

def column? (table : Table) (name : String) : Option Column :=
  table.columns.find? (·.name == name)

inductive Step
  | inKeyspace (keyspace : String)
  | ifNotExists
  | column (declared : Column)
  | option (name : String) (value : OptionValue)
  deriving Repr

/-- A later keyspace takes the place of an earlier one; columns and options are added behind those
already there. -/
def Step.apply (table : Table) : Step → Table
  | .inKeyspace keyspace => { table with keyspace := some keyspace }
  | .ifNotExists => { table with ifNotExists := true }
  | .column declared => { table with columns := table.columns ++ [declared] }
  | .option name value => { table with options := table.options ++ [(name, value)] }

def ofSteps (name : String) (steps : List Step) : Table := steps.foldl Step.apply { name }

end Table
end CqlSchema
