import CqlSchema.DataType.Basic

/-! Columns of a table and the part they have in its primary key. -/
namespace CqlSchema

/-- Partition columns say where a row is kept, clustering columns in which order. -/
inductive KeyRole
  | partition
  | clustering
  deriving DecidableEq, Repr

def KeyRole.name : KeyRole → String
  | partition => "partition"
  | clustering => "clustering"

inductive Direction
  | asc
  | desc
  deriving DecidableEq, Repr

def Direction.keyword : Direction → String
  | asc => "ASC"
  | desc => "DESC"

def Direction.name : Direction → String
  | asc => "asc"
  | desc => "desc"

/-- A column as declared. The ordinal is the place among the columns of the same role. -/
structure Column where
  name : String
  type : DataType
  key : Option KeyRole := none
  ordinal : Option UInt32 := none
  ordering : Option Direction := none
  deriving BEq, Repr, Inhabited

namespace Column

def isClustering (column : Column) : Bool := column.key == some .clustering

def partitioned (column : Column) : Column := { column with key := some .partition }

def clustered (column : Column) : Column := { column with key := some .clustering }

def clusteredBy (column : Column) (direction : Direction) : Column :=
  { column with key := some .clustering, ordering := some direction }

def atOrdinal (column : Column) (ordinal : UInt32) : Column :=
  { column with ordinal := some ordinal }

end Column
end CqlSchema
