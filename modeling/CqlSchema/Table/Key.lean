import CqlSchema.DefinitionError
import CqlSchema.Table.Basic

/-! The primary key of a table. A key column has its ordinal, or its place among the columns of its
role if none is given; the ordinals of a role must be 1, 2, 3 and so on without a gap. -/
namespace CqlSchema.Table

/-- The columns of a role in the order of declaration, each with its effective ordinal. -/
def ordinals (table : Table) (role : KeyRole) : List (Nat × Column) :=
  (table.columns.filter (·.key == some role)).mapIdx fun index column =>
    (match column.ordinal with
      | some ordinal => ordinal.toNat
      | none => index + 1, column)

def sortedOrdinals (table : Table) (role : KeyRole) : List (Nat × Column) :=
  (table.ordinals role).mergeSort fun first second => first.1 ≤ second.1

def keyColumns (table : Table) (role : KeyRole) : Except DefinitionError (List Column) :=
  let sorted := table.sortedOrdinals role
  if sorted.map (·.1) = List.range' 1 sorted.length then .ok (sorted.map (·.2))
  else .error (.conflictingOrdinals table.name role (sorted.map (·.1)))

end CqlSchema.Table
