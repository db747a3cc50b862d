import CqlSchema.Proofs.Table.Refusal
import Mathlib

/-! Tables that differ in the order in which their columns are declared. Where every key column has
an ordinal of its own, that order plays no part in the key: it is seen only in the list of the
columns itself. -/
namespace CqlSchema.Table

/-- Every key column has an ordinal of its own. -/
def Numbered (table : Table) : Prop :=
  ∀ column ∈ table.columns, column.key ≠ none → column.ordinal ≠ none

def givenOrdinal (column : Column) : Nat := (column.ordinal.map UInt32.toNat).getD 0

theorem ordinalsNumbered {table : Table} (numbered : table.Numbered) (role : KeyRole) :
    table.ordinals role =
      (table.columnsOf role).map fun column => (givenOrdinal column, column) := by
  refine List.ext_getElem? fun index => ?_
  rw [ordinals, List.getElem?_mapIdx, List.getElem?_map, columnsOf]
  cases found : (table.columns.filter (·.key == some role))[index]? with
  | none => rfl
  | some column =>
    obtain ⟨member, keyed⟩ := List.mem_filter.mp (List.mem_of_getElem? found)
    have given := numbered column member (by simp [beq_iff_eq.mp keyed])
    obtain ⟨ordinal, same⟩ := Option.ne_none_iff_exists'.mp given
    simp [givenOrdinal, same]

section
variable {table : Table} {columns : List Column}

theorem numberedReordered (numbered : table.Numbered) (reordered : columns.Perm table.columns) :
    { table with columns }.Numbered :=
  fun column inside => numbered column (reordered.mem_iff.mp inside)

theorem columnsOfReordered (reordered : columns.Perm table.columns) (role : KeyRole) :
    ({ table with columns }.columnsOf role).Perm (table.columnsOf role) :=
  reordered.filter _

theorem ordinalsReordered (numbered : table.Numbered) (reordered : columns.Perm table.columns)
    (role : KeyRole) : ({ table with columns }.ordinals role).Perm (table.ordinals role) := by
  rw [ordinalsNumbered numbered, ordinalsNumbered (numberedReordered numbered reordered)]
  exact (columnsOfReordered reordered role).map _

theorem countedReordered (numbered : table.Numbered) (reordered : columns.Perm table.columns)
    {role : KeyRole}
    (counted : (table.effectiveOrdinals role).Perm (List.range' 1 (table.columnsOf role).length)) :
    ({ table with columns }.effectiveOrdinals role).Perm
      (List.range' 1 ({ table with columns }.columnsOf role).length) := by
  rw [(columnsOfReordered reordered role).length_eq, ← ordinalsFirst]
  rw [← ordinalsFirst] at counted
  exact ((ordinalsReordered numbered reordered role).map _).trans counted

theorem keyOrderReordered (numbered : table.Numbered) (reordered : columns.Perm table.columns)
    {role : KeyRole}
    (counted : (table.effectiveOrdinals role).Perm (List.range' 1 (table.columnsOf role).length)) :
    { table with columns }.keyOrder role = table.keyOrder role := by
  refine List.ext_getElem? fun place => Option.ext fun column => ?_
  rw [keyOrderAt counted, keyOrderAt (countedReordered numbered reordered counted)]
  exact (ordinalsReordered numbered reordered role).mem_iff

theorem soundReordered (numbered : table.Numbered) (reordered : columns.Perm table.columns)
    (sound : table.Sound) : { table with columns }.Sound where
  named := sound.named
  qualified := sound.qualified
  filled := by
    intro empty
    refine sound.filled ?_
    simpa [show columns = [] from empty] using reordered.symm
  columns column inside := sound.columns column (reordered.mem_iff.mp inside)
  distinct := (reordered.map _).nodup_iff.mpr sound.distinct
  partitioned := by
    obtain ⟨column, inside, keyed⟩ := sound.partitioned
    exact ⟨column, reordered.mem_iff.mpr inside, keyed⟩
  counted role := countedReordered numbered reordered (sound.counted role)
  options := sound.options

theorem soundReorderedIff (numbered : table.Numbered) (reordered : columns.Perm table.columns) :
    { table with columns }.Sound ↔ table.Sound := by
  constructor
  · intro sound
    have back : Sound { ({ table with columns } : Table) with columns := table.columns } :=
      soundReordered (numberedReordered numbered reordered) reordered.symm sound
    exact back
  · exact soundReordered numbered reordered

theorem declarationOrderLeavesKey (numbered : table.Numbered)
    (reordered : columns.Perm table.columns) :
    let other : Table := { table with columns }
    (other.check = .ok () ↔ table.check = .ok ()) ∧
    (table.check = .ok () → ∃ partition clustering,
      (∀ declared ∈ [table, other], declared.keyColumns .partition = .ok partition ∧
        declared.keyColumns .clustering = .ok clustering) ∧
      table.statement = .ok (table.opening ++
        Text.joined ", ".toList (table.columns.map columnItem ++ [primaryKey partition clustering])
        ++ table.closing clustering) ∧
      other.statement = .ok (table.opening ++
        Text.joined ", ".toList (columns.map columnItem ++ [primaryKey partition clustering])
        ++ table.closing clustering)) := by
  intro other
  have checks : other.check = .ok () ↔ table.check = .ok () := by
    rw [checkOkIff, checkOkIff]
    exact soundReorderedIff numbered reordered
  refine ⟨checks, fun checked => ?_⟩
  have counted := (checkOkIff.mp checked).counted
  have same (role : KeyRole) : other.keyOrder role = table.keyOrder role :=
    keyOrderReordered numbered reordered (counted role)
  have keyed (role : KeyRole) : table.keyColumns role = .ok (table.keyOrder role) ∧
      other.keyColumns role = .ok (table.keyOrder role) := by
    refine ⟨keyColumnsOkIff.mpr ⟨counted role, rfl⟩, keyColumnsOkIff.mpr ⟨?_, (same role).symm⟩⟩
    exact countedReordered numbered reordered (counted role)
  have written := statementWritten (checks.mpr checked)
  rw [same, same] at written
  refine ⟨_, _, fun declared inside => ?_, statementWritten checked, written⟩
  simp only [List.mem_cons, List.not_mem_nil, or_false] at inside
  rcases inside with rfl | rfl
  · exact ⟨(keyed .partition).1, (keyed .clustering).1⟩
  · exact ⟨(keyed .partition).2, (keyed .clustering).2⟩

end

theorem reversedColumnsKeepKey :
    let seen : Column :=
      { name := "seen", type := .native .timestamp, key := some .clustering, ordinal := some 1,
        ordering := some .desc }
    let note : Column := { name := "a, b", type := .map (.native .text) (.native .int) }
    let id : Column :=
      { name := "id", type := .native .uuid, key := some .partition, ordinal := some 2 }
    let day : Column := { id with name := "day", ordinal := some 1 }
    let table : Table := { name := "t", columns := [seen, note, id, day] }
    let other : Table := { table with columns := table.columns.reverse }
    table.Numbered ∧ other.columns.Perm table.columns ∧ table.check = .ok () ∧
      other.check = .ok () ∧ ∃ partition clustering,
        other.keyColumns .partition = .ok partition ∧
        other.keyColumns .clustering = .ok clustering ∧
        other.statement = .ok (table.opening ++ Text.joined ", ".toList
          (other.columns.map columnItem ++ [primaryKey partition clustering]) ++
            table.closing clustering) := by
  intro seen note id day table other
  have numbered : table.Numbered := by
    simp [Numbered, table, seen, note, id, day]
  have reordered : other.columns.Perm table.columns := List.reverse_perm _
  obtain ⟨checks, texts⟩ := declarationOrderLeavesKey numbered reordered
  have checked : table.check = .ok () := by cbv
  obtain ⟨partition, clustering, keyed, -, written⟩ := texts checked
  obtain ⟨first, second⟩ := keyed other (by simp [other])
  exact ⟨numbered, reordered, checked, checks.mpr checked, partition, clustering, first, second,
    written⟩

end CqlSchema.Table
