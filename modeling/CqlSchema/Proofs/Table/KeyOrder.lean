import CqlSchema.Proofs.Statement.Rendering

/-! The order of the key columns of one role. Ordinals may be given for some columns and left out for
others, with gaps and repeats; the columns have an order exactly if the ordinals, as a whole, are
1, 2, 3 and so on, and then each column stands where its ordinal says. -/
namespace CqlSchema.Table

def columnsOf (table : Table) (role : KeyRole) : List Column :=
  table.columns.filter (·.key == some role)

/-- The ordinal that was given, or the place among the columns of the role, counted from one. -/
def effectiveOrdinal (index : Nat) (column : Column) : Nat :=
  (column.ordinal.map UInt32.toNat).getD (index + 1)

def effectiveOrdinals (table : Table) (role : KeyRole) : List Nat :=
  (table.columnsOf role).mapIdx effectiveOrdinal

theorem ordinalsFirst (table : Table) (role : KeyRole) :
    (table.ordinals role).map (·.1) = table.effectiveOrdinals role := by
  refine List.ext_getElem? fun index => ?_
  simp only [ordinals, effectiveOrdinals, columnsOf, List.getElem?_map, List.getElem?_mapIdx,
    Option.map_map]
  congr 1
  funext column
  simp only [effectiveOrdinal, Function.comp_apply]
  cases column.ordinal <;> rfl

theorem ordinalsSecond (table : Table) (role : KeyRole) :
    (table.ordinals role).map (·.2) = table.columnsOf role := by
  refine List.ext_getElem? fun index => ?_
  simp only [ordinals, columnsOf, List.getElem?_map, List.getElem?_mapIdx, Option.map_map]
  exact Option.map_id'

theorem ordinalsAt {table : Table} {role : KeyRole} {ordinal : Nat} {column : Column} :
    (ordinal, column) ∈ table.ordinals role ↔
      ∃ index : Nat, (table.columnsOf role)[index]? = some column ∧
        (table.effectiveOrdinals role)[index]? = some ordinal := by
  rw [← ordinalsFirst, ← ordinalsSecond, List.mem_iff_getElem?]
  refine exists_congr fun index => ?_
  cases found : (table.ordinals role)[index]? with
  | none => simp [found]
  | some entry => simp [found, Prod.ext_iff, and_comm]

theorem sortedPerm (table : Table) (role : KeyRole) :
    (table.sortedOrdinals role).Perm (table.ordinals role) :=
  List.mergeSort_perm ..

theorem sortedRising (table : Table) (role : KeyRole) :
    ((table.sortedOrdinals role).map (·.1)).Pairwise (· ≤ ·) := by
  rw [List.pairwise_map]
  have sorted : (table.sortedOrdinals role).Pairwise fun first second =>
      decide (first.1 ≤ second.1) = true :=
    List.pairwise_mergeSort (by simp; omega) (by simp; omega) (table.ordinals role)
  exact sorted.imp of_decide_eq_true

theorem sortedFirstPerm (table : Table) (role : KeyRole) :
    ((table.sortedOrdinals role).map (·.1)).Perm (table.effectiveOrdinals role) := by
  rw [← ordinalsFirst]
  exact (table.sortedPerm role).map _

theorem sortedLength (table : Table) (role : KeyRole) :
    (table.sortedOrdinals role).length = (table.columnsOf role).length := by
  rw [(table.sortedPerm role).length_eq, ← ordinalsSecond, List.length_map]

theorem contiguousIff {table : Table} {role : KeyRole} :
    (table.sortedOrdinals role).map (·.1) = List.range' 1 (table.sortedOrdinals role).length ↔
      (table.effectiveOrdinals role).Perm (List.range' 1 (table.columnsOf role).length) := by
  rw [sortedLength]
  constructor
  · intro counted
    rw [← counted]
    exact (table.sortedFirstPerm role).symm
  · intro counted
    have rising : (List.range' 1 (table.columnsOf role).length).Pairwise (· ≤ ·) :=
      List.pairwise_le_range'
    exact ((table.sortedFirstPerm role).trans counted).eq_of_pairwise
      (fun _ _ _ _ => Nat.le_antisymm) (table.sortedRising role) rising

theorem keyColumnsOkIff {table : Table} {role : KeyRole} {key : List Column} :
    table.keyColumns role = .ok key ↔
      (table.effectiveOrdinals role).Perm (List.range' 1 (table.columnsOf role).length) ∧
        key = table.keyOrder role := by
  rw [← contiguousIff, keyColumns]
  split
  · rename_i counted
    simp only [counted, Except.ok.injEq, true_and]
    exact eq_comm
  · rename_i counted
    simp [counted]

theorem keyColumnsErrorIff {table : Table} {role : KeyRole} {error : DefinitionError} :
    table.keyColumns role = .error error ↔
      ¬(table.effectiveOrdinals role).Perm (List.range' 1 (table.columnsOf role).length) ∧
        ∃ sorted : List Nat, sorted.Perm (table.effectiveOrdinals role) ∧
          sorted.Pairwise (· ≤ ·) ∧ error = .conflictingOrdinals table.name role sorted := by
  rw [← contiguousIff, keyColumns]
  split
  · rename_i counted
    simp [counted]
  · rename_i counted
    simp only [Except.error.injEq, counted, not_false_eq_true, true_and]
    constructor
    · intro same
      exact ⟨_, table.sortedFirstPerm role, table.sortedRising role, same.symm⟩
    · intro conflict
      obtain ⟨sorted, perm, rising, same⟩ := conflict
      have only : (table.sortedOrdinals role).map (·.1) = sorted :=
        ((table.sortedFirstPerm role).trans perm.symm).eq_of_pairwise
          (fun _ _ _ _ => Nat.le_antisymm) (table.sortedRising role) rising
      rw [same, only]

theorem keyOrderPerm (table : Table) (role : KeyRole) :
    (table.keyOrder role).Perm (table.columnsOf role) := by
  rw [keyOrder, ← ordinalsSecond]
  exact (table.sortedPerm role).map _

theorem sortedAt {table : Table} {role : KeyRole} {place ordinal : Nat} {column : Column}
    (counted : (table.sortedOrdinals role).map (·.1) =
      List.range' 1 (table.sortedOrdinals role).length)
    (found : (table.sortedOrdinals role)[place]? = some (ordinal, column)) :
    ordinal = place + 1 := by
  have first := congrArg (·[place]?) counted
  obtain ⟨inside, -⟩ := List.getElem?_eq_some_iff.mp found
  simp only [List.getElem?_map, found, List.getElem?_range', inside] at first
  simp at first
  omega

theorem keyOrderAt {table : Table} {role : KeyRole} {place : Nat} {column : Column}
    (counted : (table.effectiveOrdinals role).Perm (List.range' 1 (table.columnsOf role).length)) :
    (table.keyOrder role)[place]? = some column ↔ (place + 1, column) ∈ table.ordinals role := by
  have counted := contiguousIff.mpr counted
  rw [← (table.sortedPerm role).mem_iff, keyOrder, List.getElem?_map, List.mem_iff_getElem?]
  constructor
  · intro found
    obtain ⟨⟨ordinal, _⟩, entry, same⟩ := Option.map_eq_some_iff.mp found
    subst same
    have standing := sortedAt counted entry
    exact ⟨place, by rw [entry, standing]⟩
  · intro standing
    obtain ⟨other, found⟩ := standing
    have standing := sortedAt counted found
    obtain rfl : place = other := by omega
    rw [found, Option.map_some]

/-- The key columns of a role have an order exactly if their ordinals are 1 up to their number, in
whichever order they are declared. -/
theorem keyColumnsByOrdinal (table : Table) (role : KeyRole) :
    let declared := table.columnsOf role
    let ordinals := table.effectiveOrdinals role
    ((∃ key, table.keyColumns role = .ok key) ↔
      ordinals.Perm (List.range' 1 declared.length)) ∧
    (∀ key, table.keyColumns role = .ok key →
      key.Perm declared ∧ ∀ (place : Nat) (column : Column), key[place]? = some column ↔
        ∃ index : Nat, declared[index]? = some column ∧ ordinals[index]? = some (place + 1)) ∧
    ∀ error, table.keyColumns role = .error error ↔
      ¬ordinals.Perm (List.range' 1 declared.length) ∧
        ∃ sorted : List Nat, sorted.Perm ordinals ∧ sorted.Pairwise (· ≤ ·) ∧
          error = .conflictingOrdinals table.name role sorted := by
  intro declared ordinals
  refine ⟨?_, ?_, ?_⟩
  · constructor
    · intro returned
      obtain ⟨key, found⟩ := returned
      exact (keyColumnsOkIff.mp found).1
    · intro counted
      exact ⟨_, keyColumnsOkIff.mpr ⟨counted, rfl⟩⟩
  · intro key found
    obtain ⟨counted, same⟩ := keyColumnsOkIff.mp found
    subst same
    refine ⟨table.keyOrderPerm role, fun place column => ?_⟩
    rw [keyOrderAt counted, ordinalsAt]
  · exact fun error => keyColumnsErrorIff

theorem mixedOrdinalsInOrder :
    let column (name : String) (ordinal : Option UInt32) : Column :=
      { name, type := .native .int, key := some .partition, ordinal }
    let between : Column := { name := "d", type := .native .int, key := some .clustering }
    let fitting : Table := { columns := [column "a" (some 3), between, column "b" none,
      column "c" (some 1)] }
    let conflicting : Table := { name := "t", columns := [column "a" (some 4294967295), between,
      column "b" none, column "c" none, column "e" (some 2)] }
    (∃ key, fitting.keyColumns .partition = .ok key ∧ key[0]? = some (column "c" (some 1)) ∧
      key[1]? = some (column "b" none) ∧ key[2]? = some (column "a" (some 3))) ∧
    conflicting.keyColumns .partition =
      .error (.conflictingOrdinals "t" .partition [2, 2, 3, 4294967295]) := by
  intro column between fitting conflicting
  obtain ⟨fits, placed, -⟩ := keyColumnsByOrdinal fitting .partition
  obtain ⟨-, -, refused⟩ := keyColumnsByOrdinal conflicting .partition
  obtain ⟨key, found⟩ := fits.mpr (by decide)
  obtain ⟨-, standing⟩ := placed key found
  refine ⟨⟨key, found, ?_, ?_, ?_⟩, ?_⟩
  · exact (standing 0 _).mpr ⟨2, rfl, rfl⟩
  · exact (standing 1 _).mpr ⟨1, rfl, rfl⟩
  · exact (standing 2 _).mpr ⟨0, rfl, rfl⟩
  · exact (refused _).mpr ⟨by decide, [2, 2, 3, 4294967295], by decide, by decide, rfl⟩

end CqlSchema.Table
