import CqlSchema.Proofs.Options.Refusal
import CqlSchema.Proofs.Table.KeyOrder

/-! Which tables can be created, and what the error says of one that cannot. The columns are checked
one after the other, so an error about a column is about the first one at fault; the keys and the
options come after all columns. -/
namespace CqlSchema

def DataType.Unkeyed (type : DataType) : Prop :=
  type = .native .counter ∨ (∃ element, type = .list element) ∨ (∃ element, type = .set element) ∨
    ∃ key value, type = .map key value

theorem DataType.canBeKeyIff {type : DataType} : type.canBeKey = true ↔ ¬type.Unkeyed := by
  cases type with
  | native native => cases native <;> simp [canBeKey, isCounter, isCollection, Unkeyed]
  | list _ | set _ | map _ _ | tuple _ | frozen _ | defined _ =>
    simp [canBeKey, isCounter, isCollection, Unkeyed]

structure Column.Sound (column : Column) : Prop where
  named : column.name ≠ ""
  ordered : column.ordering ≠ none → column.key = some .clustering
  placed : column.ordinal ≠ none → column.key ≠ none
  keyed : column.key ≠ none → ¬column.type.Unkeyed

namespace Table

/-- What may be wrong with a column that is declared behind others. -/
inductive ColumnFault (table : String) (earlier : List Column) (column : Column) :
    DefinitionError → Prop
  | unnamed (blank : column.name = "") :
      ColumnFault table earlier column (.emptyIdentifier (.column (earlier.length + 1) table))
  | repeated (again : ∃ other ∈ earlier, other.name = column.name) :
      ColumnFault table earlier column (.duplicateColumn table column.name)
  | ordered (given : column.ordering ≠ none) (other : column.key ≠ some .clustering) :
      ColumnFault table earlier column (.orderingOnNonClusteringColumn table column.name)
  | placed (given : column.ordinal ≠ none) (plain : column.key = none) :
      ColumnFault table earlier column (.ordinalOnNonKeyColumn table column.name)
  | keyed (given : column.key ≠ none) (unkeyed : column.type.Unkeyed) :
      ColumnFault table earlier column (.invalidKeyColumnType table column.name column.type)

structure Sound (table : Table) : Prop where
  named : table.name ≠ ""
  qualified : table.keyspace ≠ some ""
  filled : table.columns ≠ []
  columns : ∀ column ∈ table.columns, column.Sound
  distinct : (table.columns.map (·.name)).Nodup
  partitioned : ∃ column ∈ table.columns, column.key = some .partition
  counted : ∀ role,
    (table.effectiveOrdinals role).Perm (List.range' 1 (table.columnsOf role).length)
  options : Options.check table.options = .ok ()

/-- What an error says of the table that is refused. -/
inductive Refusal (table : Table) : DefinitionError → Prop
  | unnamed (blank : table.name = "") : Refusal table (.missingName .createTable)
  | unqualified (blank : table.keyspace = some "") :
      Refusal table (.emptyIdentifier (.qualifier .createTable))
  | columnless (empty : table.columns = []) : Refusal table (.noColumns table.name)
  | column {before after : List Column} {column : Column} {error : DefinitionError}
      (split : table.columns = before ++ column :: after)
      (first : ∀ earlier other later, before = earlier ++ other :: later →
        ∀ fault, ¬ColumnFault table.name earlier other fault)
      (fault : ColumnFault table.name before column error) : Refusal table error
  | unpartitioned (absent : ∀ column ∈ table.columns, column.key ≠ some .partition) :
      Refusal table (.noPartitionKey table.name)
  | uncounted {role : KeyRole} {sorted : List Nat}
      (conflict : ¬(table.effectiveOrdinals role).Perm
        (List.range' 1 (table.columnsOf role).length))
      (perm : sorted.Perm (table.effectiveOrdinals role)) (rising : sorted.Pairwise (· ≤ ·)) :
      Refusal table (.conflictingOrdinals table.name role sorted)
  | options {path : OptionPath} {entries : Options} {error : DefinitionError}
      (leads : Options.Leads table.options path entries)
      (fault : Options.FaultAt path entries error) : Refusal table error

theorem misplacedOrdering {column : Column} :
    (column.ordering.isSome && !column.isClustering) = true ↔
      column.ordering ≠ none ∧ column.key ≠ some .clustering := by
  simp [Column.isClustering, Option.isSome_iff_ne_none]

theorem misplacedOrdinal {column : Column} :
    (column.ordinal.isSome && column.key.isNone) = true ↔
      column.ordinal ≠ none ∧ column.key = none := by
  simp [Option.isSome_iff_ne_none]

theorem misplacedType {column : Column} :
    (column.key.isSome && !column.type.canBeKey) = true ↔
      column.key ≠ none ∧ column.type.Unkeyed := by
  rw [Bool.and_eq_true, Bool.not_eq_true', ← Bool.not_eq_true, DataType.canBeKeyIff, not_not,
    Option.isSome_iff_ne_none]

theorem checkColumnOk {table : String} {position : Nat} {earlier : List String} {column : Column} :
    checkColumn table position earlier column = .ok () ↔
      column.Sound ∧ column.name ∉ earlier := by
  rw [checkColumn, elseOk, elseOk, elseOk, elseOk, elseOk, String.isEmpty_iff,
    List.contains_iff_mem, misplacedOrdering, misplacedOrdinal, misplacedType]
  constructor
  · intro passes
    obtain ⟨named, fresh, ordered, placed, keyed, -⟩ := passes
    refine ⟨⟨named, ?_, ?_, ?_⟩, fresh⟩
    · intro given
      by_contra other
      exact ordered ⟨given, other⟩
    · intro given plain
      exact placed ⟨given, plain⟩
    · intro given unkeyed
      exact keyed ⟨given, unkeyed⟩
  · intro both
    obtain ⟨sound, fresh⟩ := both
    refine ⟨sound.named, fresh, ?_, ?_, ?_, rfl⟩
    · intro misplaced
      obtain ⟨given, other⟩ := misplaced
      exact other (sound.ordered given)
    · intro misplaced
      obtain ⟨given, plain⟩ := misplaced
      exact sound.placed given plain
    · intro misplaced
      obtain ⟨given, unkeyed⟩ := misplaced
      exact sound.keyed given unkeyed

theorem checkColumnError {table : String} {earlier : List Column} {column : Column}
    {error : DefinitionError}
    (refused : checkColumn table (earlier.length + 1) (earlier.map (·.name)) column
      = .error error) :
    ColumnFault table earlier column error := by
  rw [checkColumn, elseError, elseError, elseError, elseError, elseError, String.isEmpty_iff,
    List.contains_iff_mem, misplacedOrdering, misplacedOrdinal, misplacedType] at refused
  rcases refused with ⟨blank, rfl⟩ | ⟨-, ⟨again, rfl⟩ | ⟨-, ⟨⟨given, other⟩, rfl⟩ |
    ⟨-, ⟨⟨given, plain⟩, rfl⟩ | ⟨-, ⟨⟨given, unkeyed⟩, rfl⟩ | ⟨-, passed⟩⟩⟩⟩⟩
  · exact .unnamed blank
  · exact .repeated (List.mem_map.mp again)
  · exact .ordered given other
  · exact .placed given plain
  · exact .keyed given unkeyed
  · cases passed

theorem soundFaultless {table : String} {earlier : List Column} {column : Column}
    {error : DefinitionError} (sound : column.Sound)
    (fresh : column.name ∉ earlier.map (·.name)) : ¬ColumnFault table earlier column error := by
  intro fault
  cases fault with
  | unnamed blank => exact sound.named blank
  | repeated again => exact fresh (List.mem_map.mpr again)
  | ordered given other => exact other (sound.ordered given)
  | placed given plain => exact sound.placed given plain
  | keyed given unkeyed => exact sound.keyed given unkeyed

theorem checkColumnsOk {table : String} {earlier : List String} {columns : List Column} :
    checkColumns table earlier columns = .ok () ↔
      (∀ column ∈ columns, column.Sound) ∧ (∀ column ∈ columns, column.name ∉ earlier) ∧
        (columns.map (·.name)).Nodup := by
  induction columns generalizing earlier with
  | nil => simp [checkColumns]
  | cons column rest ih =>
    rw [checkColumns, thenOk, checkColumnOk, ih]
    simp only [List.forall_mem_cons, List.map_cons, List.nodup_cons, List.mem_append,
      List.mem_singleton, List.mem_map, not_or, not_exists, not_and]
    constructor
    · intro passed
      obtain ⟨⟨sound, fresh⟩, sounds, apart, distinct⟩ := passed
      exact ⟨⟨sound, sounds⟩, ⟨fresh, fun other inside => (apart other inside).1⟩,
        fun other inside => (apart other inside).2, distinct⟩
    · intro passed
      obtain ⟨⟨sound, sounds⟩, ⟨fresh, others⟩, apart, distinct⟩ := passed
      exact ⟨⟨sound, fresh⟩, sounds, fun other inside => ⟨others other inside, apart other inside⟩,
        distinct⟩

theorem checkColumnsError {table : String} {earlier columns : List Column}
    {error : DefinitionError}
    (refused : checkColumns table (earlier.map (·.name)) columns = .error error) :
    ∃ before column after, columns = before ++ column :: after ∧
      checkColumns table (earlier.map (·.name)) before = .ok () ∧
      ColumnFault table (earlier ++ before) column error := by
  induction columns generalizing earlier with
  | nil => cases refused
  | cons column rest ih =>
    rw [checkColumns, thenError, List.length_map] at refused
    rcases refused with refused | ⟨passed, refused⟩
    · exact ⟨[], column, rest, rfl, rfl, by simpa using checkColumnError refused⟩
    · have onward : checkColumns table ((earlier ++ [column]).map (·.name)) rest = .error error := by
        simpa using refused
      obtain ⟨before, other, after, split, front, fault⟩ := ih onward
      refine ⟨column :: before, other, after, by simp [split], ?_, by simpa using fault⟩
      rw [checkColumns, thenOk, List.length_map]
      exact ⟨passed, by simpa using front⟩

theorem faultlessBefore {table : String} {columns : List Column}
    (checked : checkColumns table [] columns = .ok ()) :
    ∀ earlier other later, columns = earlier ++ other :: later →
      ∀ fault, ¬ColumnFault table earlier other fault := by
  obtain ⟨sounds, -, distinct⟩ := checkColumnsOk.mp checked
  intro earlier other later split fault
  subst split
  refine soundFaultless (sounds other (by simp)) ?_
  rw [List.map_append, List.nodup_append] at distinct
  intro inside
  exact distinct.2.2 _ inside other.name (by simp) rfl

theorem keyOrderFilled {table : Table} {role : KeyRole} :
    table.keyOrder role ≠ [] ↔ ∃ column ∈ table.columns, column.key = some role := by
  constructor
  · intro filled
    obtain ⟨column, inside⟩ := List.exists_mem_of_ne_nil _ filled
    have found := (table.keyOrderPerm role).mem_iff.mp inside
    obtain ⟨member, keyed⟩ := List.mem_filter.mp found
    exact ⟨column, member, by simpa using keyed⟩
  · intro present
    obtain ⟨column, member, keyed⟩ := present
    have found : column ∈ table.columnsOf role := List.mem_filter.mpr ⟨member, by simp [keyed]⟩
    exact List.ne_nil_of_mem ((table.keyOrderPerm role).mem_iff.mpr found)

theorem checkOkIff {table : Table} : table.check = .ok () ↔ table.Sound := by
  rw [checkOk, requireNameOk, requireQualifierOk, checkColumnsOk, keyColumnsOkIff, keyColumnsOkIff,
    keyOrderFilled]
  constructor
  · intro passes
    obtain ⟨named, qualified, filled, ⟨columns, -, distinct⟩, ⟨partition, -⟩, partitioned,
      ⟨clustering, -⟩, options⟩ := passes
    have counted : ∀ role,
        (table.effectiveOrdinals role).Perm (List.range' 1 (table.columnsOf role).length) := by
      intro role
      cases role with
      | partition => exact partition
      | clustering => exact clustering
    exact ⟨named, qualified, filled, columns, distinct, partitioned, counted, options⟩
  · intro sound
    exact ⟨sound.named, sound.qualified, sound.filled, ⟨sound.columns, by simp, sound.distinct⟩,
      ⟨sound.counted _, rfl⟩, sound.partitioned, ⟨sound.counted _, rfl⟩, sound.options⟩

theorem keyColumnsRefused {table : Table} {role : KeyRole} {error : DefinitionError}
    (refused : table.keyColumns role = .error error) : table.Refusal error := by
  obtain ⟨conflict, sorted, perm, rising, same⟩ := keyColumnsErrorIff.mp refused
  subst same
  exact .uncounted conflict perm rising

theorem checkRefused {table : Table} {error : DefinitionError}
    (refused : table.check = .error error) : table.Refusal error := by
  rw [check, thenError, thenError, unlessError, thenError, boundError] at refused
  rcases refused with refused | ⟨-, refused | ⟨-, ⟨empty, same⟩ | ⟨-, refused | ⟨-, refused |
    ⟨partition, found, refused⟩⟩⟩⟩⟩
  · obtain ⟨blank, same⟩ := requireNameError refused
    exact same ▸ .unnamed blank
  · obtain ⟨blank, same⟩ := requireQualifierError refused
    exact same ▸ .unqualified blank
  · exact same ▸ .columnless (List.isEmpty_iff.mp empty)
  · have behindNone : checkColumns table.name (([] : List Column).map (·.name)) table.columns =
      .error error := refused
    obtain ⟨before, column, after, split, passed, fault⟩ := checkColumnsError behindNone
    exact .column split (faultlessBefore passed) fault
  · exact keyColumnsRefused refused
  · rw [unlessError, boundError] at refused
    rcases refused with ⟨empty, same⟩ | ⟨-, refused | ⟨_, -, refused⟩⟩
    · have absent : ¬∃ column ∈ table.columns, column.key = some .partition := by
        rw [← keyOrderFilled, ← keyColumnsOk found, not_not]
        exact List.isEmpty_iff.mp empty
      exact same ▸ .unpartitioned fun column member keyed => absent ⟨column, member, keyed⟩
    · exact keyColumnsRefused refused
    · obtain ⟨path, entries, leads, fault⟩ := Options.checkError.mp refused
      exact .options leads fault

theorem refusalUnsound {table : Table} {error : DefinitionError} (refusal : table.Refusal error) :
    ¬table.Sound := by
  intro sound
  cases refusal with
  | unnamed blank => exact sound.named blank
  | unqualified blank => exact sound.qualified blank
  | columnless empty => exact sound.filled empty
  | column split first fault =>
    have distinct := sound.distinct
    rw [split, List.map_append, List.nodup_append] at distinct
    refine soundFaultless (sound.columns _ (by simp [split])) (fun inside => ?_) fault
    exact distinct.2.2 _ inside _ (by simp) rfl
  | unpartitioned absent =>
    obtain ⟨column, member, keyed⟩ := sound.partitioned
    exact absent column member keyed
  | uncounted conflict => exact conflict (sound.counted _)
  | options leads fault =>
    have refused := Options.checkError.mpr ⟨_, _, leads, fault⟩
    rw [sound.options] at refused
    cases refused

theorem checkSoundOrRefused (table : Table) :
    (table.check = .ok () ↔ table.Sound) ∧
    (∀ error, table.check = .error error → table.Refusal error) ∧
    ∀ error, table.Refusal error → ¬table.Sound :=
  ⟨checkOkIff, fun _ => checkRefused, fun _ => refusalUnsound⟩

theorem firstFaultyColumnRefused :
    let frozen : DataType := .frozen (.list (.native .int))
    let day : Column := { name := "day", type := .native .date, key := some .partition }
    let sorted : Column :=
      { name := "seen", type := frozen, key := some .clustering, ordering := some .desc }
    let loose : Column := { sorted with type := .list (.native .int) }
    let accepted : Table :=
      { name := "t", columns := [{ day with name := "id", ordinal := some 2 }, sorted,
        { day with ordinal := some 1 }] }
    let refused : Table := { name := "t", columns := [loose, day, { day with ordinal := some 9 }] }
    accepted.check = .ok () ∧
      refused.check = .error (.invalidKeyColumnType "t" "seen" (.list (.native .int))) ∧
      ¬refused.Sound := by
  intro frozen day sorted loose accepted refused
  obtain ⟨exact, -, -⟩ := checkSoundOrRefused accepted
  obtain ⟨-, fault, unsound⟩ := checkSoundOrRefused refused
  have failed :
      refused.check = .error (.invalidKeyColumnType "t" "seen" (.list (.native .int))) := rfl
  have counted : ∀ role,
      (accepted.effectiveOrdinals role).Perm (List.range' 1 (accepted.columnsOf role).length) := by
    intro role
    cases role <;> decide
  have columns : ∀ column ∈ accepted.columns, column.Sound := by
    simp only [accepted, List.forall_mem_cons, List.not_mem_nil, false_implies, implies_true,
      and_true]
    refine ⟨⟨?_, ?_, ?_, ?_⟩, ⟨?_, ?_, ?_, ?_⟩, ⟨?_, ?_, ?_, ?_⟩⟩ <;>
      simp [day, sorted, frozen, DataType.Unkeyed]
  have sound : accepted.Sound :=
    ⟨by simp [accepted], by simp [accepted], by simp [accepted], columns,
      by simp [accepted, day, sorted], ⟨_, .head _, rfl⟩, counted, rfl⟩
  exact ⟨exact.mpr sound, failed, unsound _ (fault _ failed)⟩

end Table
end CqlSchema
