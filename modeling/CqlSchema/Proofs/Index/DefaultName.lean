import CqlSchema.Proofs.Removal

/-! The drops of indexes that have no name of their own. A default name is table and column with an
underscore between them. Both may have underscores themselves, so two indexes have one default name
exactly where that underscore can be taken for another one. -/
namespace CqlSchema

theorem Text.partedTwice {separator : Char} {a b c d : Text} :
    a ++ separator :: b = c ++ separator :: d ↔
      a = c ∧ b = d ∨
      (∃ middle, c = a ++ separator :: middle ∧ b = middle ++ separator :: d) ∨
      ∃ middle, a = c ++ separator :: middle ∧ d = middle ++ separator :: b := by
  constructor
  · intro whole
    rcases List.append_eq_append_iff.mp whole with ⟨between, front, rear⟩ | ⟨between, front, rear⟩
    · cases between with
      | nil => exact .inl ⟨by simpa using front.symm, (List.cons.inj rear).2⟩
      | cons first middle =>
        obtain ⟨same, tail⟩ := List.cons.inj rear
        subst same
        exact .inr (.inl ⟨middle, front, tail⟩)
    · cases between with
      | nil => exact .inl ⟨by simpa using front, (List.cons.inj rear).2.symm⟩
      | cons first middle =>
        obtain ⟨same, tail⟩ := List.cons.inj rear
        subst same
        exact .inr (.inr ⟨middle, front, tail⟩)
  · intro parted
    rcases parted with ⟨front, rear⟩ | ⟨middle, front, rear⟩ | ⟨middle, front, rear⟩
    · rw [front, rear]
    · rw [front, rear, List.append_assoc, List.cons_append]
    · rw [front, rear, List.append_assoc, List.cons_append]

namespace Index

/-- The table of the second index goes on, behind an underscore, where the table of the first one
ends, and the column of the first begins with what it goes on with. -/
def Overlaps (first second : Index) : Prop :=
  ∃ middle, second.table = first.table ++ "_" ++ middle ∧
    first.column = middle ++ "_" ++ second.column

theorem overlapsIff {first second : Index} : Overlaps first second ↔
    ∃ middle : Text, second.table.toList = first.table.toList ++ '_' :: middle ∧
      first.column.toList = middle ++ '_' :: second.column.toList := by
  constructor
  · intro overlaps
    obtain ⟨middle, table, column⟩ := overlaps
    refine ⟨middle.toList, ?_, ?_⟩
    · simp [table]
    · simp [column]
  · intro parts
    obtain ⟨middle, table, column⟩ := parts
    refine ⟨String.ofList middle, ?_, ?_⟩
    · exact String.toList_inj.mp (by simp [table])
    · exact String.toList_inj.mp (by simp [column])

theorem defaultNameIff {first second : Index} (unnamed : first.name = none)
    (nameless : second.name = none) :
    first.effectiveName = second.effectiveName ↔
      first.table = second.table ∧ first.column = second.column ∨
        Overlaps first second ∨ Overlaps second first := by
  have name : ∀ index : Index, index.name = none → index.effectiveName.toList =
      index.table.toList ++ '_' :: index.column.toList ++ "_idx".toList := by
    intro index none
    simp [effectiveName, none]
  rw [← String.toList_inj, name first unnamed, name second nameless, List.append_left_inj,
    Text.partedTwice, overlapsIff, overlapsIff, String.toList_inj, String.toList_inj]

theorem objectIff {first second : Index} (unnamed : first.name = none)
    (nameless : second.name = none)
    (differ : ¬(first.keyspace = second.keyspace ∧ first.table = second.table ∧
      first.column = second.column)) :
    first.object = second.object ↔
      first.keyspace = second.keyspace ∧ (Overlaps first second ∨ Overlaps second first) := by
  have parts : first.object = second.object ↔
      first.keyspace = second.keyspace ∧ first.effectiveName = second.effectiveName := by
    simp [object]
  rw [parts, defaultNameIff unnamed nameless]
  refine and_congr_right fun keyspaces => or_iff_right fun same => differ ⟨keyspaces, same⟩

end Index

namespace Schema

/-- The indexes are dropped first, from the last declared to the first. -/
theorem indexDropped {schema : Schema} {action : Action} (drops : action.drops = true)
    {place : Nat} {index : Index} (found : schema.indexes[place]? = some index) :
    (schema.plan action)[schema.indexes.length - 1 - place]? =
      some (.drop { object := index.object, ifExists := true }) := by
  obtain ⟨inside, -⟩ := List.getElem?_eq_some_iff.mp found
  have reversed : schema.indexes.reverse[schema.indexes.length - 1 - place]? = some index := by
    have back : schema.indexes.length - 1 - (schema.indexes.length - 1 - place) = place := by omega
    rw [List.getElem?_reverse (by omega), back, found]
  rw [plan, if_pos drops, removals, List.append_assoc, List.map_append, List.append_assoc,
    List.getElem?_append_left (by simp; omega), List.getElem?_map, List.getElem?_map, reversed]
  rfl

theorem defaultNamesMeetIff {schema : Schema} {action : Action} {place other : Nat}
    {first second : Index} (checked : ∀ index ∈ schema.indexes, index.check = .ok ())
    (drops : action.drops = true) (found : schema.indexes[place]? = some first)
    (later : schema.indexes[other]? = some second) (unnamed : first.name = none)
    (nameless : second.name = none)
    (differ : ¬(first.keyspace = second.keyspace ∧ first.table = second.table ∧
      first.column = second.column)) :
    (schema.plan action)[schema.indexes.length - 1 - place]? =
      some (.drop { object := first.object, ifExists := true }) ∧
    (schema.plan action)[schema.indexes.length - 1 - other]? =
      some (.drop { object := second.object, ifExists := true }) ∧
    (first.object = second.object ↔
      first.keyspace = second.keyspace ∧
        (Index.Overlaps first second ∨ Index.Overlaps second first)) ∧
    ∃ text again, removalText first.object = .ok text ∧ removalText second.object = .ok again ∧
      (text = again ↔ first.object = second.object) := by
  have sound := checked first (List.mem_of_getElem? found)
  have soundToo := checked second (List.mem_of_getElem? later)
  obtain ⟨text, written⟩ : ∃ text, removalText first.object = .ok text :=
    ⟨_, Statement.droppedText (Removal.ofIndex sound)⟩
  obtain ⟨again, writtenToo⟩ : ∃ again, removalText second.object = .ok again :=
    ⟨_, Statement.droppedText (Removal.ofIndex soundToo)⟩
  refine ⟨indexDropped drops found, indexDropped drops later,
    Index.objectIff unnamed nameless differ, text, again, written, writtenToo, ?_, ?_⟩
  · intro same
    rw [same] at written
    exact congrArg Removal.object (Removal.told written writtenToo)
  · intro same
    rw [same, writtenToo] at written
    exact (Except.ok.inj written).symm

/-- The column goes on differently after the underscore, so the two names stay apart. -/
theorem underscoredNamesApart :
    let first : Index := { table := "a_b", column := "c" }
    let second : Index := { table := "a", column := "b_d" }
    let schema : Schema := { indexes := [first, second] }
    ((schema.plan .recreate)[1]? = some (.drop { object := first.object, ifExists := true }) ∧
      (schema.plan .recreate)[0]? = some (.drop { object := second.object, ifExists := true })) ∧
    first.object ≠ second.object ∧
      ∃ text again, removalText first.object = .ok text ∧ removalText second.object = .ok again ∧
        text ≠ again := by
  intro first second schema
  have checked : ∀ index ∈ schema.indexes, index.check = .ok () :=
    List.forall_mem_cons.mpr ⟨rfl, List.forall_mem_singleton.mpr rfl⟩
  have drops : Action.recreate.drops = true := rfl
  have found : schema.indexes[0]? = some first := rfl
  have later : schema.indexes[1]? = some second := rfl
  have meets := defaultNamesMeetIff checked drops found later rfl rfl (by decide)
  obtain ⟨dropped, droppedToo, -, text, again, written, writtenToo, same⟩ := meets
  have apart : first.object ≠ second.object := by decide
  exact ⟨⟨dropped, droppedToo⟩, apart, text, again, written, writtenToo, mt same.mp apart⟩

/-- The second drop of the script finds its index gone already, and the other index stays. -/
theorem underscoredNamesMeet :
    let first : Index := { table := "a_b", column := "c" }
    let second : Index := { table := "a", column := "b_c" }
    let schema : Schema := { indexes := [first, second] }
    let text := "DROP INDEX IF EXISTS a_b_c_idx;".toList
    schema.script .create =
        .ok ["CREATE INDEX ON a_b (c);".toList, "CREATE INDEX ON a (b_c);".toList] ∧
      (first.name = none ∧ second.name = none ∧ first.table ≠ second.table) ∧
      schema.plan .drop =
        [.drop { object := second.object, ifExists := true },
          .drop { object := first.object, ifExists := true }] ∧
      first.object = second.object ∧ schema.script .drop = .ok [text, text] := by
  exact ⟨by rfl, ⟨rfl, rfl, by decide⟩, rfl, by decide, by rfl⟩

end Schema
end CqlSchema
