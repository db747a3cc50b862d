import CqlSchema.Index
import CqlSchema.Keyspace
import CqlSchema.Table.Alteration
import CqlSchema.Table.Printer

/-! What a sequence of steps declares. A step adds to one list, or sets one part that the next step
of its kind sets anew, and leaves all other parts as they are. So steps of different kinds may change
places, and each part of the whole is told by the steps of its own kind. -/
namespace CqlSchema

section
variable {σ α : Type} (part? : σ → Option α)

/-- What the last step of a kind gives. -/
def lastGiven (steps : List σ) : Option α := (steps.filterMap part?).getLast?

theorem givenCons (step : σ) (rest : List σ) :
    (step :: rest).filterMap part? = (part? step).toList ++ rest.filterMap part? := by
  cases given : part? step <;> simp [given]

theorem lastGivenCons (step : σ) (rest : List σ) :
    lastGiven part? (step :: rest) = (lastGiven part? rest).or (part? step) := by
  rw [lastGiven, givenCons, List.getLast?_append, lastGiven]
  cases part? step <;> rfl

theorem takenAlike (is : σ → Bool) (step : σ) (only : ∀ other, is other = true ↔ other = step)
    (first second : List σ) :
    first.any is = second.any is ↔ (step ∈ first ↔ step ∈ second) := by
  have taken : ∀ steps : List σ, steps.any is = true ↔ step ∈ steps := by
    intro steps
    simp [only]
  rw [← taken, ← taken, Bool.eq_iff_iff]

end

namespace Table

namespace Step

def keyspace? : Step → Option String
  | inKeyspace keyspace => some keyspace
  | _ => none

def isIfNotExists : Step → Bool
  | ifNotExists => true
  | _ => false

theorem onlyIfNotExists (step : Step) : step.isIfNotExists = true ↔ step = ifNotExists := by
  cases step <;> simp [isIfNotExists]

def column? : Step → Option Column
  | column declared => some declared
  | _ => none

def entry? : Step → Option (String × OptionValue)
  | option name value => some (name, value)
  | _ => none

structure SameParts (first second : List Step) : Prop where
  keyspace : lastGiven keyspace? first = lastGiven keyspace? second
  ifNotExists : ifNotExists ∈ first ↔ ifNotExists ∈ second
  columns : first.filterMap column? = second.filterMap column?
  options : first.filterMap entry? = second.filterMap entry?

end Step

theorem afterStep (table : Table) (step : Step) :
    step.apply table =
      { keyspace := step.keyspace?.or table.keyspace, name := table.name,
        ifNotExists := table.ifNotExists || step.isIfNotExists,
        columns := table.columns ++ step.column?.toList,
        options := table.options ++ step.entry?.toList } := by
  cases step <;> simp [Step.apply, Step.keyspace?, Step.isIfNotExists, Step.column?, Step.entry?]

theorem afterSteps (table : Table) (steps : List Step) :
    steps.foldl Step.apply table =
      { keyspace := (lastGiven Step.keyspace? steps).or table.keyspace, name := table.name,
        ifNotExists := table.ifNotExists || steps.any Step.isIfNotExists,
        columns := table.columns ++ steps.filterMap Step.column?,
        options := table.options ++ steps.filterMap Step.entry? } := by
  induction steps generalizing table with
  | nil => simp [lastGiven]
  | cons step rest ih =>
    rw [List.foldl_cons, ih, afterStep]
    simp [lastGivenCons, givenCons, Option.or_assoc, Bool.or_assoc]

theorem declaredAlike {name : String} {first second : List Step} :
    ofSteps name first = ofSteps name second ↔ Step.SameParts first second := by
  have existence := takenAlike Step.isIfNotExists .ifNotExists Step.onlyIfNotExists first second
  rw [ofSteps, ofSteps, afterSteps, afterSteps]
  simp only [Option.or_none, Bool.false_or, List.nil_append, mk.injEq, true_and, existence]
  constructor
  · intro parts
    obtain ⟨keyspace, ifNotExists, columns, options⟩ := parts
    exact ⟨keyspace, ifNotExists, columns, options⟩
  · intro parts
    exact ⟨parts.keyspace, parts.ifNotExists, parts.columns, parts.options⟩

end Table

namespace TableAlteration

namespace Step

def keyspace? : Step → Option String
  | inKeyspace keyspace => some keyspace
  | _ => none

def change? : Step → Option ColumnChange
  | change added => some added
  | _ => none

def entry? : Step → Option (String × OptionValue)
  | option name value => some (name, value)
  | _ => none

structure SameParts (first second : List Step) : Prop where
  keyspace : lastGiven keyspace? first = lastGiven keyspace? second
  changes : first.filterMap change? = second.filterMap change?
  options : first.filterMap entry? = second.filterMap entry?

end Step

theorem afterStep (alteration : TableAlteration) (step : Step) :
    step.apply alteration =
      { keyspace := step.keyspace?.or alteration.keyspace, name := alteration.name,
        changes := alteration.changes ++ step.change?.toList,
        options := alteration.options ++ step.entry?.toList } := by
  cases step <;> simp [Step.apply, Step.keyspace?, Step.change?, Step.entry?]

theorem afterSteps (alteration : TableAlteration) (steps : List Step) :
    steps.foldl Step.apply alteration =
      { keyspace := (lastGiven Step.keyspace? steps).or alteration.keyspace,
        name := alteration.name,
        changes := alteration.changes ++ steps.filterMap Step.change?,
        options := alteration.options ++ steps.filterMap Step.entry? } := by
  induction steps generalizing alteration with
  | nil => simp [lastGiven]
  | cons step rest ih =>
    rw [List.foldl_cons, ih, afterStep]
    simp [lastGivenCons, givenCons, Option.or_assoc]

theorem declaredAlike {name : String} {first second : List Step} :
    ofSteps name first = ofSteps name second ↔ Step.SameParts first second := by
  rw [ofSteps, ofSteps, afterSteps, afterSteps]
  simp only [Option.or_none, List.nil_append, mk.injEq, true_and]
  constructor
  · intro parts
    obtain ⟨keyspace, changes, options⟩ := parts
    exact ⟨keyspace, changes, options⟩
  · intro parts
    exact ⟨parts.keyspace, parts.changes, parts.options⟩

end TableAlteration

namespace Keyspace

namespace Step

def isIfNotExists : Step → Bool
  | ifNotExists => true
  | set _ => false

theorem onlyIfNotExists (step : Step) : step.isIfNotExists = true ↔ step = ifNotExists := by
  cases step <;> simp [isIfNotExists]

def entry? : Step → Option (String × OptionValue)
  | ifNotExists => none
  | set setting => some setting.entry

/-- Options, replications and durable writes are one list. -/
structure SameParts (first second : List Step) : Prop where
  ifNotExists : ifNotExists ∈ first ↔ ifNotExists ∈ second
  options : first.filterMap entry? = second.filterMap entry?

end Step

theorem afterStep (keyspace : Keyspace) (step : Step) :
    step.apply keyspace =
      { name := keyspace.name, ifNotExists := keyspace.ifNotExists || step.isIfNotExists,
        options := keyspace.options ++ step.entry?.toList } := by
  cases step <;> simp [Step.apply, Step.isIfNotExists, Step.entry?]

theorem afterSteps (keyspace : Keyspace) (steps : List Step) :
    steps.foldl Step.apply keyspace =
      { name := keyspace.name,
        ifNotExists := keyspace.ifNotExists || steps.any Step.isIfNotExists,
        options := keyspace.options ++ steps.filterMap Step.entry? } := by
  induction steps generalizing keyspace with
  | nil => simp
  | cons step rest ih =>
    rw [List.foldl_cons, ih, afterStep]
    simp [givenCons, Bool.or_assoc]

theorem declaredAlike {name : String} {first second : List Step} :
    ofSteps name first = ofSteps name second ↔ Step.SameParts first second := by
  have existence := takenAlike Step.isIfNotExists .ifNotExists Step.onlyIfNotExists first second
  rw [ofSteps, ofSteps, afterSteps, afterSteps]
  simp only [Bool.false_or, List.nil_append, mk.injEq, true_and, existence]
  constructor
  · intro parts
    exact ⟨parts.1, parts.2⟩
  · intro parts
    exact ⟨parts.ifNotExists, parts.options⟩

end Keyspace

namespace Index

namespace Step

def name? : Step → Option String
  | named name => some name
  | _ => none

def keyspace? : Step → Option String
  | inKeyspace keyspace => some keyspace
  | _ => none

def target? : Step → Option IndexTarget
  | onTarget target => some target
  | _ => none

def class? : Step → Option String
  | ofClass customClass => some customClass
  | _ => none

def isIfNotExists : Step → Bool
  | ifNotExists => true
  | _ => false

theorem onlyIfNotExists (step : Step) : step.isIfNotExists = true ↔ step = ifNotExists := by
  cases step <;> simp [isIfNotExists]

def entry? : Step → Option (String × OptionValue)
  | option name value => some (name, value)
  | _ => none

/-- An index that is given no target is of the column itself. -/
structure SameParts (first second : List Step) : Prop where
  keyspace : lastGiven keyspace? first = lastGiven keyspace? second
  name : lastGiven name? first = lastGiven name? second
  target : (lastGiven target? first).getD .column = (lastGiven target? second).getD .column
  customClass : lastGiven class? first = lastGiven class? second
  ifNotExists : ifNotExists ∈ first ↔ ifNotExists ∈ second
  options : first.filterMap entry? = second.filterMap entry?

end Step

theorem afterStep (index : Index) (step : Step) :
    step.apply index =
      { keyspace := step.keyspace?.or index.keyspace, name := step.name?.or index.name,
        table := index.table, column := index.column, target := step.target?.getD index.target,
        customClass := step.class?.or index.customClass,
        ifNotExists := index.ifNotExists || step.isIfNotExists,
        options := index.options ++ step.entry?.toList } := by
  cases step <;> simp [Step.apply, Step.keyspace?, Step.name?, Step.target?, Step.class?,
    Step.isIfNotExists, Step.entry?]

theorem afterSteps (index : Index) (steps : List Step) :
    steps.foldl Step.apply index =
      { keyspace := (lastGiven Step.keyspace? steps).or index.keyspace,
        name := (lastGiven Step.name? steps).or index.name,
        table := index.table, column := index.column,
        target := (lastGiven Step.target? steps).getD index.target,
        customClass := (lastGiven Step.class? steps).or index.customClass,
        ifNotExists := index.ifNotExists || steps.any Step.isIfNotExists,
        options := index.options ++ steps.filterMap Step.entry? } := by
  induction steps generalizing index with
  | nil => simp [lastGiven]
  | cons step rest ih =>
    rw [List.foldl_cons, ih, afterStep]
    simp [lastGivenCons, givenCons, Option.or_assoc, Bool.or_assoc, Option.getD_or]

theorem declaredAlike {table column : String} {first second : List Step} :
    ofSteps table column first = ofSteps table column second ↔ Step.SameParts first second := by
  have existence := takenAlike Step.isIfNotExists .ifNotExists Step.onlyIfNotExists first second
  rw [ofSteps, ofSteps, afterSteps, afterSteps]
  simp only [Option.or_none, Bool.false_or, List.nil_append, mk.injEq, true_and, existence]
  constructor
  · intro parts
    obtain ⟨keyspace, name, target, customClass, ifNotExists, options⟩ := parts
    exact ⟨keyspace, name, target, customClass, ifNotExists, options⟩
  · intro parts
    exact ⟨parts.keyspace, parts.name, parts.target, parts.customClass, parts.ifNotExists,
      parts.options⟩

end Index

/-- Two sequences of steps declare the same exactly if they have the same parts, in whatever order
steps of different kinds come. Then they are built or refused alike and have one statement. -/
theorem independentStepsCommute :
    (∀ (name : String) (first second : List Table.Step),
      (Table.ofSteps name first = Table.ofSteps name second ↔ Table.Step.SameParts first second) ∧
      (Table.Step.SameParts first second →
        Table.build name first = Table.build name second ∧
        Table.build name first >>= Table.statement =
          Table.build name second >>= Table.statement)) ∧
    (∀ (name : String) (first second : List TableAlteration.Step),
      (TableAlteration.ofSteps name first = TableAlteration.ofSteps name second ↔
        TableAlteration.Step.SameParts first second) ∧
      (TableAlteration.Step.SameParts first second →
        TableAlteration.build name first = TableAlteration.build name second ∧
        TableAlteration.build name first >>= TableAlteration.statement =
          TableAlteration.build name second >>= TableAlteration.statement)) ∧
    (∀ (name : String) (first second : List Keyspace.Step),
      (Keyspace.ofSteps name first = Keyspace.ofSteps name second ↔
        Keyspace.Step.SameParts first second) ∧
      (Keyspace.Step.SameParts first second →
        Keyspace.build name first = Keyspace.build name second ∧
        Keyspace.build name first >>= Keyspace.statement =
          Keyspace.build name second >>= Keyspace.statement)) ∧
    (∀ (name : String) (first second : List KeyspaceSetting),
      (KeyspaceAlteration.ofSettings name first = KeyspaceAlteration.ofSettings name second ↔
        first.map KeyspaceSetting.entry = second.map KeyspaceSetting.entry) ∧
      (first.map KeyspaceSetting.entry = second.map KeyspaceSetting.entry →
        KeyspaceAlteration.build name first = KeyspaceAlteration.build name second ∧
        KeyspaceAlteration.build name first >>= KeyspaceAlteration.statement =
          KeyspaceAlteration.build name second >>= KeyspaceAlteration.statement)) ∧
    ∀ (table column : String) (first second : List Index.Step),
      (Index.ofSteps table column first = Index.ofSteps table column second ↔
        Index.Step.SameParts first second) ∧
      (Index.Step.SameParts first second →
        (Index.ofSteps table column first).check = (Index.ofSteps table column second).check ∧
        (Index.ofSteps table column first).statement =
          (Index.ofSteps table column second).statement) := by
  refine ⟨?_, ?_, ?_, ?_, ?_⟩
  · intro name first second
    refine ⟨Table.declaredAlike, fun parts => ?_⟩
    have built : Table.build name first = Table.build name second := by
      rw [Table.build, Table.build, Table.declaredAlike.mpr parts]
    exact ⟨built, by rw [built]⟩
  · intro name first second
    refine ⟨TableAlteration.declaredAlike, fun parts => ?_⟩
    have built : TableAlteration.build name first = TableAlteration.build name second := by
      rw [TableAlteration.build, TableAlteration.build, TableAlteration.declaredAlike.mpr parts]
    exact ⟨built, by rw [built]⟩
  · intro name first second
    refine ⟨Keyspace.declaredAlike, fun parts => ?_⟩
    have built : Keyspace.build name first = Keyspace.build name second := by
      rw [Keyspace.build, Keyspace.build, Keyspace.declaredAlike.mpr parts]
    exact ⟨built, by rw [built]⟩
  · intro name first second
    refine ⟨by simp [KeyspaceAlteration.ofSettings], fun entries => ?_⟩
    have built : KeyspaceAlteration.build name first = KeyspaceAlteration.build name second := by
      rw [KeyspaceAlteration.build, KeyspaceAlteration.build, KeyspaceAlteration.ofSettings,
        KeyspaceAlteration.ofSettings, entries]
    exact ⟨built, by rw [built]⟩
  · intro table column first second
    refine ⟨Index.declaredAlike, fun parts => ?_⟩
    have declared : Index.ofSteps table column first = Index.ofSteps table column second :=
      Index.declaredAlike.mpr parts
    exact ⟨by rw [declared], by rw [declared]⟩

/-- The last keyspace, name and class count, and a target that an index has anyway need not be
given. -/
theorem mixedStepsCommute :
    let id : Column := { name := "id", type := .native .int, key := some .partition }
    let copies : KeyspaceSetting := .replication (.simple 1)
    Table.build "t" [.inKeyspace "a", .column id, .ifNotExists, .option "x" .flag,
          .inKeyspace "b"] =
        Table.build "t" [.ifNotExists, .option "x" .flag, .ifNotExists, .inKeyspace "b",
          .column id] ∧
      TableAlteration.build "t" [.change (.drop "a"), .option "x" .flag, .change (.drop "b")] =
        TableAlteration.build "t" [.option "x" .flag, .change (.drop "a"), .change (.drop "b")] ∧
      Keyspace.build "k" [.ifNotExists, .set (.durableWrites true), .set copies] =
        Keyspace.build "k" [.set (.durableWrites true), .set copies, .ifNotExists] ∧
      KeyspaceAlteration.build "k" [copies] =
        KeyspaceAlteration.build "k" [.option "replication" (Replication.simple 1).value] ∧
      (Index.ofSteps "t" "c"
          [.named "i", .ofClass "A", .onTarget .column, .ofClass "B"]).statement =
        (Index.ofSteps "t" "c" [.ofClass "B", .named "j", .named "i"]).statement := by
  intro id copies
  obtain ⟨tables, alterations, keyspaces, changes, indexes⟩ := independentStepsCommute
  refine ⟨((tables _ _ _).2 ⟨rfl, by simp, rfl, rfl⟩).1, ((alterations _ _ _).2 ⟨rfl, rfl, rfl⟩).1,
    ((keyspaces _ _ _).2 ⟨by simp, rfl⟩).1, ((changes _ _ _).2 rfl).1,
    ((indexes _ _ _ _).2 ⟨rfl, rfl, rfl, rfl, by simp, rfl⟩).2⟩

end CqlSchema
