import CqlSchema.Proofs.Statement.Lists

/-! The two clauses that tell the key of a table, read from its text. A reader that knows quotes,
brackets and what a name denotes gets from PRIMARY KEY the key columns in the order of their
ordinals, and from CLUSTERING ORDER BY, which stands first where a direction is declared, the
clustering columns in that same order. The name of an option stands as it is given, so that an option
may read as such a clause as well; one word and the flag of two words never do. -/
namespace CqlSchema

namespace Text

/-- The names in a primary key, and whether those of the partition stand in brackets. -/
structure KeyClause where
  grouped : Bool
  partition : List String
  clustering : List String
  deriving DecidableEq, Repr

/-- The items of a list that ends with its closing bracket. -/
def listed? (text : Text) : Option (List Text) :=
  match cut? .flat [')'] none 0 text with
  | some (inside, []) => some (pieces .flat ", ".toList inside)
  | _ => none

def partitionNames? : Text → Option (Bool × List String)
  | [] => none
  | c :: rest =>
    if c = '(' then
      (listed? rest).bind fun items => (items.mapM Name.denoted?).map fun names => (true, names)
    else (Name.denoted? (c :: rest)).map fun name => (false, [name])

def keyNames? (inside : Text) : Option KeyClause :=
  match pieces .round ", ".toList inside with
  | [] => none
  | first :: others =>
    match partitionNames? first, others.mapM Name.denoted? with
    | some (grouped, partition), some clustering => some ⟨grouped, partition, clustering⟩
    | _, _ => none

/-- The first primary key outside quotes, and the text behind it. -/
def keyClause? (text : Text) : Option (KeyClause × Text) :=
  match cut? .flat "PRIMARY KEY (".toList none 0 text with
  | none => none
  | some (_, behind) =>
    match cut? .round [')'] none 0 behind with
    | none => none
    | some (inside, rest) => (keyNames? inside).map fun key => (key, rest)

def direction? (word : Text) : Option Direction :=
  if word = "ASC".toList then some .asc
  else if word = "DESC".toList then some .desc
  else none

def orderItem? (item : Text) : Option (String × Direction) :=
  match cut? .flat [' '] none 0 item with
  | none => none
  | some (name, word) =>
    match Name.denoted? name, direction? word with
    | some name, some direction => some (name, direction)
    | _, _ => none

def orderWords : Text := "CLUSTERING ORDER BY (".toList

def orderClause? (clause : Text) : Option (List (String × Direction)) :=
  if orderWords.isPrefixOf clause then
    (listed? (clause.drop orderWords.length)).bind fun items => items.mapM orderItem?
  else none

theorem listedItems {parts : List Text} (given : parts ≠ [])
    (each : ∀ part ∈ parts, Kept isOrdinary part) :
    listed? (joined ", ".toList parts ++ [')']) = some parts := by
  have wider : ∀ c, isOrdinary c = true → Table.isListChar c = true := by
    intro c plain
    simp [Table.isListChar, plain]
  have kept : Kept Table.isListChar (joined ", ".toList parts) :=
    keptJoined (keptWords rfl) fun part inside => keptMono wider (each part inside)
  have passes : Passes .flat [')'] 0 (fun _ => True) (joined ", ".toList parts) :=
    passesFirst kept rfl rfl fun _ => rfl
  have cut : cut? .flat [')'] none 0 (joined ", ".toList parts ++ [')']) =
      some (joined ", ".toList parts, []) := cutBehind (by simp) passes trivial
  have items : pieces .flat ", ".toList (joined ", ".toList parts) = parts :=
    piecesFree given (by simp) fun part inside =>
      freely (passesFirst (each part inside) rfl rfl fun _ => rfl)
  rw [listed?, cut]
  simp only [items]

theorem readEach {α β : Type} {read : Text → Option β} {written : α → Text} {meaning : α → β}
    (each : ∀ part, read (written part) = some (meaning part)) (parts : List α) :
    (parts.map written).mapM read = some (parts.map meaning) := by
  induction parts with
  | nil => rfl
  | cons part rest ih => simp [each, ih]

theorem joinedConcat (separator last : Text) (parts : List Text) :
    joined separator (parts ++ [last]) = parts.flatMap (· ++ separator) ++ last := by
  induction parts with
  | nil => simp
  | cons part rest ih =>
    obtain ⟨second, more, shape⟩ : ∃ second more, rest ++ [last] = second :: more := by
      cases rest <;> simp
    rw [List.cons_append, shape, joinedConsCons, ← shape, ih]
    simp

theorem namesRead (columns : List Column) :
    (Table.columnNames columns).mapM Name.denoted? = some (columns.map (·.name)) :=
  readEach (fun column : Column => Name.denotedText column.name) columns

theorem namesEnclosed {columns : List Column} (given : columns ≠ []) :
    partitionNames? ('(' :: (joined ", ".toList (Table.columnNames columns) ++ [')'])) =
      some (true, columns.map (·.name)) := by
  have items : listed? (joined ", ".toList (Table.columnNames columns) ++ [')']) =
      some (Table.columnNames columns) := by
    refine listedItems (by simpa [Table.columnNames] using given) fun part inside => ?_
    obtain ⟨column, -, rfl⟩ := List.mem_map.mp inside
    exact Name.ordinaryText column.name
  rw [partitionNames?, if_pos rfl, items, Option.bind_some, namesRead]
  rfl

theorem partitionRead {partition : List Column} (given : partition ≠ []) :
    partitionNames? (Table.partitionItem partition) =
      some (decide (1 < partition.length), partition.map (·.name)) := by
  match partition with
  | [column] =>
    have denoted := Name.denotedText column.name
    obtain ⟨c, rest, shape, opens⟩ := Name.textOpens column.name
    rw [shape] at denoted
    have unbracketed : c ≠ '(' := classApart opens rfl
    rw [Table.partitionSingle, shape, partitionNames?, if_neg unbracketed, denoted]
    rfl
  | first :: second :: rest =>
    rw [Table.partitionSeveral, namesEnclosed (by simp)]
    simp

theorem keyNamesRead {partition : List Column} (given : partition ≠ [])
    (clustering : List Column) :
    keyNames? (joined ", ".toList (Table.partitionItem partition :: Table.columnNames clustering)) =
      some ⟨decide (1 < partition.length), partition.map (·.name), clustering.map (·.name)⟩ := by
  have items : pieces .round ", ".toList
      (joined ", ".toList (Table.partitionItem partition :: Table.columnNames clustering)) =
        Table.partitionItem partition :: Table.columnNames clustering := by
    refine piecesFree (by simp) (by simp) fun part inside => ?_
    rcases List.mem_cons.mp inside with rfl | name
    · exact Table.freePartition Brackets.roundRounds rfl rfl (by decide) partition
    · exact Table.freeColumnNames Brackets.roundRounds rfl rfl clustering part name
  rw [keyNames?, items]
  simp only [partitionRead given, namesRead]

theorem keyClauseFound {before list : Text} (unkeyed : Kept (fun c => c != 'P') before)
    (free : Free .round [')'] 0 list) (behind : Text) :
    keyClause? (before ++ ("PRIMARY KEY (".toList ++ list ++ [')']) ++ behind) =
      (keyNames? list).map fun key => (key, behind) := by
  have passes : Passes .flat "PRIMARY KEY (".toList 0 (fun _ => True) before :=
    passesFirst unkeyed rfl rfl fun _ => rfl
  have found : cut? .flat "PRIMARY KEY (".toList none 0
      (before ++ ("PRIMARY KEY (".toList ++ (list ++ ([')'] ++ behind)))) =
        some (before, list ++ ([')'] ++ behind)) := cutBehind (by simp) passes trivial
  have inside : cut? .round [')'] none 0 (list ++ ([')'] ++ behind)) = some (list, behind) :=
    cutBehind (by simp) free.passes trivial
  simp only [List.append_assoc]
  rw [keyClause?, found]
  simp only [inside]

theorem keyClauseRead {before : Text} {partition : List Column}
    (unkeyed : Kept (fun c => c != 'P') before) (given : partition ≠ [])
    (clustering : List Column) (behind : Text) :
    keyClause? (before ++ Table.primaryKey partition clustering ++ behind) =
      some (⟨decide (1 < partition.length), partition.map (·.name), clustering.map (·.name)⟩,
        behind) := by
  have free : Free .round [')'] 0
      (joined ", ".toList (Table.partitionItem partition :: Table.columnNames clustering)) :=
    Table.freeKeyList Brackets.roundRounds rfl rfl (by decide) (fun _ => rfl) partition clustering
  refine (keyClauseFound unkeyed free behind).trans ?_
  rw [keyNamesRead given]
  rfl

theorem orderItemRead (column : Column) :
    orderItem? (Table.orderItem column) = some (column.name, column.ordering.getD .asc) := by
  have passes : Passes .flat [' '] 0 (fun _ => True) (Name.text column.name) :=
    passesFirst (Name.keptText column.name) rfl rfl fun _ => rfl
  have cut : cut? .flat [' '] none 0
      (Name.text column.name ++ ([' '] ++ (column.ordering.getD .asc).keyword.toList)) =
        some (Name.text column.name, (column.ordering.getD .asc).keyword.toList) :=
    cutBehind (by simp) passes trivial
  have direction : ∀ direction : Direction,
      direction? direction.keyword.toList = some direction := by
    intro direction
    cases direction <;> rfl
  have written : Table.orderItem column =
      Name.text column.name ++ ([' '] ++ (column.ordering.getD .asc).keyword.toList) := rfl
  rw [written, orderItem?, cut]
  simp only [Name.denotedText, direction]

theorem orderWordsSplit (list : Text) :
    "CLUSTERING".toList ++ (" ORDER BY (".toList ++ list) = orderWords ++ list := by
  have words : orderWords = "CLUSTERING".toList ++ " ORDER BY (".toList := rfl
  rw [words]
  exact (List.append_assoc _ _ _).symm

theorem orderClauseRead {clustering : List Column} (given : clustering ≠ []) :
    orderClause? (Clause.order clustering).text =
      some (clustering.map fun column => (column.name, column.ordering.getD .asc)) := by
  have items : listed? (joined ", ".toList (clustering.map Table.orderItem) ++ [')']) =
      some (clustering.map Table.orderItem) := by
    refine listedItems (by simpa using given) fun part inside => ?_
    obtain ⟨column, -, rfl⟩ := List.mem_map.mp inside
    exact Table.keptOrderItem column
  refine (congrArg orderClause? (orderWordsSplit _)).trans ?_
  rw [orderClause?, if_pos (List.isPrefixOf_iff_prefix.mpr ⟨_, rfl⟩), List.drop_left, items]
  exact readEach orderItemRead clustering

end Text

theorem Clause.orderStarts (clustering : List Column) :
    Text.orderWords <+: (order clustering).text :=
  ⟨_, (Text.orderWordsSplit _).symm⟩

theorem Clause.optionUnordered {name : String} {value : OptionValue}
    (plain : Options.PlainEntry (name, value)) : ¬Text.orderWords <+: (option name value).text := by
  have stands : (option name value).Plain := plain
  obtain ⟨word, rest, split, letters⟩ := plainSplit stands
  rw [splitText split]
  intro front
  obtain ⟨more, whole⟩ := front
  have stop : Text.Avoids DataType.isWordChar rest := by
    cases split with
    | flag => exact Text.avoidsNil _
    | storage | value => exact Text.avoidsFirst rfl rfl
  rw [← Text.orderWordsSplit] at whole
  have letter : "CLUSTERING".toList.all DataType.isWordChar = true := by decide
  obtain ⟨-, rests⟩ := Text.settledRun (List.all_eq_true.mp letter) letters _ _
    (Text.avoidsFirst rfl rfl) stop whole
  cases split with
  | flag => cases congrArg List.head? rests
  | storage => exact Text.differApart rfl more [] (rests.trans (List.append_nil _).symm)
  | value => exact Text.differApart rfl more _ rests

theorem Options.unordered {options : Options} (plain : ∀ entry ∈ options, PlainEntry entry) :
    ∀ written ∈ (Clause.ofOptions options).map Clause.text, ¬Text.orderWords <+: written := by
  intro written inside
  obtain ⟨clause, member, rfl⟩ := List.mem_map.mp inside
  obtain ⟨entry, listed, rfl⟩ := List.mem_map.mp member
  exact Clause.optionUnordered (plain entry listed)

namespace Table

/-- The columns of a role, each once and each where its effective ordinal says. -/
def InKeyOrder (table : Table) (role : KeyRole) (columns : List Column) : Prop :=
  columns.Perm (table.columnsOf role) ∧
    ∀ (place : Nat) (column : Column), columns[place]? = some column ↔
      ∃ index : Nat, (table.columnsOf role)[index]? = some column ∧
        (table.effectiveOrdinals role)[index]? = some (place + 1)

theorem inKeyOrder {table : Table} (checked : table.check = .ok ()) (role : KeyRole) :
    table.InKeyOrder role (table.keyOrder role) := by
  refine ⟨table.keyOrderPerm role, fun place column => ?_⟩
  rw [keyOrderAt ((checkOkIff.mp checked).counted role), ordinalsAt]

theorem keyOrderWhole (table : Table) :
    (table.keyOrder .partition ++ table.keyOrder .clustering).Perm
      (table.columns.filter (·.key.isSome)) := by
  have halves := List.filter_append_perm (fun column : Column => column.key == some .partition)
    (table.columns.filter (·.key.isSome))
  have first (column : Column) : (column.key == some .partition && column.key.isSome) =
      (column.key == some .partition) := by
    rcases column.key with _ | _ | _ <;> rfl
  have second (column : Column) : (!(column.key == some .partition) && column.key.isSome) =
      (column.key == some .clustering) := by
    rcases column.key with _ | _ | _ <;> rfl
  simp only [List.filter_filter, first, second] at halves
  exact ((table.keyOrderPerm .partition).append (table.keyOrderPerm .clustering)).trans halves

theorem textWhole {table : Table} (checked : table.check = .ok ()) :
    table.rendering.text = table.opening ++
      (table.columns.map columnItem).flatMap (· ++ ", ".toList) ++
        primaryKey (table.keyOrder .partition) (table.keyOrder .clustering) ++
          table.closing (table.keyOrder .clustering) := by
  have written : (Statement.createTable table).text = .ok table.rendering.text :=
    Statement.textOk.mpr ⟨checked, rfl⟩
  have whole := Except.ok.inj (written.symm.trans (statementWritten checked))
  rw [whole, items, Text.joinedConcat]
  simp only [List.append_assoc]

theorem keyClauseOfText {table : Table} (checked : table.check = .ok ()) :
    Text.keyClause? table.rendering.text =
      some (⟨decide (1 < (table.keyOrder .partition).length),
        (table.keyOrder .partition).map (·.name), (table.keyOrder .clustering).map (·.name)⟩,
        table.closing (table.keyOrder .clustering)) := by
  obtain ⟨-, -, -, -, -, given, -, -⟩ := checkOk.mp checked
  rw [textWhole checked]
  refine Text.keyClauseRead (Text.keptAppend ?_ ?_) given _ _
  · exact Text.keptAppend (Text.keptAppend (Text.keptAppend (Text.keptWords rfl)
      (Text.keptOptional (Text.keptWords rfl))) (Text.keptExcept rfl table.qualifiedName.keptText))
      (Text.keptWords rfl)
  · refine Text.keptFlatMap fun part inside => ?_
    obtain ⟨column, -, rfl⟩ := List.mem_map.mp inside
    exact Text.keptAppend (Text.keptExcept rfl (keptColumnItem column)) (Text.keptWords rfl)

/-- The clause for the order of clustering, where a direction is declared. -/
def order? (clustering : List Column) : Option Clause :=
  if clustering.all (·.ordering.isNone) then none else some (.order clustering)

theorem orderWritten (clustering : List Column) :
    Clause.ordering clustering = (order? clustering).toList := by
  unfold Clause.ordering order?
  split <;> rfl

theorem orderNone {clustering : List Column} :
    order? clustering = none ↔ ∀ column ∈ clustering, column.ordering = none := by
  simp [order?]

theorem orderSome {clustering : List Column} {clause : Clause}
    (given : order? clustering = some clause) :
    clause = .order clustering ∧ clustering ≠ [] := by
  unfold order? at given
  split at given
  · cases given
  · rename_i declared
    cases given
    refine ⟨rfl, fun empty => declared ?_⟩
    rw [empty]
    rfl

theorem closingWritten (table : Table) (clustering : List Column) :
    table.closing clustering = ')' :: (Options.withClauses
      ((order? clustering).map Clause.text).toList table.options ++ [';']) := by
  rw [closing, Clause.orderingWritten, orderWritten, Option.toList_map]

theorem clausesOfText (table : Table) : Text.clauses table.rendering.text =
    ((order? (table.keyOrder .clustering)).map Clause.text).toList ++
      Text.recut .flat " AND ".toList ((Clause.ofOptions table.options).map Clause.text) := by
  have written : table.rendering.text = table.rendering.body ++ Clause.tail
      ((order? (table.keyOrder .clustering)).toList ++ Clause.ofOptions table.options) := by
    rw [← orderWritten]
    exact (Statement.createTable table).textClauses
  have withless : Text.Withless table.rendering.body := (Statement.createTable table).withlessBody
  rw [written, Clause.clausesTail withless, List.map_append]
  -- Behind the clause for the order the cut goes on as if the options stood alone.
  cases given : order? (table.keyOrder .clustering) with
  | none => rfl
  | some clause =>
    obtain ⟨rfl, -⟩ := orderSome given
    have plain : (Clause.order (table.keyOrder .clustering)).Plain := trivial
    exact Clause.recutFirst plain _

theorem orderStarts {clustering : List Column} {clause : Text}
    (given : (order? clustering).map Clause.text = some clause) : Text.orderWords <+: clause := by
  obtain ⟨clause, same, rfl⟩ := Option.map_eq_some_iff.mp given
  obtain ⟨rfl, -⟩ := orderSome same
  exact Clause.orderStarts clustering

theorem orderPresent {clustering : List Column} {others : List Text} :
    (∃ clause ∈ ((order? clustering).map Clause.text).toList ++ others,
      Text.orderWords <+: clause) ↔
      (∃ column ∈ clustering, column.ordering ≠ none) ∨
        ∃ clause ∈ others, Text.orderWords <+: clause := by
  have declared : (∃ column ∈ clustering, column.ordering ≠ none) ↔
      (order? clustering).map Clause.text ≠ none := by
    rw [ne_eq, Option.map_eq_none_iff, orderNone]
    simp
  rw [declared]
  simp only [List.mem_append, Option.mem_toList, or_and_right, exists_or]
  refine or_congr_left ⟨fun ⟨clause, given, _⟩ missing => ?_, fun given => ?_⟩
  · rw [missing] at given
    cases given
  · obtain ⟨clause, same⟩ := Option.ne_none_iff_exists'.mp given
    exact ⟨clause, same, orderStarts same⟩

theorem keyClausesAgree {table : Table} (checked : table.check = .ok ()) :
    ∃ (text : Text) (partition clustering : List Column) (order : Option Text) (written : List Text),
      table.statement = .ok text ∧
      table.InKeyOrder .partition partition ∧ table.InKeyOrder .clustering clustering ∧
      (partition ++ clustering).Perm (table.columns.filter (·.key.isSome)) ∧
      ((partition ++ clustering).map (·.name)).Nodup ∧
      Text.keyClause? text =
        some (⟨decide (1 < partition.length), partition.map (·.name), clustering.map (·.name)⟩,
          ')' :: (Options.withClauses order.toList table.options ++ [';'])) ∧
      List.Forall₂ Options.EntryWritten table.options written ∧
      Text.clauses text = order.toList ++ Text.recut .flat " AND ".toList written ∧
      (order = none ↔ ∀ column ∈ clustering, column.ordering = none) ∧
      (∀ clause ∈ order, Text.orderClause? clause =
        some (clustering.map fun column => (column.name, column.ordering.getD .asc))) ∧
      ((∃ clause ∈ Text.clauses text, Text.orderWords <+: clause) ↔
        (∃ column ∈ clustering, column.ordering ≠ none) ∨
          ∃ clause ∈ Text.recut .flat " AND ".toList written, Text.orderWords <+: clause) ∧
      ((∀ entry ∈ table.options, Options.PlainEntry entry) →
        Text.recut .flat " AND ".toList written = written ∧
          ∀ clause ∈ written, ¬Text.orderWords <+: clause) := by
  have written : table.statement = .ok table.rendering.text :=
    Statement.textOk.mpr ⟨show (Statement.createTable table).check = .ok () from checked, rfl⟩
  have whole := table.keyOrderWhole
  refine ⟨_, _, _, (order? (table.keyOrder .clustering)).map Clause.text, _, written,
    inKeyOrder checked .partition, inKeyOrder checked .clustering, whole, ?_, ?_,
    Options.clausesWritten.mpr rfl, table.clausesOfText, ?_, ?_, ?_, fun plain => ?_⟩
  · refine (whole.map _).nodup_iff.mpr ?_
    exact (List.filter_sublist.map _).nodup (checkOkIff.mp checked).distinct
  · rw [keyClauseOfText checked, closingWritten]
  · rw [Option.map_eq_none_iff, orderNone]
  · intro clause given
    obtain ⟨clause, same, rfl⟩ := Option.map_eq_some_iff.mp given
    obtain ⟨rfl, filled⟩ := orderSome same
    exact Text.orderClauseRead filled
  · rw [clausesOfText]
    exact orderPresent
  · exact ⟨Clause.recutPlain (Clause.optionsPlain plain), Options.unordered plain⟩

theorem scatteredKeyRead :
    let key (name : String) (role : KeyRole) (ordinal : Option UInt32) : Column :=
      { name, type := .native .int, key := some role, ordinal }
    let first := key "a, (" .partition (some 2)
    let second := key ")" .partition (some 1)
    let third := key "c" .clustering none
    let fourth : Column := { key "D" .clustering none with ordering := some .desc }
    let table : Table :=
      { name := "t", columns := [third, first, fourth, second], options := [("AND", .flag)] }
    table.check = .ok () ∧ (∀ entry ∈ table.options, Options.PlainEntry entry) ∧
      ∃ (text : Text) (partition clustering : List Column) (rest : Text),
        table.statement = .ok text ∧
        partition[0]? = some second ∧ partition[1]? = some first ∧
        clustering[0]? = some third ∧ clustering[1]? = some fourth ∧
        Text.keyClause? text =
          some (⟨true, partition.map (·.name), clustering.map (·.name)⟩, rest) ∧
        ∃ clause, Text.clauses text = [clause, "AND".toList] ∧ Text.orderClause? clause =
          some (clustering.map fun column => (column.name, column.ordering.getD .asc)) := by
  intro key first second third fourth table
  have checked : table.check = .ok () := by cbv
  have plain : ∀ entry ∈ table.options, Options.PlainEntry entry := by
    intro entry inside
    cases List.mem_singleton.mp inside
    exact .inl (List.all_eq_true.mp (by decide))
  obtain ⟨text, partition, clustering, order, options, written, ⟨listed, placed⟩, ⟨_, standing⟩, -,
    -, read, each, clauses, absent, present, -, unordered⟩ := keyClausesAgree checked
  have fourthAt : clustering[1]? = some fourth := (standing 1 fourth).mpr ⟨1, rfl, rfl⟩
  have several : decide (1 < partition.length) = true := by
    rw [listed.length_eq]
    decide
  rw [several] at read
  obtain ⟨clause, given⟩ := Option.ne_none_iff_exists'.mp fun missing : order = none => by
    have undeclared := absent.mp missing fourth (List.mem_of_getElem? fourthAt)
    simp [fourth] at undeclared
  have found : Text.clauses text = [clause, "AND".toList] := by
    rw [clauses, given, (unordered plain).1, Options.clausesWritten.mp each]
    rfl
  exact ⟨checked, plain, text, partition, clustering, _, written,
    (placed 0 second).mpr ⟨1, rfl, rfl⟩, (placed 1 first).mpr ⟨0, rfl, rfl⟩,
    (standing 0 third).mpr ⟨0, rfl, rfl⟩, fourthAt, read, clause, found, present clause given⟩

/-- No column has a direction, and a flag reads as the clause for one. -/
theorem flagReadAsOrder :
    let key : Column := { name := "p", type := .native .int, key := some .partition }
    let sorted : Column := { name := "c", type := .native .int, key := some .clustering }
    let flag := "CLUSTERING ORDER BY (c DESC)"
    let table : Table := { name := "t", columns := [key, sorted], options := [(flag, .flag)] }
    table.check = .ok () ∧ (∀ column ∈ table.columns, column.ordering = none) ∧
      ∃ text, table.statement = .ok text ∧ Text.clauses text = [flag.toList] ∧
        Text.orderWords <+: flag.toList := by
  intro key sorted flag table
  have partition : table.keyColumns .partition = .ok [key] := by cbv
  have clustering : table.keyColumns .clustering = .ok [sorted] := by cbv
  have keyed : table.keyOrder .partition = [key] := (keyColumnsOk partition).symm
  have ordered : table.keyOrder .clustering = [sorted] := (keyColumnsOk clustering).symm
  have checked : table.check = .ok () := by
    rw [checkOk, keyed, ordered]
    exact ⟨rfl, rfl, by simp [table], rfl, partition, by simp, clustering, rfl⟩
  have written : table.statement = .ok table.rendering.text :=
    Statement.textOk.mpr ⟨show (Statement.createTable table).check = .ok () from checked, rfl⟩
  have quiet : Text.Quiet "CLUSTERING ORDER BY (c DESC)".toList := Text.quietWords _ rfl
  have read : Text.recut .flat " AND ".toList [flag.toList] = [flag.toList] :=
    Text.recutSame (by simp) (List.forall_mem_singleton.mpr quiet.passes) (Text.avoidsNil _)
      Clause.betweenClauses
  have starts : Text.orderWords <+: "CLUSTERING ORDER BY (c DESC)".toList := ⟨"c DESC)".toList, rfl⟩
  refine ⟨checked, by simp [table, key, sorted], _, written, ?_, starts⟩
  rw [clausesOfText, ordered]
  exact read

end Table
end CqlSchema
