import CqlSchema.Proofs.Statement.Rendering

/-! What statements leave in a buffer. A statement that is refused leaves nothing, any other one its
text, whatever stands there before; so the buffer holds the lines of those that were not refused. -/
namespace CqlSchema

namespace Writing

theorem runBind {α β : Type} (written : Text) (first : Writing α) (next : α → Writing β) :
    (first >>= next).runOn written =
      match first.runOn written with
      | (.ok value, after) => (next value).runOn after
      | (.error error, after) => (.error error, after) := by
  cases outcome : first.runOn written with
  | mk result after =>
    simp only [runOn, ExceptT.run_bind, StateT.run_bind] at outcome ⊢
    rw [outcome]
    cases result <;> rfl

theorem runPush (written piece : Text) : (push piece).runOn written = (.ok (), written ++ piece) :=
  rfl

theorem runRequire {α : Type} (written : Text) (outcome : Except DefinitionError α) :
    (require outcome).runOn written = (outcome, written) := rfl

theorem runPushStatement (written body : Text) (leading : List Text) (options : Options) :
    (pushStatement body leading options).runOn written =
      (.ok (), written ++ Options.terminated body leading options) := by
  simp [pushStatement, runBind, runPush, Options.terminated]

theorem runChecked (written body : Text) (leading : List Text) (options : Options)
    (check : Except DefinitionError Unit) :
    (do require check; pushStatement body leading options : Writing Unit).runOn written =
      (check, written ++ match check with
        | .ok () => Options.terminated body leading options
        | .error _ => []) := by
  rw [runBind, runRequire]
  cases check with
  | ok => exact runPushStatement written body leading options
  | error error => simp

end Writing

namespace Statement

open Writing

/-- What the statement adds to a buffer. -/
def added (statement : Statement) : Text :=
  match statement.check with
  | .ok () => statement.rendering.text
  | .error _ => []

def line (statement : Statement) : Text :=
  match statement.text with
  | .ok text => text ++ ['\n']
  | .error _ => []

theorem tableAdded (written : Text) (table : Table) :
    table.write.runOn written = (table.check, written ++ (createTable table).added) := by
  unfold Table.write
  rw [runBind, runRequire, added, check]
  cases checked : table.check with
  | error error => simp
  | ok =>
    obtain ⟨-, -, -, -, partition, -, clustering, -⟩ := Table.checkOk.mp checked
    simp only [runBind, runRequire, partition, clustering, runPushStatement]
    rfl

theorem appended (written : Text) (statement : Statement) :
    statement.appendTo written = (statement.check, written ++ statement.added) := by
  cases statement with
  | createTable table => exact tableAdded written table
  | createKeyspace _ | alterKeyspace _ | alterTable _ | createIndex _ | drop _ =>
    exact runChecked written _ _ _ _

theorem lineAppended (written : Text) (statement : Statement) :
    statement.appendLine written = (statement.check, written ++ statement.line) := by
  have outcome := appended written statement
  rw [appendTo] at outcome
  rw [appendLine, writeLine, runBind, outcome, line, added, textOfCheck]
  cases statement.check with
  | ok => simp [runPush, Except.map]
  | error error => simp [Except.map]

theorem linesAppended (written : Text) (statement : Statement) (rest : List Statement) :
    appendLines written (statement :: rest) =
      (statement.check, written ++ statement.line) ::
        appendLines (written ++ statement.line) rest := by
  rw [appendLines, lineAppended]

def finalBuffer (written : Text) (statements : List Statement) : Text :=
  ((appendLines written statements).getLast?.map (·.2)).getD written

theorem outcomesOfLines (written : Text) (statements : List Statement) :
    (appendLines written statements).map (·.1) = statements.map check := by
  induction statements generalizing written with
  | nil => rfl
  | cons statement rest ih => rw [linesAppended, List.map_cons, List.map_cons, ih]

theorem bufferOfLines (written : Text) (statements : List Statement) :
    finalBuffer written statements = written ++ statements.flatMap line := by
  induction statements generalizing written with
  | nil => simp [finalBuffer, appendLines]
  | cons statement rest ih =>
    have step : finalBuffer written (statement :: rest) =
        finalBuffer (written ++ statement.line) rest := by
      rw [finalBuffer, finalBuffer, linesAppended, List.getLast?_cons]
      cases (appendLines (written ++ statement.line) rest).getLast? <;> rfl
    rw [step, ih, List.flatMap_cons, List.append_assoc]

theorem buildFails {α : Type} (declared : α) (statement : Statement) (error : DefinitionError) :
    (do statement.check; return declared) = .error error ↔ statement.text = .error error := by
  rw [checkedValue, textOfCheck]
  cases statement.check <;> simp [Except.map]

theorem writesWholeOrNothing :
    (∀ (statement : Statement) (written : Text) (error : DefinitionError),
      statement.check = .error error →
      statement.appendTo written = (.error error, written) ∧ statement.text = .error error) ∧
    (∀ statement : Statement, statement.check = .ok () →
      ∃ text, statement.text = .ok text ∧
        ∀ written, statement.appendTo written = (.ok (), written ++ text)) ∧
    (∀ name steps error, Table.build name steps = .error error ↔
      (createTable (Table.ofSteps name steps)).text = .error error) ∧
    (∀ name steps error, TableAlteration.build name steps = .error error ↔
      (alterTable (TableAlteration.ofSteps name steps)).text = .error error) ∧
    (∀ name steps error, Keyspace.build name steps = .error error ↔
      (createKeyspace (Keyspace.ofSteps name steps)).text = .error error) ∧
    (∀ name settings error, KeyspaceAlteration.build name settings = .error error ↔
      (alterKeyspace (KeyspaceAlteration.ofSettings name settings)).text = .error error) ∧
    ∀ (written : Text) (statements : List Statement),
      (appendLines written statements).map (·.1) = statements.map check ∧
        finalBuffer written statements = written ++ statements.flatMap line := by
  refine ⟨fun statement written error refused => ?_, fun statement checked => ?_,
    fun name steps => buildFails _ (createTable (Table.ofSteps name steps)),
    fun name steps => buildFails _ (alterTable (TableAlteration.ofSteps name steps)),
    fun name steps => buildFails _ (createKeyspace (Keyspace.ofSteps name steps)),
    fun name settings => buildFails _ (alterKeyspace (KeyspaceAlteration.ofSettings name settings)),
    fun written statements =>
      ⟨outcomesOfLines written statements, bufferOfLines written statements⟩⟩
  · rw [appended, added, textOfCheck, refused]
    simp [Except.map]
  · refine ⟨statement.rendering.text, textOk.mpr ⟨checked, rfl⟩, fun written => ?_⟩
    rw [appended, added, checked]

theorem refusedTableLeavesNoTrace :
    let old : Statement := drop { object := .table ⟨some "ks", "T"⟩, ifExists := true }
    let table : Statement := createTable { name := "t" }
    let text := "DROP TABLE IF EXISTS ks.\"T\";".toList
    table.check = .error (.noColumns "t") ∧
      table.appendTo "-- ".toList = (.error (.noColumns "t"), "-- ".toList) ∧
      old.check = .ok () ∧ old.text = .ok text ∧
      old.appendTo "-- ".toList = (.ok (), "-- ".toList ++ text) ∧
      (Table.build "t" [] = .error (.noColumns "t") ↔ table.text = .error (.noColumns "t")) ∧
      finalBuffer "-- ".toList [table, old, table, old] =
        "-- ".toList ++ [table, old, table, old].flatMap line := by
  intro old table text
  have refused : table.check = .error (.noColumns "t") := by rfl
  have checked : old.check = .ok () := by rfl
  obtain ⟨unwritten, whole, builds, -, -, -, buffers⟩ := writesWholeOrNothing
  obtain ⟨written, given, appends⟩ := whole old checked
  cases given
  exact ⟨refused, (unwritten table _ _ refused).1, checked, rfl, appends _, builds "t" [] _,
    (buffers _ _).2⟩

end Statement
end CqlSchema
