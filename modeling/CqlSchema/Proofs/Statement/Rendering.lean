import CqlSchema.Proofs.Checked
import CqlSchema.Statement.Basic

/-! One view of all statements: a body, the clauses before the options, and the options. A statement
has a text exactly if it passes its check, and the text is that of the view. For a table this says
that the key columns, which are put in order once more after the check, cannot fail there. -/
namespace CqlSchema

structure Rendering where
  body : Text
  leading : List Text := []
  options : Options := []

def Rendering.text (rendering : Rendering) : Text :=
  Options.terminated rendering.body rendering.leading rendering.options

namespace Table

/-- The columns of a role in the order of the key, whether their ordinals fit or not. -/
def keyOrder (table : Table) (role : KeyRole) : List Column := (table.sortedOrdinals role).map (·.2)

def rendering (table : Table) : Rendering where
  body := table.body (table.keyOrder .partition) (table.keyOrder .clustering)
  leading := clusteringOrder (table.keyOrder .clustering)
  options := table.options

theorem keyColumnsOk {table : Table} {role : KeyRole} {columns : List Column}
    (found : table.keyColumns role = .ok columns) : columns = table.keyOrder role := by
  simp only [keyColumns] at found
  split at found <;> cases found
  rfl

theorem checkOk {table : Table} : table.check = .ok () ↔
    requireName table.name .createTable = .ok () ∧
    requireQualifier table.keyspace .createTable = .ok () ∧
    table.columns ≠ [] ∧ checkColumns table.name [] table.columns = .ok () ∧
    table.keyColumns .partition = .ok (table.keyOrder .partition) ∧
    table.keyOrder .partition ≠ [] ∧
    table.keyColumns .clustering = .ok (table.keyOrder .clustering) ∧
    Options.check table.options = .ok () := by
  constructor
  · intro checked
    simp only [check, boundOk] at checked
    obtain ⟨_, named, _, qualified, rest⟩ := checked
    split at rest
    · obtain ⟨_, failed, -⟩ := boundOk.mp rest
      cases failed
    · rename_i filled
      obtain ⟨_, columns, rest⟩ := boundOk.mp rest
      obtain ⟨partition, first, rest⟩ := boundOk.mp rest
      split at rest
      · obtain ⟨_, failed, -⟩ := boundOk.mp rest
        cases failed
      · rename_i keyed
        obtain ⟨clustering, second, options⟩ := boundOk.mp rest
        cases keyColumnsOk first
        cases keyColumnsOk second
        exact ⟨named, qualified, by simpa using filled, columns, first, by simpa using keyed,
          second, options⟩
  · rintro ⟨named, qualified, filled, columns, partition, keyed, clustering, options⟩
    unfold check
    rw [named, qualified, columns, partition, clustering, options]
    simp [filled, keyed, bind, Except.bind]

theorem statementOfCheck (table : Table) :
    table.statement = table.check.map fun _ => table.rendering.text := by
  unfold statement
  cases checked : table.check with
  | error error => rfl
  | ok =>
    obtain ⟨-, -, -, -, partition, -, clustering, -⟩ := checkOk.mp checked
    simp only [partition, clustering]
    rfl

/-- The text before the columns. -/
def opening (table : Table) : Text :=
  "CREATE TABLE ".toList ++ (if table.ifNotExists then "IF NOT EXISTS ".toList else []) ++
    table.qualifiedName.text ++ " (".toList

/-- The text behind the primary key, which `clustering` is the second part of. -/
def closing (table : Table) (clustering : List Column) : Text :=
  ')' :: (Options.withClauses (clusteringOrder clustering) table.options ++ [';'])

/-- The columns with the primary key behind them. -/
def items (table : Table) (partition clustering : List Column) : List Text :=
  table.columns.map columnItem ++ [primaryKey partition clustering]

theorem statementWritten {table : Table} (checked : table.check = .ok ()) :
    table.statement = .ok (table.opening ++ Text.joined ", ".toList
      (table.items (table.keyOrder .partition) (table.keyOrder .clustering)) ++
        table.closing (table.keyOrder .clustering)) := by
  have parts : table.rendering.text = table.opening ++ Text.joined ", ".toList
      (table.items (table.keyOrder .partition) (table.keyOrder .clustering)) ++
        table.closing (table.keyOrder .clustering) := by
    unfold Rendering.text rendering Options.terminated body opening closing items
    simp only [List.append_assoc, List.cons_append, List.nil_append]
  rw [statementOfCheck, checked, ← parts]
  simp only [Except.map]

end Table

namespace Statement

def rendering : Statement → Rendering
  | createKeyspace keyspace => { body := keyspace.body, options := keyspace.options }
  | alterKeyspace alteration => { body := alteration.body, options := alteration.options }
  | createTable table => table.rendering
  | alterTable alteration => { body := alteration.body, options := alteration.options }
  | createIndex index => { body := index.body, options := index.writtenOptions }
  | drop removal => { body := removal.body }

theorem textOfCheck (statement : Statement) :
    statement.text = statement.check.map fun _ => statement.rendering.text := by
  cases statement with
  | createTable table => exact table.statementOfCheck
  | createKeyspace _ | alterKeyspace _ | alterTable _ | createIndex _ | drop _ =>
    exact checkedValue _ _

theorem textOk {statement : Statement} {text : Text} :
    statement.text = .ok text ↔ statement.check = .ok () ∧ statement.rendering.text = text := by
  rw [textOfCheck]
  cases statement.check <;> simp [Except.map]

/-- The options whose names are written as they are given. -/
def rawOptions : Statement → Options
  | createKeyspace keyspace => keyspace.options
  | alterKeyspace alteration => alteration.options
  | createTable table => table.options
  | alterTable alteration => alteration.options
  | createIndex _ | drop _ => []

end Statement
end CqlSchema
