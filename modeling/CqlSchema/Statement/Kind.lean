/-! The kinds of statement. -/
namespace CqlSchema

inductive StatementKind
  | createKeyspace
  | alterKeyspace
  | dropKeyspace
  | createTable
  | alterTable
  | dropTable
  | createIndex
  | dropIndex
  deriving DecidableEq, Repr

def StatementKind.words : StatementKind → String
  | createKeyspace => "CREATE KEYSPACE"
  | alterKeyspace => "ALTER KEYSPACE"
  | dropKeyspace => "DROP KEYSPACE"
  | createTable => "CREATE TABLE"
  | alterTable => "ALTER TABLE"
  | dropTable => "DROP TABLE"
  | createIndex => "CREATE INDEX"
  | dropIndex => "DROP INDEX"

end CqlSchema
