import CqlSchema.Text.Quoted
import CqlSchema.Text.Sorted

/-! Names as they stand in a statement. A name that is a plain lowercase word and no reserved word
stands as it is; every other one stands between double quotes. -/
namespace CqlSchema

namespace Name

def reservedWords : List String :=
  ["add", "allow", "alter", "and", "apply", "asc", "authorize", "batch", "begin", "by",
   "columnfamily", "create", "delete", "desc", "describe", "drop", "entries", "execute",
   "from", "full", "grant", "if", "in", "index", "infinity", "insert", "into", "is",
   "keyspace", "limit", "materialized", "mbean", "mbeans", "modify", "nan", "norecursive",
   "not", "null", "of", "on", "or", "order", "primary", "rename", "replace", "revoke",
   "schema", "select", "set", "table", "to", "token", "truncate", "unlogged", "unset",
   "update", "use", "using", "view", "where", "with"]

/-- Whether the name spells a reserved word, in small or capital letters. The words are in order. -/
def isReserved (name : String) : Bool :=
  Text.search (reservedWords.map String.toList) (Text.foldCase name.toList)

def isPlainChar (c : Char) : Bool := c.isLower || c.isDigit || c == '_'

def isPlain : Text → Bool
  | [] => false
  | c :: rest => c.isLower && rest.all isPlainChar

def text (name : String) : Text :=
  if isPlain name.toList && !isReserved name then name.toList
  else Text.enclosed '"' name.toList

end Name

/-- A name in its keyspace, or in the keyspace in use where none is given. -/
structure QualifiedName where
  keyspace : Option String
  name : String
  deriving DecidableEq, Repr

def QualifiedName.text (name : QualifiedName) : Text :=
  match name.keyspace with
  | some keyspace => Name.text keyspace ++ '.' :: Name.text name.name
  | none => Name.text name.name

end CqlSchema
