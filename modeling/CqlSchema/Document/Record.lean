import CqlSchema.Document.Source

/-! Records read from a document: each known field at most once, each required one at least once,
and every other name passed over. -/
namespace CqlSchema.Document

variable {m : Type → Type} [Monad m] {ν σ : Type} [Source m ν]

/-- A field of a record `σ`. Its value is read at the second node and put into the record, which
stands at the first. -/
structure Field (m : Type → Type) (ν σ : Type) where
  name : String
  required : Bool := false
  read : ν → ν → σ → m σ

def duplicateField (name : String) : String := "duplicate field `" ++ name ++ "`"

def missingField (name : String) : String := "missing field `" ++ name ++ "`"

def tooShort (record : String) (fields found : Nat) : String :=
  s!"invalid length {found}, expected {record} with {fields} elements"

def readNamed (fields : List (Field m ν σ)) (node : ν) (seen : List String) (value : σ) :
    List (ν × ν) → m σ
  | [] =>
    match fields.find? fun field => field.required && !seen.contains field.name with
    | some field => Source.fail node (missingField field.name)
    | none => pure value
  | (nameNode, valueNode) :: rest => do
    let name ← Source.text "field identifier" nameNode
    match fields.find? (·.name == name) with
    | none => readNamed fields node seen value rest
    | some field =>
      if seen.contains name then Source.fail node (duplicateField name)
      else
        let value ← field.read node valueNode value
        readNamed fields node (name :: seen) value rest

/-- The fields from some place on, from the items from the same place on. -/
def readPlaced (tooShort : String) (node : ν) (value : σ) :
    List (Field m ν σ) → List ν → m σ
  | [], [] => pure value
  | [], _ :: _ => Source.fail node "trailing characters"
  | field :: fields, [] =>
    if field.required then Source.fail node tooShort
    else readPlaced tooShort node value fields []
  | field :: fields, item :: items => do
    let value ← field.read node item value
    readPlaced tooShort node value fields items

def readRecord (record : String) (fields : List (Field m ν σ)) (blank : σ) (node : ν) : m σ := do
  match ← Source.parts record node with
  | .named entries => readNamed fields node [] blank entries
  | .placed items =>
    readPlaced (tooShort record fields.length items.length) node blank fields items

def readList {α : Type} (read : ν → m α) (node : ν) : m (List α) := do
  (← Source.items node).mapM read

def readOptional {α : Type} (read : ν → m α) (node : ν) : m (Option α) := do
  match ← Source.present? node with
  | none => pure none
  | some node => some <$> read node

def readText (node : ν) : m String := Source.text "a string" node

end CqlSchema.Document
