import CqlSchema.Document.Source
import CqlSchema.Json.Reader
import CqlSchema.Json.Writer
import CqlSchema.Text.Escaped

/-! JSON documents as a source of declarations. -/
namespace CqlSchema.Document

/-- A JSON value, and how many lists and maps around one another may stand there. -/
structure JsonNode where
  levels : Nat
  value : Json

namespace JsonNode

/-- How a message names the value, or what is wrong with reading it at all. -/
def found : Json → Except String String
  | .null => .ok "null"
  | .boolean value => .ok s!"boolean `{value}`"
  | .integer value => .ok s!"integer `{value}`"
  | .float value => .ok ("floating point `" ++ String.ofList (Json.writeFloat value) ++ "`")
  | .hugeNumber => .error "number out of range"
  | .string (.ok value) => .ok ("string " ++ String.ofList (Text.shown value.toList))
  | .string (.error fault) => .error fault.message
  | .array _ => .ok "sequence"
  | .object _ => .ok "map"

def refused {α : Type} (expected : String) (value : Json) : Except String α :=
  match found value with
  | .ok found => .error (invalidType found expected)
  | .error message => .error message

def inside (node : JsonNode) : Except String (Json → JsonNode) :=
  match node.levels with
  | 0 => .error nestedTooDeep
  | levels + 1 => .ok (⟨levels, ·⟩)

def text (expected : String) (node : JsonNode) : Except String String :=
  match node.value with
  | .string (.ok value) => .ok value
  | value => refused expected value

def boolean (node : JsonNode) : Except String Bool :=
  match node.value with
  | .boolean value => .ok value
  | value => refused "a boolean" value

def ordinal (node : JsonNode) : Except String UInt32 :=
  match node.value with
  | .integer value =>
    if 0 ≤ value && value < UInt32.size then .ok (UInt32.ofNat value.toNat)
    else .error (invalidValue s!"integer `{value}`" "u32")
  | value => refused "u32" value

def present? (node : JsonNode) : Except String (Option JsonNode) :=
  match node.value with
  | .null => .ok none
  | _ => .ok (some node)

def items (node : JsonNode) : Except String (List JsonNode) :=
  match node.value with
  | .array values => do
    let child ← node.inside
    return values.map child
  | value => refused "a sequence" value

def members (node : JsonNode) (members : List (JsonString × Json)) :
    Except String (List (JsonNode × JsonNode)) := do
  let child ← node.inside
  return members.map fun (name, value) => (child (.string name), child value)

def entries (expected : String) (node : JsonNode) : Except String (List (JsonNode × JsonNode)) :=
  match node.value with
  | .object values => node.members values
  | value => refused expected value

def parts (record : String) (node : JsonNode) : Except String (Parts JsonNode) :=
  match node.value with
  | .object values => .named <$> node.members values
  | .array _ => .placed <$> node.items
  | value => refused record value

def word (words : List String) (value : JsonString) : Except String String :=
  match value with
  | .ok word => if words.contains word then .ok word else .error (unknownWord word words)
  | .error fault => .error fault.message

/-- A word may also be the only name of an object, with `null` as its value. -/
def choice (words : List String) (node : JsonNode) : Except String String :=
  match node.value with
  | .string value => word words value
  | .object ((name, value) :: rest) => do
    let _ ← node.inside
    let word ← word words name
    match value with
    | .null => if rest.isEmpty then .ok word else .error "expected value"
    | value => refused "unit" value
  | _ => .error "expected value"

def given (expected : String) (node : JsonNode) : Except String (Given JsonNode) :=
  match node.value with
  | .null => .ok .flag
  | .boolean value => .ok (.boolean value)
  | .integer value => .ok (.integer value)
  | .float value => .ok (.float value)
  | .string (.ok value) => .ok (.text value)
  | .object values => .map <$> node.members values
  | value => refused expected value

end JsonNode

instance : Source (Except String) JsonNode where
  fail _ message := .error message
  text := JsonNode.text
  boolean := JsonNode.boolean
  ordinal := JsonNode.ordinal
  present? := JsonNode.present?
  items := JsonNode.items
  entries := JsonNode.entries
  parts := JsonNode.parts
  choice := JsonNode.choice
  given := JsonNode.given
  levels := JsonNode.levels

def ofJsonText {α : Type} (read : JsonNode → Except String α) (text : Text) :
    Except DocumentError α :=
  match Json.read? text with
  | none => .error .malformed
  | some value => (read ⟨127, value⟩).mapError .unfit

end CqlSchema.Document
