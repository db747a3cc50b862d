import CqlSchema.Document.Path
import CqlSchema.Document.Source
import CqlSchema.Text.Escaped
import CqlSchema.Yaml.Node.Reader
import CqlSchema.Yaml.Resolution

/-! YAML documents as a source of declarations. No scalar has a kind of its own; what is wanted
decides how it is read. -/
namespace CqlSchema.Document

open Yaml (Node Scalar)

/-- A node of a document, where it stands, and how many lists and maps around one another may stand
there. The root of an empty document has no node. -/
structure YamlNode where
  document : Yaml.Document
  levels : Nat
  path : Path
  node : Option Node

abbrev Following := StateT Nat (Except String)

namespace YamlNode

def fail {α : Type} (node : YamlNode) (message : String) : Following α :=
  throw (node.path.locate message)

/-- The node itself, or the one an alias stands for. Following is given up where aliases multiply the
document beyond a hundred times its size. -/
def follow (node : YamlNode) : Following YamlNode := do
  match node.node with
  | some (.alias anchor) =>
    let followed := (← get) + 1
    set followed
    if 100 * node.document.size < followed then throw "repetition limit exceeded"
    match node.document.target? anchor with
    | some target => pure { node with node := some target }
    | none => throw "unresolved alias"
  | _ => pure node

def wideKind (value : Int) : String := if value < 0 then "i128" else "u128"

def shownText (text : String) : String := "string " ++ String.ofList (Text.shown text.toList)

def foundValue : Yaml.Resolved → String
  | .null => "unit value"
  | .boolean value => s!"boolean `{value}`"
  | .integer value => s!"integer `{value}`"
  | .wideInteger value => s!"integer `{value}` as {wideKind value}"
  | .float value => "floating point `" ++ String.ofList (Decimal.pointed value) ++ "`"
  | .text value => shownText value

def refuse {α : Type} (expected : String) (node : YamlNode) : Following α :=
  match node.node with
  | none => throw "EOF while parsing a value"
  | some (.scalar scalar) =>
    match scalar.resolve with
    | .ok value => node.fail (invalidType (foundValue value) expected)
    | .error kind => node.fail (invalidValue (shownText scalar.text) kind.wanted)
  | some (.sequence ..) => node.fail (invalidType "sequence" expected)
  | some (.mapping ..) => node.fail (invalidType "map" expected)
  | some (.alias _) => throw "unresolved alias"

def enter (node : YamlNode) : Following YamlNode :=
  match node.levels with
  | 0 => throw nestedTooDeep
  | levels + 1 => pure { node with levels }

def children (node : YamlNode) (items : List Node) : List YamlNode :=
  items.mapIdx fun index item => { node with path := node.path.item index, node := some item }

def valuePath (path : Path) : Node → Path
  | .scalar scalar => path.entry scalar.text
  | _ => path.unnamed

def members (node : YamlNode) (entries : List (Node × Node)) : List (YamlNode × YamlNode) :=
  entries.map fun (name, value) =>
    ({ node with node := some name },
     { node with path := valuePath node.path name, node := some value })

def isMissing : Option Node → Bool
  | none => true
  | some (.scalar scalar) => scalar.isMissing
  | _ => false

def text (expected : String) (node : YamlNode) : Following String := do
  let node ← node.follow
  match node.node with
  | some (.scalar scalar) => pure scalar.text
  | _ => node.refuse expected

def boolean (node : YamlNode) : Following Bool := do
  let node ← node.follow
  match node.node with
  | some (.scalar scalar) =>
    match if scalar.mayBe .boolean then Yaml.boolean? scalar.text else none with
    | some value => pure value
    | none => node.refuse "a boolean"
  | _ => node.refuse "a boolean"

def ordinal (node : YamlNode) : Following UInt32 := do
  let node ← node.follow
  match node.node with
  | some (.scalar scalar) =>
    match if scalar.mayBe .integer then Yaml.natural? UInt64.size scalar.text.toList else none with
    | some value =>
      if value < UInt32.size then pure (UInt32.ofNat value)
      else node.fail (invalidValue s!"integer `{value}`" "u32")
    | none => node.refuse "u32"
  | _ => node.refuse "u32"

def present? (node : YamlNode) : Following (Option YamlNode) := do
  let node ← node.follow
  match node.node with
  | none => pure none
  | some (.scalar scalar) =>
    if scalar.style ≠ .plain then pure (some node)
    else match scalar.tag with
      | none =>
        pure (if scalar.text.isEmpty || Yaml.isNullWord scalar.text then none else some node)
      | some tag =>
        if tag ≠ Yaml.TagKind.null.tag then pure (some node)
        else if Yaml.isNullWord scalar.text then pure none
        else throw <| node.path.parent.locate <|
          invalidValue (shownText scalar.text) Yaml.TagKind.null.wanted
  | some _ => pure (some node)

def items (node : YamlNode) : Following (List YamlNode) := do
  let node ← node.follow
  match node.node with
  | some (.sequence _ items) => return (← node.enter).children items
  | value => if isMissing value then pure [] else node.refuse "a sequence"

def entries (expected : String) (node : YamlNode) : Following (List (YamlNode × YamlNode)) := do
  let node ← node.follow
  match node.node with
  | some (.mapping _ entries) => return (← node.enter).members entries
  | value => if isMissing value then pure [] else node.refuse expected

def parts (record : String) (node : YamlNode) : Following (Parts YamlNode) :=
  .named <$> node.entries record

/-- A word given by a tag stands before nothing, or a word for nothing. -/
def taggedChoice (words : List String) (word : String) (node : YamlNode) : Following String := do
  if !words.contains word then throw (node.path.parent.locate (unknownWord word words))
  match node.node with
  | some (.scalar scalar) =>
    if scalar.isMissing || (scalar.style = .plain && Yaml.isNullWord scalar.text) then pure word
    else node.refuse "unit"
  | _ => node.refuse "unit"

def choice (words : List String) (node : YamlNode) : Following String := do
  let node ← node.follow
  let untagged := "a YAML tag starting with '!'"
  match node.node with
  | some (.scalar scalar) =>
    match Yaml.localTag? scalar.tag with
    | some word => node.taggedChoice words word
    | none =>
      if words.contains scalar.text then pure scalar.text
      else node.fail (unknownWord scalar.text words)
  | some (.sequence tag _) | some (.mapping tag _) =>
    match Yaml.localTag? tag with
    | some word => node.taggedChoice words word
    | none => node.refuse untagged
  | _ => node.refuse untagged

def given (expected : String) (node : YamlNode) : Following (Given YamlNode) := do
  let node ← node.follow
  match node.node with
  | none => pure .flag
  | some (.scalar scalar) =>
    if (Yaml.localTag? scalar.tag).isSome then node.fail (invalidType "enum" expected)
    else match scalar.resolve with
      | .ok .null => pure .flag
      | .ok (.boolean value) => pure (.boolean value)
      | .ok (.integer value) => pure (.integer value)
      | .ok (.float value) => pure (.float value)
      | .ok (.text value) => pure (.text value)
      | _ => node.refuse expected
  | some (.mapping tag entries) =>
    if (Yaml.localTag? tag).isSome then node.fail (invalidType "enum" expected)
    else return .map ((← node.enter).members entries)
  | some (.sequence tag _) =>
    if (Yaml.localTag? tag).isSome then node.fail (invalidType "enum" expected)
    else do
      let _ ← node.enter
      node.refuse expected
  | some (.alias _) => node.refuse expected

end YamlNode

instance : Source Following YamlNode where
  fail := YamlNode.fail
  text := YamlNode.text
  boolean := YamlNode.boolean
  ordinal := YamlNode.ordinal
  present? := YamlNode.present?
  items := YamlNode.items
  entries := YamlNode.entries
  parts := YamlNode.parts
  choice := YamlNode.choice
  given := YamlNode.given
  levels := YamlNode.levels

def ofYamlText {α : Type} (read : YamlNode → Following α) (text : Text) :
    Except DocumentError α :=
  match Yaml.Document.ofText? text with
  | none => .error .malformed
  | some document => ((read ⟨document, 128, .root, document.root⟩).run' 0).mapError .unfit

end CqlSchema.Document
