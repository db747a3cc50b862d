import CqlSchema.Yaml.Token

/-! A YAML document as a tree of nodes. An alias stands for the node with its anchor, which may be any
node before it and one that it stands in. -/
namespace CqlSchema.Yaml

structure Scalar where
  text : String
  style : ScalarStyle
  tag : Option String
  deriving DecidableEq, Repr

inductive Node
  | scalar (scalar : Scalar)
  | alias (anchor : Nat)
  | sequence (tag : Option String) (items : List Node)
  | mapping (tag : Option String) (entries : List (Node × Node))
  deriving Repr, Inhabited

def Node.empty (tag : Option String) : Node := .scalar ⟨"", .plain, tag⟩

/-- A document. Anchors are numbered by their names, definitions in the order in which they start; a
later definition of an anchor takes the place of an earlier one. -/
structure Document where
  root : Option Node
  /-- The number of each anchor and of its definition, the last first. -/
  anchors : List (Nat × Nat) := []
  definitions : List (Nat × Node) := []
  /-- A measure of the document: a node counts one, and two if there are nodes inside it. -/
  size : Nat := 0

def Document.target? (document : Document) (anchor : Nat) : Option Node := do
  let definition ← document.anchors.lookup anchor
  document.definitions.lookup definition

end CqlSchema.Yaml
