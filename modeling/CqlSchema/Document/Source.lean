/-! What reading a declaration from a document needs from the format of the document. -/
namespace CqlSchema.Document

/-- Why a document gives no value: its text is malformed, or it says something else than what is
wanted. -/
inductive DocumentError
  | malformed
  | unfit (message : String)
  deriving DecidableEq, Repr

/-- Only what stands in a document is described, not what makes its text malformed. -/
def DocumentError.message : DocumentError → String
  | malformed => "malformed document"
  | unfit message => message

inductive Given (ν : Type)
  | flag
  | boolean (value : Bool)
  | integer (value : Int)
  | float (value : Float)
  | text (value : String)
  | map (entries : List (ν × ν))

inductive Parts (ν : Type)
  | named (entries : List (ν × ν))
  | placed (items : List ν)

/-- A format whose nodes are `ν` and whose reading runs in `m`. Each operation takes what it wants
from a node or fails there. Entries come as nodes of names and nodes of values. -/
class Source (m : outParam (Type → Type)) (ν : Type) where
  fail : {α : Type} → ν → String → m α
  text : (expected : String) → ν → m String
  boolean : ν → m Bool
  ordinal : ν → m UInt32
  /-- Nothing if the node stands for an absent value, else the node. -/
  present? : ν → m (Option ν)
  items : ν → m (List ν)
  entries : (expected : String) → ν → m (List (ν × ν))
  parts : (record : String) → ν → m (Parts ν)
  choice : List String → ν → m String
  given : (expected : String) → ν → m (Given ν)
  /-- How many lists and maps around one another may stand at the node. -/
  levels : ν → Nat

def quotedWords (words : List String) : String :=
  ", ".intercalate (words.map fun word => "`" ++ word ++ "`")

def unknownWord (word : String) (words : List String) : String :=
  "unknown variant `" ++ word ++ "`, expected one of " ++ quotedWords words

def invalidType (found expected : String) : String :=
  "invalid type: " ++ found ++ ", expected " ++ expected

def invalidValue (found expected : String) : String :=
  "invalid value: " ++ found ++ ", expected " ++ expected

def nestedTooDeep : String := "recursion limit exceeded"

end CqlSchema.Document
