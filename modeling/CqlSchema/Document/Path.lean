/-! Where in a document a value stands. -/
namespace CqlSchema.Document

/-- The way from the root of a document to a value. A value whose name is not a scalar stands
somewhere in its map. -/
inductive Path
  | root
  | item (parent : Path) (index : Nat)
  | entry (parent : Path) (name : String)
  | unnamed (parent : Path)
  deriving DecidableEq, Repr

namespace Path

def text : Path → String
  | root => ""
  | item parent index => parent.text ++ s!"[{index}]"
  | entry root name => name
  | entry parent name => parent.text ++ "." ++ name
  | unnamed root => "?"
  | unnamed parent => parent.text ++ ".?"

def parent : Path → Path
  | root => root
  | item parent _ | entry parent _ | unnamed parent => parent

def locate (path : Path) (message : String) : String :=
  match path with
  | root => message
  | path => path.text ++ ": " ++ message

end Path
end CqlSchema.Document
