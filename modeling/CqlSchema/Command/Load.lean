import CqlSchema.Command.Files
import CqlSchema.Document.Declaration
import CqlSchema.Document.Yaml

/-! Schemas read from YAML text and from files. -/
namespace CqlSchema

open Document (DocumentError)
open Command (FileError FileSystem)

inductive LoadError
  | unreadable (path : String) (cause : FileError)
  | document (cause : DocumentError)
  deriving DecidableEq, Repr

namespace LoadError

def message : LoadError → String
  | unreadable path cause => s!"Failed to read schema file '{path}': {cause.message}"
  | document cause => "Invalid schema document: " ++ cause.message

def cause : LoadError → String
  | unreadable _ cause => cause.message
  | document cause => cause.message

end LoadError

def Schema.ofYaml (text : String) : Except LoadError Schema :=
  (Document.ofYamlText Document.readSchema text.toList).mapError .document

def Schema.load {m : Type → Type} [Monad m] (system : FileSystem m) (path : String) :
    m (Except LoadError Schema) := do
  match ← system.read path with
  | .error cause => return .error (.unreadable path cause)
  | .ok bytes =>
    match String.fromUTF8? bytes with
    | none => return .error (.unreadable path .notText)
    | some text => return Schema.ofYaml text

end CqlSchema
