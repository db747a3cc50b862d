/-! Files as the command line needs them: text that is read or written whole, and a folder held in
memory. -/
namespace CqlSchema.Command

inductive FileError
  | notFound
  | notFolder
  | isFolder
  | notText
  | other (text : String)
  deriving DecidableEq, Repr

def FileError.message : FileError → String
  | notFound => "No such file or directory (os error 2)"
  | notFolder => "Not a directory (os error 20)"
  | isFolder => "Is a directory (os error 21)"
  | notText => "stream did not contain valid UTF-8"
  | other text => text

structure FileSystem (m : Type → Type) where
  read : String → m (Except FileError ByteArray)
  write : String → String → m (Except FileError Unit)

inductive Content
  | bytes (bytes : ByteArray)
  | folder

/-- What is in a folder, by the names on the way to it. The last content of a path counts. -/
structure Folder where
  contents : List (List String × Content) := []

namespace Folder

def names (path : String) : List String := (path.toList.splitOn '/').map String.ofList

def put (folder : Folder) (path : String) (content : Content) : Folder :=
  ⟨(names path, content) :: folder.contents⟩

/-- What is at a place. A folder is there if something is in it. -/
def content? (folder : Folder) (place : List String) : Option Content :=
  if place.isEmpty then some .folder
  else match folder.contents.lookup place with
    | some content => some content
    | none =>
      if folder.contents.any fun entry => place.isPrefixOf entry.1 then some .folder else none

/-- One name further. Names lead on from a folder only, and nothing is known outside this one. -/
def step (folder : Folder) (place : List String) (name : String) :
    Except FileError (List String) :=
  match folder.content? place with
  | none => .error .notFound
  | some (.bytes _) => .error .notFolder
  | some .folder =>
    if name.isEmpty || name == "." then .ok place
    else if name == ".." then
      if place.isEmpty then .error .notFound else .ok place.dropLast
    else .ok (place ++ [name])

def place (folder : Folder) (path : String) : Except FileError (List String) :=
  if path.isEmpty || path.startsWith "/" then .error .notFound
  else (names path).foldlM folder.step []

def read (folder : Folder) (path : String) : Except FileError ByteArray := do
  match folder.content? (← folder.place path) with
  | some (.bytes bytes) => .ok bytes
  | some .folder => .error .isFolder
  | none => .error .notFound

/-- The folder with the text in a file, which need not be there before. -/
def write (folder : Folder) (path text : String) : Except FileError Folder := do
  match folder.place path with
  | .error error =>
    if path.endsWith "/" && error == .notFound && (folder.place (path.dropEnd 1).toString).isOk then
      .error .isFolder
    else .error error
  | .ok place =>
    match folder.content? place with
    | some .folder => .error .isFolder
    | _ => .ok ⟨(place, .bytes text.toUTF8) :: folder.contents⟩

def system : FileSystem (StateM Folder) where
  read path := do return (← get).read path
  write path text := do
    match (← get).write path text with
    | .ok folder =>
      set folder
      return .ok ()
    | .error error => return .error error

end Folder
end CqlSchema.Command
