import CqlSchema.Command.Run

/-! The program: its arguments and the files of the machine it runs on. -/
namespace CqlSchema

open Command (FileError FileSystem)

def fileError : IO.Error → FileError
  | .noFileOrDirectory .. => .notFound
  | .inappropriateType .. => .isFolder
  | error => .other (toString error)

def machine : FileSystem IO where
  read path := do
    try return .ok (← IO.FS.readBinFile path)
    catch error => return .error (fileError error)
  write path text := do
    try
      IO.FS.writeFile path text
      return .ok ()
    catch error => return .error (fileError error)

end CqlSchema

def main (arguments : List String) : IO UInt32 := do
  let outcome ← CqlSchema.Command.run CqlSchema.machine arguments
  IO.print outcome.stdout
  IO.eprint outcome.stderr
  return UInt32.ofNat outcome.exit
