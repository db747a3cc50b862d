import CqlSchema.Decimal.Shortest
import CqlSchema.DefinitionError
import CqlSchema.Options.Basic

/-! Options that can be written: every name is given and given once, every entry of a map has a
value, and every number is finite. The names of one list are checked before its values. -/
namespace CqlSchema.Options

def checkNames (same : String → String → Bool) (path : OptionPath) (options : Options) :
    Except DefinitionError Unit :=
  if (names options).any (·.isEmpty) then
    .error (.emptyIdentifier (if path.isEmpty then .option else .optionKey path))
  else match firstRepeated? same [] (names options) with
    | some name => .error (.duplicateOption (path ++ [name]))
    | none => .ok ()

mutual

/-- The values of a map, or of the options themselves if `path` is empty. -/
def checkValues (path : OptionPath) : Options → Except DefinitionError Unit
  | [] => .ok ()
  | (name, value) :: rest => do
    checkValue (path ++ [name]) (!path.isEmpty) value
    checkValues path rest

/-- The value at `path`. Names inside a map are compared letter by letter. -/
def checkValue (path : OptionPath) (insideMap : Bool) : OptionValue → Except DefinitionError Unit
  | .flag => if insideMap then .error (.invalidOptionValue path .flagInMap) else .ok ()
  | .float value =>
    if Decimal.isFinite value then .ok () else .error (.invalidOptionValue path .notFinite)
  | .map entries => do
    checkNames (· == ·) path entries
    checkValues path entries
  | _ => .ok ()

end

/-- Names of options are compared without regard to small or capital letters. -/
def check (options : Options) : Except DefinitionError Unit := do
  checkNames Text.sameLetters [] options
  checkValues [] options

end CqlSchema.Options
