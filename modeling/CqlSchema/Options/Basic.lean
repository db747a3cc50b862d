import CqlSchema.Text.Basic

/-! Options of a keyspace, a table or an index: named values in the order in which they were given.
A name may be given twice; only the check of a declaration refuses that. -/
namespace CqlSchema

inductive OptionValue
  | flag
  | text (value : String)
  | integer (value : Int64)
  | float (value : Float)
  | boolean (value : Bool)
  | map (entries : List (String × OptionValue))
  deriving Repr, Inhabited

abbrev Options := List (String × OptionValue)

namespace OptionValue

mutual

/-- Equality of values. Floats are compared as numbers, so one that is no number differs from
itself. -/
def same : OptionValue → OptionValue → Bool
  | .flag, .flag => true
  | .text first, .text second => first == second
  | .integer first, .integer second => first == second
  | .float first, .float second => first == second
  | .boolean first, .boolean second => first == second
  | .map first, .map second => sameEntries first second
  | _, _ => false

def sameEntries : Options → Options → Bool
  | [], [] => true
  | (firstName, first) :: firstRest, (secondName, second) :: secondRest =>
    firstName == secondName && same first second && sameEntries firstRest secondRest
  | _, _ => false

end

instance : BEq OptionValue := ⟨same⟩

end OptionValue

namespace Options

/-- The value of the first option of that name, in small or capital letters. -/
def get? (options : Options) (name : String) : Option OptionValue :=
  (options.find? fun entry => Text.sameLetters entry.1 name).map (·.2)

def firstRepeated? (same : String → String → Bool) (earlier : List String) :
    List String → Option String
  | [] => none
  | name :: rest =>
    if earlier.any (same · name) then some name
    else firstRepeated? same (earlier ++ [name]) rest

def names (options : Options) : List String := options.map (·.1)

/-- The first name that repeats an earlier one, in small or capital letters. -/
def repeatedName? (options : Options) : Option String :=
  firstRepeated? Text.sameLetters [] (names options)

end Options
end CqlSchema
