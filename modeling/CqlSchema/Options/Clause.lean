import CqlSchema.Decimal.Layout
import CqlSchema.Literal
import CqlSchema.Options.Basic

/-! Options behind the word WITH, and the end of a statement. -/
namespace CqlSchema

mutual

def OptionValue.rendered : OptionValue → Text
  | .flag => []
  | .text value => Literal.text value
  | .integer value => Decimal.integer value.toInt
  | .float value => Decimal.plain value
  | .boolean value => if value then "true".toList else "false".toList
  | .map entries => '\x7b' :: (Text.joined ", ".toList (Options.renderedEntries entries) ++ ['\x7d'])

def Options.renderedEntries : Options → List Text
  | [] => []
  | (key, value) :: rest =>
    (Literal.text key ++ ": ".toList ++ value.rendered) :: Options.renderedEntries rest

end

namespace Options

def clause (name : String) : OptionValue → Text
  | .flag => name.toList
  | value => name.toList ++ " = ".toList ++ value.rendered

/-- The clauses before the options and one for each option, or nothing if there are none. -/
def withClauses (leading : List Text) (options : Options) : Text :=
  match leading ++ options.map (fun entry => clause entry.1 entry.2) with
  | [] => []
  | clauses => " WITH ".toList ++ Text.joined " AND ".toList clauses

def terminated (body : Text) (leading : List Text) (options : Options) : Text :=
  body ++ withClauses leading options ++ [';']

end Options
end CqlSchema
