import CqlSchema.Script

/-! The arguments of the command line. -/
namespace CqlSchema.Command

inductive Request
  | generate (schema : String) (action : Action) (output : Option String)
  | check (schema : String)
  | version
  | help (topic : Option String)
  deriving DecidableEq, Repr

structure Arguments where
  schema : Option String := none
  action : Option Action := none
  output : Option String := none

def path? (value : String) : Option String := if value.isEmpty then none else some value

/-- The value of an option that stands behind its name. It is no option itself. -/
def value? (value : String) : Option String :=
  if value.startsWith "-" && value != "-" then none else some value

def Arguments.withOption (given : Arguments) (name value : String) : Option Arguments :=
  match name with
  | "--action" =>
    if given.action.isSome then none
    else (Action.parse value).toOption.map fun action => { given with action }
  | "--output" =>
    if given.output.isSome then none
    else (path? value).map fun output => { given with output }
  | _ => none

def Arguments.withSchema (given : Arguments) (value : String) : Option Arguments :=
  if given.schema.isSome then none
  else (path? value).map fun schema => { given with schema }

def assignment? (argument : String) : Option (String × String) :=
  let (name, value) := (argument.toList.takeWhile (· != '='), argument.toList.dropWhile (· != '='))
  match value with
  | [] => none
  | _ :: value => some (String.ofList name, String.ofList value)

def readSchemas (given : Arguments) : List String → Option Arguments
  | [] => some given
  | argument :: rest => do readSchemas (← given.withSchema argument) rest

/-- The arguments of a subcommand with the given options, or the request for help among them. -/
def readArguments (options : List String) (topic : String) (given : Arguments) :
    List String → Option (Except Request Arguments)
  | [] => some (.ok given)
  | argument :: rest =>
    if argument == "--" then (readSchemas given rest).map .ok
    else if argument == "--help" || argument.startsWith "-h" then some (.error (.help topic))
    else if options.contains argument then
      match rest with
      | [] => none
      | value :: rest => do
        readArguments options topic (← given.withOption argument (← value? value)) rest
    else match assignment? argument with
      | some (name, value) =>
        if options.contains name then do
          readArguments options topic (← given.withOption name value) rest
        else if argument.startsWith "-" then none
        else do readArguments options topic (← given.withSchema argument) rest
      | none =>
        if argument.startsWith "-" && argument != "-" then none
        else do readArguments options topic (← given.withSchema argument) rest

def Request.ofArguments? : List String → Option Request
  | "generate" :: rest => do
    match ← readArguments ["--action", "--output"] "generate" {} rest with
    | .error request => some request
    | .ok given => some (.generate (← given.schema) (given.action.getD .create) given.output)
  | "check" :: rest => do
    match ← readArguments [] "check" {} rest with
    | .error request => some request
    | .ok given => some (.check (← given.schema))
  | ["help"] => some (.help none)
  | ["help", topic] =>
    if ["generate", "check", "help"].contains topic then some (.help topic) else none
  | argument :: _ =>
    if argument == "--version" || argument.startsWith "-V" then some .version
    else if argument == "--help" || argument.startsWith "-h" then some (.help none)
    else none
  | [] => none

end CqlSchema.Command
