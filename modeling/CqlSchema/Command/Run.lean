import CqlSchema.Command.Arguments
import CqlSchema.Command.Load

/-! What the command line does: it prints the script of a schema or writes it to a file, or says that
every statement of the schema can be made. -/
namespace CqlSchema.Command

structure Outcome where
  exit : Nat := 0
  stdout : String := ""
  stderr : String := ""
  deriving DecidableEq, Repr

/-- The lines of the text behind the first one, set in as far as it is. -/
def indented (text : String) : String :=
  "    " ++ String.ofList (text.toList.flatMap fun c => if c == '\n' then "\n    ".toList else [c])

def failed (message cause : String) : Outcome :=
  { exit := 1, stderr := s!"Error: {message}\n\nCaused by:\n{indented cause}\n" }

def scriptText (script : List Text) : Text := script.flatMap (· ++ ['\n'])

def generate {m : Type → Type} [Monad m] (system : FileSystem m) (path : String)
    (action : Action) (output : Option String) : m Outcome := do
  match ← Schema.load system path with
  | .error error => return failed error.message error.cause
  | .ok schema =>
    match schema.script action with
    | .error error =>
      return failed s!"Failed to generate {action.name} script for {path}" error.message
    | .ok script =>
      let text := String.ofList (scriptText script)
      match output with
      | none => return { stdout := text }
      | some output =>
        match ← system.write output text with
        | .ok () => return {}
        | .error error => return failed s!"Failed to write {output}" error.message

def countsText (path : String) (schema : Schema) (statements : Nat) : String :=
  let keyspaces := s!"{schema.keyspaces.length} keyspace(s)"
  let tables := s!"{schema.tables.length} table(s)"
  let indexes := s!"{schema.indexes.length} index(es)"
  s!"{path}: {keyspaces}, {tables}, {indexes}, {statements} statement(s) OK\n"

def check {m : Type → Type} [Monad m] (system : FileSystem m) (path : String) : m Outcome := do
  match ← Schema.load system path with
  | .error error => return failed error.message error.cause
  | .ok schema =>
    match schema.script .create with
    | .error error => return failed s!"Invalid schema {path}" error.message
    | .ok script => return { stdout := countsText path schema script.length }

def versionText : String := "cqlddl 0.1.0\n"

def helpText : Option String → String
  | some "generate" =>
    "Print the statements for a schema action, one per line\n\n" ++
    "Usage: cqlddl generate [OPTIONS] <SCHEMA>\n\n" ++
    "Arguments:\n  <SCHEMA>  Schema document (YAML)\n\n" ++
    "Options:\n" ++
    "      --action <ACTION>  " ++
      "Schema action: create, recreate, drop or none [default: create]\n" ++
    "      --output <OUTPUT>  Write the script to a file instead of stdout\n" ++
    "  -h, --help             Print help\n"
  | some "check" =>
    "Validate every specification in a schema document\n\n" ++
    "Usage: cqlddl check <SCHEMA>\n\n" ++
    "Arguments:\n  <SCHEMA>  Schema document (YAML)\n\n" ++
    "Options:\n  -h, --help  Print help\n"
  | some "help" =>
    "Print this message or the help of the given subcommand(s)\n\n" ++
    "Usage: cqlddl help [COMMAND]...\n\n" ++
    "Arguments:\n  [COMMAND]...  Print help for the subcommand(s)\n"
  | _ =>
    "Generate CQL schema scripts from YAML schema documents\n\n" ++
    "Usage: cqlddl <COMMAND>\n\n" ++
    "Commands:\n" ++
    "  generate  Print the statements for a schema action, one per line\n" ++
    "  check     Validate every specification in a schema document\n" ++
    "  help      Print this message or the help of the given subcommand(s)\n\n" ++
    "Options:\n  -h, --help     Print help\n  -V, --version  Print version\n"

def usageText : String := "Usage: cqlddl <COMMAND>\n"

def run {m : Type → Type} [Monad m] (system : FileSystem m) (arguments : List String) :
    m Outcome :=
  match Request.ofArguments? arguments with
  | none => return { exit := 2, stderr := usageText }
  | some .version => return { stdout := versionText }
  | some (.help topic) => return { stdout := helpText topic }
  | some (.generate path action output) => generate system path action output
  | some (.check path) => check system path

end CqlSchema.Command
