import CqlSchema.Options.Check
import CqlSchema.Options.Clause
import CqlSchema.Options.Known
import CqlSchema.Replication

/-! Keyspaces as declared, and changes of their options. -/
namespace CqlSchema

inductive KeyspaceSetting
  | option (name : String) (value : OptionValue)
  | replication (strategy : Replication)
  | durableWrites (enabled : Bool)
  deriving Repr

def KeyspaceSetting.entry : KeyspaceSetting → String × OptionValue
  | .option name value => (name, value)
  | .replication strategy => (KeyspaceOption.replication.name, strategy.value)
  | .durableWrites enabled => (KeyspaceOption.durableWrites.name, .boolean enabled)

structure Keyspace where
  name : String := ""
  ifNotExists : Bool := false
  options : Options := []
  deriving BEq, Repr, Inhabited

namespace Keyspace

inductive Step
  | ifNotExists
  | set (setting : KeyspaceSetting)
  deriving Repr

def Step.apply (keyspace : Keyspace) : Step → Keyspace
  | .ifNotExists => { keyspace with ifNotExists := true }
  | .set setting => { keyspace with options := keyspace.options ++ [setting.entry] }

def ofSteps (name : String) (steps : List Step) : Keyspace := steps.foldl Step.apply { name }

def check (keyspace : Keyspace) : Except DefinitionError Unit := do
  requireName keyspace.name .createKeyspace
  Options.check keyspace.options

def build (name : String) (steps : List Step) : Except DefinitionError Keyspace := do
  let keyspace := ofSteps name steps
  keyspace.check
  return keyspace

def body (keyspace : Keyspace) : Text :=
  "CREATE KEYSPACE ".toList ++ (if keyspace.ifNotExists then "IF NOT EXISTS ".toList else []) ++
    Name.text keyspace.name

def statement (keyspace : Keyspace) : Except DefinitionError Text := do
  keyspace.check
  return Options.terminated keyspace.body [] keyspace.options

end Keyspace

structure KeyspaceAlteration where
  name : String
  options : Options := []
  deriving BEq, Repr

namespace KeyspaceAlteration

def ofSettings (name : String) (settings : List KeyspaceSetting) : KeyspaceAlteration :=
  { name, options := settings.map KeyspaceSetting.entry }

def check (alteration : KeyspaceAlteration) : Except DefinitionError Unit := do
  requireName alteration.name .alterKeyspace
  if alteration.options.isEmpty then .error (.nothingToAlter .alterKeyspace alteration.name)
  Options.check alteration.options

def build (name : String) (settings : List KeyspaceSetting) :
    Except DefinitionError KeyspaceAlteration := do
  let alteration := ofSettings name settings
  alteration.check
  return alteration

def body (alteration : KeyspaceAlteration) : Text :=
  "ALTER KEYSPACE ".toList ++ Name.text alteration.name

def statement (alteration : KeyspaceAlteration) : Except DefinitionError Text := do
  alteration.check
  return Options.terminated alteration.body [] alteration.options

end KeyspaceAlteration
end CqlSchema
