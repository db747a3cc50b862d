import CqlSchema.Options.Basic

/-! How many copies of its rows a keyspace keeps, and where. -/
namespace CqlSchema

inductive Replication
  | simple (factor : UInt32)
  | network (dataCenters : List (String × UInt32))
  deriving DecidableEq, Repr

namespace Replication

def className : Replication → String
  | simple _ => "SimpleStrategy"
  | network _ => "NetworkTopologyStrategy"

def factorValue (factor : UInt32) : OptionValue := .integer (Int64.ofNat factor.toNat)

def options (replication : Replication) : Options :=
  ("class", .text replication.className) ::
    match replication with
    | simple factor => [("replication_factor", factorValue factor)]
    | network dataCenters => dataCenters.map fun (name, factor) => (name, factorValue factor)

def value (replication : Replication) : OptionValue := .map replication.options

end Replication
end CqlSchema
