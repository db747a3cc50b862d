import CqlSchema.Options.Basic

/-! Options that every server knows. -/
namespace CqlSchema

inductive TableOption
  | comment
  | gcGraceSeconds
  | defaultTimeToLive
  | bloomFilterFpChance
  | readRepairChance
  | dcLocalReadRepairChance
  | speculativeRetry
  | memtableFlushPeriodInMs
  | caching
  | compaction
  | compression
  | compactStorage
  deriving DecidableEq, Repr

def TableOption.name : TableOption → String
  | comment => "comment"
  | gcGraceSeconds => "gc_grace_seconds"
  | defaultTimeToLive => "default_time_to_live"
  | bloomFilterFpChance => "bloom_filter_fp_chance"
  | readRepairChance => "read_repair_chance"
  | dcLocalReadRepairChance => "dclocal_read_repair_chance"
  | speculativeRetry => "speculative_retry"
  | memtableFlushPeriodInMs => "memtable_flush_period_in_ms"
  | caching => "caching"
  | compaction => "compaction"
  | compression => "compression"
  | compactStorage => "COMPACT STORAGE"

inductive KeyspaceOption
  | replication
  | durableWrites
  deriving DecidableEq, Repr

def KeyspaceOption.name : KeyspaceOption → String
  | replication => "replication"
  | durableWrites => "durable_writes"

end CqlSchema
