import KeyspaceLink.Failure

/-! Requests that a caller may make of any database and that have no counterpart here. -/

namespace KeyspaceLink

inductive Unsupported
  | cancel
  | readPartition
  | statisticNames
  | statistics
  | substraitPlan
  | prepare
  | parameterSchema
  | bind
  | bindStream
  | executePartitions
deriving DecidableEq, Repr

namespace Unsupported

def message : Unsupported → String
  | cancel => "Couchbase provides no support for interrupting an operation."
  | readPartition => "read_partition"
  | statisticNames => "get_statistic_names"
  | statistics => "get_statistics"
  | substraitPlan => "Substrait plans"
  | prepare => "prepare"
  | parameterSchema => "get_parameter_schema"
  | bind => "bind parameters"
  | bindStream => "bind_stream"
  | executePartitions => "execute_partitions"

def failure (r : Unsupported) : Failure := .unsupported r.message

end Unsupported

end KeyspaceLink
