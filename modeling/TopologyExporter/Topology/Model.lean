/-!
# The topology

What the director manages: deployments of instances that run processes. A snapshot is the whole of
it at one moment; every scrape works on one.
-/

namespace TopologyExporter

/-- A process that runs inside an instance. -/
structure Workload where
  name : String
deriving Repr, DecidableEq, Inhabited

/-- A machine of a deployment. `name` is that of its job, and `index` need not be a number. -/
structure Instance where
  name : String
  id : String
  index : String
  ips : List String
  zone : String
  processes : List Workload
deriving Repr, DecidableEq, Inhabited

/-- A named group of instances. -/
structure Deployment where
  name : String
  instances : List Instance
deriving Repr, DecidableEq, Inhabited

/-- The deployments at one moment. -/
abbrev Snapshot := List Deployment

end TopologyExporter
