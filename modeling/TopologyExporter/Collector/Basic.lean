import TopologyExporter.Collector.Call
import TopologyExporter.Collector.Gauges
import TopologyExporter.Topology.Model

/-!
# Collectors

A collector turns a snapshot into families, perhaps with a side effect on files.
-/

namespace TopologyExporter

/-- A collector: its name, the descriptors of what it may send, and what a call does. The calls of a
collector are numbered from zero. The steps of a call follow from its number, its snapshot and its
clock, and not from how far an earlier call came that was abandoned. -/
structure Collector where
  name : String
  descriptors : List Descriptor
  call : (number : Nat) → Snapshot → RunClock → Call
deriving Inhabited

end TopologyExporter
