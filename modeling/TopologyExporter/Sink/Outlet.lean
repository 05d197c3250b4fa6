import TopologyExporter.Collector.Error
import TopologyExporter.Metric.Family

/-!
# Outlets

A sink as one call of a collector meets it: someone receives all that is sent, or so much of it and
no more.
-/

namespace TopologyExporter

/-- What has been taken of what a call sent, and how many more families are taken before no one
receives; without a number all are. -/
structure Outlet where
  taken : List Family
  room : Option Nat
deriving Repr, DecidableEq, Inhabited

namespace Outlet

/-- The outlet of a sink that is open, and whose families are received. -/
def drained : Outlet := ⟨[], none⟩

/-- The outlet of a sink that is closed after some families. -/
def closing (room : Nat) : Outlet := ⟨[], some room⟩

/-- Sends families one after the other, up to the first that is not taken. -/
def sendAll (o : Outlet) : List Family → Option CollectorError × Outlet
  | [] => (none, o)
  | f :: rest =>
    match o.room with
    | none => sendAll ⟨o.taken ++ [f], none⟩ rest
    | some (room + 1) => sendAll ⟨o.taken ++ [f], some room⟩ rest
    | some 0 => (some .sinkClosed, o)

end Outlet

end TopologyExporter
