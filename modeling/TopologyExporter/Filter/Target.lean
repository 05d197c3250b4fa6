import TopologyExporter.Filter.Process
import TopologyExporter.Filter.Zone

/-!
# The target filter

The two filters that decide which processes become targets.
-/

namespace TopologyExporter

/-- Which instances, by zone, and which of their processes, by name, become targets. -/
structure TargetFilter where
  zone : ZoneFilter
  process : ProcessFilter
deriving Inhabited

namespace TargetFilter

/-- The filter that admits everything. -/
def all : TargetFilter := ⟨⟨[]⟩, ⟨[]⟩⟩

/-- Whether instances in `zone` are admitted. -/
def admitsZone (f : TargetFilter) (zone : String) : Bool := f.zone.admits zone

/-- Whether processes of this name are admitted. -/
def admitsProcess (f : TargetFilter) (name : String) : Bool := f.process.admits name

end TargetFilter

end TopologyExporter
