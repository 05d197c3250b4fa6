import TopologyExporter.Text.Blank

/-!
# The zone filter

Admits instances by their availability zone. Like every filter it is built from entries that are
trimmed first, and admits everything when no entry is left.
-/

namespace TopologyExporter

/-- Admits the zones it lists, or every zone when it lists none. -/
structure ZoneFilter where
  zones : List String
deriving Repr, DecidableEq, Inhabited

namespace ZoneFilter

/-- The filter of some entries; those that are blank do not count. -/
def ofEntries (items : List String) : ZoneFilter := ⟨Text.entries items⟩

/-- Whether instances in `zone` are admitted. The zone is compared as it is, without trimming. -/
def admits (f : ZoneFilter) (zone : String) : Bool := f.zones.isEmpty || f.zones.contains zone

end ZoneFilter

end TopologyExporter
