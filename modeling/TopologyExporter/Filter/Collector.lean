import TopologyExporter.Filter.Error
import TopologyExporter.Text.Blank

/-!
# The collector filter

Selects which of the built-in collectors run.
-/

namespace TopologyExporter

/-- The collectors that come with the exporter, in the order in which they are registered. -/
inductive BuiltIn
  | deployments
  | serviceDiscovery
deriving Repr, DecidableEq, Inhabited

namespace BuiltIn

/-- Every built-in collector, in the order of registration. -/
def all : List BuiltIn := [deployments, serviceDiscovery]

/-- The name by which a collector is selected, logged and counted. -/
def name : BuiltIn → String
  | deployments => "Deployments"
  | serviceDiscovery => "ServiceDiscovery"

/-- The collector of a name. -/
def ofName? (name : String) : Option BuiltIn := all.find? (·.name = name)

end BuiltIn

/-- Selects the collectors it lists, or every one when it lists none. -/
structure CollectorFilter where
  names : List String
deriving Repr, DecidableEq, Inhabited

namespace CollectorFilter

/-- Refuses an entry that is not the name of a collector. -/
def check (entry : String) : Except FilterError String :=
  match BuiltIn.ofName? entry with
  | some _ => .ok entry
  | none => .error (.unknownCollector entry)

/-- The filter of some entries; those that are blank do not count, and the first that is not known
is the error. -/
def ofEntries (items : List String) : Except FilterError CollectorFilter :=
  CollectorFilter.mk <$> (Text.entries items).mapM check

/-- Whether the collector of this name is selected. -/
def admits (f : CollectorFilter) (name : String) : Bool :=
  f.names.isEmpty || f.names.contains name

end CollectorFilter

end TopologyExporter
