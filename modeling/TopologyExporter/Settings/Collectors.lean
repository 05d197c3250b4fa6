import TopologyExporter.Collector.Deployments
import TopologyExporter.Collector.ServiceDiscovery
import TopologyExporter.Settings.Basic
import TopologyExporter.Text.Blank

/-!
# The collectors of the settings

Which of the built-in collectors run, and how they are set up.
-/

namespace TopologyExporter

/-- Why the collectors cannot be set up. -/
inductive SetupError
  | filter (reason : FilterError)
  | collector (reason : CollectorError)
deriving Repr, DecidableEq, Inhabited

namespace SetupError

/-- The text of the error. -/
def message : SetupError → String
  | filter reason => reason.message
  | collector reason => reason.message

/-- The text of the error behind this one. -/
def source? : SetupError → Option String
  | filter reason => reason.source?
  | collector reason => reason.source?

end SetupError

namespace Settings

variable [PatternCompiler]

/-- The filter of the targets. -/
def targetFilter (s : Settings) : Except FilterError TargetFilter := do
  let process ← ProcessFilter.ofEntries (Text.listSetting s.processes)
  pure ⟨.ofEntries (Text.listSetting s.zones), process⟩

/-- Sets up a built-in collector. -/
def setUp (s : Settings) : BuiltIn → Except SetupError Collector
  | .deployments =>
    match DeploymentsCollector.make s.space s.identity with
    | .ok c => .ok c.toCollector
    | .error e => .error (.collector e)
  | .serviceDiscovery => do
    let filter ← s.targetFilter.mapError .filter
    match ServiceDiscoveryCollector.make s.space s.identity s.targetsFile filter with
    | .ok c => .ok c.toCollector
    | .error e => .error (.collector e)

/-- The collectors that are selected, in the order of registration. -/
def enabledCollectors (s : Settings) : Except SetupError (List Collector) := do
  let selected ← (CollectorFilter.ofEntries (Text.listSetting s.collectors)).mapError .filter
  (BuiltIn.all.filter fun b => selected.admits b.name).mapM s.setUp

end Settings

end TopologyExporter
