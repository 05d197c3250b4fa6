import TopologyExporter.Collector.Basic
import TopologyExporter.Filter.Collector
import TopologyExporter.Metric.Vector
import TopologyExporter.Sink.Outlet

/-!
# The collector of deployments

Publishes how many instances each deployment has.

* `DeploymentsCollector.call` is what a call does, whatever came before it;
* `DeploymentsCollector.collect` does it with the gauges that stay from one call to the next.
-/

namespace TopologyExporter

/-- The descriptors of the collector. -/
structure DeploymentsCollector where
  instances : Descriptor
  gauges : ScrapeGauges
deriving Repr, DecidableEq, Inhabited

namespace DeploymentsCollector

/-- The label with the name of a deployment. -/
def deploymentLabel : String := "bosh_deployment"

/-- The collector of a namespace and director. -/
def make (space : String) (identity : DirectorIdentity) :
    Except CollectorError DeploymentsCollector :=
  Except.mapError .metrics do
    let instances ← Descriptor.make (qualifiedName space "deployment_instances")
      "Number of instances in this deployment." identity.constLabels [deploymentLabel]
    let gauges ← ScrapeGauges.make space "deployments" "Deployments" identity
    pure ⟨instances, gauges⟩

/-- The number of instances of each deployment; of two of one name the later counts. -/
def counts (s : Snapshot) : Keyed String Nat :=
  .ofList (s.map fun d => (d.name, d.instances.length))

/-- The family of the numbers of instances. -/
def instanceFamily (c : DeploymentsCollector) (s : Snapshot) : Family :=
  c.instances.family .gauge ((counts s).entries.map fun e => ([e.1], .ofNat e.2))

/-- All descriptors, in the order in which their families are sent. -/
def descriptors (c : DeploymentsCollector) : List Descriptor := c.instances :: c.gauges.descriptors

/-- What a call does: it sends the numbers of instances and then its scrape gauges. -/
def call (c : DeploymentsCollector) (s : Snapshot) (clock : RunClock) : Call :=
  ⟨(c.instanceFamily s :: c.gauges.families clock).map .send, .returns none⟩

/-- As a collector. -/
def toCollector (c : DeploymentsCollector) : Collector :=
  ⟨BuiltIn.deployments.name, c.descriptors, fun _ => c.call⟩

/-! ## With the gauges that stay -/

/-- The values of the gauges of a collector. -/
structure Gauges where
  instances : GaugeVector
  timestamp : Binary64
  duration : Binary64
deriving Repr, DecidableEq, Inhabited

/-- The gauges of a collector that has not been called yet. -/
def Gauges.fresh : Gauges := ⟨.empty, 0, 0⟩

/-- Sets the numbers of instances of a snapshot. What is left of an earlier one is dropped first. -/
def refill (v : GaugeVector) (s : Snapshot) : GaugeVector :=
  s.foldl (fun v d => v.set [d.name] (.ofNat d.instances.length)) v.reset

/-- A call. The scrape gauges are set once the numbers of instances have been sent. -/
def collect (c : DeploymentsCollector) (g : Gauges) (s : Snapshot) (clock : RunClock) (o : Outlet) :
    Option CollectorError × Gauges × Outlet :=
  let g := { g with instances := refill g.instances s }
  match o.sendAll [g.instances.family c.instances] with
  | (some e, o) => (some e, g, o)
  | (none, o) =>
    let g := { g with timestamp := .ofNat clock.now, duration := clock.elapsed.seconds }
    match o.sendAll [c.gauges.timestamp.single .gauge g.timestamp] with
    | (some e, o) => (some e, g, o)
    | (none, o) =>
      let (error, o) := o.sendAll [c.gauges.duration.single .gauge g.duration]
      (error, g, o)

end DeploymentsCollector

end TopologyExporter
