import TopologyExporter.Metric.Family
import TopologyExporter.Text.Keyed

/-!
# Gauge vectors

The gauges of one descriptor, one for each combination of values of the labels that vary. They stay
from one reading to the next, until they are all dropped.

* `GaugeVector.reset` drops all gauges;
* `GaugeVector.set` sets one, which is there from then on;
* `GaugeVector.family` reads them all.
-/

namespace TopologyExporter

/-- The gauges that are there, by the values of their labels. -/
structure GaugeVector where
  values : Keyed (List String) Binary64
deriving Repr, DecidableEq

namespace GaugeVector

/-- A vector without gauges. -/
def empty : GaugeVector := ⟨.empty⟩

instance : Inhabited GaugeVector := ⟨empty⟩

/-- Drops all gauges. -/
def reset (_ : GaugeVector) : GaugeVector := empty

/-- Sets the gauge of some labels. -/
def set (v : GaugeVector) (labels : List String) (value : Binary64) : GaugeVector :=
  ⟨v.values.put labels value⟩

/-- The gauges as samples of the descriptor they are of. -/
def family (v : GaugeVector) (d : Descriptor) : Family := d.family .gauge v.values.entries

end GaugeVector

end TopologyExporter
