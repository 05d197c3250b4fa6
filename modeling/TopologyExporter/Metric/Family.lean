import TopologyExporter.Metric.Descriptor
import TopologyExporter.Number.Shortest

/-!
# Metric families

The values of a metric at one moment: one sample for each combination of labels.
-/

namespace TopologyExporter

/-- Counters only go up; gauges go up and down. -/
inductive MetricKind
  | counter
  | gauge
deriving Repr, DecidableEq, Inhabited

/-- The name of a kind. -/
def MetricKind.name : MetricKind → String
  | counter => "counter"
  | gauge => "gauge"

/-- A value under labels. -/
structure Sample where
  labels : Labels
  value : Binary64
deriving Repr, DecidableEq, Inhabited

/-- The samples of a metric. -/
structure Family where
  name : String
  help : String
  kind : MetricKind
  samples : List Sample
deriving Repr, DecidableEq, Inhabited

namespace Descriptor

/-- The labels of a sample, given the values of the labels that vary. -/
def labelsFor (d : Descriptor) (values : List String) : Labels :=
  (d.variableLabels.zip values).foldl (fun labels e => labels.insert e.1 e.2) d.constLabels

/-- The family of a descriptor, given the values of the labels that vary with the value of each
sample. -/
def family (d : Descriptor) (kind : MetricKind) (rows : List (List String × Binary64)) : Family :=
  ⟨d.name, d.help, kind, rows.map fun row => ⟨d.labelsFor row.1, row.2⟩⟩

/-- The family of a descriptor without labels that vary. -/
def single (d : Descriptor) (kind : MetricKind) (value : Binary64) : Family :=
  d.family kind [([], value)]

end Descriptor

/-! ## In messages -/

/-- A sample in the notation of messages. -/
def Sample.render (kind : MetricKind) (s : Sample) : String :=
  "metric \x7b" ++
    String.join (s.labels.entries.map fun l => "label \x7b" ++ showLabel l ++ "\x7d ") ++
    kind.name ++ " \x7bvalue: " ++ s.value.plain ++ "\x7d\x7d"

/-- A family in the notation of messages. -/
def Family.render (f : Family) : String :=
  " ".intercalate
    (["name: " ++ showText f.name, "help: " ++ showText f.help,
      "type: " ++ String.ofList (f.kind.name.toList.map Char.toUpper)] ++
      f.samples.map (Sample.render f.kind))

end TopologyExporter
