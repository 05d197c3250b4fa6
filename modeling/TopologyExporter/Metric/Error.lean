import TopologyExporter.Text.Quoted

/-!
# Metric errors

Why a metric cannot be built, registered or written.
-/

namespace TopologyExporter

/-- An error of metrics. `other` has a text of its own. -/
inductive MetricError
  | emptyHelp
  | invalidName (name : String)
  | invalidLabel (name : String)
  | alreadyRegistered
  | repeatedDescriptor (name : String)
  | conflictingDescriptor (shown : String)
  | familyWithoutMetrics (shown : String)
  | familyWithoutName (shown : String)
  | other (text : String)
deriving Repr, DecidableEq, Inhabited

namespace MetricError

/-- What is wrong. -/
def reason : MetricError → String
  | emptyHelp => "empty help string"
  | invalidName name => "'" ++ name ++ "' is not a valid metric name"
  | invalidLabel name => "'" ++ name ++ "' is not a valid label name"
  | alreadyRegistered => "Duplicate metrics collector registration attempted"
  | repeatedDescriptor name =>
    "a duplicate descriptor within the same collector the same fully-qualified name: " ++
      Text.quoted name
  | conflictingDescriptor shown =>
    "a previously registered descriptor with the same fully-qualified name as " ++ shown ++
      " has different label names or a different help string"
  | familyWithoutMetrics shown => "MetricFamily has no metrics: " ++ shown
  | familyWithoutName shown => "MetricFamily has no name: " ++ shown
  | other text => text

/-- The text of the error. -/
def message : MetricError → String
  | alreadyRegistered => reason alreadyRegistered
  | e => "Error: " ++ e.reason

end MetricError

end TopologyExporter
