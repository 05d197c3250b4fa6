import TopologyExporter.Pattern.Basic
import TopologyExporter.Text.Quoted

/-!
# Refused filters

Why the entries of a filter are refused.
-/

namespace TopologyExporter

/-- An entry that makes no filter: a process pattern that is none, or a collector not known. -/
inductive FilterError
  | invalidPattern (pattern : String) (reason : Pattern.Refusal)
  | unknownCollector (name : String)
deriving Repr, DecidableEq, Inhabited

namespace FilterError

/-- The text of the error. -/
def message : FilterError → String
  | invalidPattern pattern reason =>
    "invalid process pattern " ++ Text.quoted pattern ++ ": " ++ reason.message
  | unknownCollector name => "unknown collector " ++ Text.quoted name

/-- The text of the error behind this one. -/
def source? : FilterError → Option String
  | invalidPattern _ reason => some reason.message
  | unknownCollector _ => none

end FilterError

end TopologyExporter
