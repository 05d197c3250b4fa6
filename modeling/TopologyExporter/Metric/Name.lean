/-!
# Names of metrics and labels

Which texts can name a metric or a label, and how a name is put together with its namespace.
-/

namespace TopologyExporter

/-- Whether a name starts with a sign that satisfies `first`, all others being such or digits. -/
def isNameOf (first : Char → Bool) (name : String) : Bool :=
  match name.toList with
  | [] => false
  | c :: rest => first c && rest.all fun c => first c || c.isDigit

/-- Whether a text can name a metric: ASCII letters, digits, underscores and colons, no digit
first. -/
def isMetricName (name : String) : Bool :=
  isNameOf (fun c => c.isAlpha || c = '_' || c = ':') name

/-- Whether a text can name a label: ASCII letters, digits and underscores, no digit first. -/
def isLabelName (name : String) : Bool := isNameOf (fun c => c.isAlpha || c = '_') name

/-- A name in a namespace; in the empty one it stands for itself. No name stays none. -/
def qualifiedName (space name : String) : String :=
  if name = "" then "" else if space = "" then name else space ++ "_" ++ name

end TopologyExporter
