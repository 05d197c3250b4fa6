import TopologyExporter.Metric.Family

/-!
# The exposition format

Families as text: their help and type, then a line for each sample.
-/

namespace TopologyExporter.Exposition

/-- The content type of the format. -/
def contentType : String := "text/plain; version=0.0.4"

/-- A text with backslashes and line feeds escaped, and quotes as well if it stands between them. -/
def escape (inQuotes : Bool) (s : String) : String :=
  String.ofList (s.toList.flatMap fun c =>
    match c with
    | '\\' => ['\\', '\\']
    | '\n' => ['\\', 'n']
    | '"' => if inQuotes then ['\\', '"'] else ['"']
    | c => [c])

/-- Labels between braces, if there are any. -/
def renderLabels (labels : Labels) : String :=
  match labels.entries with
  | [] => ""
  | entries =>
    "\x7b" ++ ",".intercalate (entries.map fun e => e.1 ++ "=\"" ++ escape true e.2 ++ "\"") ++
      "\x7d"

/-- The line of a sample. -/
def renderSample (name : String) (s : Sample) : String :=
  name ++ renderLabels s.labels ++ " " ++ s.value.plain ++ "\n"

/-- The lines of a family. A family needs a name and samples. -/
def renderFamily (f : Family) : Except MetricError String :=
  if f.samples.isEmpty then .error (.familyWithoutMetrics f.render)
  else if f.name = "" then .error (.familyWithoutName f.render)
  else
    let help :=
      if f.help = "" then "" else "# HELP " ++ f.name ++ " " ++ escape false f.help ++ "\n"
    .ok (help ++ "# TYPE " ++ f.name ++ " " ++ f.kind.name ++ "\n" ++
      String.join (f.samples.map (renderSample f.name)))

/-- The text of all families, unless one cannot be written. -/
def render (families : List Family) : Except MetricError String :=
  String.join <$> families.mapM renderFamily

end TopologyExporter.Exposition
