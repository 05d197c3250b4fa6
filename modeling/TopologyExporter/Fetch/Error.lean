import TopologyExporter.Files.Error
import TopologyExporter.Json.Fault
import TopologyExporter.Text.Quoted

/-!
# Fetch errors

Why the snapshot for a cycle could not be had.
-/

namespace TopologyExporter

/-- The failure of a fetch. -/
inductive FetchError
  | io (path : String) (reason : FileError)
  | decode (reason : Json.DecodeError)
  | unavailable (text : String)
deriving Repr, DecidableEq, Inhabited

namespace FetchError

/-- The text of the error behind this one. -/
def source? : FetchError → Option String
  | io _ reason => some reason.message
  | decode reason => some reason.message
  | unavailable _ => none

/-- The text of the error. -/
def message : FetchError → String
  | io path reason =>
    "failed to read topology from " ++ Text.quoted path ++ ": " ++ reason.message
  | decode reason => "failed to decode topology: " ++ reason.message
  | unavailable text => "topology source unavailable: " ++ text

end FetchError

end TopologyExporter
