import TopologyExporter.Fetch.Error
import TopologyExporter.Files.Tree
import TopologyExporter.Topology.Coding

/-!
# Topology files

Fetching a snapshot from a file that holds a list of deployments.
-/

namespace TopologyExporter

/-- The snapshot in the file at a path. -/
def fetchFile (t : FileTree) (path : String) : Except FetchError Snapshot :=
  match t.read path with
  | .error reason => .error (.io path reason)
  | .ok content => (Snapshot.decode content).mapError .decode

end TopologyExporter
