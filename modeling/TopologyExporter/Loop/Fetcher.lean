import TopologyExporter.Fetch.File

/-!
# Fetchers

Where the snapshots of the scrape loop come from.
-/

namespace TopologyExporter

/-- What a fetch gave, and how many milliseconds it took. -/
structure Fetched where
  result : Except FetchError Snapshot
  elapsed : Nat
deriving Inhabited

/-- A source of snapshots. Its fetches are numbered from zero; they may depend on the files. -/
abbrev Fetcher := (number : Nat) → FileTree → Fetched

namespace Fetcher

/-- Fetches from the file at a path. -/
def ofFile (path : String) : Fetcher := fun _ tree => ⟨fetchFile tree path, 0⟩

/-- Always gives the same snapshot. -/
def fixed (s : Snapshot) : Fetcher := fun _ _ => ⟨.ok s, 0⟩

end Fetcher

end TopologyExporter
