import TopologyExporter.Metric.Family
import TopologyExporter.Text.Keyed

/-!
# The metric registry

Sources of families announce the descriptors of what they may give. A registry refuses descriptors
that clash with those it has, and gathers the families of all its sources by name.
-/

namespace TopologyExporter

/-- The sources that have been registered, with the descriptors they brought: the identity of each,
and for each name the shape that all descriptors of that name have. -/
structure Registry (σ : Type) where
  identities : List (List String)
  shapes : Keyed String (List String)
  sources : List σ
  hasUndescribed : Bool
deriving Repr, DecidableEq

namespace Registry

variable {σ : Type}

/-- A registry without sources. -/
def empty : Registry σ := ⟨[], .empty, [], false⟩

instance : Inhabited (Registry σ) := ⟨empty⟩

/-- Checks the descriptors of a source one after the other against those of the registry and those
of the source before it. Shapes stay known even if a later descriptor is refused. -/
def enroll (r : Registry σ) (own : List (List String)) :
    List Descriptor → Except MetricError (List (List String)) × Keyed String (List String)
  | [] => (.ok own, r.shapes)
  | d :: rest =>
    if r.identities.contains d.identity then (.error .alreadyRegistered, r.shapes)
    else if (r.shapes.get? d.name).any (· ≠ d.shape) then
      (.error (.conflictingDescriptor d.render), r.shapes)
    else
      -- known from here on, even if this very descriptor is refused next
      let shapes := r.shapes.put d.name d.shape
      if own.contains d.identity then (.error (.repeatedDescriptor d.name), shapes)
      else { r with shapes }.enroll (d.identity :: own) rest

/-- Registers a source with its descriptors. Only one source may come without any. -/
def register (r : Registry σ) (descriptors : List Descriptor) (source : σ) :
    Except MetricError Unit × Registry σ :=
  match r.enroll [] descriptors with
  | (.error e, shapes) => (.error e, { r with shapes })
  | (.ok own, shapes) =>
    if descriptors.isEmpty && r.hasUndescribed then (.error .alreadyRegistered, { r with shapes })
    else
      (.ok (),
        ⟨own ++ r.identities, shapes, r.sources ++ [source],
          r.hasUndescribed || descriptors.isEmpty⟩)

/-! ## Gathering -/

/-- Whether values come before others or equal them, the first that differ deciding. -/
def valuesLe : List String → List String → Bool
  | a :: as, b :: bs => if a = b then valuesLe as bs else a < b
  | [], _ => true
  | _ :: _, [] => false

/-- Whether a sample comes before another, by the number of labels and then by their values. -/
def sampleLe (a b : Sample) : Bool :=
  let x := a.labels.entries.map Prod.snd
  let y := b.labels.entries.map Prod.snd
  if x.length = y.length then valuesLe x y else x.length ≤ y.length

/-- Adds a family to those gathered so far, which are in the order of their names. The samples of a
name that is there already are added to it. -/
def merge (f : Family) : List Family → List Family
  | [] => [f]
  | g :: rest =>
    if f.name < g.name then f :: g :: rest
    -- the first family of a name decides its help and its kind
    else if f.name = g.name then { g with samples := g.samples ++ f.samples } :: rest
    else g :: merge f rest

/-- Families by name, without those that have no samples. -/
def gatherAll (families : List Family) : List Family :=
  let merged := (families.filter fun f => !f.samples.isEmpty).foldl (fun acc f => merge f acc) []
  merged.map fun f => { f with samples := f.samples.mergeSort sampleLe }

/-- The families of all sources. -/
def gather (r : Registry σ) (collect : σ → List Family) : List Family :=
  gatherAll (r.sources.flatMap collect)

end Registry

end TopologyExporter
