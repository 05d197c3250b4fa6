import TopologyExporter.Filter.Target
import TopologyExporter.Json.Decoder
import TopologyExporter.Json.Value
import TopologyExporter.Text.Labels
import TopologyExporter.Topology.Model

/-!
# Target groups

One group for each process that the filters admit, on an instance that has an address: the
addresses of the instance under labels that say what runs there.

* `targetGroups` lists them in the order of the snapshot;
* `TargetGroup.toJson` and `TargetGroup.decoder` are the entries of the service discovery file.
-/

namespace TopologyExporter

open Json (Decoder)
open Json.Decoder (RecordField)

/-- Addresses that share one set of labels. -/
structure TargetGroup where
  targets : List String
  labels : Labels
deriving Repr, DecidableEq, Inhabited

/-! ## Flattening -/

/-- The label with the index of the instance. -/
def instanceIndexLabel : String := "__meta_bosh_job_instance_index"

/-- The label with the name of the job. -/
def instanceNameLabel : String := "__meta_bosh_job_instance_name"

/-- The label with the name of the process. -/
def processNameLabel : String := "__meta_bosh_job_process_name"

namespace TargetGroup

/-- The group of a process on an instance. -/
def ofProcess (i : Instance) (p : Workload) : TargetGroup where
  targets := i.ips
  labels := .ofList
    [(instanceIndexLabel, i.index), (instanceNameLabel, i.name), (processNameLabel, p.name)]

/-- The groups of the processes on an instance that the filters admit. -/
def ofInstance (f : TargetFilter) (i : Instance) : List TargetGroup :=
  (i.processes.filter fun p => f.admitsProcess p.name).map (ofProcess i)

end TargetGroup

/-- Whether an instance can have target groups: it has an address, and its zone is admitted. -/
def TargetFilter.admitsInstance (f : TargetFilter) (i : Instance) : Bool :=
  !i.ips.isEmpty && f.admitsZone i.zone

/-- The target groups of a snapshot. -/
def targetGroups (f : TargetFilter) (s : Snapshot) : List TargetGroup :=
  -- instances without addresses go first: no process of theirs can be reached
  ((s.flatMap Deployment.instances).filter f.admitsInstance).flatMap (TargetGroup.ofInstance f)

/-! ## As JSON -/

namespace TargetGroup

/-- A group as JSON. -/
def toJson (g : TargetGroup) : Json :=
  .object
    [("targets", .list (g.targets.map .text)),
      ("labels", .object (g.labels.entries.map fun e => (e.1, .text e.2)))]

/-- The value of a field of a group. -/
inductive Member
  | targets (items : List String)
  | labels (found : Labels)

/-- The targets, if these are they. -/
def Member.targets? : Member → Option (List String)
  | targets items => some items
  | _ => none

/-- The labels, if these are they. -/
def Member.labels? : Member → Option Labels
  | labels found => some found
  | _ => none

/-- The fields of a group. -/
def fields : List (RecordField Member) :=
  [⟨"targets", false, .targets <$> Decoder.list Decoder.text⟩,
    ⟨"labels", false, (fun entries => .labels (.ofList entries)) <$> Decoder.map Decoder.text⟩]

/-- The group of the values of its fields. -/
def build (values : List Member) : Except String TargetGroup := do
  let targets ← Decoder.required "targets" Member.targets? values
  let labels ← Decoder.required "labels" Member.labels? values
  pure ⟨targets, labels⟩

/-- Reads a group. -/
def decoder : Decoder TargetGroup := Decoder.record "struct TargetGroup" fields build

/-- The content of the service discovery file. -/
def encodeAll (groups : List TargetGroup) : Bytes :=
  Text.utf8 (Json.list (groups.map toJson)).render

end TargetGroup

end TopologyExporter
