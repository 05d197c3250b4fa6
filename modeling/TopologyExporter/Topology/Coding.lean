import TopologyExporter.Json.Decoder
import TopologyExporter.Json.Value
import TopologyExporter.Topology.Model

/-!
# Topologies as JSON

Fields that are lists may be left out when they are empty, and so may the zone.
-/

namespace TopologyExporter

open Json (Decoder)
open Json.Decoder (RecordField)

/-! ## Processes -/

/-- A process as JSON. -/
def Workload.toJson (p : Workload) : Json := .object [("name", .text p.name)]

/-- The process of the value of its field. -/
def Workload.build (values : List String) : Except String Workload :=
  Workload.mk <$> Decoder.required "name" some values

/-- Reads a process. -/
def Workload.decoder : Decoder Workload :=
  Decoder.record "struct Process" [⟨"name", false, Decoder.text⟩] Workload.build

/-! ## Instances -/

/-- The value of a field of an instance. -/
inductive Instance.Member
  | name (s : String)
  | id (s : String)
  | index (s : String)
  | ips (items : List String)
  | zone (s : String)
  | processes (items : List Workload)

namespace Instance

/-- An instance as JSON. -/
def toJson (i : Instance) : Json :=
  .object
    [("name", .text i.name), ("id", .text i.id), ("index", .text i.index),
      ("ips", .list (i.ips.map .text)), ("az", .text i.zone),
      ("processes", .list (i.processes.map Workload.toJson))]

namespace Member

/-- The name of the job, if this is it. -/
def name? : Member → Option String
  | name s => some s
  | _ => none

/-- The identifier, if this is it. -/
def id? : Member → Option String
  | id s => some s
  | _ => none

/-- The index, if this is it. -/
def index? : Member → Option String
  | index s => some s
  | _ => none

/-- The addresses, if these are they. -/
def ips? : Member → Option (List String)
  | ips items => some items
  | _ => none

/-- The zone, if this is it. -/
def zone? : Member → Option String
  | zone s => some s
  | _ => none

/-- The processes, if these are they. -/
def processes? : Member → Option (List Workload)
  | processes items => some items
  | _ => none

end Member

/-- The fields of an instance. -/
def fields : List (RecordField Member) :=
  [⟨"name", false, .name <$> Decoder.text⟩, ⟨"id", false, .id <$> Decoder.text⟩,
    ⟨"index", false, .index <$> Decoder.text⟩,
    ⟨"ips", true, .ips <$> Decoder.list Decoder.text⟩,
    ⟨"az", true, .zone <$> Decoder.text⟩,
    ⟨"processes", true, .processes <$> Decoder.list Workload.decoder⟩]

/-- The instance of the values of its fields. -/
def build (values : List Member) : Except String Instance := do
  let name ← Decoder.required "name" Member.name? values
  let id ← Decoder.required "id" Member.id? values
  let index ← Decoder.required "index" Member.index? values
  pure ⟨name, id, index, (values.findSome? Member.ips?).getD [],
    (values.findSome? Member.zone?).getD "", (values.findSome? Member.processes?).getD []⟩

/-- Reads an instance. -/
def decoder : Decoder Instance := Decoder.record "struct Instance" fields build

end Instance

/-! ## Deployments -/

/-- The value of a field of a deployment. -/
inductive Deployment.Member
  | name (s : String)
  | instances (items : List Instance)

namespace Deployment

/-- A deployment as JSON. -/
def toJson (d : Deployment) : Json :=
  .object [("name", .text d.name), ("instances", .list (d.instances.map Instance.toJson))]

/-- The name, if this is it. -/
def Member.name? : Member → Option String
  | name s => some s
  | _ => none

/-- The instances, if these are they. -/
def Member.instances? : Member → Option (List Instance)
  | instances items => some items
  | _ => none

/-- The fields of a deployment. -/
def fields : List (RecordField Member) :=
  [⟨"name", false, .name <$> Decoder.text⟩,
    ⟨"instances", true, .instances <$> Decoder.list Instance.decoder⟩]

/-- The deployment of the values of its fields. -/
def build (values : List Member) : Except String Deployment := do
  let name ← Decoder.required "name" Member.name? values
  pure ⟨name, (values.findSome? Member.instances?).getD []⟩

/-- Reads a deployment. -/
def decoder : Decoder Deployment := Decoder.record "struct Deployment" fields build

end Deployment

namespace Snapshot

/-- A snapshot as JSON. -/
def toJson (s : Snapshot) : Json := .list (s.map Deployment.toJson)

/-- The snapshot that the content of a topology file stands for. -/
def decode (bytes : Bytes) : Except Json.DecodeError Snapshot :=
  Json.decode (Decoder.list Deployment.decoder) bytes

end Snapshot

end TopologyExporter
