import TopologyExporter.Health.Status
import TopologyExporter.Text.Keyed

/-!
# Health answers

What the probes answer: the health of all components together, and whether the exporter is ready.
-/

namespace TopologyExporter

open Json (Decoder)
open Json.Decoder (RecordField)

/-- The health of every component, and the overall status. -/
structure HealthAnswer where
  status : Status
  components : Keyed String ComponentHealth
deriving Repr, DecidableEq, Inhabited

/-- The worst status of some components. -/
def worstStatus (components : Keyed String ComponentHealth) : Status :=
  .worst (components.values.map ComponentHealth.status)

namespace HealthAnswer

/-- The answer for some components: the overall status is the worst. -/
def ofComponents (components : Keyed String ComponentHealth) : HealthAnswer :=
  ⟨worstStatus components, components⟩

/-- The answer as JSON. -/
def toJson (a : HealthAnswer) : Json :=
  .object
    [("status", a.status.toJson),
      ("components", .object (a.components.entries.map fun e => (e.1, e.2.toJson)))]

/-- The value of a field of the answer. -/
inductive Member
  | status (s : Status)
  | components (entries : Keyed String ComponentHealth)

/-- The status, if this is it. -/
def Member.status? : Member → Option Status
  | status s => some s
  | _ => none

/-- The components, if these are they. -/
def Member.components? : Member → Option (Keyed String ComponentHealth)
  | components entries => some entries
  | _ => none

/-- The fields of the answer. -/
def fields : List (RecordField Member) :=
  [⟨"status", false, .status <$> Status.decoder⟩,
    ⟨"components", false,
      (fun entries => .components (.ofList entries)) <$> Decoder.map ComponentHealth.decoder⟩]

/-- The answer of the values of its fields. -/
def build (values : List Member) : Except String HealthAnswer := do
  let status ← Decoder.required "status" Member.status? values
  let components ← Decoder.required "components" Member.components? values
  pure ⟨status, components⟩

/-- Reads an answer. -/
def decoder : Decoder HealthAnswer := Decoder.record "struct HealthResponse" fields build

end HealthAnswer

/-- Whether the exporter is ready, and why not. -/
structure ReadinessAnswer where
  ready : Bool
  reason : Option String
deriving Repr, DecidableEq, Inhabited

namespace ReadinessAnswer

/-- The answer as JSON; without a reason there is no such member. -/
def toJson (a : ReadinessAnswer) : Json :=
  .object ([("ready", .bool a.ready)] ++ (a.reason.map fun r => ("reason", .text r)).toList)

/-- The value of a field of the answer. -/
inductive Member
  | ready (b : Bool)
  | reason (r : Option String)

/-- Whether it is ready, if this is it. -/
def Member.ready? : Member → Option Bool
  | ready b => some b
  | _ => none

/-- The reason, if this is it. -/
def Member.reason? : Member → Option (Option String)
  | reason r => some r
  | _ => none

/-- The fields of the answer. -/
def fields : List (RecordField Member) :=
  [⟨"ready", false, .ready <$> Decoder.boolean⟩,
    ⟨"reason", false, .reason <$> Decoder.option Decoder.text⟩]

/-- The answer of the values of its fields. -/
def build (values : List Member) : Except String ReadinessAnswer := do
  let ready ← Decoder.required "ready" Member.ready? values
  pure ⟨ready, (values.findSome? Member.reason?).join⟩

/-- Reads an answer. -/
def decoder : Decoder ReadinessAnswer := Decoder.record "struct ReadinessResponse" fields build

end ReadinessAnswer

end TopologyExporter
