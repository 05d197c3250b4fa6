import TopologyExporter.Json.Decoder
import TopologyExporter.Json.Value

/-!
# Component health

How a part of the exporter is doing.
-/

namespace TopologyExporter

open Json (Decoder)
open Json.Decoder (RecordField)

/-- Healthy after a success; degraded when only older output can be served; unhealthy when there is
nothing useful to serve. -/
inductive Status
  | healthy
  | degraded
  | unhealthy
deriving Repr, DecidableEq, Inhabited

namespace Status

/-- The name of a status. -/
def name : Status → String
  | healthy => "healthy"
  | degraded => "degraded"
  | unhealthy => "unhealthy"

/-- Every status with its name. -/
def known : List (String × Status) :=
  [healthy, degraded, unhealthy].map fun s => (s.name, s)

/-- The worse of two. -/
def worse : Status → Status → Status
  | unhealthy, _ => unhealthy
  | _, unhealthy => unhealthy
  | degraded, _ => degraded
  | _, degraded => degraded
  | healthy, healthy => healthy

/-- The worst of all; without any, healthy. -/
def worst (statuses : List Status) : Status := statuses.foldl worse healthy

/-- A status as JSON. -/
def toJson (s : Status) : Json := .text s.name

/-- Reads a status. -/
def decoder : Decoder Status := Decoder.variant known

end Status

/-- The health of a component: how it is doing, a message if there is something to say, and the time
of the last check in seconds since 1970. -/
structure ComponentHealth where
  status : Status
  message : Option String
  checkedAt : Int
deriving Repr, DecidableEq, Inhabited

namespace ComponentHealth

/-- A healthy component at a time. -/
def healthy (now : Int) : ComponentHealth := ⟨.healthy, none, now⟩

/-- A degraded component at a time. -/
def degraded (message : String) (now : Int) : ComponentHealth := ⟨.degraded, some message, now⟩

/-- An unhealthy component at a time. -/
def unhealthy (message : String) (now : Int) : ComponentHealth :=
  ⟨.unhealthy, some message, now⟩

/-- A component's health as JSON; without a message there is no such member. -/
def toJson (h : ComponentHealth) : Json :=
  .object
    ([("status", h.status.toJson)] ++ (h.message.map fun m => ("message", .text m)).toList ++
      [("last_check_timestamp", .number h.checkedAt)])

/-- The value of a field of a component's health. -/
inductive Member
  | status (s : Status)
  | message (m : Option String)
  | checkedAt (n : Int)

namespace Member

/-- The status, if this is it. -/
def status? : Member → Option Status
  | status s => some s
  | _ => none

/-- The message, if this is it. -/
def message? : Member → Option (Option String)
  | message m => some m
  | _ => none

/-- The time of the check, if this is it. -/
def checkedAt? : Member → Option Int
  | checkedAt n => some n
  | _ => none

end Member

/-- The fields of a component's health. -/
def fields : List (RecordField Member) :=
  [⟨"status", false, .status <$> Status.decoder⟩,
    ⟨"message", false, .message <$> Decoder.option Decoder.text⟩,
    ⟨"last_check_timestamp", false, .checkedAt <$> Decoder.int64⟩]

/-- The health of the values of its fields. -/
def build (values : List Member) : Except String ComponentHealth := do
  let status ← Decoder.required "status" Member.status? values
  let checkedAt ← Decoder.required "last_check_timestamp" Member.checkedAt? values
  pure ⟨status, (values.findSome? Member.message?).join, checkedAt⟩

/-- Reads a component's health. -/
def decoder : Decoder ComponentHealth := Decoder.record "struct ComponentHealth" fields build

end ComponentHealth

end TopologyExporter
