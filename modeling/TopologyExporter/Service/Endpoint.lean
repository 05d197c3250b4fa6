import TopologyExporter.Metric.Exposition
import TopologyExporter.Service.Exporter

/-!
# Endpoints

What the exporter answers to requests: its metrics, and the probes for health and readiness.
-/

namespace TopologyExporter

/-- A request by its method and its target. -/
structure Request where
  method : String
  target : String
deriving Repr, DecidableEq, Inhabited

/-- An answer: its status, its content type, the methods that would have been allowed, and its
body. -/
structure Response where
  status : Nat
  contentType : Option String
  allow : Option String
  body : String
deriving Repr, DecidableEq, Inhabited

/-- What can be asked for. -/
inductive Endpoint
  | metrics
  | health
  | readiness
deriving Repr, DecidableEq, Inhabited

namespace Endpoint

/-- Every endpoint with its path. -/
def paths : List (String × Endpoint) :=
  [("/metrics", metrics), ("/healthz", health), ("/readyz", readiness)]

/-- The path of a target: what stands before the query and the fragment, and after the host if there
is one. -/
def path (target : String) : String :=
  let plain := target.toList.takeWhile fun c => c ≠ '?' && c ≠ '#'
  let afterScheme (scheme : String) : Option (List Char) :=
    if (scheme.toList).isPrefixOf (plain.map Char.toLower) then some (plain.drop scheme.length)
    else none
  -- a target may name a host, which is not looked at
  match afterScheme "http://" <|> afterScheme "https://" with
  | none => String.ofList plain
  | some rest =>
    match rest.dropWhile (· ≠ '/') with
    | [] => "/"
    | path => String.ofList path

/-- The endpoint of a path. -/
def ofPath? (path : String) : Option Endpoint := (paths.find? (·.1 = path)).map Prod.snd

end Endpoint

namespace Response

/-- An answer with a text. -/
def text (status : Nat) (contentType body : String) : Response :=
  ⟨status, some contentType, none, body⟩

/-- An answer without content. -/
def empty (status : Nat) : Response := ⟨status, none, none, ""⟩

/-- The answer of a probe: bad if the service is not available. -/
def probe (available : Bool) (body : Json) : Response :=
  text (if available then 200 else 503) "application/json" body.render

end Response

namespace Exporter

/-- The methods that endpoints allow. -/
def allowedMethods : List String := ["GET", "HEAD"]

/-- The text of all metrics. Where they cannot be written, the answer says so. -/
def metricsAnswer (e : Exporter) : Response × List LogEvent :=
  match Exposition.render e.gather with
  | .ok body => (.text 200 Exposition.contentType body, [])
  | .error reason =>
    (.text 500 "text/plain; charset=utf-8" reason.message,
      [.warn "Failed to encode metrics" [("error", .text reason.message)]])

/-- The answer of an endpoint, with the events that go with it. The health probe fails only while a
component is unhealthy. -/
def answer (e : Exporter) : Endpoint → Response × List LogEvent
  | .metrics => e.metricsAnswer
  | .health =>
    let health := e.loop.health.health
    (.probe (health.status ≠ .unhealthy) health.toJson, [])
  | .readiness =>
    let readiness := e.loop.health.readiness
    (.probe readiness.ready readiness.toJson, [])

/-- The answer to a request. The answer to `HEAD` is that to `GET` without its body. -/
def respond (e : Exporter) (r : Request) : Response × List LogEvent :=
  match Endpoint.ofPath? (Endpoint.path r.target) with
  | none => (.empty 404, [])
  | some endpoint =>
    if !allowedMethods.contains r.method then
      ({ Response.empty 405 with allow := some (",".intercalate allowedMethods) }, [])
    else
      let (response, events) := e.answer endpoint
      (if r.method = "HEAD" then { response with body := "" } else response, events)

end Exporter

end TopologyExporter
