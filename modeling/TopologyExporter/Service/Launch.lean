import TopologyExporter.Files.Error
import TopologyExporter.Log.Filter
import TopologyExporter.Pattern.Compiled
import TopologyExporter.Service.Exporter

/-!
# Launching

What the program reports when it starts and when it ends.

* `launch` is the start, up to the point where requests are served;
* `shutdown` is the end.
-/

namespace TopologyExporter

/-- An event with the part of the program that it comes from. -/
structure Notice where
  part : String
  event : LogEvent
deriving Repr, DecidableEq, Inhabited

/-- The part of the program that puts it together. -/
def servicePart : String := "bosh_exporter"

/-- The part of the program that reports starts and ends. -/
def observabilityPart : String := "exporter_lib::observability"

/-- The version of the exporter. -/
def exporterVersion : String := "0.1.0"

/-- The start of the program: the notices up to its end, with the exporter if there is one. -/
structure Launch where
  notices : List Notice
  result : Except StartError (Settings × Exporter)
deriving Inhabited

/-- The notice of settings that have been read. -/
def configured (s : Settings) : Notice :=
  ⟨servicePart,
    .info "Exporter configured"
      [("environment", .text s.environment), ("bosh_name", .text s.directorName),
        ("sd_filename", .text s.targetsFile)]⟩

/-- Starts the program in an environment at the time `now`. -/
def launch (environment : Settings.Environment) (now : Nat) : Launch :=
  let starting : Notice := ⟨servicePart, .info "Starting bosh-exporter"⟩
  match Settings.load environment with
  | .error e => ⟨[starting], .error (.settings e)⟩
  | .ok s =>
    match Exporter.start s now with
    | .error e => ⟨[starting, configured s], .error e⟩
    | .ok exporter =>
      let started : LogEvent :=
        .exporterStarted s.directorName exporterVersion exporter.loop.orchestrator.names
      ⟨[starting, configured s, ⟨observabilityPart, started⟩], .ok (s, exporter)⟩

/-- The end of the program when requests are not served any more, perhaps because of an error. -/
def shutdown (director : String) (error : Option FileError) : List Notice :=
  let stopped := error.map fun e =>
    (⟨servicePart, .warn "API server stopped" [("error", .text e.message)]⟩ : Notice)
  stopped.toList ++
    [⟨observabilityPart, .exporterShutdown director "API server stopped"⟩,
      ⟨servicePart, .info "Shutting down"⟩]

/-- The error of a port that someone else listens on. -/
def addressInUse : FileError := .system 98

/-- A finished run of the program: its notices, what it writes to its error output, and its exit
code. -/
structure Finished where
  notices : List Notice
  errorOutput : String
  exitCode : Nat
deriving Repr, DecidableEq, Inhabited

/-- The run of the program when its port cannot be listened on, with the notices that its
environment asks for. -/
def runWithoutPort (environment : Settings.Environment) (reason : FileError) (now : Nat) :
    Finished :=
  let launched := launch environment now
  let shown := (LogFilter.ofEnvironment environment).shows
  let notices (all : List Notice) : List Notice := all.filter fun n => shown n.part n.event
  match launched.result with
  | .error e => ⟨notices launched.notices, e.report, 1⟩
  | .ok (s, _) => ⟨notices (launched.notices ++ shutdown s.directorName (some reason)), "", 0⟩

end TopologyExporter
