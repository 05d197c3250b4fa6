import Std.Time.DateTime.Timestamp
import TopologyExporter.Loop.Timetable
import TopologyExporter.Service.Endpoint
import TopologyExporter.Service.Launch

/-!
# The program

Reads its settings from the environment, runs cycles on the topology file, and answers requests that
come as lines of standard input, each a method and a target. Notices and answers are lines of JSON
on standard output.

Everything is decided elsewhere: this module reads files, clocks and lines, and writes what comes of
them.
-/

namespace TopologyExporter

/-! ## Lines -/

/-- A notice as JSON. -/
def Notice.toJson (n : Notice) : Json :=
  let field : String × LogValue → String × Json
    | (name, .text s) => (name, .text s)
    | (name, .number n) => (name, .number n)
  .object
    [("level", .text n.event.level.name),
      ("fields", .object (("message", .text n.event.message) :: n.event.fields.map field)),
      ("target", .text n.part)]

/-- An answer as JSON. -/
def Response.toJson (r : Response) : Json :=
  let header (name : String) (value : Option String) : List (String × Json) :=
    (value.map fun v => (name, .text v)).toList
  .object
    ([("status", .number r.status)] ++ header "content_type" r.contentType ++
      header "allow" r.allow ++ [("body", .text r.body)])

/-- The request of a line: a method and a target with a blank between them. -/
def Request.ofLine (line : String) : Request :=
  match (Text.split ' ' (Text.trim line)).filter (· ≠ "") with
  | [] => ⟨"GET", "/"⟩
  | [target] => ⟨"GET", target⟩
  | method :: target :: _ => ⟨method, target⟩

/-- The variables of an environment block: each a name and a value with an equals sign between them,
and a zero byte after it. -/
def environmentOfBlock (block : Bytes) : Settings.Environment :=
  (Text.split '\x00' (Text.decodeLossy block)).filterMap fun entry =>
    let cs := entry.toList
    let name := cs.takeWhile (· ≠ '=')
    if name.isEmpty then none else some
      (String.ofList name, String.ofList (cs.drop (name.length + 1)))

/-- Writes the notices that a filter shows. -/
def writeNotices (filter : LogFilter) (notices : List Notice) : IO Unit :=
  notices.forM fun n =>
    if filter.shows n.part n.event then IO.println n.toJson.render else pure ()

/-! ## Files and clocks -/

/-- The content of a file, if it can be read. -/
def readFile? (path : String) : IO (Option Bytes) := do
  match ← (IO.FS.readBinFile path).toBaseIO with
  | .ok content => pure (some content.toList)
  | .error _ => pure none

/-- Adds the directory of a path to a tree if it is there. Reading a directory as a file fails
either way, but not because there is nothing. -/
def loadDirectory (tree : FileTree) (path : String) : IO FileTree := do
  let directory := Path.directory path
  match ← (IO.FS.readBinFile directory).toBaseIO with
  | .error (.noFileOrDirectory _ _ _) => pure tree
  | _ => pure ((tree.makeDirectories directory).toOption.getD tree)

/-- The files that a cycle works on. -/
def loadFiles (s : Settings) : IO FileTree := do
  let tree ← loadDirectory (← loadDirectory .empty s.topologyFile) s.targetsFile
  match ← readFile? s.topologyFile with
  | none => pure tree
  | some content => pure ((tree.write s.topologyFile content).toOption.getD tree)

/-- Puts the targets file of a tree where it belongs, by renaming a temporary file over it. -/
def storeTargets (s : Settings) (tree : FileTree) : IO Unit := do
  match tree.read s.targetsFile with
  | .error _ => pure ()
  | .ok content =>
    let temporary := s.targetsFile ++ ".tmp"
    IO.FS.writeBinFile temporary ⟨content.toArray⟩
    IO.FS.rename temporary s.targetsFile

/-- The seconds since 1970. -/
def currentTime : IO Nat := do
  pure (← Std.Time.Timestamp.now).toSecondsSinceUnixEpoch.toInt.toNat

/-! ## Running -/

/-- Runs a cycle. -/
def runCycle (s : Settings) (filter : LogFilter) (e : Exporter) : IO Exporter := do
  let tree ← loadFiles s
  let now ← currentTime
  let clock : CycleClock := ⟨now, ⟨fun _ => ⟨now, .ofMillis 0⟩, .ofMillis 0⟩⟩
  match e.loop.runOnce ⟨tree, []⟩ clock with
  | .error _ => pure e
  | .ok cycle =>
    storeTargets s cycle.storage.tree
    writeNotices filter (cycle.events.map fun event => ⟨observabilityPart, event⟩)
    pure { e with loop := cycle.loop }

/-- Answers requests until the input ends, and runs a cycle before each as soon as one is due. -/
partial def serve (s : Settings) (filter : LogFilter) (e : Exporter) (timetable : Timetable) :
    IO Unit := do
  let line ← (← IO.getStdin).getLine
  if line.isEmpty then pure ()
  else
    let now ← IO.monoMsNow
    let isDue := timetable.due ≤ now
    let e ← if isDue then runCycle s filter e else pure e
    let timetable :=
      if isDue then { timetable with now }.tick s.scrapeInterval.ceilMillis 0 else timetable
    let (response, events) := e.respond (.ofLine line)
    writeNotices filter (events.map fun event => ⟨servicePart, event⟩)
    IO.println response.toJson.render
    (← IO.getStdout).flush
    serve s filter e timetable

/-- Runs the program and gives its exit code. -/
def runProgram : IO UInt32 := do
  let environment := environmentOfBlock ((← readFile? "/proc/self/environ").getD [])
  let filter := LogFilter.ofEnvironment environment
  let launched := launch environment (← currentTime)
  writeNotices filter launched.notices
  match launched.result with
  | .error e =>
    (← IO.getStderr).putStr e.report
    pure 1
  | .ok (s, exporter) =>
    let exporter ← runCycle s filter exporter
    let now ← IO.monoMsNow
    serve s filter exporter ⟨now, now + s.scrapeInterval.ceilMillis⟩
    writeNotices filter (shutdown s.directorName none)
    pure 0

end TopologyExporter

def main : IO UInt32 := TopologyExporter.runProgram
