import TopologyExporter.Loop.Cycle
import TopologyExporter.Loop.Timetable

/-!
# Sessions

A loop that runs cycle after cycle until a signal to stop comes. A cycle that has begun is never cut
short; when a cycle and the signal are ready at the same time, the signal is taken.
-/

namespace TopologyExporter

/-- A loop while it runs: where it stands, the files, the events and the starts of cycles so far. -/
structure Session where
  loop : ScrapeLoop
  storage : Storage
  timetable : Timetable
  events : List LogEvent
  starts : List Nat
deriving Inhabited

namespace Session

/-- The event of a loop that starts to run. -/
def startEvent (l : ScrapeLoop) : LogEvent :=
  .info "Starting scrape loop"
    [("interval_secs", .number l.interval.wholeSeconds),
      ("collectors", .text (Text.quotedList l.orchestrator.names))]

/-- The event of a loop that stops. -/
def stopEvent : LogEvent := .info "Shutting down scrape loop"

/-- A loop that starts to run. -/
def start (l : ScrapeLoop) (storage : Storage) : Session :=
  ⟨l, storage, .start, [startEvent l], []⟩

/-- Runs the next cycle. -/
def cycle (s : Session) (clock : CycleClock) : Except CapacityError Session := do
  let c ← s.loop.runOnce s.storage clock
  pure {
    loop := c.loop
    storage := c.storage
    timetable := s.timetable.tick s.loop.interval.ceilMillis c.elapsed
    events := s.events ++ c.events
    starts := s.starts ++ [s.timetable.next] }

/-- Runs at most `cycles` cycles, as long as no signal at `time` is ready to be taken. The clocks
show `clock n` during cycle `n`. -/
def runFor (clock : Nat → CycleClock) (time : Nat) :
    (cycles : Nat) → Session → Except CapacityError Session
  | 0, s => .ok s
  | cycles + 1, s =>
    -- the signal comes first when both are ready
    if s.timetable.signalReady time then .ok s
    else do runFor clock time cycles (← s.cycle (clock s.loop.cycles))

/-- Runs a loop until it stops after a signal at `time`. Cycles are due at least a millisecond
apart, so that no more than `time + 1` of them come before the signal. -/
def run (l : ScrapeLoop) (storage : Storage) (clock : Nat → CycleClock) (time : Nat) :
    Except CapacityError Session := do
  let s ← runFor clock time (time + 1) (start l storage)
  pure { s with events := s.events ++ [stopEvent] }

end Session

end TopologyExporter
