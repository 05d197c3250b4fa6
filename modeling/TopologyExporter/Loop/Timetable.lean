/-!
# Timetables

When the cycles of a loop start. The first is due at once. A cycle that starts on time or a little
late puts the next one a period after it was due; one that starts later puts it a period after its
start, so that cycles that were missed are never made up for.

* `Timetable.tick` is a cycle;
* `Timetable.tickReady` and `Timetable.signalReady` say what may happen next when a signal to stop
  comes at some time.
-/

namespace TopologyExporter

/-- How late a cycle may start, in milliseconds, without moving those after it. -/
def lateness : Nat := 5

/-- Where a loop stands between two cycles: the time, and when the next cycle is due, in
milliseconds since its start. -/
structure Timetable where
  now : Nat
  due : Nat
deriving Repr, DecidableEq, Inhabited

namespace Timetable

/-- The start of a loop. -/
def start : Timetable := ⟨0, 0⟩

/-- When the next cycle starts if nothing stops it. -/
def next (t : Timetable) : Nat := max t.now t.due

/-- When the cycle after one is due, which was due at `due` and started at `seen`. -/
def dueAfter (period due seen : Nat) : Nat :=
  -- a small delay is caught up with, a greater one moves everything after it
  if due + lateness < seen then seen + period else due + period

/-- Goes through the next cycle, which takes `length` milliseconds. -/
def tick (t : Timetable) (period length : Nat) : Timetable :=
  ⟨t.next + length, dueAfter period t.due t.next⟩

/-- When a signal that comes at `time` is noticed. -/
def noticed (t : Timetable) (time : Nat) : Nat := max t.now time

/-- Whether a cycle may start although a signal comes at `time`. -/
def tickReady (t : Timetable) (time : Nat) : Bool := t.next ≤ t.noticed time

/-- Whether a signal that comes at `time` may be taken before the next cycle starts. -/
def signalReady (t : Timetable) (time : Nat) : Bool := t.noticed time ≤ t.next

end Timetable

end TopologyExporter
