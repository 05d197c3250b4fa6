import TopologyExporter.Collector.Basic
import TopologyExporter.Sink.Channel

/-!
# Tasks

A call of a collector under way. Its task goes through the steps of the call; where it has to wait,
for time, for room in the channel or for a file to be staged, others go on.

A file is staged by a job of its own, which does not end with the task that waits for it.
-/

namespace TopologyExporter

/-- The staging of a file: under way, or over with a staged file or an error that waits to be
taken. -/
inductive StagingJob
  | running (destination : String) (content : Bytes)
  | staged (file : StagedFile)
  | failed (error : CollectorError)
deriving Repr, DecidableEq, Inhabited

namespace StagingJob

/-- Whether the job is over. -/
def isOver : StagingJob → Bool
  | running _ _ => false
  | _ => true

/-- Does the work of a job. -/
def finish (tree : FileTree) : StagingJob → StagingJob × FileTree
  | running destination content =>
    match tree.stage destination ⟨content, none⟩ with
    | .ok (file, tree) => (staged file, tree)
    | .error e => (failed e, tree)
  | job => (job, tree)

/-- Throws away the result of a job, and the temporary file with it. -/
def drop (tree : FileTree) : StagingJob → FileTree
  | staged file => file.discard tree
  | _ => tree

end StagingJob

/-- What a task is doing. -/
inductive Activity
  /-- It goes on with its next step. -/
  | ready
  /-- It waits for a time. -/
  | asleep (wake : Nat)
  /-- It waits for a job. -/
  | staging (job : StagingJob)
  /-- It is over, with or without an error. -/
  | ended (error : Option CollectorError)
deriving Repr, DecidableEq, Inhabited

/-- A call under way: whose it is, the steps that are left, and what it is doing. -/
structure Task where
  collector : String
  steps : List CallStep
  ending : Ending
  activity : Activity
deriving Repr, DecidableEq, Inhabited

namespace Task

/-- The task of a call that has not begun. -/
def start (collector : String) (call : Call) : Task :=
  ⟨collector, call.steps, call.ending, .ready⟩

/-- Whether the task is over. -/
def hasEnded (t : Task) : Bool :=
  match t.activity with
  | .ended _ => true
  | _ => false

/-- The task when it is over. -/
def finish (t : Task) (error : Option CollectorError) : Task :=
  { t with steps := [], activity := .ended error }

/-- How the call ended; a task that is not over counts as aborted. -/
def outcome (t : Task) : Option CollectorError :=
  match t.activity with
  | .ended error => error
  | _ => some (.aborted t.collector)

/-- The time the task waits for, if it does. -/
def wake? (t : Task) : Option Nat :=
  match t.activity with
  | .asleep wake => some wake
  | _ => none

/-- The job the task waits for, if it does. -/
def job? (t : Task) : Option StagingJob :=
  match t.activity with
  | .staging job => some job
  | _ => none

/-- Goes on by one step at the time `now`, unless the task has to wait or is over. The channel and
the files are what it shares with others. -/
def proceed? (t : Task) (channel : Channel SinkItem) (tree : FileTree) (now : Nat) :
    Option (Task × Channel SinkItem × FileTree) :=
  match t.activity with
  | .ended _ => none
  | .asleep wake =>
    if wake ≤ now then some ({ t with activity := .ready }, channel, tree) else none
  | .staging (.running _ _) => none
  | .staging (.failed e) => some (t.finish (some e), channel, tree)
  | .staging (.staged file) =>
    -- the renaming is a step of the task: one that has timed out never gets here
    match file.commit tree with
    | (.ok (), tree) => some ({ t with activity := .ready }, channel, tree)
    | (.error e, tree) => some (t.finish (some e), channel, tree)
  | .ready =>
    match t.steps with
    | [] =>
      match t.ending with
      | .returns error => some (t.finish error, channel, tree)
      | .panics => some (t.finish (some (.panicked t.collector)), channel, tree)
      | .hangs => none
    | .pause time :: rest =>
      some ({ t with steps := rest, activity := .asleep (now + time) }, channel, tree)
    | .replace destination content :: rest =>
      some ({ t with steps := rest, activity := .staging (.running destination content) },
        channel, tree)
    | .send family :: rest =>
      match channel.send ⟨t.collector, family⟩ with
      | (.done, channel) => some ({ t with steps := rest }, channel, tree)
      -- it tries again when something has been received
      | (.blocked, _) => none
      | (.closed, channel) => some (t.finish (some .sinkClosed), channel, tree)

/-! ## Work that is left -/

/-- The weights of all items together. -/
def total {α : Type} (weight : α → Nat) : List α → Nat
  | [] => 0
  | item :: rest => weight item + total weight rest

/-- The moves that a step can take, with the receiving of what it sends. -/
def stepWeight : CallStep → Nat
  | .pause _ => 3
  | .send _ => 2
  | .replace _ _ => 3

/-- The moves that a job can take until its result is taken or thrown away. -/
def jobWeight (job : StagingJob) : Nat := if job.isOver then 1 else 2

/-- The moves that a task can take from the time `now` on. -/
def weight (t : Task) (now : Nat) : Nat :=
  let activity :=
    match t.activity with
    | .ready => 1
    | .asleep wake => if now < wake then 3 else 2
    | .staging job => 1 + jobWeight job
    | .ended _ => 0
  total stepWeight t.steps + activity

end Task

end TopologyExporter
