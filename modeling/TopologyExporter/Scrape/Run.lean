import TopologyExporter.Scrape.Task

/-!
# Runs

One scrape while it goes on: a task for each collector, one channel into which all of them send, and
one consumer that receives. Tasks share a deadline; a task that cannot go on when it has passed
times out.

* `Run.move?` is what one move makes of a run, whatever the order of moves;
* `Run.next?` picks a move, and `Run.finish` follows it to the end.

Time passes only when `Run.next?` finds nothing else to do, so that sending and receiving take none.
-/

namespace TopologyExporter

/-- The files, and the jobs that no task waits for any more. -/
structure Storage where
  tree : FileTree
  abandoned : List StagingJob
deriving Repr, DecidableEq, Inhabited

/-- A scrape under way. The time is in milliseconds since it began. -/
structure Run where
  tasks : List Task
  limit : Duration
  channel : Channel SinkItem
  received : List SinkItem
  now : Nat
  storage : Storage
deriving Repr, DecidableEq, Inhabited

/-- A move of a run. Tasks are given by their position. -/
inductive Move
  /-- A task goes on by one step. -/
  | proceed (task : Nat)
  /-- A task that cannot go on times out. -/
  | expire (task : Nat)
  /-- The job that a task waits for does its work. -/
  | stage (task : Nat)
  /-- The consumer receives an item. -/
  | receive
  /-- A job without a task does its work, or its result is thrown away. -/
  | sweep (job : Nat)
  /-- The time of the next event comes. -/
  | advance
deriving Repr, DecidableEq, Inhabited

namespace Run

/-- A run at its beginning. -/
def start (calls : List (String × Call)) (limit : Duration) (channel : Channel SinkItem)
    (storage : Storage) : Run :=
  ⟨calls.map fun c => .start c.1 c.2, limit, channel, [], 0, storage⟩

/-- When tasks time out. -/
def deadline (r : Run) : Nat := r.limit.ceilMillis

/-- Whether all tasks are over and all they sent is received. -/
def isOver (r : Run) : Bool := r.tasks.all Task.hasEnded && r.channel.waiting.isEmpty

/-- Whether a task can go on. -/
def canProceed (r : Run) (t : Task) : Bool :=
  (t.proceed? r.channel r.storage.tree r.now).isSome

/-- The times of events to come: the wake times of tasks, and the deadline unless all are over. -/
def timers (r : Run) : List Nat :=
  -- without this nothing would wake a run whose calls all hang
  let deadline := if r.tasks.all Task.hasEnded then [] else [r.deadline]
  (r.tasks.filterMap Task.wake? ++ deadline).filter (r.now < ·)

/-! ## Moves -/

/-- A task goes on. -/
def proceed? (r : Run) (i : Nat) : Option Run := do
  let t ← r.tasks[i]?
  let (t, channel, tree) ← t.proceed? r.channel r.storage.tree r.now
  pure { r with tasks := r.tasks.set i t, channel, storage := { r.storage with tree } }

/-- A task times out; the job it waits for is left behind. -/
def expire? (r : Run) (i : Nat) : Option Run := do
  let t ← r.tasks[i]?
  if t.hasEnded || r.canProceed t || r.now < r.deadline then none
  else
    some { r with
      tasks := r.tasks.set i (t.finish (some (.timeout t.collector r.limit)))
      storage := { r.storage with abandoned := r.storage.abandoned ++ t.job?.toList } }

/-- The job of a task does its work. -/
def stage? (r : Run) (i : Nat) : Option Run := do
  let t ← r.tasks[i]?
  let job ← t.job?
  if job.isOver then none
  else
    let (job, tree) := job.finish r.storage.tree
    some { r with
      tasks := r.tasks.set i { t with activity := .staging job }
      storage := { r.storage with tree } }

/-- The consumer receives. -/
def receive? (r : Run) : Option Run := do
  let (item, channel) ← r.channel.receive
  pure { r with channel, received := r.received ++ [item] }

end Run

/-- A job that no task waits for goes on: it does its work, or its result is thrown away. -/
def Storage.sweep? (s : Storage) (i : Nat) : Option Storage := do
  let job ← s.abandoned[i]?
  if job.isOver then some ⟨job.drop s.tree, s.abandoned.eraseIdx i⟩
  else
    let (job, tree) := job.finish s.tree
    some ⟨tree, s.abandoned.set i job⟩

namespace Run

/-- The time of the next event comes. -/
def advance? (r : Run) : Option Run := do
  let time ← r.timers.min?
  pure { r with now := time }

/-- What a move makes of a run, if it can be made. -/
def move? (r : Run) : Move → Option Run
  | .proceed i => r.proceed? i
  | .expire i => r.expire? i
  | .stage i => r.stage? i
  | .receive => r.receive?
  | .sweep i => do
    let storage ← r.storage.sweep? i
    pure { r with storage }
  | .advance => r.advance?

/-! ## The order of moves -/

/-- The first task that satisfies a test. -/
def first? (r : Run) (test : Task → Bool) (move : Nat → Move) : Option Move :=
  (r.tasks.findIdx? test).map move

/-- The next move: tasks go on in the order of registration as far as they can, and time out if it
is late; then the consumer receives, jobs do their work, and time passes. -/
def next? (r : Run) : Option Move :=
  r.first? r.canProceed .proceed
    -- at its deadline a task still gets one chance to go on before it times out
    <|> (if r.now < r.deadline then none else r.first? (!·.hasEnded) .expire)
    -- only once all tasks wait does the consumer make room for them
    <|> (if r.channel.waiting.isEmpty then none else some .receive)
    -- jobs take no time of the clock that pauses and limits go by
    <|> r.first? (fun t => t.job?.any (!·.isOver)) .stage
    <|> (if r.storage.abandoned.isEmpty then none else some (.sweep 0))
    <|> (if r.timers.isEmpty then none else some .advance)

/-- At most this many moves are left. -/
def weight (r : Run) : Nat :=
  Task.total (fun t => t.weight r.now) r.tasks + r.channel.waiting.length +
    Task.total Task.jobWeight r.storage.abandoned + (if r.now < r.deadline then 1 else 0)

/-- The run after at most `moves` more moves. -/
def follow : (moves : Nat) → Run → Run
  | 0, r => r
  | moves + 1, r =>
    match r.next? >>= r.move? with
    | none => r
    | some r => follow moves r

/-- The run at its end. -/
def finish (r : Run) : Run := follow r.weight r

end Run

end TopologyExporter
