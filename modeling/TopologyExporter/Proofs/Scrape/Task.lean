import TopologyExporter.Scrape.Run

/-!
# Tasks — the ways to go on

One step of a task, said as a relation: which tasks can go on, and everything that a step changes.
What runs keep is proved from these ways alone.

## Results

* `Task.proceed?_eq_some_iff`  — `Task.proceed?` takes exactly the ways of `Task.Proceeds`.
* `Task.Waits.of_proceed?`     — a task that cannot go on waits for something.
* `Call.Result`                — the results that a call can come to while its sink is open.
-/

namespace TopologyExporter

-- ---------------------------------------------------------------------------
-- What a call sends and comes to
-- ---------------------------------------------------------------------------

/-- The family that a step sends, if it does. -/
def CallStep.family? : CallStep → Option Family
  | .send family => some family
  | _ => none

/-- The families of some steps, in order. -/
def familiesOfSteps (steps : List CallStep) : List Family := steps.filterMap CallStep.family?

/-- The complete output of a call. -/
def Call.output (c : Call) : List Family := familiesOfSteps c.steps

/-- The results that a call of a collector can come to under a limit while someone receives what it
sends: its own ending, the error of one of its own files, or the limit. -/
inductive Call.Result (collector : String) (limit : Duration) (c : Call) :
    Option CollectorError → Prop
  | returned {error : Option CollectorError} (hEnding : c.ending = .returns error) :
      Result collector limit c error
  | panicked (hEnding : c.ending = .panics) : Result collector limit c (some (.panicked collector))
  | notReplaced {destination : String} {content : Bytes} {reason : FileError}
      (hStep : .replace destination content ∈ c.steps) :
      Result collector limit c (some (.persistence destination reason))
  | timedOut : Result collector limit c (some (.timeout collector limit))

-- ---------------------------------------------------------------------------
-- One step
-- ---------------------------------------------------------------------------

namespace Task

/-- A task that is over has ended in some way. -/
theorem exists_ended {t : Task} (h : t.hasEnded = true) : ∃ error, t.activity = .ended error := by
  unfold hasEnded at h
  split at h
  case h_1 error hEnded => exact ⟨error, hEnded⟩
  case h_2 => simp at h

/-- A task with a job waits for it. -/
theorem activity_of_job? {t : Task} {job : StagingJob} (h : t.job? = some job) :
    t.activity = .staging job := by
  unfold job? at h
  split at h
  case h_1 hActivity => rw [hActivity, Option.some.inj h]
  case h_2 => simp at h

/-- The ways in which a task goes on by one step, each with the task, the channel and the files
after it. -/
inductive Proceeds (t : Task) (channel : Channel SinkItem) (tree : FileTree) (now : Nat) :
    Task → Channel SinkItem → FileTree → Prop
  | wakes {wake : Nat} (hAsleep : t.activity = .asleep wake) (hNow : wake ≤ now) :
      Proceeds t channel tree now { t with activity := .ready } channel tree
  | learnsFailure {error : CollectorError} (hJob : t.activity = .staging (.failed error)) :
      Proceeds t channel tree now (t.finish (some error)) channel tree
  | commits {file : StagedFile} {tree' : FileTree} (hJob : t.activity = .staging (.staged file))
      (hCommit : file.commit tree = (.ok (), tree')) :
      Proceeds t channel tree now { t with activity := .ready } channel tree'
  | failsToCommit {file : StagedFile} {error : CollectorError} {tree' : FileTree}
      (hJob : t.activity = .staging (.staged file))
      (hCommit : file.commit tree = (.error error, tree')) :
      Proceeds t channel tree now (t.finish (some error)) channel tree'
  | returns {error : Option CollectorError} (hReady : t.activity = .ready) (hSteps : t.steps = [])
      (hEnding : t.ending = .returns error) :
      Proceeds t channel tree now (t.finish error) channel tree
  | panics (hReady : t.activity = .ready) (hSteps : t.steps = []) (hEnding : t.ending = .panics) :
      Proceeds t channel tree now (t.finish (some (.panicked t.collector))) channel tree
  | pauses {time : Nat} {rest : List CallStep} (hReady : t.activity = .ready)
      (hSteps : t.steps = .pause time :: rest) :
      Proceeds t channel tree now { t with steps := rest, activity := .asleep (now + time) }
        channel tree
  | stages {destination : String} {content : Bytes} {rest : List CallStep}
      (hReady : t.activity = .ready) (hSteps : t.steps = .replace destination content :: rest) :
      Proceeds t channel tree now
        { t with steps := rest, activity := .staging (.running destination content) } channel tree
  | sends {family : Family} {rest : List CallStep} (hReady : t.activity = .ready)
      (hSteps : t.steps = .send family :: rest) (hOpen : channel.isOpen = true)
      (hRoom : channel.waiting.length < channel.capacity) :
      Proceeds t channel tree now { t with steps := rest }
        { channel with waiting := channel.waiting ++ [⟨t.collector, family⟩] } tree
  | findsClosed {family : Family} {rest : List CallStep} (hReady : t.activity = .ready)
      (hSteps : t.steps = .send family :: rest) (hClosed : channel.isOpen = false) :
      Proceeds t channel tree now (t.finish (some .sinkClosed)) channel tree

variable {t t' : Task} {channel channel' : Channel SinkItem} {tree tree' : FileTree} {now : Nat}

private theorem after_inj (h : some (t, channel, tree) = some (t', channel', tree')) :
    t = t' ∧ channel = channel' ∧ tree = tree' := by
  simpa using h

/-- A task that goes on does so in one of the ways. -/
theorem Proceeds.of_proceed? (h : t.proceed? channel tree now = some (t', channel', tree')) :
    Proceeds t channel tree now t' channel' tree' := by
  unfold proceed? at h
  split at h
  case h_1 => simp at h
  case h_2 wake hAsleep =>
    split at h
    case isTrue hNow =>
      obtain ⟨rfl, rfl, rfl⟩ := after_inj h
      exact .wakes hAsleep hNow
    case isFalse => simp at h
  case h_3 => simp at h
  case h_4 error hJob =>
    obtain ⟨rfl, rfl, rfl⟩ := after_inj h
    exact .learnsFailure hJob
  case h_5 file hJob =>
    split at h
    case h_1 hCommit =>
      obtain ⟨rfl, rfl, rfl⟩ := after_inj h
      exact .commits hJob hCommit
    case h_2 hCommit =>
      obtain ⟨rfl, rfl, rfl⟩ := after_inj h
      exact .failsToCommit hJob hCommit
  case h_6 hReady =>
    split at h
    case h_1 hSteps =>
      split at h
      case h_1 hEnding =>
        obtain ⟨rfl, rfl, rfl⟩ := after_inj h
        exact .returns hReady hSteps hEnding
      case h_2 hEnding =>
        obtain ⟨rfl, rfl, rfl⟩ := after_inj h
        exact .panics hReady hSteps hEnding
      case h_3 => simp at h
    case h_2 hSteps =>
      obtain ⟨rfl, rfl, rfl⟩ := after_inj h
      exact .pauses hReady hSteps
    case h_3 hSteps =>
      obtain ⟨rfl, rfl, rfl⟩ := after_inj h
      exact .stages hReady hSteps
    case h_4 family rest hSteps =>
      unfold Channel.send at h
      by_cases hOpen : channel.isOpen = true
      · by_cases hRoom : channel.waiting.length < channel.capacity
        · simp only [hOpen, hRoom, Bool.not_true, Bool.false_eq_true, if_false, if_true] at h
          obtain ⟨rfl, rfl, rfl⟩ := after_inj h
          exact hOpen ▸ .sends hReady hSteps hOpen hRoom
        · simp [hOpen, hRoom] at h
      · rw [Bool.not_eq_true] at hOpen
        simp only [hOpen, Bool.not_false, if_true] at h
        obtain ⟨rfl, rfl, rfl⟩ := after_inj h
        exact .findsClosed hReady hSteps hOpen

/-- Every way is one that a task takes. -/
theorem Proceeds.proceed?_eq (h : Proceeds t channel tree now t' channel' tree') :
    t.proceed? channel tree now = some (t', channel', tree') := by
  cases h with
  | wakes hAsleep hNow => simp [proceed?, hAsleep, hNow]
  | learnsFailure hJob => simp [proceed?, hJob]
  | commits hJob hCommit => simp [proceed?, hJob, hCommit]
  | failsToCommit hJob hCommit => simp [proceed?, hJob, hCommit]
  | returns hReady hSteps hEnding => simp [proceed?, hReady, hSteps, hEnding]
  | panics hReady hSteps hEnding => simp [proceed?, hReady, hSteps, hEnding]
  | pauses hReady hSteps => simp [proceed?, hReady, hSteps]
  | stages hReady hSteps => simp [proceed?, hReady, hSteps]
  | sends hReady hSteps hOpen hRoom =>
    simp [proceed?, hReady, hSteps, Channel.send, hOpen, hRoom]
  | findsClosed hReady hSteps hClosed =>
    simp [proceed?, hReady, hSteps, Channel.send, hClosed]

/-- **The ways are all of them**: a task goes on exactly in the ways of `Proceeds`. -/
theorem proceed?_eq_some_iff :
    t.proceed? channel tree now = some (t', channel', tree') ↔
      Proceeds t channel tree now t' channel' tree' :=
  ⟨Proceeds.of_proceed?, Proceeds.proceed?_eq⟩

/-- What a task waits for that is not over and cannot go on. -/
inductive Waits (t : Task) (channel : Channel SinkItem) (now : Nat) : Prop
  | forTime {wake : Nat} (hAsleep : t.activity = .asleep wake) (hEarly : now < wake)
  | forJob {destination : String} {content : Bytes}
      (hJob : t.activity = .staging (.running destination content))
  | forRoom {family : Family} {rest : List CallStep} (hReady : t.activity = .ready)
      (hSteps : t.steps = .send family :: rest)
      (hFull : channel.capacity ≤ channel.waiting.length)
  | forever (hReady : t.activity = .ready) (hSteps : t.steps = []) (hEnding : t.ending = .hangs)

/-- **A task that is not over waits for something** where it cannot go on. -/
theorem Waits.of_proceed? (hActive : t.hasEnded = false) (h : t.proceed? channel tree now = none) :
    Waits t channel now := by
  unfold proceed? at h
  split at h
  case h_1 error hEnded => simp [hasEnded, hEnded] at hActive
  case h_2 wake hAsleep =>
    split at h
    case isTrue => simp at h
    case isFalse hEarly => exact .forTime hAsleep (Nat.not_le.mp hEarly)
  case h_3 hJob => exact .forJob hJob
  case h_4 => simp at h
  case h_5 => split at h <;> simp at h
  case h_6 hReady =>
    split at h
    case h_1 hSteps =>
      split at h
      case h_1 => simp at h
      case h_2 => simp at h
      case h_3 hEnding => exact .forever hReady hSteps hEnding
    case h_2 => simp at h
    case h_3 => simp at h
    case h_4 family rest hSteps =>
      refine .forRoom hReady hSteps (Nat.not_lt.mp fun hRoom => ?_)
      cases hOpen : channel.isOpen <;> simp [Channel.send, hOpen, hRoom] at h

end Task

end TopologyExporter
