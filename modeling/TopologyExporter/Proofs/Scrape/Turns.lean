import TopologyExporter.Proofs.Scrape.History

/-!
# Tasks — how they turn

Whatever step a run makes, a task stays as it is, goes on, times out or has its job do its work. Two
things can happen then that matter to the file it replaces: the task commits it, or the limit
strikes before that and abandons it.

## Results

* `Task.Proceeds.filesAhead_le` — a task never gets more files to replace.
* `Run.happening_timeOut`       — a limit that strikes while a task waits for its file abandons
  it.
* `Run.Step.turns`              — in a step of its run a task changes in one of these ways.
-/

namespace TopologyExporter

-- ---------------------------------------------------------------------------
-- What happens to a task
-- ---------------------------------------------------------------------------

/-- What happens in a step, as far as one collector is concerned. -/
inductive Happening
  /-- A scrape begins. -/
  | begins (s : Snapshot) (clock : String → RunClock)
  /-- The collector's staged file replaces its destination. -/
  | commits
  /-- The limit strikes while the collector waits for its file to be staged. -/
  | abandons
  /-- A scrape concludes and publishes what the collector sent. -/
  | publishes
  /-- Anything else. -/
  | passes

/-- What happens when a task goes on or times out. -/
def Task.happening (before after : Task) : Happening :=
  match before.activity, after.activity with
  | .staging (.staged _), .ready => .commits
  | .staging _, .ended (some (.timeout _ _)) => .abandons
  | _, _ => .passes

/-- What happens to the task at a position in a step of a run. -/
def Run.happening (before after : Run) (i : Nat) : Happening :=
  match before.tasks[i]?, after.tasks[i]? with
  | some t, some t' => t.happening t'
  | _, _ => .passes

theorem Run.happening_cases (before after : Run) (i : Nat) :
    before.happening after i = .commits ∨ before.happening after i = .abandons ∨
      before.happening after i = .passes := by
  unfold happening Task.happening
  split
  · split <;> simp
  · simp

-- ---------------------------------------------------------------------------
-- Files that are still to be replaced
-- ---------------------------------------------------------------------------

/-- Whether a step replaces a file. -/
def CallStep.isReplace : CallStep → Bool
  | .replace _ _ => true
  | _ => false

/-- How many files a call replaces. -/
def Call.files (c : Call) : Nat := c.steps.countP CallStep.isReplace

/-- How many files a task still has to replace. -/
def Task.filesAhead (t : Task) : Nat := t.steps.countP CallStep.isReplace + t.job?.toList.length

namespace Task

variable {t t' : Task}

@[simp] theorem filesAhead_start (name : String) (call : Call) :
    (Task.start name call).filesAhead = call.files := by
  simp [Task.start, filesAhead, job?, Call.files]

@[simp] theorem job?_finish (error : Option CollectorError) : (t.finish error).job? = none := rfl

@[simp] theorem filesAhead_finish (error : Option CollectorError) :
    (t.finish error).filesAhead = 0 := by
  simp [finish, filesAhead, job?]

theorem filesAhead_pos_of_staging {job : StagingJob} (h : t.activity = .staging job) :
    0 < t.filesAhead := by
  have hJob : t.job? = some job := by simp [job?, h]
  rw [filesAhead, hJob]
  simp

/-- A task never gets more files to replace. -/
theorem Proceeds.filesAhead_le {channel channel' : Channel SinkItem} {tree tree' : FileTree}
    {now : Nat} (h : t.Proceeds channel tree now t' channel' tree') :
    t'.filesAhead ≤ t.filesAhead := by
  cases h with
  | wakes hAsleep hNow => simp [filesAhead, job?]
  | learnsFailure hJob => simp
  | commits hJob hCommit => simp [filesAhead, job?]
  | failsToCommit hJob hCommit => simp
  | returns hReady hSteps hEnding => simp
  | panics hReady hSteps hEnding => simp
  | pauses hReady hSteps => simp [filesAhead, job?, hSteps, CallStep.isReplace]
  | stages hReady hSteps =>
    simp [filesAhead, job?, hReady, hSteps, CallStep.isReplace, List.countP_cons]
  | sends hReady hSteps hOpen hRoom => simp [filesAhead, job?, hReady, hSteps, CallStep.isReplace]
  | findsClosed hReady hSteps hClosed => simp

/-- The ways in which a task changes in a step of its run. -/
inductive Turns (t : Task) : Task → Prop
  | stays : Turns t t
  | proceeds {t' : Task} {channel channel' : Channel SinkItem} {tree tree' : FileTree} {now : Nat}
      (hProceeds : t.Proceeds channel tree now t' channel' tree') : Turns t t'
  | timesOut (hActive : t.hasEnded = false) (error : CollectorError) :
      Turns t (t.finish (some error))
  | stages {job : StagingJob} (hJob : t.activity = .staging job) (tree : FileTree) :
      Turns t { t with activity := .staging (job.finish tree).1 }

/-- What happens when a task changes. -/
theorem happening_cases (t t' : Task) :
    ((∃ file, t.activity = .staging (.staged file)) ∧ t'.activity = .ready ∧
      t.happening t' = .commits) ∨
    ((∃ job, t.activity = .staging job) ∧ (∃ error, t'.activity = .ended (some error)) ∧
      t.happening t' = .abandons) ∨
    t.happening t' = .passes := by
  unfold happening
  split
  case h_1 file hBefore hAfter => exact .inl ⟨⟨file, hBefore⟩, hAfter, rfl⟩
  case h_2 hBefore hAfter => exact .inr (.inl ⟨⟨_, hBefore⟩, ⟨_, hAfter⟩, rfl⟩)
  case h_3 => exact .inr (.inr rfl)

/-- A limit that strikes while a task waits for its file abandons it. -/
theorem happening_timeOut {job : StagingJob} (h : t.activity = .staging job) (limit : Duration) :
    t.happening (t.finish (some (.timeout t.collector limit))) = .abandons := by
  cases job <;> simp [happening, h, finish]

theorem happening_of_no_job (h : t.job? = none) : t.happening t' = .passes := by
  rcases t.happening_cases t' with
    ⟨⟨file, hBefore⟩, -, -⟩ | ⟨⟨job, hBefore⟩, -, -⟩ | hPasses
  · simp [job?, hBefore] at h
  · simp [job?, hBefore] at h
  · exact hPasses

/-- A task that still waits for its file has done nothing that is noted. -/
theorem happening_of_staging {job : StagingJob} (h : t'.activity = .staging job) :
    t.happening t' = .passes := by
  rcases t.happening_cases t' with ⟨-, hAfter, -⟩ | ⟨-, ⟨error, hAfter⟩, -⟩ | hPasses
  · simp [h] at hAfter
  · simp [h] at hAfter
  · exact hPasses

theorem happening_of_ended {error : Option CollectorError} (h : t'.activity = .ended error) :
    t.happening t' = .abandons ∨ t.happening t' = .passes := by
  rcases t.happening_cases t' with ⟨-, hAfter, -⟩ | ⟨-, -, hAbandons⟩ | hPasses
  · simp [h] at hAfter
  · exact .inl hAbandons
  · exact .inr hPasses

namespace Turns

theorem filesAhead_le (h : t.Turns t') : t'.filesAhead ≤ t.filesAhead := by
  cases h with
  | stays => exact Nat.le_refl _
  | proceeds hProceeds => exact hProceeds.filesAhead_le
  | timesOut hActive error => simp
  | stages hJob tree => simp [filesAhead, job?, hJob]

/-- A task that was staging and is ready has committed, and has one file less to replace. -/
theorem filesAhead_of_ready (h : t.Turns t') {job : StagingJob}
    (hBefore : t.activity = .staging job) (hAfter : t'.activity = .ready) :
    t'.filesAhead + 1 = t.filesAhead := by
  cases h with
  | stays => simp [hBefore] at hAfter
  | timesOut hActive error => simp [finish] at hAfter
  | stages hJob tree => simp at hAfter
  | proceeds hProceeds =>
    cases hProceeds with
    | commits hJob hCommit => simp [filesAhead, job?, hJob]
    | wakes hAsleep => simp [hBefore] at hAsleep
    | learnsFailure hJob => simp [finish] at hAfter
    | failsToCommit hJob hCommit => simp [finish] at hAfter
    | returns hReady => simp [hBefore] at hReady
    | panics hReady => simp [hBefore] at hReady
    | pauses hReady => simp [hBefore] at hReady
    | stages hReady => simp [hBefore] at hReady
    | sends hReady => simp [hBefore] at hReady
    | findsClosed hReady => simp [hBefore] at hReady

/-- A task that is over stays as it is. -/
theorem eq_of_ended (h : t.Turns t') {error : Option CollectorError}
    (hEnded : t.activity = .ended error) : t' = t := by
  cases h with
  | stays => rfl
  | timesOut hActive _ => simp [hasEnded, hEnded] at hActive
  | stages hJob tree => simp [hEnded] at hJob
  | proceeds hProceeds => cases hProceeds <;> simp_all

/-- A task that is over has no file left to replace, unless it was over before. -/
theorem filesAhead_of_ended (h : t.Turns t') {job : StagingJob}
    (hBefore : t.activity = .staging job) {error : Option CollectorError}
    (hEnded : t'.activity = .ended error) : t'.filesAhead = 0 := by
  cases h with
  | stays => simp [hBefore] at hEnded
  | timesOut hActive _ => simp
  | stages hJob tree => simp at hEnded
  | proceeds hProceeds =>
    cases hProceeds with
    | learnsFailure hJob => simp
    | failsToCommit hJob hCommit => simp
    | commits hJob hCommit => simp at hEnded
    | wakes hAsleep => simp at hEnded
    | returns hReady => simp
    | panics hReady => simp
    | pauses hReady => simp at hEnded
    | stages hReady => simp at hEnded
    | sends hReady => simp [hReady] at hEnded
    | findsClosed hReady => simp

end Turns

end Task

theorem Run.happening_of_tasks {r r' : Run} {i : Nat} {t t' : Task} (hBefore : r.tasks[i]? = some t)
    (hAfter : r'.tasks[i]? = some t') : r.happening r' i = t.happening t' := by
  rw [happening, hBefore, hAfter]

theorem Run.happening_of_same {r r' : Run} {i : Nat} (h : r'.tasks[i]? = r.tasks[i]?) :
    r.happening r' i = .passes := by
  rw [happening, h]
  cases r.tasks[i]? with
  | none => rfl
  | some t =>
    show t.happening t = .passes
    unfold Task.happening
    cases hActivity : t.activity with
    | staging job => cases job <;> rfl
    | _ => rfl

/-- What happens when the task of the collector turns into another. -/
theorem Run.happening_set_self {r r' : Run} {i : Nat} {t t' : Task} (hTask : r.tasks[i]? = some t)
    (hTasks : r'.tasks = r.tasks.set i t') :
    r'.tasks[i]? = some t' ∧ r.happening r' i = t.happening t' := by
  have hi : i < r.tasks.length := (List.getElem?_eq_some_iff.mp hTask).1
  have hAfter : r'.tasks[i]? = some t' := hTasks ▸ List.getElem?_set_self hi
  exact ⟨hAfter, happening_of_tasks hTask hAfter⟩

/-- **When the limit strikes while a collector waits for its file**, the scrape is abandoned. -/
theorem Run.happening_timeOut {r : Run} {i : Nat} {t : Task} {job : StagingJob}
    (hTask : r.tasks[i]? = some t) (hJob : t.activity = .staging job) :
    r.happening (r.timeOut i t) i = .abandons := by
  rw [(Run.happening_set_self hTask rfl).2, Task.happening_timeOut hJob]

/-- When another task does, nothing happens to that of the collector. -/
theorem Run.happening_set_ne {r r' : Run} {i j : Nat} {t' : Task} (hj : j ≠ i)
    (hTasks : r'.tasks = r.tasks.set j t') :
    r'.tasks[i]? = r.tasks[i]? ∧ r.happening r' i = .passes := by
  have hSame : r'.tasks[i]? = r.tasks[i]? := hTasks ▸ List.getElem?_set_ne hj
  exact ⟨hSame, happening_of_same hSame⟩

/-- Whatever step a run makes, each of its tasks changes in one of the ways. -/
theorem Run.Step.turns {r r' : Run} {shown : List RunEvent} (h : r.Step shown r') (i : Nat) :
    Option.Rel Task.Turns r.tasks[i]? r'.tasks[i]? := by
  have hStays (tasks : List Task) : Option.Rel Task.Turns tasks[i]? tasks[i]? := by
    cases tasks[i]? with
    | none => exact .none
    | some t => exact .some .stays
  -- a step puts at most one task in place of another
  have hSet {j : Nat} {t t' : Task} (hTask : r.tasks[j]? = some t) (hTurns : t.Turns t') :
      Option.Rel Task.Turns r.tasks[i]? (r.tasks.set j t')[i]? := by
    by_cases hij : j = i
    · subst hij
      have hj : j < r.tasks.length := (List.getElem?_eq_some_iff.mp hTask).1
      rw [hTask, List.getElem?_set_self hj]
      exact .some hTurns
    · rw [List.getElem?_set_ne hij]
      exact hStays r.tasks
  cases h with
  | proceeds hMove =>
    obtain ⟨t, t', channel, tree, hTask, hProceeds, rfl⟩ := Run.proceed_eq_some hMove
    exact hSet hTask (.proceeds hProceeds)
  | timesOut hTask hActive => exact hSet hTask (.timesOut hActive _)
  | stages hMove =>
    obtain ⟨t, job, hTask, hJob, _, rfl⟩ := Run.stage_eq_some hMove
    exact hSet hTask (.stages hJob _)
  | receives hMove =>
    obtain ⟨item, rest, _, rfl⟩ := Run.receive_eq_some hMove
    exact hStays r.tasks
  | sweeps hMove =>
    obtain ⟨storage, _, rfl⟩ := Run.sweep_eq_some hMove
    exact hStays r.tasks
  | advances hMove =>
    obtain ⟨time, _, rfl⟩ := Run.advance_eq_some hMove
    exact hStays r.tasks

end TopologyExporter
