import TopologyExporter.Proofs.Files.Waypoints
import TopologyExporter.Proofs.Scrape.Custody
import TopologyExporter.Proofs.Scrape.Solo

/-!
# The course of a call — what others cannot change

Among the tasks of a run, that of one collector is on **course** to what its call comes to alone:
with whatever is left of the call, and over a tree of its own, the **mirror**, in which it alone
replaces files. The tree of the run is the same as the mirror where the collector looks, in all but
what files hold, as long as no one else replaces what is there.

## Results

* `Collector.Mirrors.places`  — the collector stages and lands its files where it would in the
  mirror.
* `Collector.Mirrors.commit`  — so the files that it commits are replaced in the mirror as well.
* `Task.OnCourse.proceeds`, `Task.OnCourse.timesOut`, `Task.OnCourse.stages`, `Task.OnCourse.waits`
  — whatever the task does, it stays on course.
* `Run.OnCourse.move?`        — whatever happens in a run on time, the task stays on course.
* `Run.OnCourse.ended`        — so it ends with what its call comes to alone.
-/

namespace TopologyExporter

-- ---------------------------------------------------------------------------
-- Where a collector looks
-- ---------------------------------------------------------------------------

/-- Whether a collector may replace the file at a destination. -/
def Collector.Replaces (c : Collector) (destination : String) : Prop :=
  ∃ number s clock content, .replace destination content ∈ (c.call number s clock).steps

/-- Whether a collector looks at a place of a tree when it replaces files: at a destination, or on
the way to one. -/
def Collector.NeedsPlace (c : Collector) (tree : FileTree) (place : Location) : Prop :=
  ∃ destination, c.Replaces destination ∧ place ∈ tree.waypoints destination

/-- What is kept of a tree in which files were replaced since it was `origin`: those that are staged
have temporary files of their own, and a file lands where it would have landed at first. -/
structure FileTree.GrownFrom (origin : FileTree) (numbers : List Nat) (tree : FileTree) : Prop where
  custody : tree.Custody numbers
  landing : ∀ destination place, tree.landing destination = .ok place →
    origin.landing destination = .ok place

theorem Run.Files.grownFrom {origin tree tree' : FileTree} {numbers numbers' : List Nat}
    {landed : Option String} (h : Files numbers tree landed numbers' tree')
    (hGrown : origin.GrownFrom numbers tree) : origin.GrownFrom numbers' tree' where
  custody := h.custody hGrown.custody
  landing destination place hPlace :=
    hGrown.landing destination place (h.landing hGrown.custody hPlace)

/-- Whether a tree is the same as its mirror where a collector looks, in all but what files hold. In
the mirror it looks at nothing but what it looked at in `origin`. -/
structure Collector.Mirrors (c : Collector) (origin tree mirror : FileTree) : Prop where
  same    : ∀ place, c.NeedsPlace origin place → tree.outline place = mirror.outline place
  covered : ∀ destination, c.Replaces destination → ∀ place ∈ mirror.waypoints destination,
    c.NeedsPlace origin place

namespace Collector

variable {c : Collector} {origin tree tree' mirror : FileTree} {destination : String}
  {place target : Location}

theorem NeedsPlace.isPlain (h : c.NeedsPlace origin place) : isPlain place = true := by
  obtain ⟨destination, -, hPlace⟩ := h
  exact FileTree.waypoints_isPlain hPlace

namespace Mirrors

theorem refl (c : Collector) (tree : FileTree) : c.Mirrors tree tree tree where
  same _ _ := rfl
  covered destination hReplaces _ hPlace := ⟨destination, hReplaces, hPlace⟩

/-- What happens elsewhere does not matter. -/
theorem elsewhere (h : c.Mirrors origin tree mirror)
    (hSame : ∀ place, c.NeedsPlace origin place → tree'.get? place = tree.get? place) :
    c.Mirrors origin tree' mirror where
  same place hNeeds := by
    rw [← h.same place hNeeds, FileTree.outline, hSame place hNeeds, FileTree.outline]
  covered := h.covered

/-- Temporary files do not matter. -/
theorem settled (h : c.Mirrors origin tree mirror) (hSettled : tree'.settled = tree.settled) :
    c.Mirrors origin tree' mirror :=
  h.elsewhere fun place hNeeds => by
    rw [← FileTree.get?_settled hNeeds.isPlain, hSettled, FileTree.get?_settled hNeeds.isPlain]

/-- A file that is put at the same place of both does not matter. -/
theorem put (h : c.Mirrors origin tree mirror) (hTarget : target ≠ []) (content : Bytes)
    (mode : Nat) :
    c.Mirrors origin (tree.put target (.file content mode))
      (mirror.put target (.file content mode)) where
  same place hNeeds := by
    have hSame := h.same place hNeeds
    unfold FileTree.outline at hSame ⊢
    rw [FileTree.get?_put hTarget, FileTree.get?_put hTarget]
    split
    · rfl
    · exact hSame
  covered destination hReplaces place hPlace :=
    h.covered destination hReplaces place (FileTree.waypoints_put hTarget hPlace)

/-- **The collector stages and lands its files where it would in the mirror.** -/
theorem places (h : c.Mirrors origin tree mirror) (hReplaces : c.Replaces destination) :
    tree.directoryPlace (Path.directory destination) =
        mirror.directoryPlace (Path.directory destination) ∧
      tree.landing destination = mirror.landing destination := by
  have hSame : ∀ place ∈ mirror.waypoints destination,
      mirror.outline place = tree.outline place :=
    fun place hPlace => (h.same place (h.covered destination hReplaces place hPlace)).symm
  obtain ⟨hDirectory, hLanding, -⟩ := FileTree.waypoints_congr hSame
  exact ⟨hDirectory.symm, hLanding.symm⟩

/-- **A commit of the collector replaces the file in the mirror as well**, or fails in both. -/
theorem commit {file : StagedFile} {content : Bytes} {parent : Location}
    (h : c.Mirrors origin tree mirror) (hReplaces : c.Replaces file.destination)
    (hDirectory : file.directory = Path.directory file.destination)
    (hParent : mirror.directoryPlace (Path.directory file.destination) = .ok parent)
    (hThere : tree.get? (parent ++ [EntryName.temp file.number]) =
      some (.file content FileTree.publicMode)) :
    ∃ mirror', mirror.persistAtomically file.destination content =
      ((file.commit tree).1, mirror') ∧
      c.Mirrors origin (file.commit tree).2 mirror' := by
  obtain ⟨hSameParent, hSameLanding⟩ := h.places hReplaces
  have hPlace : file.place tree = .ok (parent ++ [EntryName.temp file.number]) := by
    rw [StagedFile.place, FileTree.tempPlace_eq, hDirectory, hSameParent, hParent]
    rfl
  have hErased : c.Mirrors origin (tree.erase (parent ++ [EntryName.temp file.number])) mirror :=
    h.settled (FileTree.settled_erase_temp _ _)
  rw [StagedFile.commit_eq hPlace hThere, FileTree.persistAtomically_eq, hParent, hSameLanding]
  cases hLanding : mirror.landing file.destination with
  | error reason => exact ⟨mirror, rfl, hErased⟩
  | ok target => exact ⟨_, rfl, hErased.put (FileTree.landing_eq_ok hLanding).2.1 _ _⟩

/-- A file that the collector cannot stage is not replaced in the mirror. -/
theorem stage_error {content : Bytes} {error : CollectorError} (h : c.Mirrors origin tree mirror)
    (hReplaces : c.Replaces destination)
    (hStage : tree.stage destination ⟨content, none⟩ = .error error) :
    mirror.persistAtomically destination content = (.error error, mirror) := by
  rw [FileTree.stage_eq, FileTree.staging, (h.places hReplaces).1] at hStage
  rw [FileTree.persistAtomically_eq]
  cases hDirectory : mirror.directoryPlace (Path.directory destination) with
  | ok parent => simp [hDirectory, bind, Except.bind] at hStage
  | error reason => simpa [hDirectory, bind, Except.bind] using hStage

end Mirrors

end Collector

-- ---------------------------------------------------------------------------
-- A task on course
-- ---------------------------------------------------------------------------

/-- Whether a task is on course to a result: what is left of its call leads there from the mirror,
its staged file is where it was staged, and if it is over it ended with the result. -/
def Task.OnCourse (limit : Duration) (result : Option CollectorError × FileTree) (now : Nat)
    (tree mirror : FileTree) (t : Task) : Prop :=
  match t.activity with
  | .ready => HeadsFor t.collector limit t.ending result now mirror t.steps
  | .asleep wake => now ≤ wake ∧
      HeadsFor t.collector limit t.ending result now mirror (.pause (wake - now) :: t.steps)
  | .staging (.running destination content) =>
      HeadsFor t.collector limit t.ending result now mirror
        (.replace destination content :: t.steps)
  | .staging (.failed error) => now < limit.ceilMillis ∧ result = (some error, mirror)
  | .staging (.staged file) => now < limit.ceilMillis ∧ ∃ content parent,
      HeadsFor t.collector limit t.ending result now mirror
        (.replace file.destination content :: t.steps) ∧
      mirror.directoryPlace (Path.directory file.destination) = .ok parent ∧
      tree.get? (parent ++ [.temp file.number]) = some (.file content FileTree.publicMode)
  | .ended error => result = (error, mirror)

namespace Task

variable {limit : Duration} {result : Option CollectorError × FileTree} {now time : Nat}
  {tree tree' mirror origin : FileTree} {t t' : Task} {channel channel' : Channel SinkItem}
  {c : Collector} {call : Call}

namespace OnCourse

theorem of_ready (h : t.OnCourse limit result now tree mirror) (hReady : t.activity = .ready) :
    HeadsFor t.collector limit t.ending result now mirror t.steps := by
  simpa only [OnCourse, hReady] using h

/-- Where its staged file is as it was, a task stays on course. -/
theorem elsewhere (h : t.OnCourse limit result now tree mirror)
    (hFile : ∀ file, t.activity = .staging (.staged file) → ∀ parent : Location,
      tree'.get? (parent ++ [EntryName.temp file.number]) =
        tree.get? (parent ++ [EntryName.temp file.number])) :
    t.OnCourse limit result now tree' mirror := by
  unfold OnCourse at h ⊢
  split at h
  case h_5 file hJob =>
    obtain ⟨hEarly, content, parent, hHeads, hParent, hThere⟩ := h
    exact ⟨hEarly, content, parent, hHeads, hParent, (hFile file hJob parent).trans hThere⟩
  all_goals exact h

/-- **A task that goes on stays on course.** What it replaces, it replaces in the mirror as well. -/
theorem proceeds (h : t.OnCourse limit result now tree mirror)
    (hMirrors : c.Mirrors origin tree mirror)
    (hJob : ∀ job, t.activity = .staging job → job.IsOf call)
    (hMine : ∀ destination content, .replace destination content ∈ call.steps →
      c.Replaces destination)
    (hOpen : channel.isOpen = true) (hProceeds : t.Proceeds channel tree now t' channel' tree') :
    ∃ mirror', c.Mirrors origin tree' mirror' ∧ t'.OnCourse limit result now tree' mirror' := by
  cases hProceeds with
  | wakes hAsleep hNow =>
    simp only [OnCourse, hAsleep] at h
    obtain rfl := Nat.le_antisymm h.1 hNow
    exact ⟨mirror, hMirrors, (Nat.sub_self now ▸ h.2).wake⟩
  | learnsFailure hActivity =>
    simp only [OnCourse, hActivity] at h
    exact ⟨mirror, hMirrors, h.2⟩
  | @commits file _ hActivity hCommit =>
    simp only [OnCourse, hActivity] at h
    obtain ⟨hEarly, content, parent, hHeads, hParent, hThere⟩ := h
    obtain ⟨hDirectory, _, hStep⟩ := hJob _ hActivity
    obtain ⟨mirror', hReplaced, hMirrors'⟩ :=
      hMirrors.commit (hMine _ _ hStep) hDirectory hParent hThere
    rw [hCommit] at hReplaced hMirrors'
    exact ⟨mirror', hMirrors', hHeads.replace hEarly hReplaced⟩
  | @failsToCommit file error _ hActivity hCommit =>
    simp only [OnCourse, hActivity] at h
    obtain ⟨hEarly, content, parent, hHeads, hParent, hThere⟩ := h
    obtain ⟨hDirectory, _, hStep⟩ := hJob _ hActivity
    obtain ⟨mirror', hReplaced, hMirrors'⟩ :=
      hMirrors.commit (hMine _ _ hStep) hDirectory hParent hThere
    rw [hCommit] at hReplaced hMirrors'
    exact ⟨mirror', hMirrors', hHeads.replace_error hEarly hReplaced⟩
  | returns hReady hSteps hEnding =>
    have hHeads := h.of_ready hReady
    rw [hSteps, hEnding] at hHeads
    exact ⟨mirror, hMirrors, hHeads.solo.symm⟩
  | panics hReady hSteps hEnding =>
    have hHeads := h.of_ready hReady
    rw [hSteps, hEnding] at hHeads
    exact ⟨mirror, hMirrors, hHeads.solo.symm⟩
  | @pauses time rest hReady hSteps =>
    have hHeads := h.of_ready hReady
    rw [hSteps] at hHeads
    refine ⟨mirror, hMirrors, Nat.le_add_right now time, ?_⟩
    rwa [Nat.add_sub_cancel_left]
  | stages hReady hSteps =>
    have hHeads := h.of_ready hReady
    rw [hSteps] at hHeads
    exact ⟨mirror, hMirrors, hHeads⟩
  | sends hReady hSteps _ hRoom =>
    have hHeads := h.of_ready hReady
    rw [hSteps] at hHeads
    refine ⟨mirror, hMirrors, ?_⟩
    simp only [OnCourse, hReady]
    exact hHeads.send
  | findsClosed hReady hSteps hClosed => simp [hOpen] at hClosed

/-- **A task that times out** was on course to that. -/
theorem timesOut (h : t.OnCourse limit result now tree mirror) (hWaits : t.Waits channel now)
    (hLate : limit.ceilMillis ≤ now) :
    (t.finish (some (.timeout t.collector limit))).OnCourse limit result now tree mirror := by
  show result = (some (.timeout t.collector limit), mirror)
  cases hWaits with
  | forTime hAsleep hEarly =>
    simp only [OnCourse, hAsleep] at h
    exact h.2.late_pause hLate (Nat.sub_pos_of_lt hEarly)
  | forJob hJob =>
    simp only [OnCourse, hJob] at h
    exact h.late_replace hLate
  | forRoom hReady hSteps _ =>
    have hHeads := h.of_ready hReady
    rw [hSteps] at hHeads
    exact hHeads.late_send hLate
  | forever hReady hSteps hEnding =>
    have hHeads := h.of_ready hReady
    rw [hSteps, hEnding] at hHeads
    exact hHeads.solo.symm

/-- **A task whose job does its work** stays on course. -/
theorem stages {job : StagingJob} (h : t.OnCourse limit result now tree mirror)
    (hMirrors : c.Mirrors origin tree mirror) (hStaging : t.activity = .staging job)
    (hJob : job.IsOf call)
    (hMine : ∀ destination content, .replace destination content ∈ call.steps →
      c.Replaces destination)
    (hRunning : job.isOver = false) (hEarly : now < limit.ceilMillis) :
    c.Mirrors origin (job.finish tree).2 mirror ∧
      ({ t with activity := .staging (job.finish tree).1 } : Task).OnCourse limit result now
        (job.finish tree).2 mirror := by
  cases job with
  | staged file => simp [StagingJob.isOver] at hRunning
  | failed error => simp [StagingJob.isOver] at hRunning
  | running destination content =>
    simp only [OnCourse, hStaging] at h
    rw [StagingJob.finish]
    cases hStage : tree.stage destination ⟨content, none⟩ with
    | error error =>
      exact ⟨hMirrors, hEarly, h.replace_error hEarly
        (hMirrors.stage_error (hMine _ _ hJob) hStage)⟩
    | ok staged =>
      obtain ⟨file, tree'⟩ := staged
      obtain ⟨parent, hStaging, rfl, rfl⟩ := FileTree.stage_eq_ok hStage
      have hParent := (FileTree.staging_eq_ok_iff.mp hStaging).1
      rw [(hMirrors.places (hMine _ _ hJob)).1] at hParent
      refine ⟨hMirrors.settled (FileTree.settled_put_temp _ _), hEarly, content, parent,
        h, hParent, ?_⟩
      rw [FileTree.get?_put (by simp), if_pos rfl]

/-- **A task that waits while the clock goes on** stays on course, if no time is skipped that it
waits for, and nothing else that it could have. -/
theorem waits (h : t.OnCourse limit result now tree mirror) (hWaits : t.Waits channel now)
    (hRoom : channel.waiting.length < channel.capacity)
    (hNoJob : ∀ destination content, t.activity ≠ .staging (.running destination content))
    (hLater : now ≤ time) (hInTime : time ≤ limit.ceilMillis)
    (hWake : ∀ wake, t.activity = .asleep wake → now < wake → time ≤ wake) :
    t.OnCourse limit result time tree mirror := by
  cases hWaits with
  | forTime hAsleep hEarly =>
    have hTime := hWake _ hAsleep hEarly
    simp only [OnCourse, hAsleep] at h ⊢
    exact ⟨hTime, h.2.wait hLater hTime hInTime⟩
  | forJob hJob => exact absurd hJob (hNoJob _ _)
  | forRoom _ _ hFull => omega
  | forever hReady hSteps _ =>
    simp only [OnCourse, hReady, hSteps] at h ⊢
    exact ⟨hInTime, h.solo, .inl rfl⟩

end OnCourse

end Task

-- ---------------------------------------------------------------------------
-- A run in which a task is on course
-- ---------------------------------------------------------------------------

/-- Whether a call of a collector is one of some calls, and no other of them replaces a file where
the collector looks. -/
structure Collector.Undisturbed (c : Collector) (origin : FileTree) (i : Nat) (call : Call)
    (calls : List (String × Call)) : Prop where
  own    : calls[i]? = some (c.name, call)
  mine   : ∀ destination content, .replace destination content ∈ call.steps →
    c.Replaces destination
  others : ∀ j other, j ≠ i → calls[j]? = some other →
    ∀ destination content, .replace destination content ∈ other.2.steps →
      ∀ place, origin.landing destination = .ok place → ¬ c.NeedsPlace origin place

/-- Whether the task at a position of a run is on course. -/
structure Run.OnCourse (c : Collector) (origin : FileTree) (i : Nat) (limit : Duration)
    (result : Option CollectorError × FileTree) (r : Run) : Prop where
  room  : 0 < r.channel.capacity
  grown : origin.GrownFrom r.numbers r.storage.tree
  task  : ∃ t mirror, r.tasks[i]? = some t ∧ c.Mirrors origin r.storage.tree mirror ∧
    t.OnCourse limit result r.now r.storage.tree mirror

namespace Run

variable {r r' first : Run} {m : Move} {i j : Nat} {t : Task} {c : Collector} {origin : FileTree}
  {call : Call} {calls : List (String × Call)} {limit : Duration}
  {result : Option CollectorError × FileTree} {events : List RunEvent}

/-- Only a task that cannot go on times out, and not before the limit. -/
theorem expire_stuck (h : r.move? (.expire i) = some r') (hTask : r.tasks[i]? = some t) :
    t.proceed? r.channel r.storage.tree r.now = none ∧ r.deadline ≤ r.now := by
  rw [move?, expire?, hTask] at h
  simp only [bind, Option.bind] at h
  split at h
  case isTrue => simp at h
  case isFalse hNot =>
    simp only [Bool.or_eq_true, not_or, Bool.not_eq_true, decide_eq_true_eq, canProceed,
      Option.isSome_eq_false_iff, Option.isNone_iff_eq_none] at hNot
    exact ⟨hNot.1.2, Nat.not_lt.mp hNot.2⟩

/-- A channel keeps its capacity. -/
theorem capacity_eq (h : r.move? m = some r') : r'.channel.capacity = r.channel.capacity := by
  cases m with
  | proceed i =>
    obtain ⟨t, t', channel, tree, -, hProceeds, rfl⟩ := proceed_eq_some h
    cases hProceeds <;> rfl
  | expire i =>
    obtain ⟨t, -, -, rfl⟩ := expire_eq_some h
    rfl
  | stage i =>
    obtain ⟨t, job, -, -, -, rfl⟩ := stage_eq_some h
    rfl
  | receive =>
    obtain ⟨item, rest, -, rfl⟩ := receive_eq_some h
    rfl
  | sweep i =>
    obtain ⟨storage, -, rfl⟩ := sweep_eq_some h
    rfl
  | advance =>
    obtain ⟨time, -, rfl⟩ := advance_eq_some h
    rfl

/-- Most moves are none of the business of a task. -/
theorem task_stays (h : r.move? m = some r') (hProceed : m ≠ .proceed i)
    (hExpire : m ≠ .expire i) (hStage : m ≠ .stage i) (hAdvance : m ≠ .advance) :
    r'.tasks[i]? = r.tasks[i]? ∧ r'.now = r.now := by
  cases m with
  | proceed j =>
    obtain ⟨t, t', channel, tree, -, -, rfl⟩ := proceed_eq_some h
    exact ⟨List.getElem?_set_ne fun hEq => hProceed (congrArg _ hEq), rfl⟩
  | expire j =>
    obtain ⟨t, -, -, rfl⟩ := expire_eq_some h
    exact ⟨List.getElem?_set_ne fun hEq => hExpire (congrArg _ hEq), rfl⟩
  | stage j =>
    obtain ⟨t, job, -, -, -, rfl⟩ := stage_eq_some h
    exact ⟨List.getElem?_set_ne fun hEq => hStage (congrArg _ hEq), rfl⟩
  | receive =>
    obtain ⟨item, rest, -, rfl⟩ := receive_eq_some h
    exact ⟨rfl, rfl⟩
  | sweep j =>
    obtain ⟨storage, -, rfl⟩ := sweep_eq_some h
    exact ⟨rfl, rfl⟩
  | advance => exact absurd rfl hAdvance

/-- A task that waits for its staged file holds its number. -/
theorem number_mem {file : StagedFile} (hTask : r.tasks[i]? = some t)
    (hJob : t.activity = .staging (.staged file)) : file.number ∈ r.numbers := by
  refine List.mem_append_left _ (List.mem_flatMap.mpr ⟨t, List.mem_of_getElem? hTask, ?_⟩)
  simp [Task.numbers, Task.job?, hJob, StagingJob.numbers]

/-- The time that the clock goes on to is none that lies past one that is waited for. -/
theorem advance_le {time : Nat} (h : r.timers.min? = some time) :
    r.now < time ∧
      (∀ t ∈ r.tasks, ∀ wake, t.activity = .asleep wake → r.now < wake → time ≤ wake) ∧
      ((∃ t ∈ r.tasks, t.hasEnded = false) → r.now < r.deadline → time ≤ r.deadline) := by
  obtain ⟨hMem, hLeast⟩ := List.min?_eq_some_iff.mp h
  refine ⟨(mem_timers hMem).1, fun t hTask wake hAsleep hWake => hLeast wake ?_,
    fun ⟨t, hTask, hActive⟩ hEarly => hLeast _ ?_⟩
  · rw [timers, List.mem_filter, List.mem_append, List.mem_filterMap]
    exact ⟨.inl ⟨t, hTask, by simp [Task.wake?, hAsleep]⟩, by simpa using hWake⟩
  · have hSome : r.tasks.all Task.hasEnded = false :=
      List.all_eq_false.mpr ⟨t, hTask, by simp [hActive]⟩
    rw [timers, List.mem_filter, hSome]
    simp [hEarly]

section Quiet

variable (hQuiet : ∀ m, m ≠ .advance → r.move? m = none) (hTask : r.tasks[i]? = some t)
include hQuiet

/-- Where nothing can happen before the clock goes on, nothing waits to be received. -/
theorem empty_of_quiet : r.channel.waiting = [] := by
  have hNone := hQuiet .receive (by simp)
  cases hWaiting : r.channel.waiting with
  | nil => rfl
  | cons item rest => simp [move?, receive?, Channel.receive, hWaiting] at hNone

include hTask

/-- No task can go on there … -/
theorem stuck_of_quiet : t.proceed? r.channel r.storage.tree r.now = none := by
  have hNone := hQuiet (.proceed i) (by simp)
  cases hProceed : t.proceed? r.channel r.storage.tree r.now with
  | none => rfl
  | some after => simp [move?, proceed?, hTask, hProceed] at hNone

/-- … or waits for a job, … -/
theorem idle_of_quiet (destination : String) (content : Bytes) :
    t.activity ≠ .staging (.running destination content) := by
  intro hJob
  have hNone := hQuiet (.stage i) (by simp)
  simp [move?, stage?, hTask, Task.job?, hJob, StagingJob.isOver] at hNone

/-- … and none that is not over has come to the limit. -/
theorem early_of_quiet (hActive : t.hasEnded = false) : r.now < r.deadline := by
  have hNone := hQuiet (.expire i) (by simp)
  by_contra hLate
  simp [move?, expire?, hTask, hActive, canProceed, stuck_of_quiet hQuiet hTask, hLate] at hNone

end Quiet

namespace OnCourse

/-- **What others do leaves the task on course.** -/
theorem others (h : r.OnCourse c origin i limit result) (hAccount : r.Accounted calls limit events)
    (hCalls : c.Undisturbed origin i call calls) (hMove : r.move? m = some r')
    (hProceed : m ≠ .proceed i) (hSame : r'.tasks[i]? = r.tasks[i]?) (hNow : r'.now = r.now) :
    r'.OnCourse c origin i limit result := by
  obtain ⟨landed, hFiles, hLanded⟩ := move?_files hMove
  obtain ⟨t, mirror, hTask, hMirrors, hCourse⟩ := h.task
  refine ⟨capacity_eq hMove ▸ h.room, hFiles.grownFrom h.grown, t, mirror, hSame.trans hTask,
    hMirrors.elsewhere fun place hNeeds =>
      ?_, hNow ▸ hCourse.elsewhere fun file hJob parent => ?_⟩
  · rcases hFiles.get?_plain hNeeds.isPlain with hStays | ⟨destination, hEq, hPlace⟩
    · exact hStays
    · -- a file that has landed is one of another call
      obtain ⟨j, u, file, rfl, hOther, hJob, rfl⟩ := hLanded destination hEq
      obtain ⟨other, hCall⟩ := hAccount.exists_call hOther
      obtain ⟨-, content, hStep⟩ := (hAccount.tasks j u other hOther hCall).job _ hJob
      exact absurd hNeeds
        (hCalls.others j other (fun hji => hProceed (congrArg _ hji)) hCall _ _ hStep
        place (h.grown.landing _ _ hPlace))
  · exact hFiles.spares h.grown.custody (number_mem hTask hJob)
      (number_mem (hSame.trans hTask) hJob)

/-- **When the clock goes on, the task stays on course.** -/
theorem advance (h : r.OnCourse c origin i limit result) (hAccount : r.Accounted calls limit events)
    (hQuiet : ∀ m, m ≠ .advance → r.move? m = none) (hMove : r.move? .advance = some r') :
    r'.OnCourse c origin i limit result := by
  obtain ⟨landed, hFiles, -⟩ := move?_files hMove
  obtain ⟨t, mirror, hTask, hMirrors, hCourse⟩ := h.task
  refine ⟨capacity_eq hMove ▸ h.room, hFiles.grownFrom h.grown, t, mirror, ?_⟩
  obtain ⟨time, hTime, rfl⟩ := advance_eq_some hMove
  refine ⟨hTask, hMirrors, ?_⟩
  obtain ⟨hLater, hWake, hLimit⟩ := advance_le hTime
  cases hActive : t.hasEnded with
  | true =>
    -- a task that is over does not look at the clock
    obtain ⟨error, hEnded⟩ := Task.exists_ended hActive
    simpa only [Task.OnCourse, hEnded] using hCourse
  | false =>
    have hMem := List.mem_of_getElem? hTask
    have hRoom : r.channel.waiting.length < r.channel.capacity := by
      simpa [empty_of_quiet hQuiet] using h.room
    have hInTime := hLimit ⟨t, hMem, hActive⟩ (early_of_quiet hQuiet hTask hActive)
    exact hCourse.waits (.of_proceed? hActive (stuck_of_quiet hQuiet hTask)) hRoom
      (idle_of_quiet hQuiet hTask) (Nat.le_of_lt hLater) (hAccount.limit_eq ▸ hInTime)
      (hWake t hMem)

/-- **Whatever happens in a run on time, the task stays on course.** -/
theorem move? (h : r.OnCourse c origin i limit result) (hAccount : r.Accounted calls limit events)
    (hCalls : c.Undisturbed origin i call calls) (hTimely : r.IsTimely m)
    (hMove : r.move? m = some r') : r'.OnCourse c origin i limit result := by
  obtain ⟨landed, hFiles, -⟩ := move?_files hMove
  obtain ⟨t, mirror, hTask, hMirrors, hCourse⟩ := h.task
  have hi : i < r.tasks.length := (List.getElem?_eq_some_iff.mp hTask).1
  have hOwn := hAccount.tasks i t _ hTask hCalls.own
  by_cases hProceed : m = .proceed i
  · subst hProceed
    refine ⟨capacity_eq hMove ▸ h.room, hFiles.grownFrom h.grown, ?_⟩
    obtain ⟨u, t', channel, tree, hTask', hProceeds, rfl⟩ := proceed_eq_some hMove
    obtain rfl : u = t := Option.some.inj (hTask'.symm.trans hTask)
    obtain ⟨mirror', hMirrors', hCourse'⟩ :=
      hCourse.proceeds hMirrors hOwn.job hCalls.mine hAccount.isOpen hProceeds
    exact ⟨t', mirror', List.getElem?_set_self hi, hMirrors', hCourse'⟩
  by_cases hExpire : m = .expire i
  · subst hExpire
    refine ⟨capacity_eq hMove ▸ h.room, hFiles.grownFrom h.grown, ?_⟩
    obtain ⟨hStuck, hLate⟩ := expire_stuck hMove hTask
    obtain ⟨u, hTask', hActive, rfl⟩ := expire_eq_some hMove
    obtain rfl : u = t := Option.some.inj (hTask'.symm.trans hTask)
    refine ⟨_, mirror, List.getElem?_set_self hi, hMirrors, ?_⟩
    rw [hAccount.limit_eq]
    exact hCourse.timesOut (.of_proceed? hActive hStuck) (hAccount.limit_eq ▸ hLate)
  by_cases hStage : m = .stage i
  · subst hStage
    refine ⟨capacity_eq hMove ▸ h.room, hFiles.grownFrom h.grown, ?_⟩
    obtain ⟨u, job, hTask', hJob, hRunning, rfl⟩ := stage_eq_some hMove
    obtain rfl : u = t := Option.some.inj (hTask'.symm.trans hTask)
    obtain ⟨hMirrors', hCourse'⟩ :=
      hCourse.stages hMirrors hJob (hOwn.job _ hJob) hCalls.mine hRunning
        (hAccount.limit_eq ▸ hTimely)
    exact ⟨_, mirror, List.getElem?_set_self hi, hMirrors', hCourse'⟩
  by_cases hAdvance : m = .advance
  · subst hAdvance
    exact h.advance hAccount hTimely hMove
  obtain ⟨hSame, hNow⟩ := task_stays hMove hProceed hExpire hStage hAdvance
  exact h.others hAccount hCalls hMove hProceed hSame hNow

end OnCourse

/-- So it does in a whole run on time, by induction on its moves. -/
theorem OnTime.onCourse (h : first.OnTime events r) (hAccount : first.Accounted calls limit [])
    (hCalls : c.Undisturbed origin i call calls) (hFirst : first.OnCourse c origin i limit result) :
    r.OnCourse c origin i limit result := by
  induction h with
  | start => exact hFirst
  | step hOnTime hTimely hMove ih =>
    exact ih.move? (hOnTime.history.accounted hAccount) hCalls hTimely hMove

/-- **A task on course ends with its result**, over a tree that is the same as the one of the result
where its collector looks. -/
theorem OnCourse.ended (h : r.OnCourse c origin i limit result) (hOver : r.isOver = true) :
    ∃ t, r.tasks[i]? = some t ∧ t.outcome = result.1 ∧
      c.Mirrors origin r.storage.tree result.2 ∧
      origin.GrownFrom (r.storage.abandoned.flatMap StagingJob.numbers) r.storage.tree := by
  obtain ⟨t, mirror, hTask, hMirrors, hCourse⟩ := h.task
  have hNumbers := numbers_of_isOver hOver
  rw [isOver, Bool.and_eq_true, List.all_eq_true] at hOver
  obtain ⟨error, hActivity⟩ := Task.exists_ended (hOver.1 t (List.mem_of_getElem? hTask))
  simp only [Task.OnCourse, hActivity] at hCourse
  subst hCourse
  exact ⟨t, hTask, by simp [Task.outcome, hActivity], hMirrors, hNumbers ▸ h.grown⟩

end Run

end TopologyExporter
