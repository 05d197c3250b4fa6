import TopologyExporter.Proofs.Files.Reading
import TopologyExporter.Proofs.Scrape.Course
import TopologyExporter.Proofs.Scrape.Jobs

/-!
# Landing — what becomes of a file in a scrape

One call of a scrape replaces the file at a destination, always by the same content, and no other
call does. At any moment the file there is the one from before the scrape or a whole one with that
content, and it is the latter once the call has no more files to replace and has not failed.

## Results

* `Orchestrator.Scrapes.changedFrom` — a scrape does nothing to the tree but change files.
* `Run.Delivers.step`                — what every step keeps of the file and of the call that
  replaces it.
* `Orchestrator.Scrapes.delivers`    — so, after a scrape in which the call succeeded, the file is
  new.
-/

namespace TopologyExporter

-- ---------------------------------------------------------------------------
-- Trees of a run
-- ---------------------------------------------------------------------------

/-- What is kept of a tree in which files are replaced since it was `origin`: those that are staged
have temporary files of their own, and all that has changed is files. -/
structure FileTree.ChangedFrom (origin : FileTree) (numbers : List Nat) (tree : FileTree) :
    Prop where
  custody : tree.Custody numbers
  changes : origin.ChangesFiles tree

namespace Run

variable {r r' first last : Run} {i : Nat} {calls : List (String × Call)} {call : Call}
  {limit : Duration} {events new : List RunEvent} {origin : FileTree} {destination : String}
  {content : Bytes} {target : Location}

theorem Files.changedFrom {numbers numbers' : List Nat} {tree tree' : FileTree}
    {landed : Option String} (h : Files numbers tree landed numbers' tree')
    (hChanged : origin.ChangedFrom numbers tree) :
    origin.ChangedFrom numbers' tree' :=
  ⟨h.custody hChanged.custody, hChanged.changes.trans (h.changesFiles hChanged.custody)⟩

/-- So do whole histories, by induction on their steps. -/
theorem History.changedFrom (h : first.History events last)
    (hFirst : origin.ChangedFrom first.numbers first.storage.tree) :
    origin.ChangedFrom last.numbers last.storage.tree := by
  induction h with
  | start => exact hFirst
  | step hHistory hStep ih =>
    obtain ⟨landed, hFiles, -⟩ := hStep.files
    exact hFiles.changedFrom ih

-- ---------------------------------------------------------------------------
-- The task that replaces the file
-- ---------------------------------------------------------------------------

/-- A task waits for a file that has been staged only if it did before, or if its job has just
staged it. -/
theorem Step.staged_cases {t' : Task} {file : StagedFile} (h : r.Step new r')
    (hTask : r'.tasks[i]? = some t') (hJob : t'.activity = .staging (.staged file)) :
    r.tasks[i]? = some t' ∨
      ∃ t destination content, r.tasks[i]? = some t ∧
        t.activity = .staging (.running destination content) ∧
        r.storage.tree.stage destination ⟨content, none⟩ = .ok (file, r'.storage.tree) := by
  -- a step puts at most one task in place of another
  have hSet {j : Nat} {u : Task} (hBefore : (r.tasks.set j u)[i]? = some t') :
      (j = i ∧ u = t') ∨ r.tasks[i]? = some t' := by
    rw [List.getElem?_set] at hBefore
    split at hBefore
    case isTrue hj =>
      split at hBefore
      · exact .inl ⟨hj, Option.some.inj hBefore⟩
      · simp at hBefore
    case isFalse => exact .inr hBefore
  cases h with
  | proceeds hMove =>
    obtain ⟨t, u, channel, tree, -, hProceeds, rfl⟩ := proceed_eq_some hMove
    refine .inl ((hSet hTask).resolve_left ?_)
    rintro ⟨-, rfl⟩
    cases hProceeds <;> simp_all [Task.finish]
  | timesOut _ _ =>
    refine .inl ((hSet hTask).resolve_left ?_)
    rintro ⟨-, rfl⟩
    simp [Task.finish] at hJob
  | stages hMove =>
    obtain ⟨t, job, hBefore, hStaging, hRunning, rfl⟩ := stage_eq_some hMove
    rcases hSet hTask with ⟨rfl, rfl⟩ | hSame
    · obtain ⟨destination, content, rfl⟩ := StagingJob.eq_running hRunning
      refine .inr ⟨t, destination, content, hBefore, hStaging, ?_⟩
      rw [StagingJob.finish] at hJob ⊢
      cases hStage : r.storage.tree.stage destination ⟨content, none⟩ with
      | error error => simp [hStage] at hJob
      | ok staged =>
        obtain ⟨file', tree⟩ := staged
        simp only [hStage, Activity.staging.injEq, StagingJob.staged.injEq] at hJob
        rw [hJob]
    · exact .inl hSame
  | receives hMove =>
    obtain ⟨item, rest, -, rfl⟩ := receive_eq_some hMove
    exact .inl hTask
  | sweeps hMove =>
    obtain ⟨storage, -, rfl⟩ := sweep_eq_some hMove
    exact .inl hTask
  | advances hMove =>
    obtain ⟨time, -, rfl⟩ := advance_eq_some hMove
    exact .inl hTask

end Run

/-- A task that has no more files to replace, has not failed and does not commit one just now had
none to replace before. -/
theorem Task.Turns.filesAhead_eq_zero {t t' : Task} (h : t.Turns t')
    (hNot : t.happening t' ≠ .commits) (hNone : t'.filesAhead = 0)
    (hGood : ∀ error, t'.activity ≠ .ended (some error)) :
    t.filesAhead = 0 ∧ ∀ error, t.activity ≠ .ended (some error) := by
  cases h with
  | stays => exact ⟨hNone, hGood⟩
  | timesOut hActive error => exact absurd rfl (hGood error)
  | stages hJob tree => simp [filesAhead, job?] at hNone
  | proceeds hProceeds =>
    cases hProceeds with
    | wakes hAsleep _ => simpa [filesAhead, job?, hAsleep] using hNone
    | learnsFailure _ => exact absurd rfl (hGood _)
    | commits hJob _ => simp [happening, hJob] at hNot
    | failsToCommit _ _ => exact absurd rfl (hGood _)
    | returns hReady hSteps _ => simp [filesAhead, job?, hReady, hSteps]
    | panics _ _ _ => exact absurd rfl (hGood _)
    | pauses hReady hSteps =>
      simpa [filesAhead, job?, hReady, hSteps, CallStep.isReplace] using hNone
    | stages _ _ => simp [filesAhead, job?] at hNone
    | sends hReady hSteps _ _ =>
      simpa [filesAhead, job?, hReady, hSteps, CallStep.isReplace] using hNone
    | findsClosed _ _ _ => exact absurd rfl (hGood _)

-- ---------------------------------------------------------------------------
-- A run with such a task
-- ---------------------------------------------------------------------------

/-- Whether a call is one of some calls and replaces the file at a destination, always by the same
content, and no other of the calls replaces what is there. -/
structure Call.Provides (call : Call) (origin : FileTree) (destination : String) (content : Bytes)
    (i : Nat) (calls : List (String × Call)) : Prop where
  own    : ∃ name, calls[i]? = some (name, call)
  files  : call.files ≠ 0
  only   : ∀ destination' content', .replace destination' content' ∈ call.steps →
    destination' = destination ∧ content' = content
  others : ∀ j other, j ≠ i → calls[j]? = some other →
    ∀ destination' content', .replace destination' content' ∈ other.2.steps →
      ∀ target, origin.landing destination' = .ok target →
        origin.landing destination ≠ .ok target

/-- What is known at any moment of a run of such calls that began over the tree `origin`: what is at
the destination, what the task of the call has staged, and what it has landed once it has no more
files to replace. -/
structure Run.Delivers (origin : FileTree) (destination : String) (content : Bytes) (i : Nat)
    (r : Run) : Prop where
  changed : origin.ChangedFrom r.numbers r.storage.tree
  whole   : ∀ target, origin.landing destination = .ok target →
    r.storage.tree.get? target = origin.get? target ∨
      r.storage.tree.get? target = some (.file content FileTree.publicMode)
  staged  : ∀ t file, r.tasks[i]? = some t → t.activity = .staging (.staged file) →
    ∃ parent : Location,
      r.storage.tree.get? (parent ++ [.temp file.number]) = some (.file content FileTree.publicMode)
  landed  : ∀ t, r.tasks[i]? = some t → t.filesAhead = 0 →
    (∀ error, t.activity ≠ .ended (some error)) →
    ∃ target, origin.landing destination = .ok target ∧
      r.storage.tree.get? target = some (.file content FileTree.publicMode)

namespace Run

variable {r r' first last : Run} {i : Nat} {calls : List (String × Call)} {call : Call}
  {limit : Duration} {events new : List RunEvent} {origin : FileTree} {destination : String}
  {content : Bytes} {target : Location}

namespace Delivers

variable (h : r.Delivers origin destination content i) (hAccount : r.Accounted calls limit events)
  (hProvides : call.Provides origin destination content i calls) (hStep : r.Step new r')
include h hAccount hProvides hStep

/-- **When the call commits its file**, it lands at the destination with its content. -/
theorem commits (hCommits : r.happening r' i = .commits) :
    ∃ target, origin.landing destination = .ok target ∧
      r'.storage.tree.get? target = some (.file content FileTree.publicMode) := by
  obtain ⟨name, hCall⟩ := hProvides.own
  obtain ⟨t, file, hTask, hJob, hCommit⟩ := hStep.commits_eq hCommits
  obtain ⟨-, content', hMem⟩ := (hAccount.tasks i t _ hTask hCall).job _ hJob
  obtain ⟨hDestination, -⟩ := hProvides.only _ _ hMem
  obtain ⟨parent', hFile⟩ := h.staged t file hTask hJob
  obtain ⟨parent, node, target, -, hNode, hLanding, hTree⟩ := StagedFile.commit_eq_ok hCommit
  obtain rfl := h.changed.custody.eq_of_get? (number_mem hTask hJob) hFile hNode
  refine ⟨target, h.changed.changes.landing (hDestination ▸ hLanding), ?_⟩
  rw [hTree, FileTree.get?_put (FileTree.landing_eq_ok hLanding).2.1, if_pos rfl]

/-- Otherwise what is at the destination stays. -/
theorem stays (hNot : r.happening r' i ≠ .commits)
    (hTarget : origin.landing destination = .ok target) :
    r'.storage.tree.get? target = r.storage.tree.get? target := by
  have hPlain : isPlain target = true :=
    FileTree.entryPlace_isPlain (FileTree.landing_eq_ok hTarget).1
  obtain ⟨landed, hFiles, hLanded⟩ := hStep.files
  rcases hFiles.get?_plain hPlain with hStays | ⟨destination', hEq, hPlace⟩
  · exact hStays
  obtain ⟨j, t, file, hMove, hTask, hJob, rfl⟩ := hLanded destination' hEq
  by_cases hj : j = i
  · subst hj
    obtain ⟨u, t', channel, tree, hTask', hProceeds, rfl⟩ := proceed_eq_some hMove
    rw [(happening_set_self hTask' rfl).2] at hNot
    show tree.get? target = _
    rw [← FileTree.get?_settled hPlain, hProceeds.settled hNot, FileTree.get?_settled hPlain]
  · -- a file that has landed is one of another call
    obtain ⟨other, hCall⟩ := hAccount.exists_call hTask
    obtain ⟨-, content', hMem⟩ := (hAccount.tasks j t other hTask hCall).job _ hJob
    have hElsewhere := hProvides.others j other hj hCall _ _ hMem target
      (h.changed.changes.landing hPlace)
    exact absurd hTarget hElsewhere

/-- The file that the task waits for has the content of the call. -/
theorem keepsStaged {t' : Task} {file : StagedFile} (hTask' : r'.tasks[i]? = some t')
    (hJob : t'.activity = .staging (.staged file)) : ∃ parent : Location,
      r'.storage.tree.get? (parent ++ [EntryName.temp file.number]) =
        some (.file content FileTree.publicMode) := by
  obtain ⟨name, hCall⟩ := hProvides.own
  obtain ⟨landed, hFiles, -⟩ := hStep.files
  rcases hStep.staged_cases hTask' hJob
    with hTask | ⟨t, destination', content', hTask, hRunning, hStage⟩
  · obtain ⟨parent, hFile⟩ := h.staged t' file hTask hJob
    exact ⟨parent,
      (hFiles.spares h.changed.custody (number_mem hTask hJob) (number_mem hTask' hJob)).trans
        hFile⟩
  · obtain ⟨-, rfl⟩ := hProvides.only _ _ ((hAccount.tasks i t _ hTask hCall).job _ hRunning)
    obtain ⟨parent, -, rfl, hTree⟩ := FileTree.stage_eq_ok hStage
    refine ⟨parent, ?_⟩
    rw [hTree, FileTree.get?_put (by simp), if_pos rfl]

/-- **Every step keeps what is known.** -/
theorem step : r'.Delivers origin destination content i := by
  obtain ⟨landed, hFiles, -⟩ := hStep.files
  have hTurns := hStep.turns i
  refine ⟨hFiles.changedFrom h.changed, fun target hTarget => ?_,
    fun t' file hTask' hJob => h.keepsStaged hAccount hProvides hStep hTask' hJob,
    fun t' hTask' hNone hGood => ?_⟩
  · by_cases hCommits : r.happening r' i = .commits
    · obtain ⟨target', hTarget', hFile⟩ := h.commits hAccount hProvides hStep hCommits
      obtain rfl : target = target' := Except.ok.inj (hTarget.symm.trans hTarget')
      exact .inr hFile
    · rw [h.stays hAccount hProvides hStep hCommits hTarget]
      exact h.whole target hTarget
  · by_cases hCommits : r.happening r' i = .commits
    · exact h.commits hAccount hProvides hStep hCommits
    · rw [hTask'] at hTurns
      cases hTask : r.tasks[i]? with
      | none => simp [hTask] at hTurns
      | some t =>
        rw [hTask, Option.rel_some_some] at hTurns
        have hCommits' := hCommits
        rw [happening_of_tasks hTask hTask'] at hCommits'
        obtain ⟨hNone', hGood'⟩ := hTurns.filesAhead_eq_zero hCommits' hNone hGood
        obtain ⟨target, hTarget, hFile⟩ := h.landed t hTask hNone' hGood'
        exact ⟨target, hTarget, (h.stays hAccount hProvides hStep hCommits hTarget).trans hFile⟩

end Delivers

/-- So does a whole history, by induction on its steps. -/
theorem History.delivers (h : first.History events last) (hAccount : first.Accounted calls limit [])
    (hProvides : call.Provides origin destination content i calls)
    (hFirst : first.Delivers origin destination content i) :
    last.Delivers origin destination content i := by
  induction h with
  | start => exact hFirst
  | step hHistory hStep ih => exact ih.step (hHistory.accounted hAccount) hProvides hStep

end Run

-- ---------------------------------------------------------------------------
-- A whole scrape
-- ---------------------------------------------------------------------------

namespace Orchestrator.Scrapes

variable {o : Orchestrator} {storage : Storage} {s : Snapshot} {clock : String → RunClock}
  {events : List RunEvent} {scraped : Scraped} (h : o.Scrapes storage s clock events scraped)
include h

/-- A scrape does nothing to the tree but change files. -/
theorem changedFrom {origin : FileTree}
    (hBefore : origin.ChangedFrom (storage.abandoned.flatMap StagingJob.numbers) storage.tree) :
    origin.ChangedFrom (scraped.storage.abandoned.flatMap StagingJob.numbers)
      scraped.storage.tree := by
  cases h with | @concluded first last events hStart hHistory hOver elapsed =>
  obtain ⟨-, -, rfl⟩ := start_eq_ok_iff.mp hStart
  rw [← Run.numbers_start (o.calls s clock) o.limit ⟨o.buffer, [], true⟩] at hBefore
  have hLast := hHistory.changedFrom hBefore
  rwa [Run.numbers_of_isOver hOver] at hLast

/-- **After a scrape the file at the destination is the one from before or the one that the call
provides**, and the latter if the call has succeeded. -/
theorem delivers {i : Nat} {call : Call} {destination : String} {content : Bytes}
    (hCustody : storage.tree.Custody (storage.abandoned.flatMap StagingJob.numbers))
    (hProvides : call.Provides storage.tree destination content i (o.calls s clock)) :
    (∀ target, storage.tree.landing destination = .ok target →
      scraped.storage.tree.get? target = storage.tree.get? target ∨
        scraped.storage.tree.get? target = some (.file content FileTree.publicMode)) ∧
    ∀ name, scraped.report.outcomes[i]? = some ⟨name, none⟩ →
      ∃ target, storage.tree.landing destination = .ok target ∧
        scraped.storage.tree.get? target = some (.file content FileTree.publicMode) := by
  cases h with | @concluded first last events hStart hHistory hOver elapsed =>
  obtain ⟨own, hCall⟩ := hProvides.own
  have hFirst : first.Delivers storage.tree destination content i := by
    obtain ⟨-, -, rfl⟩ := start_eq_ok_iff.mp hStart
    have hTask : (Run.start (o.calls s clock) o.limit ⟨o.buffer, [], true⟩ storage).tasks[i]? =
        some (.start own call) := by
      simp [Run.start, hCall]
    refine ⟨?_, fun _ _ => .inl rfl, fun t file hHere hJob => ?_, fun t hHere hNone => ?_⟩
    · rw [Run.numbers_start]
      exact ⟨hCustody, .refl _⟩
    · obtain rfl := Option.some.inj (hTask.symm.trans hHere)
      simp [Task.start] at hJob
    · obtain rfl := Option.some.inj (hTask.symm.trans hHere)
      exact absurd hNone (by simpa using hProvides.files)
  have hLast := hHistory.delivers (accounted_of_start hStart) hProvides hFirst
  refine ⟨hLast.whole, fun name hOutcome => ?_⟩
  -- the task whose outcome is reported is over and has not failed
  have hReported : (last.tasks[i]?.map fun t => (⟨t.collector, t.outcome⟩ : Outcome)) =
      some ⟨name, none⟩ := by
    rw [← List.getElem?_map]
    exact hOutcome
  obtain ⟨t, hTask, hReport⟩ := Option.map_eq_some_iff.mp hReported
  rw [Run.isOver, Bool.and_eq_true, List.all_eq_true] at hOver
  obtain ⟨error, hEnded⟩ := Task.exists_ended (hOver.1 t (List.mem_of_getElem? hTask))
  obtain rfl : error = none := by simpa [Task.outcome, hEnded] using (Outcome.mk.inj hReport).2
  have hSteps :=
    ((hHistory.accounted (accounted_of_start hStart)).tasks i t _ hTask hCall).steps_nil _ hEnded
  exact hLast.landed t hTask (by simp [Task.filesAhead, Task.job?, hSteps, hEnded])
    (by simp [hEnded])

end Orchestrator.Scrapes

end TopologyExporter
