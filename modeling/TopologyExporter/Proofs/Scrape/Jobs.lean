import TopologyExporter.Proofs.Files.Matching
import TopologyExporter.Proofs.Files.Way
import TopologyExporter.Proofs.Scrape.Order

/-!
# Staging jobs — as a workshop

The jobs that stage the files of one collector, scrape after scrape, are a workshop: each stands for
what is staged under the number of its scrape. A job that does its work stages a file there, one
whose result is thrown away drops it, and the task that waits for it commits it.

## Results

* `Phase.Step.settled`      — nothing but a commit changes more than temporary files.
* `Workshop.Backs.work`     — a job does its work.
* `Workshop.Backs.discard`  — its result is thrown away.
* `Workshop.Backs.commit`   — its file is committed.
-/

namespace TopologyExporter

-- ---------------------------------------------------------------------------
-- What jobs and tasks leave alone
-- ---------------------------------------------------------------------------

/-- A job that is not over has its work before it. -/
theorem StagingJob.eq_running {job : StagingJob} (h : job.isOver = false) :
    ∃ destination content, job = .running destination content := by
  cases job with
  | running destination content => exact ⟨destination, content, rfl⟩
  | staged file => simp [isOver] at h
  | failed error => simp [isOver] at h

/-- A job changes nothing but temporary files. -/
theorem StagingJob.finish_settled (job : StagingJob) (tree : FileTree) :
    (job.finish tree).2.settled = tree.settled := by
  cases job with
  | staged file => rfl
  | failed error => rfl
  | running destination content =>
    rw [finish]
    split
    case h_1 file tree' hStage =>
      obtain ⟨parent, -, -, rfl⟩ := FileTree.stage_eq_ok hStage
      exact FileTree.settled_put_temp parent _
    case h_2 => rfl

theorem StagingJob.drop_settled (job : StagingJob) (tree : FileTree) :
    (job.drop tree).settled = tree.settled := by
  cases job with
  | staged file => exact file.discard_settled tree
  | running destination content => rfl
  | failed error => rfl

/-- Neither does a job that is left behind. -/
theorem Storage.sweep?_settled {storage storage' : Storage} {j : Nat}
    (h : storage.sweep? j = some storage') : storage'.tree.settled = storage.tree.settled := by
  rw [sweep?] at h
  obtain ⟨job, -, h⟩ := Option.bind_eq_some_iff.mp h
  split at h
  · rw [← Option.some.inj h]
    exact job.drop_settled storage.tree
  · rw [← Option.some.inj h]
    exact job.finish_settled storage.tree

namespace Task.Proceeds

variable {t t' : Task} {channel channel' : Channel SinkItem} {tree tree' : FileTree} {now : Nat}

/-- A task that does not commit changes nothing but temporary files. -/
theorem settled (h : t.Proceeds channel tree now t' channel' tree')
    (hNot : t.happening t' ≠ .commits) : tree'.settled = tree.settled := by
  cases h with
  | commits hJob hCommit =>
    refine absurd ?_ hNot
    simp [happening, hJob]
  | failsToCommit hJob hCommit => exact StagedFile.commit_error_settled hCommit
  | _ => rfl

/-- A task without files to replace leaves all files alone. -/
theorem quiet (h : t.Proceeds channel tree now t' channel' tree') (hNone : t.filesAhead = 0) :
    tree' = tree := by
  cases h with
  | commits hJob hCommit => exact absurd hNone (Nat.ne_of_gt (filesAhead_pos_of_staging hJob))
  | failsToCommit hJob hCommit => exact absurd hNone (Nat.ne_of_gt (filesAhead_pos_of_staging hJob))
  | _ => rfl

/-- A task commits when a commit is noted. -/
theorem commits_eq (h : t.Proceeds channel tree now t' channel' tree')
    (hCommits : t.happening t' = .commits) :
    ∃ file, t.activity = .staging (.staged file) ∧ file.commit tree = (.ok (), tree') := by
  obtain ⟨⟨file, hBefore⟩, hAfter, -⟩ | ⟨-, -, hAbandons⟩ | hPasses :=
    t.happening_cases t'
  · cases h with
    | commits hJob hCommit => exact ⟨_, hJob, hCommit⟩
    | wakes hAsleep _ => simp [hBefore] at hAsleep
    | _ => simp_all [finish]
  · simp [hCommits] at hAbandons
  · simp [hCommits] at hPasses

end Task.Proceeds

theorem Task.job?_of_filesAhead {t : Task} (h : t.filesAhead = 0) : t.job? = none := by
  cases hJob : t.job? with
  | none => rfl
  | some job => simp [filesAhead, hJob] at h

/-- When a commit is noted of a collector, its task has committed a staged file. -/
theorem Run.Step.commits_eq {r r' : Run} {shown : List RunEvent} {i : Nat} (h : r.Step shown r')
    (hCommits : r.happening r' i = .commits) :
    ∃ t file, r.tasks[i]? = some t ∧ t.activity = .staging (.staged file) ∧
      file.commit r.storage.tree = (.ok (), r'.storage.tree) := by
  -- nothing is noted of a step in which other tasks change, or none
  have hHere {j : Nat} {t t' : Task} (hTask : r.tasks[j]? = some t)
      (hTasks : r'.tasks = r.tasks.set j t') : j = i ∧ t.happening t' = .commits := by
    by_cases hj : j = i
    · subst hj
      rw [(Run.happening_set_self hTask hTasks).2] at hCommits
      exact ⟨rfl, hCommits⟩
    · rw [(Run.happening_set_ne hj hTasks).2] at hCommits
      simp at hCommits
  have hNone (hTasks : r'.tasks = r.tasks) : False := by
    rw [Run.happening_of_same (by rw [hTasks])] at hCommits
    simp at hCommits
  cases h with
  | proceeds hMove =>
    obtain ⟨t, t', channel, tree, hTask, hProceeds, rfl⟩ := Run.proceed_eq_some hMove
    obtain ⟨rfl, hCommits'⟩ := hHere hTask rfl
    obtain ⟨file, hJob, hCommit⟩ := hProceeds.commits_eq hCommits'
    exact ⟨t, file, hTask, hJob, hCommit⟩
  | @timesOut j t hTask hActive =>
    obtain ⟨rfl, hCommits'⟩ := hHere hTask rfl
    have hEnded : (t.finish (some (.timeout t.collector r.limit))).activity = .ended _ := rfl
    rcases Task.happening_of_ended (t := t) hEnded with hLost | hLost
    all_goals simp [hLost] at hCommits'
  | stages hMove =>
    obtain ⟨t, job, hTask, _, _, rfl⟩ := Run.stage_eq_some hMove
    obtain ⟨rfl, hCommits'⟩ := hHere hTask rfl
    rw [Task.happening_of_staging rfl] at hCommits'
    simp at hCommits'
  | receives hMove =>
    obtain ⟨item, rest, _, rfl⟩ := Run.receive_eq_some hMove
    exact (hNone rfl).elim
  | sweeps hMove =>
    obtain ⟨storage, _, rfl⟩ := Run.sweep_eq_some hMove
    exact (hNone rfl).elim
  | advances hMove =>
    obtain ⟨time, _, rfl⟩ := Run.advance_eq_some hMove
    exact (hNone rfl).elim

/-- **Nothing but a commit changes more than temporary files**, where the companions of the
collector replace no files. -/
theorem Phase.Step.settled {i : Nat} {p p' : Phase} {happening : Happening}
    (h : p.Step i happening p') (hAlone : p.Alone i) (hNot : happening ≠ .commits) :
    p'.storage.tree.settled = p.storage.tree.settled := by
  cases h with
  | begins hStart =>
    show (Run.storage _).tree.settled = _
    rw [(Orchestrator.start_eq_ok hStart).2]
    rfl
  | concludes hOver elapsed => rfl
  | sweeps hSweep => exact Storage.sweep?_settled hSweep
  | @goesOn o run run' shown hRun =>
    cases hRun with
    | @proceeds j run' hMove =>
      obtain ⟨t, t', channel, tree, hTask, hProceeds, rfl⟩ := Run.proceed_eq_some hMove
      by_cases hj : j = i
      · subst hj
        refine hProceeds.settled fun hCommits => hNot ?_
        rw [(Run.happening_set_self hTask rfl).2, hCommits]
      · exact congrArg FileTree.settled (hProceeds.quiet (hAlone j t hj hTask))
    | timesOut hTask hActive => rfl
    | stages hMove =>
      obtain ⟨t, job, _, _, _, rfl⟩ := Run.stage_eq_some hMove
      exact job.finish_settled _
    | receives hMove =>
      obtain ⟨item, rest, _, rfl⟩ := Run.receive_eq_some hMove
      rfl
    | sweeps hMove =>
      obtain ⟨storage, hSweep, rfl⟩ := Run.sweep_eq_some hMove
      exact Storage.sweep?_settled hSweep
    | advances hMove =>
      obtain ⟨time, _, rfl⟩ := Run.advance_eq_some hMove
      rfl

-- ---------------------------------------------------------------------------
-- The workshop of some jobs
-- ---------------------------------------------------------------------------

/-- What a job that stages a content for a destination has staged under the number of its scrape. -/
def StagingJob.StandsFor (destination : String) (content : Bytes) (w : Workshop Nat) (k : Nat) :
    StagingJob → Prop
  | running destination' content' =>
    destination' = destination ∧ content' = content ∧ w.staged.get? k = none
  | staged file => w.staged.get? k = some file
  | failed _ => w.staged.get? k = none

/-- Whether a workshop is that of some jobs, given by number: each job stands for what is staged
under its number, and nothing else is staged. -/
structure Workshop.Backs (w : Workshop Nat) (l : Ledger Nat) (destination : String)
    (content : Nat → Bytes) (jobs : List (Nat × StagingJob)) : Prop where
  ledger   : w.Matches l
  distinct : (jobs.map Prod.fst).Nodup
  stands   : ∀ k job, (k, job) ∈ jobs → job.StandsFor destination (content k) w k
  owned    : ∀ k file, w.staged.get? k = some file → k ∈ jobs.map Prod.fst
  drafts   : ∀ k draft, l.drafts.get? k = some draft → draft = ⟨destination, content k⟩

theorem StagingJob.StandsFor.congr {destination : String} {content : Bytes} {w w' : Workshop Nat}
    {k : Nat} {job : StagingJob} (h : job.StandsFor destination content w k)
    (hSame : w'.staged.get? k = w.staged.get? k) : job.StandsFor destination content w' k := by
  cases job with
  | running destination' content' => exact ⟨h.1, h.2.1, hSame.trans h.2.2⟩
  | staged file => exact Eq.trans hSame h
  | failed error => exact Eq.trans hSame h

namespace Workshop.Backs

variable {w w' : Workshop Nat} {l l' : Ledger Nat} {destination : String} {content : Nat → Bytes}
  {jobs before after : List (Nat × StagingJob)} {k : Nat} {job job' : StagingJob}

/-- A job is the only one of its number. -/
theorem ne_of_mem (h : w.Backs l destination content (before ++ (k, job) :: after))
    {other : Nat × StagingJob} (hOther : other ∈ before ++ after) : other.1 ≠ k := by
  have hDistinct := h.distinct
  rw [List.map_append, List.map_cons, List.nodup_middle, List.nodup_cons, ← List.map_append]
    at hDistinct
  have hMem : other.1 ∈ (before ++ after).map Prod.fst := List.mem_map_of_mem hOther
  rintro rfl
  exact hDistinct.1 hMem

theorem stands_here (h : w.Backs l destination content (before ++ (k, job) :: after)) :
    job.StandsFor destination (content k) w k :=
  h.stands k job (by simp)

/-- The job of one number goes on, and what is staged under other numbers is as before. -/
theorem replace (h : w.Backs l destination content (before ++ (k, job) :: after))
    (hLedger : w'.Matches l')
    (hStaged : ∀ k', k' ≠ k → w'.staged.get? k' = w.staged.get? k')
    (hDrafts : ∀ k' draft, l'.drafts.get? k' = some draft →
      draft = ⟨destination, content k'⟩)
    (hHere : job'.StandsFor destination (content k) w' k) :
    w'.Backs l' destination content (before ++ (k, job') :: after) where
  ledger := hLedger
  distinct := by simpa using h.distinct
  stands k' other hOther := by
    rw [List.mem_append, List.mem_cons, or_left_comm, ← List.mem_append] at hOther
    rcases hOther with hEq | hOther
    · obtain ⟨rfl, rfl⟩ := Prod.mk.inj hEq
      exact hHere
    · have hMem : (k', other) ∈ before ++ (k, job) :: after := by
        rw [List.mem_append, List.mem_cons, or_left_comm, ← List.mem_append]
        exact .inr hOther
      exact (h.stands k' other hMem).congr (hStaged k' (h.ne_of_mem hOther))
  owned k' file hFile := by
    by_cases hk : k' = k
    · simp [hk]
    · rw [hStaged k' hk] at hFile
      simpa using h.owned k' file hFile
  drafts := hDrafts

/-- The job of one number is gone, with what was staged under it. -/
theorem remove (h : w.Backs l destination content (before ++ (k, job) :: after))
    (hLedger : w'.Matches l')
    (hStaged : ∀ k', w'.staged.get? k' = if k' = k then none else w.staged.get? k')
    (hDrafts : ∀ k' draft, l'.drafts.get? k' = some draft →
      draft = ⟨destination, content k'⟩) :
    w'.Backs l' destination content (before ++ after) where
  ledger := hLedger
  distinct := by
    have hDistinct := h.distinct
    rw [List.map_append, List.map_cons, List.nodup_middle, List.nodup_cons, ← List.map_append]
      at hDistinct
    exact hDistinct.2
  stands k' other hOther := by
    have hMem : (k', other) ∈ before ++ (k, job) :: after := by
      rw [List.mem_append, List.mem_cons, or_left_comm, ← List.mem_append]
      exact .inr hOther
    exact (h.stands k' other hMem).congr (by rw [hStaged, if_neg (h.ne_of_mem hOther)])
  owned k' file hFile := by
    rw [hStaged] at hFile
    split at hFile
    case isTrue => simp at hFile
    case isFalse hk =>
      have hOwned := h.owned k' file hFile
      simpa [hk] using hOwned
  drafts := hDrafts

/-- A job begins under a new number. -/
theorem begin (h : w.Backs l destination content jobs) (hNew : k ∉ jobs.map Prod.fst) :
    w.Backs l destination content (jobs ++ [(k, .running destination (content k))]) where
  ledger := h.ledger
  distinct := by
    rw [List.map_append, List.nodup_append]
    refine ⟨h.distinct, by simp, ?_⟩
    intro k' hk' last hLast
    obtain rfl : last = k := by simpa using hLast
    rintro rfl
    exact hNew hk'
  stands k' other hOther := by
    rcases List.mem_append.mp hOther with hBefore | hLast
    · exact h.stands k' other hBefore
    · obtain ⟨rfl, rfl⟩ := Prod.mk.inj (List.mem_singleton.mp hLast)
      refine ⟨rfl, rfl, ?_⟩
      cases hFile : w.staged.get? k' with
      | none => rfl
      | some file => exact absurd (h.owned k' file hFile) hNew
  owned k' file hFile := by
    rw [List.map_append]
    exact List.mem_append_left _ (h.owned k' file hFile)
  drafts := h.drafts

/-- The contents of other numbers do not matter. -/
theorem congr_content (h : w.Backs l destination content jobs) {content' : Nat → Bytes}
    (hSame : ∀ k ∈ jobs.map Prod.fst, content' k = content k) :
    w.Backs l destination content' jobs where
  ledger := h.ledger
  distinct := h.distinct
  stands k job hJob := by
    rw [hSame k (List.mem_map_of_mem hJob)]
    exact h.stands k job hJob
  owned := h.owned
  drafts k draft hDraft := by
    have hHeld := h.ledger.held k
    rw [hDraft] at hHeld
    cases hFile : w.staged.get? k with
    | none => simp [hFile] at hHeld
    | some file =>
      rw [hSame k (h.owned k file hFile)]
      exact h.drafts k draft hDraft

/-- **A job does its work**: it stages its file, or fails and stages nothing. -/
theorem work {destination' : String} {content' : Bytes}
    (h : w.Backs l destination content (before ++ (k, .running destination' content') :: after)) :
    ∃ (w' : Workshop Nat) (l' : Ledger Nat),
      w'.tree = ((StagingJob.running destination' content').finish w.tree).2 ∧
      l'.tree = l.tree ∧
      w'.Backs l' destination content
        (before ++ (k, ((StagingJob.running destination' content').finish w.tree).1) :: after) := by
  obtain ⟨rfl, rfl, hNone⟩ := h.stands_here
  obtain ⟨-, hMatches⟩ := h.ledger.stage k destination' ⟨content k, none⟩
  have hSame : l.tree.staging destination' none = w.tree.staging destination' none := by
    rw [← h.ledger.tree, FileTree.staging_settled]
  simp only [Workshop.step, Ledger.step, StagingJob.finish, FileTree.stage_eq, hSame]
    at hMatches ⊢
  cases hStaging : w.tree.staging destination' none with
  | error reason =>
    exact ⟨w, l, rfl, rfl, h.replace h.ledger (fun _ _ => rfl) h.drafts hNone⟩
  | ok parent =>
    rw [hStaging] at hMatches
    dsimp only at hMatches ⊢
    generalize hFile :
      (⟨Path.directory destination', w.tree.freshNumber, destination'⟩ : StagedFile)
      = file at hMatches ⊢
    generalize hTree : w.tree.put (parent ++ [EntryName.temp w.tree.freshNumber])
      (.file (content k) FileTree.publicMode) = tree at hMatches ⊢
    have hForget : (⟨tree, w.staged⟩ : Workshop Nat).forget k = ⟨tree, w.staged⟩ :=
      forget_of_none hNone
    rw [hForget] at hMatches
    refine ⟨_, _, rfl, ?_, h.replace hMatches ?_ ?_ ?_⟩
    · rfl
    · intro k' hk'
      rw [Keyed.get?_put, if_neg hk']
    · intro k' draft hDraft
      rw [Keyed.get?_put] at hDraft
      split at hDraft
      case isTrue hk' => rw [← Option.some.inj hDraft, hk']
      case isFalse hk' =>
        rw [Ledger.forget, Keyed.get?_erase, if_neg hk'] at hDraft
        exact h.drafts k' draft hDraft
    · show (w.staged.put k file).get? k = some file
      rw [Keyed.get?_put, if_pos rfl]

/-- **The result of a job is thrown away**, and its temporary file with it. -/
theorem discard (h : w.Backs l destination content (before ++ (k, job) :: after))
    (hOver : job.isOver = true) :
    ∃ (w' : Workshop Nat) (l' : Ledger Nat), w'.tree = job.drop w.tree ∧ l'.tree = l.tree ∧
      w'.Backs l' destination content (before ++ after) := by
  refine ⟨w.forget k, l.forget k, ?_, rfl, h.remove (h.ledger.forget k) get?_forget ?_⟩
  · have hStands := h.stands_here
    cases job with
    | running destination' content' => simp [StagingJob.isOver] at hOver
    | staged file => rw [forget_of_some hStands, StagingJob.drop]
    | failed error =>
      rw [forget_of_none hStands]
      rfl
  · intro k' draft hDraft
    rw [Ledger.forget, Keyed.get?_erase] at hDraft
    split at hDraft
    · simp at hDraft
    · exact h.drafts k' draft hDraft

end Workshop.Backs

-- ---------------------------------------------------------------------------
-- Commits
-- ---------------------------------------------------------------------------

namespace Workshop.Backs

variable {w : Workshop Nat} {l : Ledger Nat} {destination : String} {content : Nat → Bytes}
  {before after : List (Nat × StagingJob)} {k : Nat} {file : StagedFile} {tree : FileTree}

/-- What there is of the file of a job: its temporary file holds the content of its number, in the
directory of the destination. -/
theorem staged_here (h : w.Backs l destination content (before ++ (k, .staged file) :: after)) :
    w.staged.get? k = some file ∧ file.destination = destination ∧
      file.directory = Path.directory destination ∧
      ∃ place, file.place w.tree = .ok place ∧
        w.tree.get? place = some (.file (content k) FileTree.publicMode) := by
  have hStaged : w.staged.get? k = some file := h.stands_here
  obtain ⟨draft, hDraft, hHolds⟩ := h.ledger.exists_draft hStaged
  obtain rfl := h.drafts k draft hDraft
  exact ⟨hStaged, hHolds.destination, hHolds.directory, hHolds.content⟩

/-- Once the file of a job is gone, the drafts of the others are as before. -/
theorem drafts_forget (h : w.Backs l destination content (before ++ (k, .staged file) :: after))
    {k' : Nat} {draft : Draft} (hDraft : (l.forget k).drafts.get? k' = some draft) :
    draft = ⟨destination, content k'⟩ := by
  rw [Ledger.forget, Keyed.get?_erase] at hDraft
  split at hDraft
  · simp at hDraft
  · exact h.drafts k' draft hDraft

/-- **A commit that succeeds puts the content of its number at the destination.** -/
theorem commit_settled (h : w.Backs l destination content (before ++ (k, .staged file) :: after))
    (hCommit : file.commit w.tree = (.ok (), tree)) :
    ∃ target, l.tree.landing destination = .ok target ∧
      tree.settled = l.tree.put target (.file (content k) FileTree.publicMode) := by
  obtain ⟨hStaged, hDestination, -, place, hPlace, hContent⟩ := h.staged_here
  rw [StagedFile.commit_eq hPlace hContent, hDestination] at hCommit
  cases hLanding : w.tree.landing destination with
  | error reason => simp [hLanding] at hCommit
  | ok target =>
    simp only [hLanding, Prod.mk.injEq, true_and] at hCommit
    have hPlain := FileTree.entryPlace_isPlain (FileTree.landing_eq_ok hLanding).1
    refine ⟨target, ?_, ?_⟩
    · rw [← h.ledger.tree, FileTree.landing_settled, hLanding]
    · rw [← hCommit, FileTree.settled_put hPlain, ← StagedFile.discard_eq hPlace,
        StagedFile.discard_settled, h.ledger.tree]

/-- **The file of a job is committed**, and the directory of the destination is still found. -/
theorem commit (h : w.Backs l destination content (before ++ (k, .staged file) :: after))
    (hCommit : file.commit w.tree = (.ok (), tree)) {parent : Location}
    (hFound : tree.directoryPlace (Path.directory destination) = .ok parent) :
    ∃ (w' : Workshop Nat) (l' : Ledger Nat), w'.tree = tree ∧ l'.tree = tree.settled ∧
      w'.Backs l' destination content (before ++ after) := by
  obtain ⟨target, hLanding, hTree⟩ := h.commit_settled hCommit
  obtain ⟨hEntry, hTarget, -⟩ := FileTree.landing_eq_ok hLanding
  have hPlain := FileTree.entryPlace_isPlain hEntry
  obtain ⟨hStaged, hDestination, -, place, hPlace, hContent⟩ := h.staged_here
  have hForget : (w.forget k).tree = w.tree.erase place := by
    rw [forget_of_some hStaged, StagedFile.discard_eq hPlace]
  have hMoved : tree = (w.forget k).tree.put target (.file (content k) FileTree.publicMode) := by
    rw [StagedFile.commit_eq hPlace hContent, hDestination, ← FileTree.landing_settled,
      h.ledger.tree, hLanding, ← hForget] at hCommit
    exact (Prod.mk.inj hCommit).2.symm
  have hRest := h.ledger.forget k
  refine ⟨_, _, hMoved.symm, hTree.symm,
    h.remove (hRest.land hPlain _ ?_) get?_forget (fun _ _ => h.drafts_forget)⟩
  intro k' other hOther
  obtain ⟨draft, hDraft, hHolds⟩ := hRest.exists_draft hOther
  obtain rfl := h.drafts_forget hDraft
  -- what is found after the commit was found at the same place before it
  have hBefore := (FileTree.Narrows.put hTarget _ _).directoryPlace (hMoved ▸ hFound)
  rw [hHolds.directory, ← hMoved, hFound, hBefore]

/-- A commit that fails throws the file of a job away. -/
theorem commit_error (h : w.Backs l destination content (before ++ (k, .staged file) :: after))
    {error : CollectorError} (hCommit : file.commit w.tree = (.error error, tree)) :
    ∃ (w' : Workshop Nat) (l' : Ledger Nat), w'.tree = tree ∧ l'.tree = l.tree ∧
      w'.Backs l' destination content (before ++ after) := by
  obtain ⟨hStaged, -, -, place, hPlace, hContent⟩ := h.staged_here
  refine ⟨w.forget k, l.forget k, ?_, rfl,
    h.remove (h.ledger.forget k) get?_forget (fun _ _ => h.drafts_forget)⟩
  rw [forget_of_some hStaged, StagedFile.discard_eq hPlace]
  rw [StagedFile.commit_eq hPlace hContent] at hCommit
  cases hLanding : w.tree.landing file.destination with
  | error reason =>
    simp only [hLanding, Prod.mk.injEq] at hCommit
    exact hCommit.2
  | ok target => simp [hLanding] at hCommit

end Workshop.Backs

end TopologyExporter
