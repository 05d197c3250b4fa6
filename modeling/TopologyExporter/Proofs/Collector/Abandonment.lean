import TopologyExporter.Proofs.Collector.Backing

/-!
# The collector for service discovery — abandoned calls

An abandoned call stays without effect, however long the job goes on that stages its file. This
holds for any number of scrapes, any time limits that strike, and any order in which jobs go on.

## Results

* `Phase.Kept.step`                      — a step keeps what is known of the jobs of all scrapes.
* `abandoned_calls_stay_without_effect`  — so nothing of an abandoned call is ever shown or
  served.
* `commit_strands_abandoned_file`        — a temporary file can stay, if a commit replaces a link.
-/

namespace TopologyExporter

variable {d : ServiceDiscoveryCollector} {first : FileTree} {c : Chronicle} {i : Nat} {p p' : Phase}
  {happening : Happening} {o : Orchestrator} {storage : Storage}

-- ---------------------------------------------------------------------------
-- Steps
-- ---------------------------------------------------------------------------

/-- What a task replaces that goes through a call of the collector, and where its file is staged. -/
theorem ServiceDiscoveryCollector.task_files (hServed : p.Served o d.toCollector c)
    (hCollector : p.orchestrator.collectors[i]? = some d.toCollector) {t : Task}
    (hOwn : p.own? i = some t) :
    (∀ destination content, .replace destination content ∈ t.steps →
      destination = d.destination ∧ content = c.content d c.latest) ∧
    ∀ file, t.activity = .staging (.staged file) →
      file.directory = Path.directory d.destination := by
  obtain ⟨number, s, clock, limit, sent, endings, hScraped, hAccount⟩ :=
    hServed.accounted hCollector hOwn
  have hContent : c.content d c.latest = d.content s := by
    rw [Chronicle.content, hScraped]
  constructor
  · intro destination content hReplace
    rw [hContent]
    exact d.replace_mem_call (hAccount.steps.subset hReplace)
  · intro file hJob
    obtain ⟨hDirectory, content, hReplace⟩ := hAccount.job _ hJob
    rw [hDirectory, (d.replace_mem_call hReplace).1]

/-- **A step of a run keeps the jobs backed**, unless it commits. -/
theorem Backed.goesOn {run run' : Run} {shown : List RunEvent} {w : Workshop Nat} {l : Ledger Nat}
    {rest : List (Nat × StagingJob)} (h : Backed d first c run.tasks[i]? run.storage w l rest)
    (hScraped : 0 < c.scraped.length)
    (hAlone : ∀ j t, j ≠ i → run.tasks[j]? = some t → t.filesAhead = 0)
    (hReplaces : ∀ t, run.tasks[i]? = some t → ∀ destination content,
      .replace destination content ∈ t.steps →
        destination = d.destination ∧ content = c.content d c.latest)
    (hStep : run.Step shown run') :
    (∃ w' l' rest',
      Backed d first (c.note (run.happening run' i)) run'.tasks[i]? run'.storage w' l' rest') ∨
    Lost d first (c.note (run.happening run' i)) run'.storage := by
  have hPasses (hTasks : run'.tasks = run.tasks) : run.happening run' i = .passes :=
    Run.happening_of_same (by rw [hTasks])
  have hOwn {t t' : Task} (hTask : run.tasks[i]? = some t)
      (hTasks : run'.tasks = run.tasks.set i t') := Run.happening_set_self hTask hTasks
  have hOther {j : Nat} {t' : Task} (hj : j ≠ i) (hTasks : run'.tasks = run.tasks.set j t') :=
    Run.happening_set_ne hj hTasks
  cases hStep with
  | @proceeds j run' hMove =>
    obtain ⟨t, t', channel, tree, hTask, hProceeds, rfl⟩ := Run.proceed_eq_some hMove
    by_cases hj : j = i
    · subst hj
      obtain ⟨hAfter, hHappening⟩ := hOwn hTask rfl
      rw [hHappening, hAfter]
      rw [hTask] at h
      rcases h.proceeds (hReplaces t hTask) hProceeds with ⟨w', l', hBacked⟩ | hLost
      · exact .inl ⟨w', l', rest, hBacked⟩
      · exact .inr hLost
    · obtain ⟨hSame, hHappening⟩ := hOther hj rfl
      obtain rfl := hProceeds.quiet (hAlone j t hj hTask)
      rw [hHappening, hSame]
      exact .inl ⟨w, l, rest, h⟩
  | @timesOut j t hTask hActive =>
    by_cases hj : j = i
    · subst hj
      obtain ⟨hAfter, hHappening⟩ := hOwn hTask rfl
      rw [hHappening, hAfter]
      rw [hTask] at h
      obtain ⟨rest', hBacked⟩ := h.timesOut hScraped _
      exact .inl ⟨w, l, rest', hBacked⟩
    · obtain ⟨hSame, hHappening⟩ := hOther hj rfl
      have hStorage : (run.timeOut j t).storage = run.storage := by
        simp [Run.timeOut, Task.job?_of_filesAhead (hAlone j t hj hTask)]
      rw [hHappening, hSame, hStorage]
      exact .inl ⟨w, l, rest, h⟩
  | @stages j run' hMove =>
    obtain ⟨t, job, hTask, hJob, hRunning, rfl⟩ := Run.stage_eq_some hMove
    obtain rfl : j = i := by
      by_contra hj
      have hPos := Task.filesAhead_pos_of_staging hJob
      rw [hAlone j t hj hTask] at hPos
      exact absurd hPos (Nat.lt_irrefl 0)
    obtain ⟨hAfter, hHappening⟩ := hOwn hTask rfl
    rw [hHappening, Task.happening_of_staging rfl, hAfter]
    rw [hTask] at h
    obtain ⟨w', l', hBacked⟩ := h.stages hJob hRunning
    exact .inl ⟨w', l', rest, hBacked⟩
  | receives hMove =>
    obtain ⟨item, waiting, _, rfl⟩ := Run.receive_eq_some hMove
    rw [hPasses rfl]
    exact .inl ⟨w, l, rest, h⟩
  | sweeps hMove =>
    obtain ⟨storage, hSweep, rfl⟩ := Run.sweep_eq_some hMove
    rw [hPasses rfl]
    exact .inl (h.sweep hSweep)
  | advances hMove =>
    obtain ⟨time, _, rfl⟩ := Run.advance_eq_some hMove
    rw [hPasses rfl]
    exact .inl ⟨w, l, rest, h⟩

/-- Nothing is shown any more of what is lost: no step commits. -/
theorem Lost.step (h : Lost d first c p.storage) (hOrdered : p.Ordered i c) (hAlone : p.Alone i)
    (hFiles : ∀ t, p.own? i = some t → ∀ file, t.activity = .staging (.staged file) →
      file.directory = Path.directory d.destination)
    (hStep : p.Step i happening p') : Lost d first (c.note happening) p'.storage := by
  have hNot : happening ≠ .commits := by
    intro hCommits
    cases hStep with
    | begins hStart => simp at hCommits
    | concludes hOver elapsed => split at hCommits <;> simp at hCommits
    | sweeps hSweep => simp at hCommits
    | goesOn hRun =>
      obtain ⟨t, file, hTask, hJob, hCommit⟩ := hRun.commits_eq hCommits
      obtain ⟨parent, hParent⟩ := StagedFile.commit_ok_directory hCommit
      rw [hFiles t hTask file hJob] at hParent
      exact h.gone parent hParent
  have hSettled := hStep.settled hAlone hNot
  refine ⟨h.way, fun parent hParent => h.gone parent ?_, ?_⟩
  · rwa [← FileTree.directoryPlace_settled, ← hSettled, FileTree.directoryPlace_settled]
  · rw [hSettled]
    cases happening with
    | begins s clock => exact h.shows.begin hOrdered.chronicle s clock
    | commits => exact absurd rfl hNot
    | abandons => exact h.shows.renote rfl rfl
    | publishes => exact h.shows.renote rfl rfl
    | passes => exact h.shows

-- ---------------------------------------------------------------------------
-- Consecutive scrapes
-- ---------------------------------------------------------------------------

/-- All jobs at some moment: the one that the task of the collector waits for, and those that no
task waits for any more. -/
def Phase.jobs (i : Nat) (p : Phase) : List StagingJob :=
  ((p.own? i).bind Task.job?).toList ++ p.storage.abandoned

/-- What is known of the jobs of all scrapes so far. -/
def Phase.Kept (i : Nat) (d : ServiceDiscoveryCollector) (first : FileTree) (c : Chronicle)
    (p : Phase) : Prop :=
  (∃ w l rest, Backed d first c (p.own? i) p.storage w l rest) ∨ Lost d first c p.storage

namespace Phase

/-- Before the first scrape there are no jobs. -/
theorem Kept.start (hClean : storage.tree.settled = storage.tree) (hNone : storage.abandoned = []) :
    (Phase.idle o storage).Kept i d storage.tree .empty := by
  refine .inl ⟨.fresh storage.tree, .fresh storage.tree, [],
    ⟨?_, rfl, hNone.symm, ?_, ?_, ?_⟩⟩
  · exact ⟨.start hClean, .nil, by simp [own?], by
      simp [Workshop.fresh, Keyed.get?, Keyed.empty], by
        simp [Ledger.fresh, Keyed.get?, Keyed.empty]⟩
  · simp
  · simp [own?]
  · exact (Chronicle.shows_of_none rfl).mpr rfl

/-- **A step keeps what is known of the jobs.** -/
theorem Kept.step (h : p.Kept i d first c) (hOrdered : p.Ordered i c) (hAlone : p.Alone i)
    (hServed : p.Served o d.toCollector c)
    (hCollector : p.orchestrator.collectors[i]? = some d.toCollector)
    (hStep : p.Step i happening p') : p'.Kept i d first (c.note happening) := by
  have hTask {t : Task} (hOwn : p.own? i = some t) := d.task_files hServed hCollector hOwn
  rcases h with ⟨w, l, rest, h⟩ | h
  case inr => exact .inr (h.step hOrdered hAlone (fun t hOwn => (hTask hOwn).2) hStep)
  case inl =>
    cases hStep with
    | @begins o' storage' s clock run hStart =>
      have hNone : run.tasks[i]?.bind Task.job? = none := by
        cases hFound : run.tasks[i]? with
        | none => rfl
        | some t =>
          obtain ⟨_, _, rfl⟩ := Orchestrator.start_task hStart hFound
          rfl
      refine .inl ⟨w, l, rest, ?_⟩
      show Backed d first (c.note (.begins s clock)) run.tasks[i]? run.storage w l rest
      rw [(Orchestrator.start_eq_ok hStart).2]
      exact h.begin hOrdered s clock hNone
    | goesOn hRun => exact h.goesOn hOrdered.2.1 hAlone (fun t hOwn => (hTask hOwn).1) hRun
    | @concludes o' run hOver elapsed =>
      have hNone : run.tasks[i]?.bind Task.job? = none := by
        cases hFound : run.tasks[i]? with
        | none => rfl
        | some t =>
          rw [Run.isOver, Bool.and_eq_true, List.all_eq_true] at hOver
          have hEnded := hOver.1 t (List.mem_of_getElem? hFound)
          unfold Task.hasEnded at hEnded
          split at hEnded
          case h_1 hActivity => simp [Task.job?, hActivity]
          case h_2 => simp at hEnded
      refine .inl ⟨w, l, rest, ?_⟩
      have hBacked := h.conclude hNone
      split
      · exact hBacked.renote rfl rfl
      · exact hBacked
    | sweeps hSweep => exact .inl (h.sweep hSweep)

theorem Reaches.kept (h : (Phase.idle o storage).Reaches i c p) (hNames : o.names.Nodup)
    (hCollector : o.collectors[i]? = some d.toCollector)
    (hOthers : ∀ j d, j ≠ i → o.collectors[j]? = some d →
      ∀ number s clock, (d.call number s clock).files = 0)
    (hClean : storage.tree.settled = storage.tree) (hNone : storage.abandoned = []) :
    p.Kept i d storage.tree c := by
  have hOnce (number : Nat) (s : Snapshot) (clock : RunClock) :
      (d.toCollector.call number s clock).files ≤ 1 := Nat.le_of_eq (d.files_call s clock)
  induction h with
  | start => exact .start hClean hNone
  | @step c p p' happening hReaches hStep ih =>
    have hOrdered : p.Ordered i c := hReaches.ordered fun d' hCollector' => by
      rw [hCollector, Option.some.injEq] at hCollector'
      exact hCollector' ▸ hOnce
    exact ih.step hOrdered (hReaches.alone hOthers) (hReaches.served hNames hCollector hOnce)
      (hReaches.collectors_eq ▸ hCollector) hStep

/-- The files show the last scrape that committed its file. -/
theorem Kept.shows (h : p.Kept i d first c) : c.Shows d first p.storage.tree.settled := by
  rcases h with ⟨w, l, rest, h⟩ | h
  · rw [← h.tree, h.backs.ledger.tree]
    exact h.shows
  · exact h.shows

/-- Without jobs there are no temporary files, if commits do not make them impossible to find. -/
theorem Kept.settled (h : p.Kept i d first c) (hWay : first.WayStays d.destination)
    (hNone : p.jobs i = []) : p.storage.tree.settled = p.storage.tree := by
  rcases h with ⟨w, l, rest, h⟩ | h
  case inr => exact absurd hWay h.way
  case inl =>
    obtain ⟨hOwn, hLeft⟩ := List.append_eq_nil_iff.mp hNone
    have hBacks := h.backs
    rw [Option.toList_eq_nil_iff] at hOwn
    rw [← h.left, List.map_eq_nil_iff] at hLeft
    rw [hOwn, hLeft] at hBacks
    refine FileTree.settled_eq_self fun place hTemp => ?_
    by_contra hSome
    obtain ⟨node, hNode⟩ := Option.ne_none_iff_exists'.mp hSome
    rw [← h.tree] at hNode
    obtain ⟨k, file, hFile, -⟩ := hBacks.ledger.owned place node hTemp hNode
    simpa using hBacks.owned k file hFile

end Phase

/-- **Abandoned calls stay without effect.** Take an orchestrator whose collectors have distinct
names, one of them that for service discovery and the others without files of their own, and files
among which there are no temporary ones. Let scrapes follow each other, time limits strike and jobs
go on in any order whatever:

* files are committed and outputs published scrape after scrape, and those of a scrape whose limit
  struck while it waited for its file to be staged never are;
* at any moment the files are those from before the first scrape, with the destination replaced by
  the content for the last scrape that committed, and none but a step that commits changes them;
* what is served of the collector is what the last scrape sent that published it;
* once no job is left there is no temporary file, if the directory of the destination is still found
  when the destination is replaced. -/
theorem abandoned_calls_stay_without_effect (hNames : o.names.Nodup)
    (hCollector : o.collectors[i]? = some d.toCollector)
    (hOthers : ∀ j d, j ≠ i → o.collectors[j]? = some d →
      ∀ number s clock, (d.call number s clock).files = 0)
    (hClean : storage.tree.settled = storage.tree) (hNone : storage.abandoned = [])
    (h : (Phase.idle o storage).Reaches i c p) :
    c.committed.Pairwise (· < ·) ∧ c.published.Pairwise (· < ·) ∧
    (∀ k ∈ c.abandoned, k ∉ c.committed ∧ k ∉ c.published) ∧
    c.Shows d storage.tree p.storage.tree.settled ∧
    (∀ happening p', p.Step i happening p' → happening ≠ .commits →
      p'.storage.tree.settled = p.storage.tree.settled) ∧
    p.orchestrator.latest.familiesFor d.toCollector.name = c.served o d.toCollector ∧
    (storage.tree.WayStays d.destination → p.jobs i = [] →
      p.storage.tree.settled = p.storage.tree) := by
  have hOnce (number : Nat) (s : Snapshot) (clock : RunClock) :
      (d.toCollector.call number s clock).files ≤ 1 := Nat.le_of_eq (d.files_call s clock)
  have hOrdered : c.Ordered := by
    refine (h.ordered fun d' hCollector' => ?_).chronicle
    rw [hCollector, Option.some.injEq] at hCollector'
    exact hCollector' ▸ hOnce
  have hKept := h.kept hNames hCollector hOthers hClean hNone
  refine ⟨hOrdered.committed, hOrdered.published, hOrdered.apart, hKept.shows, ?_, ?_, ?_⟩
  · exact fun happening p' hStep hNot => hStep.settled (h.alone hOthers) hNot
  · exact (h.served hNames hCollector hOnce).served
  · exact hKept.settled

-- ---------------------------------------------------------------------------
-- A limit that strikes at once
-- ---------------------------------------------------------------------------

private def finder (destination : String) : ServiceDiscoveryCollector :=
  ⟨destination, .all, default⟩

private def hasty (destination : String) : Orchestrator :=
  .make [(finder destination).toCollector] ⟨0⟩ 10

private theorem hasty_alone {destination : String} (j : Nat) (d : Collector) (hj : j ≠ 0)
    (hCollector : (hasty destination).collectors[j]? = some d) (number : Nat) (s : Snapshot)
    (clock : RunClock) : (d.call number s clock).files = 0 := by
  obtain ⟨j, rfl⟩ := Nat.exists_eq_succ_of_ne_zero hj
  simp [hasty, Orchestrator.make] at hCollector

/-- The run of that collector alone, with its task as it is and what has been received from it. -/
private def solo (steps : List CallStep) (activity : Activity) (received : List Family)
    (storage : Storage) : Run :=
  ⟨[⟨BuiltIn.serviceDiscovery.name, steps, .returns none, activity⟩], ⟨0⟩,
    ⟨10, [], true⟩, received.map (SinkItem.mk BuiltIn.serviceDiscovery.name), 0, storage⟩

private def late : Activity :=
  .ended (some (.timeout BuiltIn.serviceDiscovery.name ⟨0⟩))

/-- What is left of the first scrape, whose limit strikes before its file is staged. -/
private def lateRun (destination : String) (tree : FileTree) : Run :=
  solo [] late [] ⟨tree, [.running destination ((finder destination).content [])]⟩

private theorem solo_late (o : Orchestrator) (c : Chronicle) (destination : String)
    (content : Bytes) (first second : Family) (tree : FileTree) :
    Phase.replay? 0 ([.proceed 0, .expire 0].map .within) c
      (.scraping o (solo [.replace destination content, .send first, .send second] .ready []
        ⟨tree, []⟩)) =
      some (c.note .abandons,
        .scraping o (solo [] late [] ⟨tree, [.running destination content]⟩)) := by
  cbv

/-- The first scrape is late. -/
private theorem reaches_late (destination : String) (tree : FileTree) :
    (Phase.idle (hasty destination) ⟨tree, []⟩).Reaches 0
      ⟨[([], fun _ => default)], [], [0], []⟩
      (.idle ((hasty destination).conclude (lateRun destination tree) ⟨0⟩).orchestrator
        (lateRun destination tree).storage) := by
  have hBegun := Phase.Reaches.start.step
    (@Phase.Step.begins 0 (hasty destination) ⟨tree, []⟩ []
    (fun _ => default) _ rfl)
  have hLate := hBegun.of_replay? (solo_late (hasty destination) _ destination _ _ _ tree)
  exact hLate.step (.concludes rfl ⟨0⟩)

/-- Goes on with the second scrape, up to a moment between two scrapes. -/
private theorem reaches_second {destination : String} {tree : FileTree} {moves : List Move}
    {c : Chronicle} {received : List Family} {last : Storage} (s : Snapshot)
    (hMoves : Phase.replay? 0 (moves.map .within)
      ⟨[([], fun _ => default), (s, fun _ => default)], [], [0], []⟩
      (.scraping ((hasty destination).conclude (lateRun destination tree) ⟨0⟩).orchestrator
        (solo (((finder destination).call s default).steps) .ready []
          (lateRun destination tree).storage)) =
      some (c,
        .scraping ((hasty destination).conclude (lateRun destination tree) ⟨0⟩).orchestrator
          (solo [] (.ended none) received last))) :
    ∃ o, (Phase.idle (hasty destination) ⟨tree, []⟩).Reaches 0 (c.note .publishes)
      (.idle o last) := by
  have hBegun := (reaches_late destination tree).step
    (@Phase.Step.begins 0 _ _ s (fun _ => default) _ rfl)
  exact ⟨_, (hBegun.of_replay? hMoves).step (.concludes rfl ⟨0⟩)⟩

private theorem solo_shows (o : Orchestrator) (c : Chronicle) (old new : Bytes)
    (first second : Family) :
    Phase.replay? 0
      ([.proceed 0, .sweep 0, .stage 0, .proceed 0, .proceed 0, .proceed 0, .proceed 0, .receive,
        .receive].map .within) c
      (.scraping o (solo [.replace "f" new, .send first, .send second] .ready []
        ⟨.empty, [.running "f" old]⟩)) =
      some (c.note .commits, .scraping o (solo [] (.ended none) [first, second]
        ⟨⟨⟨[([.temp 1], .file old FileTree.publicMode),
          ([.given "f"], .file new FileTree.publicMode)], by simp⟩⟩,
          [.staged ⟨".", 1, "f"⟩]⟩)) := by
  cbv

private theorem sweep_shown (old new : Bytes) :
    (⟨⟨⟨[([.temp 1], .file old FileTree.publicMode),
      ([.given "f"], .file new FileTree.publicMode)], by simp⟩⟩,
      [.staged ⟨".", 1, "f"⟩]⟩ : Storage).sweep? 0 =
      some ⟨⟨⟨[([.given "f"], .file new FileTree.publicMode)], by simp⟩⟩, []⟩ := by
  cbv

/-- The first scrape is late, its file is staged during the second, and thrown away after it. -/
theorem late_file_stays_without_effect :
    (hasty "f").names.Nodup ∧
    (hasty "f").collectors[0]? = some (finder "f").toCollector ∧
    (∀ j d, j ≠ 0 → (hasty "f").collectors[j]? = some d →
      ∀ number s clock, (d.call number s clock).files = 0) ∧
    FileTree.empty.settled = FileTree.empty ∧ FileTree.empty.WayStays "f" ∧
    ∃ c p, (Phase.idle (hasty "f") ⟨.empty, []⟩).Reaches 0 c p ∧ c.abandoned = [0] ∧
      c.committed = [1] ∧ c.published = [1] ∧ p.jobs 0 = [] ∧
      p.storage.tree = FileTree.empty.put [.given "f"]
        (.file ((finder "f").content [default]) FileTree.publicMode) := by
  have hNames : (hasty "f").names.Nodup := by decide
  have hLanding : FileTree.empty.landing "f" = .ok [.given "f"] := by decide +kernel
  have hWay : FileTree.empty.WayStays "f" := .of_not_link fun target link hTarget => by
    rw [hLanding] at hTarget
    rw [← Except.ok.inj hTarget]
    simp [FileTree.get?, FileTree.empty, Keyed.get?, Keyed.empty]
  obtain ⟨o, hReaches⟩ := reaches_second [default] (solo_shows _ _ _ _ _ _)
  have hSwept := hReaches.step (.sweeps (sweep_shown _ _))
  obtain ⟨-, -, -, hShows, -, -, hSettled⟩ :=
    abandoned_calls_stay_without_effect hNames rfl hasty_alone rfl rfl hSwept
  refine ⟨hNames, rfl, hasty_alone, rfl, hWay, _, _, hSwept, rfl, rfl, rfl, rfl, ?_⟩
  rw [← hSettled hWay rfl]
  obtain ⟨target, hTarget, hTree⟩ := (Chronicle.shows_of_some rfl).mp hShows
  rw [show (finder "f").destination = "f" from rfl, hLanding] at hTarget
  rw [hTree, ← Except.ok.inj hTarget]
  rfl

-- ---------------------------------------------------------------------------
-- A destination on its own way
-- ---------------------------------------------------------------------------

/-- A directory with a link to itself. The destination is this link, and the way to it leads through
the link once more. -/
private def looped : FileTree :=
  ⟨⟨[([.given "b"], .directory), ([.given "b", .given "l"], .link "."),
    ([.given "a"], .link "b/l")], by simp⟩⟩

private theorem solo_strands (o : Orchestrator) (c : Chronicle) (old new : Bytes)
    (first second : Family) :
    Phase.replay? 0
      ([.sweep 0, .proceed 0, .stage 0, .proceed 0, .proceed 0, .proceed 0, .proceed 0, .receive,
        .receive, .sweep 0].map .within) c
      (.scraping o (solo [.replace "a/l" new, .send first, .send second] .ready []
        ⟨looped, [.running "a/l" old]⟩)) =
      some (c.note .commits, .scraping o (solo [] (.ended none) [first, second]
        ⟨⟨⟨[([.given "b"], .directory),
          ([.given "b", .given "l"], .file new FileTree.publicMode), ([.given "a"], .link "b/l"),
          ([.given "b", .temp 1], .file old FileTree.publicMode)],
          by simp⟩⟩, []⟩)) := by
  cbv

/-- **A commit can strand the temporary file of an abandoned call**, if it replaces a link on the
way to the destination: when the job ends the file is not found any more. -/
theorem commit_strands_abandoned_file :
    ¬ ∀ (o : Orchestrator) (d : ServiceDiscoveryCollector) (i : Nat) (storage : Storage)
        (c : Chronicle) (p : Phase), o.names.Nodup → o.collectors[i]? = some d.toCollector →
        (∀ j d, j ≠ i → o.collectors[j]? = some d →
          ∀ number s clock, (d.call number s clock).files = 0) →
        storage.tree.settled = storage.tree → storage.abandoned = [] →
        (Phase.idle o storage).Reaches i c p → p.jobs i = [] →
        p.storage.tree.settled = p.storage.tree := by
  intro h
  obtain ⟨o, hReaches⟩ := reaches_second [default] (solo_strands _ _ _ _ _ _)
  have hSettled := h (hasty "a/l") (finder "a/l") 0 _ _ _ (by decide) rfl hasty_alone rfl rfl
    hReaches rfl
  have hLeft := congrArg (fun t : FileTree => t.entries.entries.length) hSettled
  simp [Phase.storage, FileTree.settled, Keyed.restrict, isPlain, EntryName.isGiven] at hLeft

end TopologyExporter
