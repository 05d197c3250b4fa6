import TopologyExporter.Proofs.Collector.ServiceDiscovery
import TopologyExporter.Proofs.Scrape.Jobs

/-!
# The collector for service discovery — the jobs of its calls

When the time limit strikes while a call waits for its file to be staged, the job that stages it
goes on by itself. `Backed` says which workshop the jobs of all scrapes so far are, and what its
ledger shows: the file of the last scrape that committed one. Only if a commit makes the directory
of the destination impossible to find it breaks down, and `Lost` says what is left then.

## Results

* `Chronicle.Shows.commit`                       — a commit replaces the file of the scrapes
  before.
* `Backed.sweep`, `Backed.timesOut`, `Backed.stages` — what jobs do, and how they are left behind.
* `Backed.proceeds`                              — the task goes on.
-/

namespace TopologyExporter

-- ---------------------------------------------------------------------------
-- The files of a call
-- ---------------------------------------------------------------------------

namespace ServiceDiscoveryCollector

variable (d : ServiceDiscoveryCollector)

/-- A call replaces its destination by the content for its snapshot, and nothing else. -/
theorem replace_mem_call {s : Snapshot} {clock : RunClock} {destination : String} {content : Bytes}
    (h : .replace destination content ∈ (d.call s clock).steps) :
    destination = d.destination ∧ content = d.content s := by
  rw [call, List.mem_cons] at h
  rcases h with hFirst | hSend
  · exact CallStep.replace.inj hFirst
  · simp at hSend

/-- A call replaces one file. -/
theorem files_call (s : Snapshot) (clock : RunClock) : (d.call s clock).files = 1 := by
  have hSends : ((d.gauges.families clock).map CallStep.send).countP CallStep.isReplace = 0 := by
    rw [List.countP_eq_zero]
    simp [CallStep.isReplace]
  rw [Call.files, call, List.countP_cons, hSends]
  rfl

end ServiceDiscoveryCollector

-- ---------------------------------------------------------------------------
-- What is shown
-- ---------------------------------------------------------------------------

namespace Chronicle

/-- The content of the file for the scrape of a number. -/
def content (c : Chronicle) (d : ServiceDiscoveryCollector) (k : Nat) : Bytes :=
  match c.scraped[k]? with
  | some (s, _) => d.content s
  | none => []

/-- Whether a tree is that from before the first scrape, with the file of the last scrape that
committed one in place of the destination. -/
def Shows (c : Chronicle) (d : ServiceDiscoveryCollector) (first tree : FileTree) : Prop :=
  match c.committed.getLast? with
  | none => tree = first
  | some k => ∃ target, first.landing d.destination = .ok target ∧
      tree = first.put target (.file (c.content d k) FileTree.publicMode)

variable {c c' : Chronicle} {d : ServiceDiscoveryCollector} {first tree : FileTree}
  {target : Location}

theorem shows_of_none (h : c.committed.getLast? = none) :
    c.Shows d first tree ↔ tree = first := by
  rw [Shows, h]

theorem shows_of_some {k : Nat} (h : c.committed.getLast? = some k) :
    c.Shows d first tree ↔ ∃ target, first.landing d.destination = .ok target ∧
      tree = first.put target (.file (c.content d k) FileTree.publicMode) := by
  rw [Shows, h]

/-- Nothing else in the chronicle matters but what was scraped and committed. -/
theorem Shows.renote (h : c.Shows d first tree) (hScraped : c'.scraped = c.scraped)
    (hCommitted : c'.committed = c.committed) : c'.Shows d first tree := by
  obtain ⟨scraped, committed, abandoned, published⟩ := c
  obtain ⟨scraped', committed', abandoned', published'⟩ := c'
  obtain rfl : scraped' = scraped := hScraped
  obtain rfl : committed' = committed := hCommitted
  exact h

/-- The contents of the scrapes before one that begins are as they were. -/
theorem content_begin {k : Nat} (hk : k < c.scraped.length) (s : Snapshot)
    (clock : String → RunClock) : (c.note (.begins s clock)).content d k = c.content d k := by
  rw [content, content, note, List.getElem?_append_left hk]

theorem Shows.begin (h : c.Shows d first tree) (hOrdered : c.Ordered) (s : Snapshot)
    (clock : String → RunClock) : (c.note (.begins s clock)).Shows d first tree := by
  have hSame : (c.note (.begins s clock)).committed = c.committed := rfl
  cases hLast : c.committed.getLast? with
  | none =>
    rw [shows_of_none (hSame ▸ hLast)]
    exact (shows_of_none hLast).mp h
  | some k =>
    rw [shows_of_some (hSame ▸ hLast),
      content_begin (hOrdered.bounded k (.inl (List.mem_of_getLast? hLast)))]
    exact (shows_of_some hLast).mp h

/-- Where the destination can be replaced without losing the way to it, this stays so. -/
theorem Shows.way (h : c.Shows d first tree) (hWay : first.WayStays d.destination) :
    tree.WayStays d.destination := by
  cases hLast : c.committed.getLast? with
  | none =>
    rw [shows_of_none hLast] at h
    exact h ▸ hWay
  | some k =>
    obtain ⟨target, hTarget, rfl⟩ := (shows_of_some hLast).mp h
    exact hWay.put hTarget _

/-- **The latest scrape commits its file**, in place of that of any scrape before. -/
theorem Shows.commit (h : c.Shows d first tree)
    (hLanding : tree.landing d.destination = .ok target) :
    (c.note .commits).Shows d first
      (tree.put target (.file (c.content d c.latest) FileTree.publicMode)) := by
  have hLast : (c.note .commits).committed.getLast? = some c.latest := by simp [note]
  rw [shows_of_some hLast]
  cases hBefore : c.committed.getLast? with
  | none =>
    rw [shows_of_none hBefore] at h
    exact ⟨target, h ▸ hLanding, h ▸ rfl⟩
  | some k =>
    obtain ⟨target', hTarget, rfl⟩ := (shows_of_some hBefore).mp h
    obtain rfl := FileTree.landing_put_eq hTarget hLanding
    exact ⟨target', hTarget, FileTree.put_put _ _ _ _⟩

end Chronicle

/-- Which workshop the jobs of all scrapes so far are, given the task of the collector, if there is
one, and the files and jobs besides it: those of earlier scrapes are in `rest`, by number. -/
structure Backed (d : ServiceDiscoveryCollector) (first : FileTree) (c : Chronicle)
    (own : Option Task) (storage : Storage) (w : Workshop Nat) (l : Ledger Nat)
    (rest : List (Nat × StagingJob)) : Prop where
  backs   : w.Backs l d.destination (c.content d)
              (rest ++ ((own.bind Task.job?).map fun job => (c.latest, job)).toList)
  tree    : w.tree = storage.tree
  left    : rest.map Prod.snd = storage.abandoned
  bounded : ∀ k ∈ rest.map Prod.fst, k < c.scraped.length
  ahead   : ∀ t, own = some t → 0 < t.filesAhead → c.latest ∉ rest.map Prod.fst
  shows   : c.Shows d first l.tree

/-- What is left of all this when a commit has made the directory of the destination impossible to
find. Nothing is staged or committed any more. -/
structure Lost (d : ServiceDiscoveryCollector) (first : FileTree) (c : Chronicle)
    (storage : Storage) : Prop where
  way   : ¬ first.WayStays d.destination
  gone  : ∀ parent, storage.tree.directoryPlace (Path.directory d.destination) ≠ .ok parent
  shows : c.Shows d first storage.tree.settled

namespace Backed

variable {d : ServiceDiscoveryCollector} {first : FileTree} {c c' : Chronicle} {own : Option Task}
  {storage storage' : Storage} {w : Workshop Nat} {l : Ledger Nat} {rest : List (Nat × StagingJob)}
  {t t' : Task}

/-- Nothing else in the chronicle matters but what was scraped and committed. -/
theorem renote (h : Backed d first c own storage w l rest) (hScraped : c'.scraped = c.scraped)
    (hCommitted : c'.committed = c.committed) : Backed d first c' own storage w l rest := by
  have hShows := h.shows.renote hScraped hCommitted
  obtain ⟨scraped, committed, abandoned, published⟩ := c
  obtain ⟨scraped', committed', abandoned', published'⟩ := c'
  obtain rfl : scraped' = scraped := hScraped
  exact ⟨h.backs, h.tree, h.left, h.bounded, h.ahead, hShows⟩

omit first c own storage storage' w l t t' in
/-- The jobs before and after the one at a position. -/
private theorem split_at {j : Nat} {job : StagingJob} (h : (rest.map Prod.snd)[j]? = some job) :
    ∃ before k after, rest = before ++ (k, job) :: after ∧ before.length = j := by
  rw [List.getElem?_map, Option.map_eq_some_iff] at h
  obtain ⟨⟨k, job'⟩, hFound, rfl⟩ := h
  obtain ⟨hj, hHere⟩ := List.getElem?_eq_some_iff.mp hFound
  refine ⟨rest.take j, k, rest.drop (j + 1), ?_, List.length_take_of_le (Nat.le_of_lt hj)⟩
  rw [← hHere, ← List.drop_eq_getElem_cons hj, List.take_append_drop]

/-- **A job that is left behind goes on**: it does its work, or its result is thrown away. -/
theorem sweep (h : Backed d first c own storage w l rest) {j : Nat}
    (hSweep : storage.sweep? j = some storage') :
    ∃ w' l' rest', Backed d first c own storage' w' l' rest' := by
  rw [Storage.sweep?] at hSweep
  obtain ⟨job, hJob, hSweep⟩ := Option.bind_eq_some_iff.mp hSweep
  rw [← h.left] at hJob
  obtain ⟨before, k, after, rfl, rfl⟩ := split_at hJob
  have hBacks := h.backs
  have hAhead := h.ahead
  have hBounded := h.bounded
  rw [List.append_assoc, List.cons_append] at hBacks
  split at hSweep
  case isTrue hOver =>
    obtain rfl := Option.some.inj hSweep
    obtain ⟨w', l', hTree, hSame, hBacks'⟩ := hBacks.discard hOver
    have hFewer := ((List.sublist_cons_self (k, job) after).append_left before).map Prod.fst
    refine ⟨w', l', before ++ after, ?_, ?_, ?_, ?_, ?_, hSame ▸ h.shows⟩
    · rwa [List.append_assoc]
    · rw [hTree, h.tree]
    · rw [← h.left, List.map_append, List.map_append, List.map_cons,
        List.eraseIdx_append_of_length_le (by simp)]
      simp
    · exact fun k' hk' => hBounded k' (hFewer.subset hk')
    · exact fun t hOwn hPending hk' => hAhead t hOwn hPending (hFewer.subset hk')
  case isFalse hOver =>
    obtain ⟨destination, content, rfl⟩ := StagingJob.eq_running (by simpa using hOver)
    have hStorage : storage' =
        ⟨((StagingJob.running destination content).finish storage.tree).2,
          storage.abandoned.set before.length
            ((StagingJob.running destination content).finish storage.tree).1⟩ :=
      (Option.some.inj hSweep).symm
    obtain ⟨w', l', hTree, hSame, hBacks'⟩ := hBacks.work
    rw [h.tree] at hTree hBacks'
    rw [← List.cons_append, ← List.append_assoc] at hBacks'
    rw [hStorage]
    refine ⟨w', l', _, hBacks', hTree, ?_, ?_, ?_, hSame ▸ h.shows⟩
    · rw [← h.left]
      simp
    · intro k' hk'
      exact hBounded k' (by simpa using hk')
    · intro t hOwn hPending hk'
      exact hAhead t hOwn hPending (by simpa using hk')

/-- A scrape begins. -/
theorem begin (h : Backed d first c none storage w l rest) (hOrdered : c.Ordered) (s : Snapshot)
    (clock : String → RunClock) (hNone : own.bind Task.job? = none) :
    Backed d first (c.note (.begins s clock)) own storage w l rest := by
  have hLatest : (c.note (.begins s clock)).latest = c.scraped.length := by
    simp [Chronicle.note, Chronicle.latest]
  have hBacks := h.backs
  rw [Option.bind_none, Option.map_none, Option.toList_none, List.append_nil] at hBacks
  refine ⟨?_, h.tree, h.left, ?_, ?_, h.shows.begin hOrdered s clock⟩
  · rw [hNone, Option.map_none, Option.toList_none, List.append_nil]
    exact hBacks.congr_content fun k hk => Chronicle.content_begin (h.bounded k hk) s clock
  · intro k hk
    have hLt := h.bounded k hk
    simp only [Chronicle.note, List.length_append, List.length_singleton]
    omega
  · intro t _ _ hk
    rw [hLatest] at hk
    exact absurd (h.bounded _ hk) (Nat.lt_irrefl _)

/-- A scrape concludes. -/
theorem conclude (h : Backed d first c own storage w l rest) (hNone : own.bind Task.job? = none) :
    Backed d first c none storage w l rest := by
  have hBacks := h.backs
  rw [hNone] at hBacks
  exact ⟨hBacks, h.tree, h.left, h.bounded, by simp, h.shows⟩

/-- The task does something that concerns no job, and gets no more files to replace. -/
theorem pass (h : Backed d first c (some t) storage w l rest) (hNone : t.job? = none)
    (hNone' : t'.job? = none) (hAhead : t'.filesAhead ≤ t.filesAhead) :
    Backed d first (c.note (t.happening t')) (some t') storage w l rest := by
  have hBacks := h.backs
  rw [Option.bind_some, hNone, ← hNone'] at hBacks
  rw [Task.happening_of_no_job hNone]
  refine ⟨hBacks, h.tree, h.left, h.bounded, ?_, h.shows⟩
  intro u hu hPending
  obtain rfl := Option.some.inj hu
  exact h.ahead t rfl (by omega)

/-- **The time limit strikes**: the job that the task waits for is left behind. -/
theorem timesOut (h : Backed d first c (some t) storage w l rest) (hScraped : 0 < c.scraped.length)
    (error : CollectorError) :
    ∃ rest', Backed d first (c.note (t.happening (t.finish (some error))))
      (some (t.finish (some error)))
      { storage with abandoned := storage.abandoned ++ t.job?.toList } w l rest' := by
  have hEnded : (t.finish (some error)).activity = .ended (some error) := rfl
  obtain ⟨hSame, hCommitted⟩ := c.note_of_lost (Task.happening_of_ended (t := t) hEnded)
  refine ⟨rest ++ (t.job?.map fun job => (c.latest, job)).toList,
    renote ⟨?_, h.tree, ?_, ?_, ?_, h.shows⟩ hSame hCommitted⟩
  · have hBacks := h.backs
    rw [Option.bind_some] at hBacks
    rwa [Option.bind_some, Task.job?_finish, Option.map_none, Option.toList_none, List.append_nil]
  · rw [List.map_append, h.left]
    cases t.job? <;> rfl
  · intro k hk
    rw [List.map_append, List.mem_append] at hk
    rcases hk with hBefore | hOwn
    · exact h.bounded k hBefore
    · have hk : k = c.latest := by
        cases hJob : t.job? with
        | none => simp [hJob] at hOwn
        | some job => simpa [hJob] using hOwn
      rw [hk, Chronicle.latest]
      omega
  · intro u hu hPending
    obtain rfl := Option.some.inj hu
    simp at hPending

/-- **The job of the task does its work.** -/
theorem stages (h : Backed d first c (some t) storage w l rest) {job : StagingJob}
    (hJob : t.activity = .staging job) (hRunning : job.isOver = false) :
    ∃ w' l', Backed d first c
      (some { t with activity := .staging (job.finish storage.tree).1 })
      { storage with tree := (job.finish storage.tree).2 } w' l' rest := by
  obtain ⟨destination, content, rfl⟩ := StagingJob.eq_running hRunning
  have hBacks := h.backs
  have hOwn : t.job? = some (.running destination content) := by simp [Task.job?, hJob]
  rw [Option.bind_some, hOwn, Option.map_some, Option.toList_some] at hBacks
  obtain ⟨w', l', hTree, hSame, hBacks'⟩ := hBacks.work
  rw [h.tree] at hTree hBacks'
  refine ⟨w', l', hBacks', hTree, h.left, h.bounded, ?_, hSame ▸ h.shows⟩
  intro u hu hPending
  exact h.ahead t rfl (Task.filesAhead_pos_of_staging hJob)

/-- The task has a job stage its file. -/
theorem stagesFile (h : Backed d first c (some t) storage w l rest)
    (hReady : t.activity = .ready) {left : List CallStep}
    (hSteps : t.steps = .replace d.destination (c.content d c.latest) :: left) :
    Backed d first c
      (some { t with
        steps := left, activity := .staging (.running d.destination (c.content d c.latest)) })
      storage w l rest := by
  have hNone : t.job? = none := by simp [Task.job?, hReady]
  have hPending : 0 < t.filesAhead := by
    simp only [Task.filesAhead, hSteps, List.countP_cons, CallStep.isReplace, if_true]
    omega
  have hNew := h.ahead t rfl hPending
  have hBacks := h.backs
  rw [Option.bind_some, hNone, Option.map_none, Option.toList_none, List.append_nil] at hBacks
  exact ⟨hBacks.begin hNew, h.tree, h.left, h.bounded, fun _ _ _ => hNew, h.shows⟩

/-- The task fails and its job is gone, whatever it had come to. -/
theorem fail (h : Backed d first c (some t) storage w l rest) {w' : Workshop Nat} {l' : Ledger Nat}
    {tree : FileTree} (hTree : w'.tree = tree) (hSame : l'.tree = l.tree)
    (hBacks : w'.Backs l' d.destination (c.content d) (rest ++ [])) (error : CollectorError) :
    Backed d first (c.note (t.happening (t.finish (some error)))) (some (t.finish (some error)))
      { storage with tree } w' l' rest := by
  have hBacked : Backed d first c (some (t.finish (some error))) { storage with tree } w' l' rest :=
    ⟨hBacks, hTree, h.left, h.bounded, by simp, hSame ▸ h.shows⟩
  have hEnded : (t.finish (some error)).activity = .ended (some error) := rfl
  obtain ⟨hScraped, hCommitted⟩ := c.note_of_lost (Task.happening_of_ended (t := t) hEnded)
  exact hBacked.renote hScraped hCommitted

/-- **The task commits its file.** Afterwards the directory of the destination is found where it
was, or not at all. -/
theorem commits (h : Backed d first c (some t) storage w l rest) {file : StagedFile}
    (hJob : t.activity = .staging (.staged file)) {tree : FileTree}
    (hCommit : file.commit storage.tree = (.ok (), tree)) :
    (∃ w' l', Backed d first (c.note .commits) (some { t with activity := .ready })
      { storage with tree } w' l' rest) ∨
    Lost d first (c.note .commits) { storage with tree } := by
  have hOwn : t.job? = some (.staged file) := by simp [Task.job?, hJob]
  have hBacks := h.backs
  rw [Option.bind_some, hOwn, Option.map_some, Option.toList_some] at hBacks
  rw [← h.tree] at hCommit
  obtain ⟨target, hLanding, hTree⟩ := hBacks.commit_settled hCommit
  have hShows : (c.note .commits).Shows d first tree.settled := hTree ▸ h.shows.commit hLanding
  cases hFound : tree.directoryPlace (Path.directory d.destination) with
  | ok parent =>
    obtain ⟨w', l', hTree', hLedger, hBacks'⟩ := hBacks.commit hCommit hFound
    refine .inl ⟨w', l', hBacks', hTree', h.left, h.bounded, ?_, hLedger ▸ hShows⟩
    intro u hu hPending
    exact h.ahead t rfl (Task.filesAhead_pos_of_staging hJob)
  | error reason =>
    refine .inr ⟨fun hWay => ?_, fun parent hParent => by simp [hFound] at hParent, hShows⟩
    obtain ⟨parent, hParent⟩ := StagedFile.commit_ok_directory hCommit
    rw [hBacks.staged_here.2.2.1, ← FileTree.directoryPlace_settled,
      hBacks.ledger.tree] at hParent
    have hStays := h.shows.way hWay target (c.content d c.latest) parent hLanding hParent
    rw [← hTree, FileTree.directoryPlace_settled, hFound] at hStays
    simp at hStays

/-- **The task goes on.** It has a job begin, learns that it failed, commits its file, or does
nothing that concerns files. -/
theorem proceeds (h : Backed d first c (some t) storage w l rest)
    (hReplaces : ∀ destination content, .replace destination content ∈ t.steps →
      destination = d.destination ∧ content = c.content d c.latest)
    {channel channel' : Channel SinkItem} {tree : FileTree} {now : Nat}
    (hProceeds : t.Proceeds channel storage.tree now t' channel' tree) :
    (∃ w' l', Backed d first (c.note (t.happening t')) (some t')
      { storage with tree } w' l' rest) ∨
    Lost d first (c.note (t.happening t')) { storage with tree } := by
  have hAhead := hProceeds.filesAhead_le
  cases hProceeds with
  | wakes hAsleep _ => exact .inl ⟨w, l, h.pass (by simp [Task.job?, hAsleep]) rfl hAhead⟩
  | returns hReady _ _ => exact .inl ⟨w, l, h.pass (by simp [Task.job?, hReady]) rfl hAhead⟩
  | panics hReady _ _ => exact .inl ⟨w, l, h.pass (by simp [Task.job?, hReady]) rfl hAhead⟩
  | pauses hReady _ => exact .inl ⟨w, l, h.pass (by simp [Task.job?, hReady]) rfl hAhead⟩
  | sends hReady _ _ _ =>
    have hNone : t.job? = none := by simp [Task.job?, hReady]
    exact .inl ⟨w, l, h.pass hNone hNone hAhead⟩
  | findsClosed hReady _ _ => exact .inl ⟨w, l, h.pass (by simp [Task.job?, hReady]) rfl hAhead⟩
  | @stages destination content left hReady hSteps =>
    obtain ⟨rfl, rfl⟩ := hReplaces destination content (hSteps ▸ List.mem_cons_self ..)
    rw [Task.happening_of_staging rfl]
    exact .inl ⟨w, l, h.stagesFile hReady hSteps⟩
  | @learnsFailure error hJob =>
    have hOwn : t.job? = some (.failed error) := by simp [Task.job?, hJob]
    have hBacks := h.backs
    rw [Option.bind_some, hOwn] at hBacks
    obtain ⟨w', l', hTree, hSame, hBacks'⟩ := hBacks.discard rfl
    exact .inl ⟨w', l', h.fail (hTree.trans h.tree) hSame hBacks' error⟩
  | @commits file tree' hJob hCommit =>
    have hHappening : t.happening { t with activity := .ready } = .commits := by
      simp [Task.happening, hJob]
    rw [hHappening]
    exact h.commits hJob hCommit
  | @failsToCommit file error tree' hJob hCommit =>
    have hOwn : t.job? = some (.staged file) := by simp [Task.job?, hJob]
    have hBacks := h.backs
    rw [Option.bind_some, hOwn, Option.map_some, Option.toList_some] at hBacks
    rw [← h.tree] at hCommit
    obtain ⟨w', l', hTree, hSame, hBacks'⟩ := hBacks.commit_error hCommit
    exact .inl ⟨w', l', h.fail hTree hSame hBacks' error⟩

end Backed

end TopologyExporter
