import TopologyExporter.Proofs.Collector.Backing
import TopologyExporter.Proofs.Files.Outside
import TopologyExporter.Proofs.Loop.Cycle
import TopologyExporter.Proofs.Scrape.Landing

/-!
# Targets — from the topology file to the target file

A loop reads a topology file at the beginning of every cycle, and one of its collectors replaces a
target file. Between cycles others write the topology file or remove it, and jobs that scrapes have
left behind go on. None of this, and nothing that happened in earlier cycles, shows in the target
file after a cycle in which it was replaced: it is what the topology file said at the beginning of
that cycle.

## Results

* `ScrapeLoop.Follows.keeps` — what any history leaves as it is.
* `ScrapeLoop.Follows.cycle` — what a cycle makes of the target file.
* `targets_follow_topology`  — what can be read of it afterwards.
-/

namespace TopologyExporter

-- ---------------------------------------------------------------------------
-- What others do to the topology file
-- ---------------------------------------------------------------------------

namespace FileTree

variable {t t' origin : FileTree} {path : String} {content : Bytes} {numbers : List Nat}

theorem write_changesFiles (h : t.write path content = .ok t') : t.ChangesFiles t' := by
  unfold write at h
  cases hPlace : t.locate path true with
  | error reason => simp [hPlace, bind, Except.bind] at h
  | ok place =>
    simp only [hPlace, bind, Except.bind] at h
    have hRoot (hNot : t.get? place ≠ some .directory) : place ≠ [] := by
      rintro rfl
      exact hNot rfl
    split at h
    case h_1 => simp at h
    case h_2 hFile =>
      have hNot : t.get? place ≠ some .directory := by simp [hFile]
      exact Except.ok.inj h ▸ .put (hRoot hNot) hNot _ _
    case h_3 hNot _ => exact Except.ok.inj h ▸ .put (hRoot hNot) hNot _ _

theorem remove_changesFiles (h : t.remove path = .ok t') : t.ChangesFiles t' := by
  rw [remove_eq] at h
  cases hPlace : t.entryPlace path with
  | error reason => simp [hPlace, Except.bind] at h
  | ok place =>
    simp only [hPlace, Except.bind] at h
    split at h
    case h_1 => simp at h
    case h_2 => simp at h
    case h_3 node hOther hNode =>
      have hNot : t.get? place ≠ some .directory :=
        fun hEq => hOther (Option.some.inj (hNode.symm.trans hEq))
      exact Except.ok.inj h ▸ .erase hNot

/-- Who passes the temporary files by and changes files leaves what is known of a tree. -/
theorem ChangedFrom.outside (h : origin.ChangedFrom numbers t) (hChanges : t.ChangesFiles t')
    (hTemporaries : t'.temporaries = t.temporaries) : origin.ChangedFrom numbers t' where
  custody :=
    ⟨h.custody.distinct, fun n hn => by
      obtain ⟨parent, content, hKept⟩ := h.custody.kept n hn
      refine ⟨parent, content, fun p => ?_⟩
      have hTemp : isPlain (p ++ [EntryName.temp n]) = false := by simp
      rw [← hKept p, ← get?_temporaries hTemp, hTemporaries, get?_temporaries hTemp]⟩
  changes := h.changes.trans hChanges

end FileTree

/-- Neither does a job that was left behind. -/
theorem Storage.sweep?_changedFrom {origin : FileTree} {storage storage' : Storage} {j : Nat}
    (h : storage.sweep? j = some storage')
    (hBefore : origin.ChangedFrom (storage.abandoned.flatMap StagingJob.numbers) storage.tree) :
    origin.ChangedFrom (storage'.abandoned.flatMap StagingJob.numbers) storage'.tree := by
  -- it goes on as in a run without tasks
  have hMove : (Run.start [] default default storage).move? (.sweep j) =
      some (Run.start [] default default storage') := by
    simp [Run.move?, Run.start, h]
  obtain ⟨landed, hFiles, -⟩ := Run.move?_files hMove
  rw [Run.numbers_start, Run.numbers_start] at hFiles
  exact hFiles.changedFrom hBefore

-- ---------------------------------------------------------------------------
-- Any history
-- ---------------------------------------------------------------------------

/-- A loop and its files after any history over a tree: others write and remove the file at a path,
jobs that were left behind go on, and cycles are run. -/
inductive ScrapeLoop.Follows (first : ScrapeLoop) (path : String) (tree : FileTree) :
    ScrapeLoop → Storage → Prop
  | start : Follows first path tree first ⟨tree, []⟩
  | writes {l : ScrapeLoop} {storage : Storage} {content : Bytes} {tree' : FileTree}
      (hPast : Follows first path tree l storage)
      (hWrite : storage.tree.write path content = .ok tree') :
      Follows first path tree l { storage with tree := tree' }
  | removes {l : ScrapeLoop} {storage : Storage} {tree' : FileTree}
      (hPast : Follows first path tree l storage) (hRemove : storage.tree.remove path = .ok tree') :
      Follows first path tree l { storage with tree := tree' }
  | sweeps {l : ScrapeLoop} {storage storage' : Storage} {j : Nat}
      (hPast : Follows first path tree l storage) (hSweep : storage.sweep? j = some storage') :
      Follows first path tree l storage'
  | cycles {l : ScrapeLoop} {storage : Storage} {c : Cycle}
      (hPast : Follows first path tree l storage)
      (hCycle : l.RunsOnce storage c) : Follows first path tree c.loop c.storage

/-- Whether no other collector than the one at a position replaces what is at a destination. -/
def Orchestrator.LeavesTo (o : Orchestrator) (i : Nat) (tree : FileTree) (destination : String) :
    Prop :=
  ∀ j other, j ≠ i → o.collectors[j]? = some other →
    ∀ destination', other.Replaces destination' →
    ∀ target, tree.landing destination' = .ok target → tree.landing destination ≠ .ok target

/-- A call of the collector for service discovery provides the file at its destination. -/
theorem ServiceDiscoveryCollector.provides {d : ServiceDiscoveryCollector}
    {o : Orchestrator} {i : Nat} {tree : FileTree}
    (hCollector : o.collectors[i]? = some d.toCollector)
    (hOthers : o.LeavesTo i tree d.destination) (s : Snapshot) (clock : String → RunClock) :
    (d.call s (clock d.toCollector.name)).Provides tree d.destination (d.content s) i
      (o.calls s clock) where
  own := ⟨d.toCollector.name, by simp [Orchestrator.calls, hCollector, toCollector]⟩
  files := by simp [d.files_call]
  only _ _ hStep := d.replace_mem_call hStep
  others j other hj hCall destination' content' hStep target hTarget := by
    rw [Orchestrator.calls, List.getElem?_map, Option.map_eq_some_iff] at hCall
    obtain ⟨c, hOther, rfl⟩ := hCall
    exact hOthers j c hj hOther destination' ⟨_, _, _, content', hStep⟩ target hTarget

namespace ScrapeLoop

variable {first l : ScrapeLoop} {path : String} {tree : FileTree} {storage : Storage} {c : Cycle}
  {d : ServiceDiscoveryCollector} {i : Nat}

namespace Follows

/-- **Any history leaves the parts of the loop as they are**, and changes nothing but files. -/
theorem keeps (h : first.Follows path tree l storage) :
    l.fetcher = first.fetcher ∧ l.orchestrator.collectors = first.orchestrator.collectors ∧
      tree.ChangedFrom (storage.abandoned.flatMap StagingJob.numbers) storage.tree := by
  induction h with
  | start => exact ⟨rfl, rfl, ⟨List.nodup_nil, by simp⟩, .refl tree⟩
  | writes _ hWrite ih =>
    obtain ⟨hFetcher, hCollectors, hChanged⟩ := ih
    exact ⟨hFetcher, hCollectors, hChanged.outside (FileTree.write_changesFiles hWrite)
      ((FileTree.write_passesBy path _).temporaries _ _ hWrite)⟩
  | removes _ hRemove ih =>
    obtain ⟨hFetcher, hCollectors, hChanged⟩ := ih
    exact ⟨hFetcher, hCollectors, hChanged.outside (FileTree.remove_changesFiles hRemove)
      ((FileTree.remove_passesBy path).temporaries _ _ hRemove)⟩
  | sweeps _ hSweep ih =>
    obtain ⟨hFetcher, hCollectors, hChanged⟩ := ih
    exact ⟨hFetcher, hCollectors, Storage.sweep?_changedFrom hSweep hChanged⟩
  | cycles _ hCycle ih =>
    obtain ⟨hFetcher, hCollectors, hChanged⟩ := ih
    obtain ⟨hFetcher', -, hCollectors', -⟩ := hCycle.keeps
    refine ⟨hFetcher'.trans hFetcher, hCollectors'.trans hCollectors, ?_⟩
    cases hCycle with
    | skipped _ _ => exact hChanged
    | completed _ hScrape _ => exact hScrape.changedFrom hChanged

/-- What has landed at the destination is read by its path, if its directory is found. -/
theorem read_of_landed (h : first.Follows path tree l storage) {destination : String}
    {target : Location} {content : Bytes} (hTarget : tree.landing destination = .ok target)
    (hFile : storage.tree.get? target = some (.file content FileTree.publicMode))
    (hFound : storage.tree.FindsDirectory destination) :
    storage.tree.read destination = .ok content :=
  FileTree.read_of_landing (h.keeps.2.2.changes.landing_of_found hTarget hFound) hFile

/-- In a cycle nothing but files changes. -/
theorem changesFiles (h : first.Follows path tree l storage) (hCycle : l.RunsOnce storage c) :
    storage.tree.ChangesFiles c.storage.tree := by
  have hCustody := h.keeps.2.2.custody
  cases hCycle with
  | skipped _ _ => exact .refl _
  | completed _ hScrape _ => exact (hScrape.changedFrom ⟨hCustody, .refl _⟩).changes

variable (h : first.Follows path tree l storage) (hFetcher : first.fetcher = .ofFile path)
  (hCollector : first.orchestrator.collectors[i]? = some d.toCollector)
  (hOthers : first.orchestrator.LeavesTo i tree d.destination)
include h hFetcher hCollector hOthers

/-- **What a cycle makes of the target file**: nothing if there is no topology, and otherwise what
it was or the targets of the topology, the latter if the collector has succeeded. -/
theorem cycle (hCycle : l.RunsOnce storage c) :
    (∀ error, fetchFile storage.tree path = .error error →
      c.report = none ∧ c.storage = storage) ∧
    ∀ s, fetchFile storage.tree path = .ok s → ∃ report, c.report = some report ∧
      (∀ target, storage.tree.landing d.destination = .ok target →
        c.storage.tree.get? target = storage.tree.get? target ∨
          c.storage.tree.get? target = some (.file (d.content s) FileTree.publicMode)) ∧
      ∀ name, report.outcomes[i]? = some ⟨name, none⟩ →
        ∃ target, storage.tree.landing d.destination = .ok target ∧
          c.storage.tree.get? target = some (.file (d.content s) FileTree.publicMode) := by
  obtain ⟨hFetcher', hCollectors, hChanged⟩ := h.keeps
  have hFetched : (l.fetch storage.tree).result = fetchFile storage.tree path := by
    rw [fetch, hFetcher', hFetcher]
    rfl
  cases hCycle with
  | @skipped error hFetch now =>
    rw [hFetched] at hFetch
    exact ⟨fun _ _ => ⟨rfl, rfl⟩, fun s hOk => by simp [hFetch] at hOk⟩
  | @completed s clock moves scraped hFetch hScrape now =>
    rw [hFetched] at hFetch
    refine ⟨fun error hError => by simp [hFetch] at hError, fun s' hOk => ⟨_, rfl, ?_⟩⟩
    obtain rfl : s = s' := Except.ok.inj (hFetch.symm.trans hOk)
    refine hScrape.delivers hChanged.custody (d.provides (hCollectors ▸ hCollector) ?_ s clock)
    -- files land where they would have at first
    intro j other hj hOther destination' hReplaces target hTarget hOwn
    exact hOthers j other hj (hCollectors ▸ hOther) destination' hReplaces target
      (hChanged.changes.landing hTarget) (hChanged.changes.landing hOwn)

end Follows

end ScrapeLoop

/-- **The target file follows the topology file.** Take a loop that fetches from a topology file and
has a collector for service discovery at a position, with any filters, while no other collector
replaces what is at its destination; after any history in which others wrote the topology file, with
any bytes, or removed it, and any cycles were run, with any order of steps in their scrapes and any
moments at which limits struck. Then for the next cycle:

* if no snapshot can be fetched, there is no report and all files are as before;
* otherwise there is one, and what is at the destination is what was there or a whole file with the
  target groups of that snapshot;
* and if the collector is reported to have succeeded, it is the latter, at the place to which the
  destination led. While the directory of the destination is found, this is what is read there, and
  what is still read there after another cycle over the same topology.

The directory is found if no symbolic link is met on the way to it. -/
theorem targets_follow_topology (d : ServiceDiscoveryCollector) {first l : ScrapeLoop}
    {path : String} {tree : FileTree} {storage : Storage} {c : Cycle} {i : Nat}
    (hFetcher : first.fetcher = .ofFile path)
    (hCollector : first.orchestrator.collectors[i]? = some d.toCollector)
    (hOthers : first.orchestrator.LeavesTo i tree d.destination)
    (hPast : first.Follows path tree l storage) (hCycle : l.RunsOnce storage c) :
    (∀ error, fetchFile storage.tree path = .error error →
      c.report = none ∧ c.storage = storage) ∧
    (∀ s, fetchFile storage.tree path = .ok s → ∃ report, c.report = some report ∧
      (∀ target, storage.tree.landing d.destination = .ok target →
        c.storage.tree.get? target = storage.tree.get? target ∨
          c.storage.tree.get? target =
            some (.file (TargetGroup.encodeAll (targetGroups d.filter s)) FileTree.publicMode)) ∧
      (report.outcomes[i]? = some ⟨d.toCollector.name, none⟩ →
        (∃ target, storage.tree.landing d.destination = .ok target ∧
          c.storage.tree.get? target =
            some (.file (TargetGroup.encodeAll (targetGroups d.filter s)) FileTree.publicMode)) ∧
        (c.storage.tree.FindsDirectory d.destination →
          c.storage.tree.read d.destination =
            .ok (TargetGroup.encodeAll (targetGroups d.filter s))) ∧
        ∀ again : Cycle, c.loop.RunsOnce c.storage again →
          c.storage.tree.read path = storage.tree.read path →
          again.storage.tree.FindsDirectory d.destination →
          again.storage.tree.read d.destination = c.storage.tree.read d.destination)) ∧
    (tree.Direct d.destination → c.storage.tree.FindsDirectory d.destination) := by
  obtain ⟨hNone, hSome⟩ := hPast.cycle hFetcher hCollector hOthers hCycle
  have hNext := hPast.cycles hCycle
  refine ⟨hNone, fun s hFetch => ?_, fun hDirect => hDirect.found hNext.keeps.2.2.changes⟩
  obtain ⟨report, hReport, hWhole, hSucceeded⟩ := hSome s hFetch
  refine ⟨report, hReport, hWhole, fun hOutcome => ?_⟩
  obtain ⟨target, hTarget, hFile⟩ := hSucceeded _ hOutcome
  have hOrigin := hPast.keeps.2.2.changes.landing hTarget
  refine ⟨⟨target, hTarget, hFile⟩,
    fun hFound => hNext.read_of_landed hOrigin hFile hFound, ?_⟩
  intro again hAgain hSame hFound
  -- the directory was found before the second cycle as well
  have hFoundBefore := (hNext.changesFiles hAgain).foundBefore hFound
  have hLanding := hNext.keeps.2.2.changes.landing_of_found hOrigin hFoundBefore
  have hFetch' : fetchFile c.storage.tree path = .ok s := by
    rw [← hFetch, fetchFile, fetchFile, hSame]
  obtain ⟨-, -, hWhole', -⟩ := (hNext.cycle hFetcher hCollector hOthers hAgain).2 s hFetch'
  have hFile' : again.storage.tree.get? target =
      some (.file (TargetGroup.encodeAll (targetGroups d.filter s)) FileTree.publicMode) :=
    (hWhole' target hLanding).elim (fun hStays => hStays.trans hFile) id
  rw [hNext.read_of_landed hOrigin hFile hFoundBefore]
  exact (hNext.cycles hAgain).read_of_landed hOrigin hFile' hFound

private def keeper (destination : String) : ServiceDiscoveryCollector :=
  ⟨destination, .all, default⟩

private def scribe : Collector :=
  ⟨"scribe", [], fun _ _ _ => ⟨[.replace "notes.json" []], .panics⟩⟩

private def keeping (destination : String) (others : List Collector) : ScrapeLoop :=
  { (default : ScrapeLoop) with
    fetcher := .ofFile "topology.json"
    orchestrator := .make ((keeper destination).toCollector :: others) (.ofSeconds 10) 10 }

/-- A run of that collector and others, with its task as it is and what has been received from
it. -/
private def keepingRun (steps : List CallStep) (activity : Activity) (others : List Task)
    (received : List Family) (tree : FileTree) : Run :=
  ⟨⟨BuiltIn.serviceDiscovery.name, steps, .returns none, activity⟩ :: others, .ofSeconds 10,
    ⟨10, [], true⟩, received.map (SinkItem.mk BuiltIn.serviceDiscovery.name),
    0, ⟨tree, []⟩⟩

private def desk (targets topology : Bytes) : FileTree :=
  ⟨⟨[([.given "sd.json"], .file targets FileTree.publicMode),
    ([.given "topology.json"], .file topology FileTree.publicMode)], by simp⟩⟩

private theorem scribe_leaves (tree : FileTree)
    (hNotes : tree.landing "notes.json" = .ok [.given "notes.json"])
    (hTargets : tree.landing "sd.json" = .ok [.given "sd.json"]) :
    (keeping "sd.json" [scribe]).orchestrator.LeavesTo 0 tree "sd.json" := by
  intro j other hj hOther destination hReplaces target hTarget
  obtain ⟨j, rfl⟩ := Nat.exists_eq_succ_of_ne_zero hj
  obtain ⟨rfl, rfl⟩ : j = 0 ∧ scribe = other := by
    cases j with
    | zero => exact ⟨rfl, Option.some.inj hOther⟩
    | succ j => simp [keeping, Orchestrator.make] at hOther
  obtain ⟨number, s, clock, content, hStep⟩ := hReplaces
  obtain rfl : destination = "notes.json" := (CallStep.replace.inj (List.mem_singleton.mp hStep)).1
  obtain rfl := Except.ok.inj (hNotes.symm.trans hTarget)
  simp [hTargets]

/-- The collector and its companion take turns. -/
private theorem run_beside_scribe (old topology content : Bytes) (first second : Family) :
    (keepingRun [.replace "sd.json" content, .send first, .send second] .ready
      [⟨"scribe", [.replace "notes.json" []], .panics, .ready⟩] [] (desk old topology)).replay?
      [.proceed 0, .proceed 1, .stage 1, .stage 0, .proceed 1, .proceed 0, .proceed 0, .proceed 0,
        .proceed 1, .proceed 0, .receive, .receive] =
      some ([.sent 0 first, .sent 0 second, .ended 1 (some (.panicked "scribe")), .ended 0 none],
        keepingRun [] (.ended none)
          [⟨"scribe", [], .panics, .ended (some (.panicked "scribe"))⟩]
          [first, second] ⟨⟨[([.given "sd.json"], .file content FileTree.publicMode),
            ([.given "topology.json"], .file topology FileTree.publicMode),
            ([.given "notes.json"], .file [] FileTree.publicMode)], by simp⟩⟩) := by
  cbv

/-- A target file from before, beside a topology file that ends too early. -/
private def spoiled : FileTree := desk [91, 32, 93] [91]

/-- In a cycle that is skipped nothing happens; then the topology file is written anew. -/
private theorem follows_repaired : ∃ l, l.fetcher = .ofFile "topology.json" ∧
    l.orchestrator = (keeping "sd.json" [scribe]).orchestrator ∧
    (keeping "sd.json" [scribe]).Follows "topology.json" spoiled l
      ⟨desk [91, 32, 93] [91, 93], []⟩ := by
  have hFails : (fetchFile spoiled "topology.json").isOk = false := by decide +kernel
  have hWrite : spoiled.write "topology.json" [91, 93] =
      .ok (desk [91, 32, 93] [91, 93]) := by decide +kernel
  cases hFetch : fetchFile spoiled "topology.json" with
  | ok s => simp [hFetch, Except.isOk, Except.toBool] at hFails
  | error error =>
    have hFetch' : ((keeping "sd.json" [scribe]).fetch spoiled).result = .error error := hFetch
    have hCycle : (keeping "sd.json" [scribe]).RunsOnce ⟨spoiled, []⟩ _ := .skipped hFetch' 0
    refine ⟨_, ?_, ?_, (ScrapeLoop.Follows.start.cycles hCycle).writes hWrite⟩
    · rfl
    · rfl

/-- The targets follow a topology file that has been repaired, and nothing is left of the longer
file from before. -/
theorem targets_follow_repaired_topology :
    (keeping "sd.json" [scribe]).fetcher = .ofFile "topology.json" ∧
    (keeping "sd.json" [scribe]).orchestrator.collectors[0]? =
      some (keeper "sd.json").toCollector ∧
    (keeping "sd.json" [scribe]).orchestrator.LeavesTo 0 spoiled "sd.json" ∧
    ∃ l storage c, (keeping "sd.json" [scribe]).Follows "topology.json" spoiled l storage ∧
      l.RunsOnce storage c ∧ storage.tree.read "sd.json" = .ok [91, 32, 93] ∧
      c.storage.tree.read "sd.json" = .ok [91, 93] := by
  have hOthers : (keeping "sd.json" [scribe]).orchestrator.LeavesTo 0 spoiled "sd.json" :=
    scribe_leaves _ (by decide +kernel) (by decide +kernel)
  have hDirect : spoiled.Direct "sd.json" := ⟨[], by decide +kernel, by decide +kernel⟩
  obtain ⟨l, hFetcher, hOrchestrator, hPast⟩ := follows_repaired
  have hTopology : fetchFile (desk [91, 32, 93] [91, 93]) "topology.json" = .ok [] := by
    decide +kernel
  have hFetch : (l.fetch (desk [91, 32, 93] [91, 93])).result = .ok [] := by
    rw [ScrapeLoop.fetch, hFetcher]
    exact hTopology
  have hScrape :
      (keeping "sd.json" [scribe]).orchestrator.Scrapes ⟨desk [91, 32, 93] [91, 93], []⟩ []
      (fun _ => default) _ _ := .concluded rfl
        (.of_replay? (run_beside_scribe _ _ _ _ _)) rfl ⟨0⟩
  rw [← hOrchestrator] at hScrape
  have hCycle : l.RunsOnce ⟨desk [91, 32, 93] [91, 93], []⟩ _ := .completed hFetch hScrape 0
  obtain ⟨-, hOk, hFound⟩ :=
    targets_follow_topology (keeper "sd.json") rfl rfl hOthers hPast hCycle
  obtain ⟨report, hReport, -, hSucceeded⟩ := hOk [] hTopology
  obtain rfl := Option.some.inj hReport
  obtain ⟨-, hRead, -⟩ := hSucceeded rfl
  exact ⟨rfl, rfl, hOthers, l, _, _, hPast, hCycle, by decide +kernel,
    (hRead (hFound hDirect)).trans (by decide +kernel)⟩

/-- A directory with a link to itself. The destination is this link, and the way to it leads through
the link once more. -/
private def winding (link : Node) : FileTree :=
  ⟨⟨[([.given "b"], .directory), ([.given "b", .given "l"], link), ([.given "a"], .link "b/l"),
    ([.given "topology.json"], .file [91, 93] FileTree.publicMode)], by simp⟩⟩

private theorem run_over_winding (content : Bytes) (first second : Family) :
    (keepingRun [.replace "a/l" content, .send first, .send second] .ready [] []
      (winding (.link "."))).replay?
      [.proceed 0, .stage 0, .proceed 0, .proceed 0, .proceed 0, .proceed 0, .receive, .receive] =
      some ([.sent 0 first, .sent 0 second, .ended 0 none],
        keepingRun [] (.ended none) [] [first, second]
          (winding (.file content FileTree.publicMode))) := by
  cbv

/-- **A target file can land out of reach of its own path**, if it replaces a link on the way there:
it has been written, and cannot be read. -/
theorem replaced_link_hides_targets :
    ¬ ∀ (d : ServiceDiscoveryCollector) (first l : ScrapeLoop) (path : String) (tree : FileTree)
        (storage : Storage) (c : Cycle) (i : Nat) (s : Snapshot) (report : ScrapeReport),
        first.fetcher = .ofFile path → first.orchestrator.collectors[i]? = some d.toCollector →
        first.orchestrator.LeavesTo i tree d.destination → path ≠ d.destination →
        0 < first.orchestrator.limit.ceilMillis → tree.FindsDirectory d.destination →
        first.Follows path tree l storage → l.RunsOnce storage c →
        fetchFile storage.tree path = .ok s → c.report = some report →
        report.outcomes[i]? = some ⟨d.toCollector.name, none⟩ →
        c.storage.tree.read d.destination =
          .ok (TargetGroup.encodeAll (targetGroups d.filter s)) := by
  intro h
  have hTopology : fetchFile (winding (.link ".")) "topology.json" = .ok [] := by decide +kernel
  have hScrape : (keeping "a/l" []).orchestrator.Scrapes ⟨winding (.link "."), []⟩ []
      (fun _ => default) _ _ :=
    .concluded rfl (.of_replay? (run_over_winding _ _ _)) rfl ⟨0⟩
  have hFetch : ((keeping "a/l" []).fetch (winding (.link "."))).result = .ok [] := hTopology
  have hCycle : (keeping "a/l" []).RunsOnce ⟨winding (.link "."), []⟩ _ :=
    .completed hFetch hScrape 0
  have hAlone : (keeping "a/l" []).orchestrator.LeavesTo 0 (winding (.link ".")) "a/l" := by
    intro j other hj hOther
    obtain ⟨j, rfl⟩ := Nat.exists_eq_succ_of_ne_zero hj
    simp [keeping, Orchestrator.make] at hOther
  have hRead := h (keeper "a/l") _ _ "topology.json" _ _ _ 0 [] _ rfl rfl hAlone
    (by decide) (by decide)
    ⟨[.given "b"], by decide +kernel⟩ .start hCycle hTopology rfl rfl
  have hHidden (content : Bytes) : (winding (.file content FileTree.publicMode)).read "a/l" =
      .error .notDirectory := by cbv
  exact absurd ((hHidden _).symm.trans hRead) (by simp)

end TopologyExporter
