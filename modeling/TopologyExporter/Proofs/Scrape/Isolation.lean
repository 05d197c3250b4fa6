import TopologyExporter.Collector.Deployments
import TopologyExporter.Collector.ServiceDiscovery
import TopologyExporter.Proofs.Scrape.Course

/-!
# Isolation — scrapes with and without others

Two orchestrators with nothing in common but one collector, its limit and the files that they find
scrape the same snapshots. Of that collector they report and serve the same after every scrape,
however many others fail, hang, panic or send beside it, if two things do not tell them apart: the
room in the channel at the very moment of the limit, and entries that others replace where the
collector looks.

## Results

* `ServiceDiscoveryCollector.call_alike`, `DeploymentsCollector.call_alike` — what the clock
  changes in the calls of the exporter's own collectors.
* `ServiceDiscoveryCollector.call_untied`, `DeploymentsCollector.call_untied` — which of their
  calls the limit can meet at their very end.
* `Orchestrator.KeepsTo.scrape`   — a scrape comes to what the collector's call comes to alone.
* `others_leave_collector_alone`  — so all scrapes do, whatever others there are.
* `room_and_ways_tell`            — without either condition they do not.
-/

namespace TopologyExporter

-- ---------------------------------------------------------------------------
-- Calls under different clocks
-- ---------------------------------------------------------------------------

/-- Whether families are the same but for the values of their samples. -/
def Family.SameButValues (f f' : Family) : Prop :=
  f.name = f'.name ∧ f.help = f'.help ∧ f.kind = f'.kind ∧
    f.samples.map Sample.labels = f'.samples.map Sample.labels

theorem CallStep.alike_send {alike : Family → Family → Prop} {families families' : List Family}
    (h : List.Forall₂ alike families families') :
    List.Forall₂ (CallStep.Alike alike) (families.map .send) (families'.map .send) := by
  induction h with
  | nil => exact .nil
  | cons hFamily _ ih => exact .cons (.send hFamily) ih

theorem Descriptor.single_sameButValues (d : Descriptor) (kind : MetricKind)
    (value value' : Binary64) :
    (d.single kind value).SameButValues (d.single kind value') :=
  ⟨rfl, rfl, rfl, rfl⟩

/-- The clock shows in the values of the gauges. -/
theorem ScrapeGauges.families_alike (g : ScrapeGauges) (clock clock' : RunClock) :
    List.Forall₂ Family.SameButValues (g.families clock) (g.families clock') :=
  .cons (g.timestamp.single_sameButValues ..) (.cons (g.duration.single_sameButValues ..) .nil)

/-- The calls of the collector for service discovery differ in no more. -/
theorem ServiceDiscoveryCollector.call_alike (c : ServiceDiscoveryCollector) (s : Snapshot)
    (clock clock' : RunClock) : (c.call s clock).Alike Family.SameButValues (c.call s clock') where
  steps := .cons (.replace _ _) (CallStep.alike_send (c.gauges.families_alike clock clock'))
  ending := rfl

/-- Nor do those of the collector of deployments. -/
theorem DeploymentsCollector.call_alike (c : DeploymentsCollector) (s : Snapshot)
    (clock clock' : RunClock) : (c.call s clock).Alike Family.SameButValues (c.call s clock') where
  steps :=
    CallStep.alike_send (.cons ⟨rfl, rfl, rfl, rfl⟩ (c.gauges.families_alike clock clock'))
  ending := rfl

/-- Families that are sent before the limit do not tie a call with it. -/
theorem tiedSteps_sends {left : Nat} (hLeft : left ≠ 0) (ending : Ending)
    (families : List Family) :
    tiedSteps ending left (families.map .send) = false := by
  induction families with
  | nil => rfl
  | cons family rest ih => rw [List.map_cons, tiedSteps, if_neg hLeft, ih]

/-- No call of the collector for service discovery is tied with any limit: at its limit it waits for
the file. -/
theorem ServiceDiscoveryCollector.call_untied (c : ServiceDiscoveryCollector) (s : Snapshot)
    (clock : RunClock) (limit : Duration) : (c.call s clock).isTied limit = false := by
  rw [Call.isTied, call, tiedSteps]
  by_cases hLimit : limit.ceilMillis = 0
  · simp [hLimit]
  · simp [hLimit, tiedSteps_sends]

/-- No call of the collector of deployments is tied with a limit that leaves it any time. -/
theorem DeploymentsCollector.call_untied (c : DeploymentsCollector) (s : Snapshot)
    (clock : RunClock) {limit : Duration} (hLimit : limit.ceilMillis ≠ 0) :
    (c.call s clock).isTied limit = false := by
  rw [Call.isTied, call, tiedSteps_sends hLimit]

-- ---------------------------------------------------------------------------
-- Scrapes one after the other
-- ---------------------------------------------------------------------------

/-- Scrapes of some snapshots one after the other, each a run on time, and with whatever clocks. -/
inductive Orchestrator.ScrapesEach : Orchestrator → Storage → List Snapshot →
    List Scraped → Prop
  | none (o : Orchestrator) (storage : Storage) : ScrapesEach o storage [] []
  | next {o : Orchestrator} {storage : Storage} {s : Snapshot} {clock : String → RunClock}
      {events : List RunEvent} {scraped : Scraped} {snapshots : List Snapshot}
      {later : List Scraped}
      (hScrape : o.ScrapesOnTime storage s clock events scraped)
      (hLater : ScrapesEach scraped.orchestrator scraped.storage snapshots later) :
      ScrapesEach o storage (s :: snapshots) (scraped :: later)

/-- Whether two orchestrators that scrape the same snapshots over the same files report the same of
a collector after every scrape, and serve families of it that are alike. -/
def Orchestrator.AgreeOn (name : String) (alike : Family → Family → Prop) (tree : FileTree)
    (snapshots : List Snapshot) (o o' : Orchestrator) : Prop :=
  ∀ scraped scraped', o.ScrapesEach ⟨tree, []⟩ snapshots scraped →
    o'.ScrapesEach ⟨tree, []⟩ snapshots scraped' →
    List.Forall₂ (fun a b => a.report.outcome? name = b.report.outcome? name ∧
      List.Forall₂ alike (a.orchestrator.latest.familiesFor name)
        (b.orchestrator.latest.familiesFor name)) scraped scraped'

/-- Whether a collector is one of some with distinct names, and no other of them replaces a file
where it looks: at one of its destinations, or on the way there. -/
structure Collector.StandsApart (c : Collector) (tree : FileTree) (collectors : List Collector) :
    Prop where
  names  : (collectors.map Collector.name).Nodup
  mem    : c ∈ collectors
  others : ∀ d ∈ collectors, d.name ≠ c.name →
    ∀ destination place, d.Replaces destination →
    tree.landing destination = .ok place → ¬ c.NeedsPlace tree place

/-- What is known of an orchestrator between two scrapes: what it scrapes with, and that its files
are as in the mirror where a collector looks. -/
structure Orchestrator.KeepsTo (c : Collector) (origin : FileTree) (collectors : List Collector)
    (limit : Duration) (scrapes : Nat) (mirror : FileTree) (o : Orchestrator) (storage : Storage) :
    Prop where
  collectors_eq : o.collectors = collectors
  limit_eq      : o.limit = limit
  scrapes_eq    : o.scrapes = scrapes
  mirrors       : c.Mirrors origin storage.tree mirror
  grown         : origin.GrownFrom (storage.abandoned.flatMap StagingJob.numbers) storage.tree

namespace Orchestrator

variable {c : Collector} {origin mirror : FileTree} {collectors collectors' : List Collector}
  {limit : Duration} {n : Nat} {o o' : Orchestrator} {storage storage' : Storage} {s : Snapshot}
  {clock : String → RunClock} {i : Nat}

/-- Scrapes come to an end with every buffer that a channel can have. -/
theorem exists_scrapesEach (hRoom : 0 < o.buffer) (hMost : o.buffer ≤ maxCapacity)
    (storage : Storage) (snapshots : List Snapshot) :
    ∃ scraped, o.ScrapesEach storage snapshots scraped := by
  induction snapshots generalizing o storage with
  | nil => exact ⟨[], .none o storage⟩
  | cons s snapshots ih =>
    obtain ⟨scraped, hScrape⟩ : ∃ scraped, o.scrape storage s default = .ok scraped :=
      ⟨_, scrape_eq_ok hRoom hMost storage s default⟩
    obtain ⟨events, hOnTime⟩ := scrape_onTime hScrape
    have hBuffer : scraped.orchestrator.buffer = o.buffer := by
      cases hOnTime
      rfl
    obtain ⟨later, hLater⟩ := ih (hBuffer ▸ hRoom) (hBuffer ▸ hMost) scraped.storage
    exact ⟨scraped :: later, .next hOnTime hLater⟩

/-- In a scrape, the call of a collector that stands apart is not disturbed by others. -/
theorem undisturbed (hApart : c.StandsApart origin o.collectors)
    (hCollector : o.collectors[i]? = some c) :
    c.Undisturbed origin i (c.call o.scrapes s (clock c.name)) (o.calls s clock) where
  own := by simp [calls, hCollector]
  mine destination content hStep := ⟨_, _, _, content, hStep⟩
  others j other hj hCall destination content hStep place hPlace := by
    rw [calls, List.getElem?_map, Option.map_eq_some_iff] at hCall
    obtain ⟨d, hOther, rfl⟩ := hCall
    -- another position has another name
    have hName : d.name ≠ c.name := by
      intro hEq
      have hBound : j < (o.collectors.map Collector.name).length := by
        simpa using (List.getElem?_eq_some_iff.mp hOther).1
      exact hj ((List.getElem?_inj hBound hApart.names).mp (by simp [hCollector, hOther, hEq]))
    exact hApart.others d (List.mem_of_getElem? hOther) hName destination place
      ⟨_, _, _, content, hStep⟩
      hPlace

namespace KeepsTo

theorem make (c : Collector) (collectors : List Collector) (limit : Duration) (buffer : Nat)
    (tree : FileTree) :
    (Orchestrator.make collectors limit buffer).KeepsTo c tree collectors limit 0 tree
      ⟨tree, []⟩ where
  collectors_eq := rfl
  limit_eq := rfl
  scrapes_eq := rfl
  mirrors := .refl c tree
  grown := ⟨⟨List.nodup_nil, by simp⟩, fun _ _ hPlace => hPlace⟩

/-- At the beginning of a scrape the task of the collector is on course. -/
theorem start (h : o.KeepsTo c origin collectors limit n mirror storage)
    (hCollector : o.collectors[i]? = some c)
    (hUntied : (c.call n s (clock c.name)).isTied limit = false) {first : Run}
    (hStart : o.start storage s clock = .ok first) :
    first.OnCourse c origin i limit ((c.call n s (clock c.name)).solo c.name limit mirror) := by
  obtain ⟨hRoom, -, rfl⟩ := start_eq_ok_iff.mp hStart
  have hTask : (o.calls s clock)[i]? = some (c.name, c.call n s (clock c.name)) := by
    simp [calls, hCollector, h.scrapes_eq]
  refine ⟨hRoom, ?_, .start c.name (c.call n s (clock c.name)), mirror, ?_, h.mirrors,
    .start hUntied⟩
  · rw [Run.numbers_start]
    exact h.grown
  · simp [Run.start, hTask]

/-- **A scrape comes to what the collector's call comes to alone**, over the mirror: that is
reported, and if the call succeeds its output is served from then on. -/
theorem scrape (h : o.KeepsTo c origin collectors limit n mirror storage)
    (hApart : c.StandsApart origin collectors)
    (hUntied : (c.call n s (clock c.name)).isTied limit = false)
    {events : List RunEvent} {scraped : Scraped}
    (hScrape : o.ScrapesOnTime storage s clock events scraped) :
    let call := c.call n s (clock c.name)
    let result := call.solo c.name limit mirror
    scraped.report.outcome? c.name = some ⟨c.name, result.1⟩ ∧
      scraped.orchestrator.latest.familiesFor c.name =
        (if result.1.isNone then call.output else o.latest.familiesFor c.name) ∧
      scraped.orchestrator.KeepsTo c origin collectors limit (n + 1) result.2 scraped.storage := by
  intro call result
  obtain rfl := h.collectors_eq
  obtain ⟨i, hCollector⟩ := List.getElem?_of_mem hApart.mem
  have hNames := hScrape.scrapes.names_eq
  obtain ⟨error, hOutcome, -, -, hOutput, hServed⟩ :=
    hScrape.scrapes.outcome hApart.names hCollector
  cases hScrape with | @concluded first last events hStart hOnTime hOver elapsed =>
  have hCourse := hOnTime.onCourse (h.limit_eq ▸ accounted_of_start hStart)
    (undisturbed hApart hCollector) (h.start hCollector hUntied hStart)
  obtain ⟨t, hTask, hResult, hMirrors, hGrown⟩ := hCourse.ended hOver
  -- the task on course is the one that is reported
  obtain rfl : error = result.1 := by
    have hReported : (o.conclude last elapsed).report.outcomes[i]? =
        some ⟨t.collector, t.outcome⟩ := by
      simp [conclude, Run.outcomes, hTask]
    rw [hReported, Option.some.injEq, Outcome.mk.injEq] at hOutcome
    exact hOutcome.2.symm.trans hResult
  refine ⟨?_, ?_, ⟨rfl, h.limit_eq, congrArg (· + 1) h.scrapes_eq, hMirrors, hGrown⟩⟩
  · exact (ScrapeReport.outcome?_eq_some_iff (hNames ▸ hApart.names)).mpr
      ⟨List.mem_of_getElem? hOutcome, rfl⟩
  · rw [hServed]
    split
    case isTrue hNone => rw [hOutput (Option.isNone_iff_eq_none.mp hNone), h.scrapes_eq]
    case isFalse => rfl

/-- **Two orchestrators that keep to the same mirror go on to report and serve the same**, by
induction on the scrapes. -/
theorem agree {alike : Family → Family → Prop}
    (h : o.KeepsTo c origin collectors limit n mirror storage)
    (h' : o'.KeepsTo c origin collectors' limit n mirror storage')
    (hApart : c.StandsApart origin collectors) (hApart' : c.StandsApart origin collectors')
    {snapshots : List Snapshot}
    (hAlike : ∀ k s, snapshots[k]? = some s → ∀ clock clock',
      (c.call (n + k) s clock).Alike alike (c.call (n + k) s clock'))
    (hUntied : ∀ k s, snapshots[k]? = some s →
      ∀ clock, (c.call (n + k) s clock).isTied limit = false)
    (hServed : List.Forall₂ alike (o.latest.familiesFor c.name) (o'.latest.familiesFor c.name))
    {scraped scraped' : List Scraped} (hEach : o.ScrapesEach storage snapshots scraped)
    (hEach' : o'.ScrapesEach storage' snapshots scraped') :
    List.Forall₂ (fun a b => a.report.outcome? c.name = b.report.outcome? c.name ∧
      List.Forall₂ alike (a.orchestrator.latest.familiesFor c.name)
        (b.orchestrator.latest.familiesFor c.name)) scraped scraped' := by
  induction hEach generalizing o' storage' scraped' mirror n with
  | none =>
    cases hEach'
    exact .nil
  | @next o storage s clock _ a _ _ hScrape _ ih =>
    cases hEach' with | @next _ _ _ clock' _ b _ _ hScrape' hLater' =>
    obtain ⟨hOutcome, hFamilies, hNext⟩ := h.scrape hApart (hUntied 0 s rfl _) hScrape
    obtain ⟨hOutcome', hFamilies', hNext'⟩ := h'.scrape hApart' (hUntied 0 s rfl _) hScrape'
    -- both calls come to the same, so that both go on with the same mirror
    have hCall := hAlike 0 s rfl (clock c.name) (clock' c.name)
    rw [Nat.add_zero] at hCall
    rw [← hCall.solo_eq] at hOutcome' hFamilies' hNext'
    have hServed' : List.Forall₂ alike (a.orchestrator.latest.familiesFor c.name)
        (b.orchestrator.latest.familiesFor c.name) := by
      rw [hFamilies, hFamilies']
      split
      · exact hCall.output
      · exact hServed
    refine .cons ⟨hOutcome.trans hOutcome'.symm, hServed'⟩
      (ih hNext hNext' (fun k s hs => ?_) (fun k s hs => ?_) hServed' hLater')
    · rw [Nat.add_assoc, Nat.add_comm 1 k]
      exact hAlike (k + 1) s hs
    · rw [Nat.add_assoc, Nat.add_comm 1 k]
      exact hUntied (k + 1) s hs

end KeepsTo

end Orchestrator

/-- **Others leave a collector alone.** Two orchestrators that hold the same collector and limit
scrape the same snapshots over the same files. Their other collectors may differ, fail, hang, panic
and send what they like, and so may the order of registration, the buffers, the clocks and the order
of moves. If in both

* names are distinct, and no other collector replaces a file where the collector looks, and
* no call of the collector would come to its end at the very moment of the limit, with families to
  send at that moment,

then after every scrape both report the same outcome of the collector and serve the same families of
it, but for what its clock shows in them; and with buffers that channels can have both come to the
end of every scrape. The steps of a call follow from its number, its snapshot and its clock; how far
a call came that was abandoned at its limit is not among what a later call can depend on. -/
theorem others_leave_collector_alone (c : Collector) (collectors collectors' : List Collector)
    (limit : Duration) (buffer buffer' : Nat) (tree : FileTree) (snapshots : List Snapshot)
    (alike : Family → Family → Prop) (hApart : c.StandsApart tree collectors)
    (hApart' : c.StandsApart tree collectors')
    (hAlike : ∀ number s, snapshots[number]? = some s → ∀ clock clock',
      (c.call number s clock).Alike alike (c.call number s clock'))
    (hUntied : ∀ number s, snapshots[number]? = some s → ∀ clock,
      (c.call number s clock).isTied limit = false) :
    Orchestrator.AgreeOn c.name alike tree snapshots (.make collectors limit buffer)
        (.make collectors' limit buffer') ∧
      (0 < buffer ∧ buffer ≤ maxCapacity → 0 < buffer' ∧ buffer' ≤ maxCapacity →
        ∃ scraped scraped',
          (Orchestrator.make collectors limit buffer).ScrapesEach
            ⟨tree, []⟩ snapshots scraped ∧
          (Orchestrator.make collectors' limit buffer').ScrapesEach
            ⟨tree, []⟩ snapshots scraped') := by
  constructor
  · intro scraped scraped' hEach hEach'
    refine (Orchestrator.KeepsTo.make c collectors limit buffer tree).agree
      (.make c collectors' limit buffer' tree) hApart hApart' ?_ ?_ .nil hEach hEach'
    · simpa using hAlike
    · simpa using hUntied
  · intro hRoom hRoom'
    obtain ⟨scraped, hEach⟩ := Orchestrator.exists_scrapesEach
      (o := .make collectors limit buffer) hRoom.1 hRoom.2 ⟨tree, []⟩ snapshots
    obtain ⟨scraped', hEach'⟩ := Orchestrator.exists_scrapesEach
      (o := .make collectors' limit buffer') hRoom'.1 hRoom'.2 ⟨tree, []⟩ snapshots
    exact ⟨scraped, scraped', hEach, hEach'⟩

private def tracker : ServiceDiscoveryCollector := ⟨"sd.json", .all, default⟩

private def greedy : Collector :=
  ⟨"greedy", [],
    fun _ _ _ => ⟨[.send default, .send default, .replace "other.json" []], .hangs⟩⟩

private def shelf : FileTree :=
  ⟨⟨[([.given "sd.json"], .file [] FileTree.privateMode)], by simp⟩⟩

private theorem tracker_replaces {destination : String}
    (h : tracker.toCollector.Replaces destination) :
    destination = "sd.json" := by
  obtain ⟨number, s, clock, content, hStep⟩ := h
  rcases List.mem_cons.mp hStep with hEq | hSend
  · exact (CallStep.replace.inj hEq).1
  · simp at hSend

private theorem greedy_replaces {destination : String} (h : greedy.Replaces destination) :
    destination = "other.json" := by
  obtain ⟨number, s, clock, content, hStep⟩ := h
  simp only [greedy, List.mem_cons, reduceCtorEq, CallStep.replace.injEq,
    List.not_mem_nil, or_false, false_or] at hStep
  exact hStep.1

private theorem tracker_standsApart :
    tracker.toCollector.StandsApart shelf [greedy, tracker.toCollector] where
  names := by decide
  mem := by simp
  others d hd hName destination place hReplaces hPlace := by
    obtain rfl : d = greedy := by
      rcases List.mem_cons.mp hd with hEq | hFinder
      · exact hEq
      · exact absurd (congrArg Collector.name (List.mem_singleton.mp hFinder)) hName
    obtain rfl := greedy_replaces hReplaces
    have hOther : shelf.landing "other.json" = .ok [.given "other.json"] := by decide +kernel
    obtain rfl := Except.ok.inj (hPlace.symm.trans hOther)
    rintro ⟨destination, hFinder, hLooks⟩
    obtain rfl := tracker_replaces hFinder
    have hWay : shelf.waypoints "sd.json" = [[], [], [.given "sd.json"]] := by decide +kernel
    simp [hWay] at hLooks

/-- A collector that fills the channel and hangs leaves the collector for service discovery
alone. -/
theorem tracker_left_alone_by_greedy :
    tracker.toCollector.StandsApart shelf [tracker.toCollector] ∧
    tracker.toCollector.StandsApart shelf [greedy, tracker.toCollector] ∧
    Orchestrator.AgreeOn tracker.toCollector.name Family.SameButValues shelf [[], []]
      (.make [tracker.toCollector] (.ofSeconds 1) 3)
      (.make [greedy, tracker.toCollector] (.ofSeconds 1) 1) ∧
    ∃ scraped scraped',
      (Orchestrator.make [tracker.toCollector] (.ofSeconds 1) 3).ScrapesEach ⟨shelf, []⟩
        [[], []] scraped ∧
      (Orchestrator.make [greedy, tracker.toCollector] (.ofSeconds 1) 1).ScrapesEach
        ⟨shelf, []⟩ [[], []]
        scraped' := by
  have hAlone : tracker.toCollector.StandsApart shelf [tracker.toCollector] :=
    ⟨by simp, by simp, fun d hd hName => absurd
      (congrArg Collector.name (List.mem_singleton.mp hd)) hName⟩
  have hAgree := others_leave_collector_alone tracker.toCollector [tracker.toCollector]
    [greedy, tracker.toCollector] (.ofSeconds 1) 3 1 shelf [[], []] Family.SameButValues hAlone
    tracker_standsApart (fun _ s _ clock clock' => tracker.call_alike s clock clock')
    (fun _ s _ clock => tracker.call_untied s clock _)
  exact ⟨hAlone, tracker_standsApart, hAgree.1, hAgree.2 (by decide) (by decide)⟩

-- ---------------------------------------------------------------------------
-- What tells others apart
-- ---------------------------------------------------------------------------

private def punctual : Collector :=
  ⟨"punctual", [], fun _ _ _ => ⟨[.pause 100, .send default, .send default], .returns none⟩⟩

private def linked : Collector :=
  ⟨"linked", [], fun _ _ _ => ⟨[.replace "d/sd.json" []], .returns none⟩⟩

private def relinker : Collector :=
  ⟨"relinker", [], fun _ _ _ => ⟨[.replace "d" []], .returns none⟩⟩

/-- A link to a directory. -/
private def linkedTree : FileTree :=
  ⟨⟨[([.given "d"], .link "e"), ([.given "e"], .directory)], by simp⟩⟩

/-- The run of a first scrape. -/
private def firstRun (o : Orchestrator) (tree : FileTree) : Run :=
  .start (o.calls [] default) o.limit ⟨o.buffer, [], true⟩ ⟨tree, []⟩

private theorem outcome_of_agreeOn {o o' : Orchestrator} {name : String} {tree : FileTree}
    (h : Orchestrator.AgreeOn name (· = ·) tree [[]] o o')
    (hRoom : 0 < o.buffer ∧ o.buffer ≤ maxCapacity)
    (hRoom' : 0 < o'.buffer ∧ o'.buffer ≤ maxCapacity) :
    (firstRun o tree).finish.outcomes.find? (·.collector = name) =
      (firstRun o' tree).finish.outcomes.find? (·.collector = name) := by
  obtain ⟨_, hScrape⟩ := Orchestrator.scrape_onTime
    (Orchestrator.scrape_eq_ok hRoom.1 hRoom.2 ⟨tree, []⟩ [] default)
  obtain ⟨_, hScrape'⟩ := Orchestrator.scrape_onTime
    (Orchestrator.scrape_eq_ok hRoom'.1 hRoom'.2 ⟨tree, []⟩ [] default)
  cases h _ _ (.next hScrape (.none _ _)) (.next hScrape' (.none _ _)) with
  | cons hFirst _ => exact hFirst.1

/-- **Room and ways tell.** A collector whose pauses take all of its limit is in time where there is
room for both of its families, and late where there is not. And one whose destination lies behind a
link fails beside another that replaces the link, although neither lands where the other does. -/
theorem room_and_ways_tell :
    (punctual.StandsApart .empty [punctual] ∧
      ¬ Orchestrator.AgreeOn "punctual" (· = ·) .empty [[]] (.make [punctual] (.ofMillis 100) 1)
        (.make [punctual] (.ofMillis 100) 2)) ∧
    (([relinker, linked].map Collector.name).Nodup ∧
      linkedTree.landing "d" = .ok [.given "d"] ∧
      linkedTree.landing "d/sd.json" = .ok [.given "e", .given "sd.json"] ∧
      (∀ number s clock, (linked.call number s clock).isTied (.ofSeconds 1) = false) ∧
      ¬ Orchestrator.AgreeOn "linked" (· = ·) linkedTree [[]] (.make [linked] (.ofSeconds 1) 1)
        (.make [relinker, linked] (.ofSeconds 1) 1)) := by
  refine ⟨⟨⟨by simp, by simp, ?_⟩, ?_⟩, by decide, by decide +kernel, by decide +kernel,
    ?_, ?_⟩
  · exact fun d hd hName => absurd (congrArg Collector.name (List.mem_singleton.mp hd)) hName
  · intro hAgree
    have hOutcome := outcome_of_agreeOn hAgree (by decide) (by decide)
    have hLate : (firstRun (.make [punctual] (.ofMillis 100) 1) .empty).finish.outcomes =
        [⟨"punctual", some (.timeout "punctual" (.ofMillis 100))⟩] := by decide +kernel
    have hInTime : (firstRun (.make [punctual] (.ofMillis 100) 2) .empty).finish.outcomes =
        [⟨"punctual", none⟩] := by decide +kernel
    simp [hLate, hInTime] at hOutcome
  · intro number s clock
    simp [linked, Call.isTied, tiedSteps]
  · intro hAgree
    have hOutcome := outcome_of_agreeOn hAgree (by decide) (by decide)
    have hAlone : (firstRun (.make [linked] (.ofSeconds 1) 1) linkedTree).finish.outcomes =
        [⟨"linked", none⟩] := by decide +kernel
    have hBeside :
        (firstRun (.make [relinker, linked] (.ofSeconds 1) 1) linkedTree).finish.outcomes =
        [⟨"relinker", none⟩,
          ⟨"linked", some (.persistence "d/sd.json" .notDirectory)⟩] := by decide +kernel
    simp [hAlone, hBeside] at hOutcome

end TopologyExporter
