import TopologyExporter.Proofs.Scrape.Publication

/-!
# Namesakes — what is served of collectors that share a name

What was received is kept by name, and a success takes all that is there under its name. So a
collector that shares its name with others is not apart from them: what a failed namesake sent is
served with what the one success sent, and of several successes nothing is served.

## Results

* `LatestMetrics.familiesFor_publish_eq`   — what is served under a name, by the successes of that
  name.
* `Orchestrator.Scrapes.familiesFor_eq`    — after a scrape, whatever names collectors share.
* `served_by_name`                         — when exactly a scrape serves what successful calls
  sent.
* `namesakes_are_mixed_up`                 — that it does not do so for all collectors.
-/

namespace TopologyExporter

-- ---------------------------------------------------------------------------
-- What some tasks sent
-- ---------------------------------------------------------------------------

/-- The families that the tasks at some positions sent, in order. -/
def sentWhere (test : Nat → Bool) (events : List RunEvent) : List Family :=
  events.filterMap fun
    | .sent i family => if test i then some family else none
    | .ended _ _ => none

section SentWhere

variable {test test' : Nat → Bool} {events : List RunEvent} {i : Nat} {family : Family}

@[simp] theorem sentWhere_sent :
    sentWhere test (.sent i family :: events) =
      if test i then family :: sentWhere test events else sentWhere test events := by
  cases h : test i <;> simp [sentWhere, h]

@[simp] theorem sentWhere_ended {error : Option CollectorError} :
    sentWhere test (.ended i error :: events) = sentWhere test events := rfl

theorem mem_sentWhere : family ∈ sentWhere test events ↔
    ∃ i, test i = true ∧ .sent i family ∈ events := by
  induction events with
  | nil => simp [sentWhere]
  | cons e rest ih =>
    cases e with
    | ended j error => simpa using ih
    | sent j other =>
      rw [sentWhere_sent]
      split
      case isTrue hTest => grind
      case isFalse hTest => grind

theorem mem_sentBy : family ∈ sentBy i events ↔ .sent i family ∈ events := by
  rw [sentBy, List.mem_filterMap]
  constructor
  · rintro ⟨e, he, hFamily⟩
    cases e with
    | ended j error => simp at hFamily
    | sent j other =>
      obtain ⟨rfl, rfl⟩ : j = i ∧ other = family := by simpa using hFamily
      exact he
  · exact fun h => ⟨_, h, if_pos rfl⟩

/-- Some tasks sent nothing just if each of them sent nothing. -/
theorem sentWhere_eq_nil_iff : sentWhere test events = [] ↔
    ∀ i, test i = true → sentBy i events = [] := by
  simp only [List.eq_nil_iff_forall_not_mem, mem_sentWhere, mem_sentBy]
  grind

/-- Of the families of more positions, some are those of the fewer and the rest those of the
others. -/
theorem length_sentWhere (h : ∀ i, test i = true → test' i = true) (events : List RunEvent) :
    (sentWhere test' events).length =
      (sentWhere test events).length + (sentWhere (fun i => test' i && !test i) events).length := by
  induction events with
  | nil => rfl
  | cons e rest ih =>
    cases e with
    | ended j error => exact ih
    | sent j family =>
      simp only [sentWhere_sent]
      by_cases hTest : test j = true
      · have hTest' := h j hTest
        rw [if_pos hTest, if_pos hTest', if_neg (by simp [hTest]), List.length_cons,
          List.length_cons, ih, Nat.add_right_comm]
      · by_cases hTest' : test' j = true
        · rw [if_neg hTest, if_pos hTest', if_pos (by simp [hTest, hTest']), List.length_cons,
            List.length_cons, ih, Nat.add_assoc]
        · rw [if_neg hTest, if_neg hTest', if_neg (by simp [hTest'])]
          exact ih

theorem sentWhere_sublist (h : ∀ i, test i = true → test' i = true) (events : List RunEvent) :
    (sentWhere test events).Sublist (sentWhere test' events) := by
  induction events with
  | nil => exact .slnil
  | cons e rest ih =>
    cases e with
    | ended j error => exact ih
    | sent j family =>
      rw [sentWhere_sent, sentWhere_sent]
      by_cases hTest : test j = true
      · rw [if_pos hTest, if_pos (h j hTest)]
        exact ih.cons_cons _
      · rw [if_neg hTest]
        split
        · exact ih.cons _
        · exact ih

/-- **More positions, the same families**, just if those that are more sent nothing. -/
theorem sentWhere_eq_iff (h : ∀ i, test i = true → test' i = true) (events : List RunEvent) :
    sentWhere test' events = sentWhere test events ↔
      ∀ i, test' i = true → test i = false → sentBy i events = [] := by
  have hLength := length_sentWhere h events
  have hOthers : (∀ i, test' i = true → test i = false → sentBy i events = []) ↔
      sentWhere (fun i => test' i && !test i) events = [] := by
    rw [sentWhere_eq_nil_iff]
    simp
  rw [hOthers, ← List.length_eq_zero_iff]
  constructor
  · intro hSame
    rw [hSame] at hLength
    omega
  · intro hNone
    exact ((sentWhere_sublist h events).eq_of_length (by omega)).symm

/-- What was received under a name is what the tasks of that name sent. -/
theorem familiesOf_eq_sentWhere (calls : List (String × Call)) (name : String)
    (events : List RunEvent) :
    familiesOf name (events.filterMap (sinkItem? calls)) =
      sentWhere (fun i => (calls.map Prod.fst)[i]? = some name) events := by
  induction events with
  | nil => rfl
  | cons e rest ih =>
    cases e with
    | ended j error =>
      rw [List.filterMap_cons_none rfl]
      exact ih
    | sent j family =>
      cases hCall : calls[j]? with
      | none => simpa [hCall] using ih
      | some c =>
        by_cases hName : c.1 = name
        · simpa [hCall, hName, familiesOf] using ih
        · simpa [hCall, hName, familiesOf] using ih

end SentWhere

-- ---------------------------------------------------------------------------
-- Publishing by name
-- ---------------------------------------------------------------------------

/-- How many collectors of a name succeeded. -/
def ScrapeReport.successes (r : ScrapeReport) (name : String) : Nat :=
  r.outcomes.countP fun o => o.collector = name && o.isSuccess

namespace LatestMetrics

variable (m : LatestMetrics)

theorem mem_collect {family : Family} : family ∈ m.collect ↔
    ∃ name, family ∈ m.familiesFor name := by
  rw [collect, List.mem_flatten]
  constructor
  · rintro ⟨families, hFamilies, hMem⟩
    obtain ⟨name, hName⟩ := Keyed.mem_values_iff.mp hFamilies
    exact ⟨name, by simpa [familiesFor, hName] using hMem⟩
  · rintro ⟨name, hMem⟩
    cases hName : m.families.get? name with
    | none => simp [familiesFor, hName] at hMem
    | some families =>
      refine ⟨families, Keyed.mem_values_iff.mpr ⟨name, hName⟩, ?_⟩
      simpa [familiesFor, hName] using hMem

/-- **Publishing goes by name**: the first success of a name takes all that was received under it,
and a later one replaces that by nothing. -/
theorem familiesFor_publish_eq (name : String) (received : List SinkItem)
    (outcomes : List Outcome) :
    (m.publish received outcomes).familiesFor name =
      match outcomes.countP fun o => o.collector = name && o.isSuccess with
      | 0 => m.familiesFor name
      | 1 => familiesOf name received
      | _ => [] := by
  induction outcomes generalizing m received with
  | nil => rfl
  | cons o rest ih =>
    rw [publish]
    by_cases hSuccess : o.isSuccess = true
    · rw [if_pos hSuccess, ih]
      by_cases hName : o.collector = name
      · have hTaken : familiesOf name (received.filter (·.collector ≠ o.collector)) = [] := by
          rw [familiesOf, List.filter_filter, List.map_eq_nil_iff, List.filter_eq_nil_iff]
          simp [hName]
        rw [List.countP_cons_of_pos (by simp [hName, hSuccess]), hTaken, hName,
          familiesFor_replace_self]
        cases rest.countP fun o => o.collector = name && o.isSuccess with
        | zero => rfl
        | succ n => cases n <;> rfl
      · rw [List.countP_cons_of_neg (by simp [hName]), familiesOf_filter_of_ne (Ne.symm hName),
          familiesFor_replace_of_ne _ (Ne.symm hName)]
    · rw [if_neg hSuccess, ih, List.countP_cons_of_neg (by simp [hSuccess])]

end LatestMetrics

-- ---------------------------------------------------------------------------
-- Scrapes
-- ---------------------------------------------------------------------------

/-- Whether a scrape keeps the calls apart: under each name that a collector succeeded under, just
what the successful calls of that name sent is served. -/
def Scraped.ServesSuccesses (scraped : Scraped) (events : List RunEvent) : Prop :=
  ∀ name, 0 < scraped.report.successes name →
    scraped.orchestrator.latest.familiesFor name =
      sentWhere (fun i => scraped.report.outcomes[i]? = some ⟨name, none⟩) events

/-- Where names are distinct, at most one collector of a name succeeds. -/
theorem ScrapeReport.successes_le_one {r : ScrapeReport}
    (h : (r.outcomes.map Outcome.collector).Nodup) (name : String) : r.successes name ≤ 1 := by
  have hCount : (r.outcomes.map Outcome.collector).count name ≤ 1 :=
    List.nodup_iff_count_le_one.mp h name
  rw [List.count_eq_countP, List.countP_map] at hCount
  refine Nat.le_trans (List.countP_mono_left fun o _ hSuccess => ?_) hCount
  rw [Bool.and_eq_true, decide_eq_true_eq] at hSuccess
  simpa using hSuccess.1

theorem ScrapeReport.exists_success {r : ScrapeReport} {name : String} (h : 0 < r.successes name) :
    ∃ i : Nat, r.outcomes[i]? = some ⟨name, none⟩ := by
  obtain ⟨⟨collector, error⟩, ho, hSuccess⟩ := List.countP_pos_iff.mp h
  rw [Bool.and_eq_true, decide_eq_true_eq, Outcome.isSuccess, Option.isNone_iff_eq_none] at hSuccess
  obtain ⟨rfl, rfl⟩ := hSuccess
  exact List.mem_iff_getElem?.mp ho

namespace Orchestrator

variable {o : Orchestrator} {storage : Storage} {s : Snapshot} {clock : String → RunClock}
  {events : List RunEvent} {scraped : Scraped}

/-- **After a scrape**, what is served under a name goes by how many collectors of the name
succeeded. -/
theorem Scrapes.familiesFor_eq (h : o.Scrapes storage s clock events scraped) (name : String) :
    scraped.orchestrator.latest.familiesFor name =
      match scraped.report.successes name with
      | 0 => o.latest.familiesFor name
      | 1 => sentWhere (fun i => o.names[i]? = some name) events
      | _ => [] := by
  cases h with | @concluded first last events hStart hHistory hOver elapsed =>
  have hAccount := hHistory.accounted (accounted_of_start hStart)
  rw [Run.isOver, Bool.and_eq_true, List.isEmpty_iff] at hOver
  have hReceived : last.received = events.filterMap (sinkItem? (o.calls s clock)) := by
    rw [← hAccount.queue, hOver.2, List.append_nil]
  show (o.latest.publish last.received last.outcomes).familiesFor name = _
  rw [LatestMetrics.familiesFor_publish_eq, hReceived, familiesOf_eq_sentWhere, calls_names]
  rfl

/-- The outcome at a position is of the collector there. -/
theorem Scrapes.name_iff (h : o.Scrapes storage s clock events scraped) {i : Nat} {name : String} :
    o.names[i]? = some name ↔ ∃ error, scraped.report.outcomes[i]? =
      some ⟨name, error⟩ := by
  rw [← h.names_eq, List.getElem?_map, Option.map_eq_some_iff]
  constructor
  · rintro ⟨⟨_, error⟩, hOutcome, rfl⟩
    exact ⟨error, hOutcome⟩
  · rintro ⟨error, hOutcome⟩
    exact ⟨_, hOutcome, rfl⟩

/-- **When a scrape keeps the calls apart**: where one collector of a name succeeded, those of the
name that failed sent nothing, and where several did, these sent nothing. -/
theorem Scrapes.servesSuccesses_iff (h : o.Scrapes storage s clock events scraped) :
    scraped.ServesSuccesses events ↔
      ∀ name,
        (scraped.report.successes name = 1 → ∀ i error,
          scraped.report.outcomes[i]? = some ⟨name, some error⟩ → sentBy i events = []) ∧
        (1 < scraped.report.successes name → ∀ i,
          scraped.report.outcomes[i]? = some ⟨name, none⟩ → sentBy i events = []) := by
  refine forall_congr' fun name => ?_
  rw [h.familiesFor_eq name]
  rcases scraped.report.successes name with _ | _ | n
  · simp
  · have hOwn :
        ∀ i : Nat, decide (scraped.report.outcomes[i]? = some ⟨name, none⟩) = true →
        decide (o.names[i]? = some name) = true := by
      intro i hOutcome
      rw [decide_eq_true_eq] at hOutcome ⊢
      exact h.name_iff.mpr ⟨none, hOutcome⟩
    have hOthers : (∀ i : Nat, decide (o.names[i]? = some name) = true →
          decide (scraped.report.outcomes[i]? = some ⟨name, none⟩) = false →
            sentBy i events = []) ↔
        ∀ (i : Nat) error, scraped.report.outcomes[i]? = some ⟨name, some error⟩ →
          sentBy i events = [] := by
      simp only [decide_eq_true_eq, decide_eq_false_iff_not, h.name_iff]
      constructor
      · intro hOthers i error hFailed
        exact hOthers i ⟨_, hFailed⟩ (by simp [hFailed])
      · rintro hFailures i ⟨error, hOutcome⟩ hNot
        cases error with
        | none => exact absurd hOutcome hNot
        | some error => exact hFailures i error hOutcome
    show (0 < 1 → sentWhere _ events = _) ↔ _
    rw [sentWhere_eq_iff hOwn, hOthers]
    simp
  · show (0 < n + 2 → [] = sentWhere _ events) ↔ _
    rw [eq_comm, sentWhere_eq_nil_iff]
    simp

/-- Collectors of distinct names are kept apart. -/
theorem Scrapes.servesSuccesses_of_nodup (h : o.Scrapes storage s clock events scraped)
    (hNames : o.names.Nodup) :
    scraped.ServesSuccesses events := by
  rw [h.servesSuccesses_iff]
  intro name
  constructor
  · intro hOne i error hFailed
    obtain ⟨j, hSucceeded⟩ := ScrapeReport.exists_success (hOne ▸ Nat.one_pos)
    have hi : o.names[i]? = some name := h.name_iff.mpr ⟨_, hFailed⟩
    have hj : o.names[j]? = some name := h.name_iff.mpr ⟨_, hSucceeded⟩
    obtain rfl : i = j :=
      (List.getElem?_inj (List.getElem?_eq_some_iff.mp hi).1 hNames).mp (hi.trans hj.symm)
    simp [hFailed] at hSucceeded
  · intro hMore
    exact absurd (ScrapeReport.successes_le_one (h.names_eq ▸ hNames) name) (Nat.not_le.mpr hMore)

end Orchestrator

/-- **What is served goes by name.** Whatever names the collectors have and whatever was published
before, after a scrape whose steps come in any order:

* what is served is what is served under the names;
* under a name that no collector succeeded under that is what it was before; if just one did it is
  all that the collectors of this name sent, those that failed included; and if several did it is
  nothing;
* so the scrape serves what its successful calls sent, and nothing that others sent, just if, where
  one collector of a name succeeded, those of the name that failed sent nothing, and where several
  did, these sent nothing;
* that is so if the names are distinct. -/
theorem served_by_name {o : Orchestrator} {storage : Storage} {s : Snapshot}
    {clock : String → RunClock} {events : List RunEvent} {scraped : Scraped}
    (h : o.Scrapes storage s clock events scraped) :
    (∀ family, family ∈ scraped.orchestrator.latest.collect ↔
      ∃ name, family ∈ scraped.orchestrator.latest.familiesFor name) ∧
    (∀ name, scraped.orchestrator.latest.familiesFor name =
      match scraped.report.successes name with
      | 0 => o.latest.familiesFor name
      | 1 => sentWhere (fun i => o.names[i]? = some name) events
      | _ => []) ∧
    (scraped.ServesSuccesses events ↔
      ∀ name,
        (scraped.report.successes name = 1 → ∀ i error,
          scraped.report.outcomes[i]? = some ⟨name, some error⟩ → sentBy i events = []) ∧
        (1 < scraped.report.successes name → ∀ i,
          scraped.report.outcomes[i]? = some ⟨name, none⟩ → sentBy i events = [])) ∧
    (o.names.Nodup → scraped.ServesSuccesses events) :=
  ⟨fun _ => scraped.orchestrator.latest.mem_collect, h.familiesFor_eq, h.servesSuccesses_iff,
    h.servesSuccesses_of_nodup⟩

private def familyNamed (name : String) : Family := ⟨name, "What happened.", .gauge, []⟩

/-- A collector that sends one family. -/
private def senderOf (name family : String) (error : Option CollectorError) : Collector :=
  ⟨name, [], fun _ _ _ => ⟨[.send (familyNamed family)], .returns error⟩⟩

/-- Two collectors of one name succeed; of two others one fails. -/
private def namesakes : List Collector :=
  [senderOf "twin" "a" none, senderOf "twin" "b" none, senderOf "pair" "c" (some .sinkClosed),
    senderOf "pair" "d" none]

private def household : Orchestrator := .make namesakes (.ofSeconds 10) 1

private def householdRun : Run :=
  .start (household.calls [] fun _ => default) household.limit ⟨1, [], true⟩ ⟨.empty, []⟩

/-- Each collector sends and is over before the next. -/
private def oneByOne : List Move :=
  [0, 1, 2, 3].flatMap fun i => [.proceed i, .receive, .proceed i]

private def householdOver : List RunEvent × Run :=
  (householdRun.replay? oneByOne).getD ([], householdRun)

private theorem household_scrapes :
    household.Scrapes ⟨.empty, []⟩ [] (fun _ => default) householdOver.1
      (household.conclude householdOver.2 ⟨1⟩) := by
  have hMoves : householdRun.replay? oneByOne = some householdOver := by decide +kernel
  have hOver : householdOver.2.isOver = true := by decide +kernel
  exact .concluded rfl (.of_replay? hMoves) hOver ⟨1⟩

private theorem household_events :
    householdOver.1 =
      [.sent 0 (familyNamed "a"), .ended 0 none, .sent 1 (familyNamed "b"), .ended 1 none,
        .sent 2 (familyNamed "c"), .ended 2 (some .sinkClosed), .sent 3 (familyNamed "d"),
        .ended 3 none] := by
  decide +kernel

/-- Two twins that succeed are not served, and of a pair also the one that failed is. -/
theorem twins_are_not_served :
    ∃ events scraped, household.Scrapes ⟨.empty, []⟩ [] (fun _ => default) events scraped ∧
      scraped.orchestrator.latest.familiesFor "twin" = [] ∧
      scraped.orchestrator.latest.familiesFor "pair" = [familyNamed "c", familyNamed "d"] := by
  have hServed := (served_by_name household_scrapes).2.1
  refine ⟨_, _, household_scrapes, ?_, ?_⟩
  · exact (hServed "twin").trans (by decide +kernel)
  · exact (hServed "pair").trans (by decide +kernel)

/-- **Namesakes are mixed up**: what a successful call sent need not be served, and what a failed
call sent can be, even if no other call sent it and it was not served before. -/
theorem namesakes_are_mixed_up :
    (¬ ∀ (o : Orchestrator) (storage : Storage) (s : Snapshot) (clock : String → RunClock)
        (events : List RunEvent) (scraped : Scraped), o.Scrapes storage s clock events scraped →
      ∀ (i : Nat) (name : String), scraped.report.outcomes[i]? = some ⟨name, none⟩ →
        ∀ family ∈ sentBy i events, family ∈ scraped.orchestrator.latest.collect) ∧
    (¬ ∀ (o : Orchestrator) (storage : Storage) (s : Snapshot) (clock : String → RunClock)
        (events : List RunEvent) (scraped : Scraped), o.Scrapes storage s clock events scraped →
      ∀ (i : Nat) (name : String) (error : CollectorError),
        scraped.report.outcomes[i]? = some ⟨name, some error⟩ →
        ∀ family ∈ sentBy i events, (∀ j, j ≠ i → family ∉ sentBy j events) →
          family ∉ o.latest.collect → family ∉ scraped.orchestrator.latest.collect) := by
  constructor
  · intro h
    have hServed := h _ _ _ _ _ _ household_scrapes 0 "twin" (by decide +kernel) (familyNamed "a")
      (by decide +kernel)
    exact absurd hServed (by decide +kernel)
  · intro h
    have hOnly : ∀ j, j ≠ 2 → familyNamed "c" ∉ sentBy j householdOver.1 := by
      intro j hj hMem
      rw [mem_sentBy, household_events] at hMem
      exact hj (by simpa [familyNamed] using hMem)
    have hServed := h _ _ _ _ _ _ household_scrapes 2 "pair" .sinkClosed (by decide +kernel)
      (familyNamed "c")
      (by decide +kernel) hOnly (by decide +kernel)
    exact hServed (by decide +kernel)

end TopologyExporter
