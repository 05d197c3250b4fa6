import TopologyExporter.Proofs.Collector.Described
import TopologyExporter.Proofs.Number.Exact

/-!
# The collector of deployments — no memory

The gauges of a collector stay from one call to the next, whether or not what they held was sent.
Since the numbers of instances are dropped before they are set, nothing that is sent tells of an
earlier call.

## Results

* `Outlet.sendAll_append`                     — sending two lists is sending them one after the
  other.
* `DeploymentsCollector.collect_sends`        — with any gauges a call sends the same.
* `DeploymentsCollector.collect_perform`      — which is what the call does that has none.
* `DeploymentsCollector.instanceFamily_counts` — the numbers of instances, deployment by
  deployment.
* `DeploymentsCollector.gaugesAfter_concat`    — some calls leave behind what the last of them
  set.
* `DeploymentsCollector.counts_have_no_memory` — what is sent after any earlier calls.
-/

namespace TopologyExporter

-- ---------------------------------------------------------------------------
-- Sending
-- ---------------------------------------------------------------------------

namespace Outlet

variable {o : Outlet} {families rest : List Family}

/-- **Sending two lists** is sending the second if the first was taken. -/
theorem sendAll_append (o : Outlet) (families rest : List Family) :
    o.sendAll (families ++ rest) =
      match o.sendAll families with
      | (none, o) => o.sendAll rest
      | refused => refused := by
  induction families generalizing o with
  | nil => rfl
  | cons f families ih =>
    obtain ⟨taken, room⟩ := o
    match room with
    | none => exact ih ⟨taken ++ [f], none⟩
    | some 0 => rfl
    | some (room + 1) => exact ih ⟨taken ++ [f], some room⟩

/-- Where someone receives, all is taken. -/
theorem sendAll_drained (families : List Family) :
    drained.sendAll families = (none, ⟨families, none⟩) := by
  have hFrom (taken : List Family) : sendAll ⟨taken, none⟩ families =
      (none, ⟨taken ++ families, none⟩) := by
    induction families generalizing taken with
    | nil => rw [sendAll, List.append_nil]
    | cons f families ih =>
      show sendAll ⟨taken ++ [f], none⟩ families = _
      rw [ih, List.append_assoc, List.singleton_append]
  exact hFrom []

end Outlet

variable {c : DeploymentsCollector} {s : Snapshot} {clock : RunClock}

namespace DeploymentsCollector

/-- The families that a call sends. -/
def sends (c : DeploymentsCollector) (s : Snapshot) (clock : RunClock) : List Family :=
  c.instanceFamily s :: c.gauges.families clock

/-- What was set before does not show once the gauges have been set anew. -/
theorem refill_family (v : GaugeVector) (s : Snapshot) :
    (refill v s).family c.instances = c.instanceFamily s := by
  have hApart : Function.Injective fun name : String => [name] :=
    fun _ _ h => List.head_eq_of_cons_eq h
  have hFold (v : GaugeVector) :
      (s.foldl (fun v d => v.set [d.name] (.ofNat d.instances.length)) v).values =
      s.foldl (fun m d => m.put [d.name] (.ofNat d.instances.length)) v.values := by
    induction s generalizing v with
    | nil => rfl
    | cons d rest ih => exact ih _
  have hValues : (refill v s).values =
      .ofList ((s.map fun d => (d.name, d.instances.length)).map
        fun e => ([e.1], Binary64.ofNat e.2)) := by
    rw [refill, hFold, List.map_map, Keyed.ofList, List.foldl_map]
    rfl
  rw [GaugeVector.family, hValues, Keyed.entries_ofList_map hApart]
  rfl

/-- **A call sends the same with any gauges**, as far as it is taken, and leaves the numbers of
instances of its snapshot behind. -/
theorem collect_sends (c : DeploymentsCollector) (g : Gauges) (s : Snapshot) (clock : RunClock)
    (o : Outlet) :
    (c.collect g s clock o).1 = (o.sendAll (c.sends s clock)).1 ∧
    (c.collect g s clock o).2.1.instances = refill g.instances s ∧
    (c.collect g s clock o).2.2 = (o.sendAll (c.sends s clock)).2 := by
  have hParts : c.sends s clock =
      [c.instanceFamily s] ++ ([c.gauges.timestamp.single .gauge (.ofNat clock.now)] ++
      [c.gauges.duration.single .gauge clock.elapsed.seconds]) := rfl
  rw [hParts, Outlet.sendAll_append, collect]
  dsimp only
  rw [refill_family]
  match o.sendAll [c.instanceFamily s] with
  | (some e, o) => exact ⟨rfl, rfl, rfl⟩
  | (none, o) =>
    dsimp only
    rw [Outlet.sendAll_append]
    match o.sendAll [c.gauges.timestamp.single .gauge (.ofNat clock.now)] with
    | (some e, o) => exact ⟨rfl, rfl, rfl⟩
    | (none, o) => exact ⟨rfl, rfl, rfl⟩

/-- What sending some families comes to where all are received. -/
theorem performSteps_sends (families : List Family) (ending : Ending) (tree : FileTree) :
    performSteps true ending tree (families.map .send) = ⟨ending, families, tree⟩ := by
  induction families with
  | nil => rfl
  | cons f rest ih => rw [List.map_cons, performSteps, if_pos rfl, ih]

/-- **It does what a call does that has no gauges**, with a sink that is open and with one that is
closed. -/
theorem collect_perform (g : Gauges) (isOpen : Bool) (tree : FileTree) :
    let o : Outlet := if isOpen then .drained else .closing 0
    let p := (c.call s clock).perform isOpen tree
    p.ending = .returns (c.collect g s clock o).1 ∧
      p.sent = (c.collect g s clock o).2.2.taken := by
  intro o p
  obtain ⟨hError, -, hOutlet⟩ := collect_sends c g s clock o
  rw [hError, hOutlet]
  cases isOpen with
  | false => exact ⟨rfl, rfl⟩
  | true =>
    have hPerform : p = ⟨.returns none, c.sends s clock, tree⟩ := performSteps_sends ..
    have hSent : o.sendAll (c.sends s clock) = (none, ⟨c.sends s clock, none⟩) :=
      Outlet.sendAll_drained _
    rw [hPerform, hSent]
    exact ⟨rfl, rfl⟩

end DeploymentsCollector

-- ---------------------------------------------------------------------------
-- Numbers of instances
-- ---------------------------------------------------------------------------

/-- Whether a deployment is the last of its name. -/
def Snapshot.IsLast (s : Snapshot) (d : Deployment) : Prop :=
  ∃ before after, s = before ++ d :: after ∧ ∀ d' ∈ after, d'.name ≠ d.name

/-- Whether a family shows the numbers of instances of a snapshot: it has one sample for each name
of a deployment, labelled with the director and this name, whose value is the number of instances of
the last deployment of this name. Where no name is repeated these numbers add up to that of all
instances. -/
structure Family.Counts (f : Family) (identity : DirectorIdentity) (s : Snapshot) : Prop where
  samples : ∃ names : List String, names.Nodup ∧
    (∀ name, name ∈ names ↔ ∃ d ∈ s, d.name = name) ∧
    List.Forall₂ (fun name (sample : Sample) =>
      sample.labels.entries.Perm [("environment", identity.environment),
        ("bosh_name", identity.name), ("bosh_uuid", identity.uuid), ("bosh_deployment", name)] ∧
      ∃ d, s.IsLast d ∧ d.name = name ∧ sample.value.Shows d.instances.length) names f.samples
  total   : (s.map Deployment.name).Nodup → ∃ numbers : List Nat,
    List.Forall₂ (fun sample n => sample.value.Shows n) f.samples numbers ∧
    numbers.sum = (s.map fun d => d.instances.length).sum

namespace DeploymentsCollector

/-- **The number that is counted for a name** is that of the last deployment of this name. -/
theorem get?_counts_eq_some {name : String} {n : Nat} (h : (counts s).get? name = some n) :
    ∃ d, s.IsLast d ∧ d.name = name ∧ d.instances.length = n := by
  rw [counts, Keyed.get?_ofList, ← List.map_reverse, List.find?_map] at h
  obtain ⟨e, hFind, rfl⟩ := Option.map_eq_some_iff.mp h
  obtain ⟨d, hLast, rfl⟩ := Option.map_eq_some_iff.mp hFind
  obtain ⟨hName, after, before, hSplit, hOthers⟩ := List.find?_eq_some_iff_append.mp hLast
  have hName : d.name = name := of_decide_eq_true hName
  refine ⟨d, ⟨before.reverse, after.reverse, ?_, fun d' hd' => ?_⟩, hName, rfl⟩
  · rw [← List.reverse_reverse s, hSplit]
    simp
  · have hOther := hOthers d' (List.mem_reverse.mp hd')
    simpa [hName] using hOther

/-- The names that are counted are those of deployments. -/
theorem mem_keys_counts {name : String} : name ∈ (counts s).keys ↔
    ∃ d ∈ s, d.name = name := by
  rw [Keyed.mem_keys_iff, counts, Keyed.get?_ofList, Option.isSome_map, List.find?_isSome]
  simp

theorem instanceFamily_samples : (c.instanceFamily s).samples = (counts s).entries.map fun e =>
    ⟨c.instances.labelsFor [e.1], .ofNat e.2⟩ := by
  rw [instanceFamily, Descriptor.family, List.map_map]
  rfl

/-- **A family of numbers of instances shows those of its snapshot.** -/
theorem instanceFamily_counts (space : String) (identity : DirectorIdentity) (s : Snapshot) :
    ((wanted space identity).instanceFamily s).Counts identity s where
  samples := by
    refine ⟨(counts s).keys, (counts s).distinct, fun name => mem_keys_counts, ?_⟩
    rw [instanceFamily_samples, Keyed.keys, List.forall₂_map_left_iff,
      List.forall₂_map_right_iff, List.forall₂_same]
    rintro ⟨name, n⟩ hEntry
    obtain ⟨d, hLast, hName, rfl⟩ :=
      get?_counts_eq_some ((Keyed.get?_eq_some_iff _ _ _).mpr hEntry)
    refine ⟨?_, d, hLast, hName, Binary64.ofNat_shows _⟩
    have hApart : (wanted space identity).instances.LabelsApart :=
      identity.labelsApart _ _ (by decide)
    have hLabels : ((wanted space identity).instances.labelsFor [name]).entries.Perm
        (identity.constLabels.entries ++ [("bosh_deployment", name)]) :=
          Descriptor.labelsFor_perm hApart rfl
    exact hLabels.trans (identity.constLabels_perm.append_right _)
  total := by
    intro hNames
    refine ⟨(counts s).values, ?_, ?_⟩
    · rw [instanceFamily_samples, Keyed.values, List.forall₂_map_left_iff,
        List.forall₂_map_right_iff, List.forall₂_same]
      exact fun e _ => Binary64.ofNat_shows e.2
    · have hDistinct : ((s.map fun d => (d.name, d.instances.length)).map Prod.fst).Nodup := by
        rwa [List.map_map]
      rw [Keyed.values, counts, Keyed.entries_ofList hDistinct, List.map_map]
      rfl

-- ---------------------------------------------------------------------------
-- Histories
-- ---------------------------------------------------------------------------

/-- An earlier call of a collector, with a sink that received all or only so much. -/
structure EarlierCall where
  snapshot : Snapshot
  clock    : RunClock
  outlet   : Outlet

/-- The gauges of a collector after some calls. -/
def gaugesAfter (c : DeploymentsCollector) (calls : List EarlierCall) : Gauges :=
  calls.foldl (fun g call => (c.collect g call.snapshot call.clock call.outlet).2.1) .fresh

/-- Some calls leave behind the numbers of instances of the last of them, even if it failed. -/
theorem gaugesAfter_concat (calls : List EarlierCall) (last : EarlierCall) :
    (c.gaugesAfter (calls ++ [last])).instances = refill .empty last.snapshot := by
  rw [gaugesAfter, List.foldl_append]
  exact (collect_sends ..).2.1

/-- What a call sends fits what the collector describes. -/
theorem wanted_sends_fit (space : String) (identity : DirectorIdentity) (s : Snapshot)
    (clock : RunClock) :
    List.Forall₂ Family.FitsTo ((wanted space identity).sends s clock)
      (wanted space identity).descriptors := by
  have hDescribed : List.Forall₂ Family.FitsTo _ (wanted space identity).descriptors :=
    wanted_sendsDescribed 0 s clock
  have hOutput : ((wanted space identity).call s clock).output =
      (wanted space identity).sends s clock :=
    familiesOfSteps_sends _
  exact hOutput ▸ hDescribed

/-- **Numbers of instances have no memory.** After any earlier calls, with any snapshots and whether
they sent everything, something or nothing, a call whose families are received succeeds and sends
three: the numbers of instances of its own snapshot, one sample for each name of a deployment, the
time of the call, and how long it took. -/
theorem counts_have_no_memory {space : String} {identity : DirectorIdentity}
    (hMake : make space identity = .ok c) (earlier : List EarlierCall) (s : Snapshot)
    (clock : RunClock) :
    ∃ g counts timestamp duration,
      c.collect (c.gaugesAfter earlier) s clock .drained =
        (none, g, ⟨[counts, timestamp, duration], none⟩) ∧
      [counts, timestamp, duration].map Family.name = ["deployment_instances",
        "last_deployments_scrape_timestamp", "last_deployments_scrape_duration_seconds"].map
          (qualifiedName space) ∧
      counts.Counts identity s ∧
      timestamp = c.gauges.timestamp.single .gauge (.ofNat clock.now) ∧
      duration = c.gauges.duration.single .gauge clock.elapsed.seconds ∧
      List.Forall₂ Family.FitsTo [counts, timestamp, duration] c.descriptors := by
  obtain ⟨rfl, -⟩ := make_eq_ok hMake
  obtain ⟨hError, -, hOutlet⟩ :=
    collect_sends (wanted space identity) (gaugesAfter _ earlier) s clock .drained
  rw [Outlet.sendAll_drained] at hError hOutlet
  have hCall : (wanted space identity).collect (gaugesAfter _ earlier) s clock .drained =
      (none, _, ⟨(wanted space identity).sends s clock, none⟩) :=
      Prod.ext hError (Prod.ext rfl hOutlet)
  exact ⟨_, _, _, _, hCall, rfl, instanceFamily_counts space identity s, rfl, rfl,
    wanted_sends_fit space identity s clock⟩

private def labIdentity : DirectorIdentity := ⟨"lab", "director", "0d1"⟩

private def labCollector : DeploymentsCollector := .wanted "bosh" labIdentity

/-- Two earlier calls: the first sent all, the second nothing. -/
private def labCalls : List EarlierCall :=
  [⟨[⟨"old", [default]⟩, ⟨"cf", [default]⟩], default, .drained⟩,
    ⟨[⟨"lost", [default]⟩], default, .closing 0⟩]

/-- A deployment that is there twice beside one without instances. -/
private def labSnapshot : Snapshot :=
  [⟨"cf", [default]⟩, ⟨"redis", []⟩, ⟨"cf", [default, default]⟩]

/-- After these calls there are numbers for two names, and none of a deployment that is gone. -/
theorem vanished_deployments_leave_no_trace :
    make "bosh" labIdentity = .ok labCollector ∧
    ((labCollector.gaugesAfter labCalls).instances.values.keys = [["lost"]]) ∧
    ∃ g counts timestamp duration,
      labCollector.collect (labCollector.gaugesAfter labCalls) labSnapshot default .drained =
        (none, g, ⟨[counts, timestamp, duration], none⟩) ∧
      counts.samples.map (fun sample => (sample.labels.entries, sample.value)) =
        [([("bosh_deployment", "cf"), ("bosh_name", "director"), ("bosh_uuid", "0d1"),
          ("environment", "lab")], 2),
          ([("bosh_deployment", "redis"), ("bosh_name", "director"), ("bosh_uuid", "0d1"),
            ("environment", "lab")], 0)]
      := by
  have hMake : make "bosh" labIdentity = .ok labCollector := by rfl
  obtain ⟨g, counts, timestamp, duration, hCall, -⟩ :=
    counts_have_no_memory hMake labCalls labSnapshot default
  refine ⟨hMake, by decide +kernel, g, counts, timestamp, duration, hCall, ?_⟩
  have hTaken :
      (labCollector.collect (labCollector.gaugesAfter labCalls) labSnapshot default
        .drained).2.2.taken.head? =
      some (labCollector.instanceFamily labSnapshot) := by decide +kernel
  rw [hCall] at hTaken
  obtain rfl : counts = labCollector.instanceFamily labSnapshot := Option.some.inj hTaken
  decide +kernel

end DeploymentsCollector

end TopologyExporter
