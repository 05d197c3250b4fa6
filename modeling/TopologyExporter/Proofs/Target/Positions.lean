import Mathlib.Data.List.Forall2
import Mathlib.Data.Prod.Lex
import TopologyExporter.Proofs.Text.Labels
import TopologyExporter.Target.Group

/-!
# Target groups — one for each admitted process

A process of a snapshot is known by its position: that of its deployment, of its instance within
that, and its own within that. The target groups go through the positions of the admitted processes
in their order, whatever repeats there are among deployments, instances and processes.

## Results

* `Enumerates.list`, `filter`, `map`, `flatMap` — lists built from lists go through the places of
  both.
* `targetGroups_eq`                             — the groups of a snapshot, deployment by
  deployment.
* `TargetGroup.ofProcess_isOf`                  — the group of a process has its addresses and
  labels.
* `targets_are_admitted_processes`              — which groups there are, in which order.
-/

namespace TopologyExporter

-- ---------------------------------------------------------------------------
-- Going through places
-- ---------------------------------------------------------------------------

/-- Whether a list goes through all places at which there is something, in the order of the places;
`item?` says what is at a place. -/
def Enumerates {P α : Type} (before : P → P → Prop) (item? : P → Option α)
    (items : List α) : Prop :=
  ∃ places : List P, places.Pairwise before ∧ (∀ p, p ∈ places ↔ (item? p).isSome) ∧
    places.map item? = items.map some

namespace Enumerates

variable {P Q α β : Type} {before : P → P → Prop} {before' : Q → Q → Prop}
  {item? : P → Option α}
  {items : List α}

/-- A list goes through its own positions. -/
theorem list (items : List α) : Enumerates (· < ·) (fun n : Nat => items[n]?) items := by
  refine ⟨List.range items.length, List.pairwise_lt_range, fun n => ?_, ?_⟩
  · simp
  · apply List.ext_getElem
    · simp
    · intro n hn hn'
      have hBound : n < items.length := by simpa using hn'
      simp [hBound]

theorem map (h : Enumerates before item? items) (f : α → β) :
    Enumerates before (fun p => (item? p).map f) (items.map f) := by
  obtain ⟨places, hOrder, hPlaces, hItems⟩ := h
  refine ⟨places, hOrder, fun p => by rw [hPlaces, Option.isSome_map], ?_⟩
  calc places.map (fun p => (item? p).map f) = (places.map item?).map (Option.map f) := by
        rw [List.map_map]
        rfl
    _ = (items.map f).map some := by
        rw [hItems, List.map_map, List.map_map]
        rfl

theorem filter (h : Enumerates before item? items) (test : α → Bool) :
    Enumerates before (fun p => (item? p).filter test) (items.filter test) := by
  obtain ⟨places, hOrder, hPlaces, hItems⟩ := h
  refine ⟨places.filter fun p => (item? p).any test, hOrder.filter _, fun p => ?_, ?_⟩
  · rw [List.mem_filter, hPlaces]
    cases hItem : item? p with
    | none => simp [hItem]
    | some a => cases hTest : test a <;> simp [hItem, Option.filter, hTest]
  · have hKept : ∀ p ∈ places.filter fun p => (item? p).any test,
        (item? p).filter test = item? p := by
      intro p hp
      have hTest := (List.mem_filter.mp hp).2
      cases hItem : item? p with
      | none => rfl
      | some a =>
        rw [hItem] at hTest
        exact Option.filter_some_pos hTest
    calc (places.filter fun p => (item? p).any test).map (fun p => (item? p).filter test)
        = (places.filter fun p => (item? p).any test).map item? := List.map_congr_left hKept
      _ = (places.map item?).filter (·.any test) := by
          rw [List.filter_map]
          rfl
      _ = (items.filter test).map some := by
          rw [hItems, List.filter_map]
          rfl

/-- The places of what is put together for the item at a place. -/
def below (within : α → List Q) (item? : P → Option α) (p : P) : List (P × Q) :=
  (item? p).toList.flatMap fun a => (within a).map (Prod.mk p)

theorem mem_below {within : α → List Q} {p : P} {x : P × Q} :
    x ∈ below within item? p ↔ x.1 = p ∧ ∃ a, item? x.1 = some a ∧ x.2 ∈ within a := by
  obtain ⟨p', q⟩ := x
  constructor
  · intro hMem
    obtain ⟨a, hItem, hMem⟩ := List.mem_flatMap.mp hMem
    obtain ⟨_, hq, hPair⟩ := List.mem_map.mp hMem
    obtain ⟨rfl, rfl⟩ := Prod.mk.inj hPair
    exact ⟨rfl, a, Option.mem_toList.mp hItem, hq⟩
  · rintro ⟨rfl, a, hItem, hq⟩
    exact List.mem_flatMap.mpr ⟨a, Option.mem_toList.mpr hItem, List.mem_map_of_mem hq⟩

theorem pairwise_below {within : α → List Q} (h : ∀ a, (within a).Pairwise before') (p : P) :
    (below within item? p).Pairwise (Prod.Lex before before') := by
  cases hItem : item? p with
  | none => simp [below, hItem]
  | some a =>
    have hHere : ((within a).map (Prod.mk p)).Pairwise (Prod.Lex before before') :=
      (h a).map (Prod.mk p) fun _ _ hq => .right p hq
    simpa [below, hItem] using hHere

/-- What is at these places depends on the item only. -/
theorem map_below (within : α → List Q) (inner? : α → Q → Option β) (p : P) :
    (below within item? p).map (fun x => (item? x.1).bind fun a => inner? a x.2) =
      (item? p).toList.flatMap fun a => (within a).map (inner? a) := by
  cases hItem : item? p with
  | none => simp [below, hItem]
  | some a => simp [below, hItem, Function.comp_def]

/-- Lists put together for the items of a list: their places are pairs, and that of the item comes
first in the order. -/
theorem flatMap (h : Enumerates before item? items) {inner? : α → Q → Option β}
    {inner : α → List β} (hInner : ∀ a, Enumerates before' (inner? a) (inner a)) :
    Enumerates (Prod.Lex before before') (fun p => (item? p.1).bind fun a => inner? a p.2)
      (items.flatMap inner) := by
  obtain ⟨places, hOrder, hPlaces, hItems⟩ := h
  choose within hWithin hWithinPlaces hWithinItems using hInner
  refine ⟨places.flatMap (below within item?), ?_, fun x => ?_, ?_⟩
  · rw [List.pairwise_flatMap]
    refine ⟨fun p _ => pairwise_below hWithin p, hOrder.imp fun {p p'} hp x hx y hy => ?_⟩
    rw [Prod.lex_def, (mem_below.mp hx).1, (mem_below.mp hy).1]
    exact .inl hp
  · rw [List.mem_flatMap, Option.isSome_bind, Option.any_eq_true]
    constructor
    · rintro ⟨_, -, hMem⟩
      obtain ⟨-, a, hItem, hq⟩ := mem_below.mp hMem
      exact ⟨a, hItem, (hWithinPlaces a _).mp hq⟩
    · rintro ⟨a, hItem, hSome⟩
      refine ⟨x.1, (hPlaces x.1).mpr ?_,
        mem_below.mpr ⟨rfl, a, hItem, (hWithinPlaces a _).mpr hSome⟩⟩
      rw [hItem]
      rfl
  · calc (places.flatMap (below within item?)).map
          (fun x => (item? x.1).bind fun a => inner? a x.2)
        = places.flatMap
            (fun p => (item? p).toList.flatMap fun a => (within a).map (inner? a)) := by
          rw [List.map_flatMap]
          simp only [map_below]
      _ = (places.map item?).flatMap
        (fun a? => a?.toList.flatMap fun a => (within a).map (inner? a)) := by
          rw [List.flatMap_map]
      _ = items.flatMap (fun a => (within a).map (inner? a)) := by
          rw [hItems, List.flatMap_map]
          simp
      _ = (items.flatMap inner).map some := by
          rw [List.map_flatMap]
          simp only [hWithinItems]

end Enumerates

-- ---------------------------------------------------------------------------
-- The groups of a snapshot
-- ---------------------------------------------------------------------------

/-- The positions of a deployment, of an instance in it, and of a process on that. -/
abbrev ProcessPosition := Nat × Nat × Nat

/-- The order of positions: by deployment, then by instance, then by process. -/
def ProcessPosition.Before : ProcessPosition → ProcessPosition → Prop :=
  Prod.Lex (· < ·) (Prod.Lex (· < ·) (· < ·))

/-- The process at a position, with its instance. -/
def processAt? (s : Snapshot) (p : ProcessPosition) : Option (Instance × Workload) := do
  let deployment ← s[p.1]?
  let i ← deployment.instances[p.2.1]?
  let process ← i.processes[p.2.2]?
  pure (i, process)

/-- Whether a process on an instance is a target. -/
def TargetFilter.Admits (f : TargetFilter) (i : Instance) (process : Workload) : Prop :=
  i.ips ≠ [] ∧ f.admitsZone i.zone = true ∧ f.admitsProcess process.name = true

/-- Whether a group is that of a process: it has all addresses of the instance, in their order, and
three labels. -/
def TargetGroup.IsOf (g : TargetGroup) (i : Instance) (process : Workload) : Prop :=
  g.targets = i.ips ∧
  g.labels.entries =
    [(instanceIndexLabel, i.index), (instanceNameLabel, i.name), (processNameLabel, process.name)]

/-- **The group of a process has its addresses and labels.** -/
theorem TargetGroup.ofProcess_isOf (i : Instance) (process : Workload) :
    (ofProcess i process).IsOf i process := by
  refine ⟨rfl, Labels.entries_ofList ?_⟩
  have hIndex : instanceIndexLabel < instanceNameLabel := by decide
  have hName : instanceNameLabel < processNameLabel := by decide
  simp only [List.pairwise_cons, List.mem_cons, forall_eq_or_imp, List.not_mem_nil,
    false_imp_iff, implies_true, List.Pairwise.nil, hIndex, hName,
    String.lt_trans hIndex hName, and_self]

section Groups

variable (f : TargetFilter) (s : Snapshot)

/-- The groups of a deployment. -/
def TargetGroup.ofDeployment (d : Deployment) : List TargetGroup :=
  (d.instances.filter f.admitsInstance).flatMap (ofInstance f)

/-- The groups of a snapshot are those of its deployments, one after the other. -/
theorem targetGroups_eq : targetGroups f s = s.flatMap (TargetGroup.ofDeployment f) := by
  rw [targetGroups, List.filter_flatMap, List.flatMap_assoc]
  rfl

/-- The group of the process at a position, if it is admitted. -/
def groupAt? (p : ProcessPosition) : Option TargetGroup :=
  s[p.1]?.bind fun d =>
    (d.instances[p.2.1]?.filter f.admitsInstance).bind fun i =>
      (i.processes[p.2.2]?.filter fun process => f.admitsProcess process.name).map
        (TargetGroup.ofProcess i)

/-- **The groups go through the positions of the admitted processes.** -/
theorem targetGroups_enumerates :
    Enumerates ProcessPosition.Before (groupAt? f s) (targetGroups f s) := by
  have hInstance (i : Instance) : Enumerates (· < ·)
      (fun n : Nat => (i.processes[n]?.filter fun process => f.admitsProcess process.name).map
        (TargetGroup.ofProcess i)) (TargetGroup.ofInstance f i) :=
    ((Enumerates.list i.processes).filter _).map _
  have hDeployment (d : Deployment) :=
    ((Enumerates.list d.instances).filter f.admitsInstance).flatMap hInstance
  rw [targetGroups_eq]
  exact (Enumerates.list s).flatMap hDeployment

/-- There is a group at the positions of the admitted processes. -/
theorem groupAt?_eq_some_iff {p : ProcessPosition} {g : TargetGroup} :
    groupAt? f s p = some g ↔
      ∃ i process, processAt? s p = some (i, process) ∧ f.Admits i process ∧
        TargetGroup.ofProcess i process = g := by
  have hAdmits (i : Instance) : f.admitsInstance i = true ↔
      i.ips ≠ [] ∧ f.admitsZone i.zone = true := by
    simp [TargetFilter.admitsInstance]
  simp only [groupAt?, processAt?, Option.bind_eq_bind, Option.bind_eq_some_iff,
    Option.map_eq_some_iff, Option.filter_eq_some_iff, hAdmits, Option.pure_def, Option.some.injEq,
    Prod.mk.injEq, TargetFilter.Admits]
  constructor
  · rintro ⟨d, hDeployment, i, ⟨hInstance, hIps, hZone⟩, process,
      ⟨hProcess, hName⟩, hGroup⟩
    exact ⟨i, process, ⟨d, hDeployment, i, hInstance, process, hProcess, rfl, rfl⟩,
      ⟨hIps, hZone, hName⟩, hGroup⟩
  · rintro ⟨i, process, ⟨d, hDeployment, _, hInstance, _, hProcess, rfl, rfl⟩,
      ⟨hIps, hZone, hName⟩, hGroup⟩
    exact ⟨d, hDeployment, _, ⟨hInstance, hIps, hZone⟩, _, ⟨hProcess, hName⟩, hGroup⟩

end Groups

/-- **Target groups are the admitted processes**, each once and in order. For every filter and
snapshot:

* the groups are, one for one, those of some positions in increasing order, and these are the
  positions of all processes whose instance has an address and an admitted zone and whose name is
  admitted;
* no group is without addresses;
* the groups of two snapshots put together are those of the one and then those of the other. -/
theorem targets_are_admitted_processes (f : TargetFilter) (s : Snapshot) :
    (∃ positions : List ProcessPosition,
      positions.Pairwise ProcessPosition.Before ∧
      (∀ p, p ∈ positions ↔ ∃ i process, processAt? s p = some (i, process) ∧
        f.Admits i process) ∧
      List.Forall₂ (fun p g => ∃ i process, processAt? s p = some (i, process) ∧
        g.IsOf i process)
        positions (targetGroups f s)) ∧
    (∀ g ∈ targetGroups f s, g.targets ≠ []) ∧
    ∀ later : Snapshot, targetGroups f (s ++ later) =
      targetGroups f s ++ targetGroups f later := by
  obtain ⟨positions, hOrder, hPositions, hGroups⟩ := targetGroups_enumerates f s
  have hAdmitted :
      List.Forall₂ (fun p g => groupAt? f s p = some g) positions (targetGroups f s) := by
    have hSame :
        List.Forall₂ (· = ·) (positions.map (groupAt? f s)) ((targetGroups f s).map some) := by
      rw [hGroups]
      exact List.forall₂_refl _
    rwa [List.forall₂_map_left_iff, List.forall₂_map_right_iff] at hSame
  refine ⟨⟨positions, hOrder, fun p => ?_, ?_⟩, ?_, ?_⟩
  · rw [hPositions, Option.isSome_iff_exists]
    constructor
    · rintro ⟨g, hGroup⟩
      obtain ⟨i, process, hProcess, hAdmits, -⟩ := (groupAt?_eq_some_iff f s).mp hGroup
      exact ⟨i, process, hProcess, hAdmits⟩
    · rintro ⟨i, process, hProcess, hAdmits⟩
      exact ⟨_, (groupAt?_eq_some_iff f s).mpr ⟨i, process, hProcess, hAdmits, rfl⟩⟩
  · refine hAdmitted.imp fun p g hGroup => ?_
    obtain ⟨i, process, hProcess, -, rfl⟩ := (groupAt?_eq_some_iff f s).mp hGroup
    exact ⟨i, process, hProcess, TargetGroup.ofProcess_isOf i process⟩
  · intro g hg
    obtain ⟨p, hGroup⟩ : ∃ p, groupAt? f s p = some g := by
      have hMem : some g ∈ positions.map (groupAt? f s) := hGroups ▸ List.mem_map_of_mem hg
      obtain ⟨p, -, hGroup⟩ := List.mem_map.mp hMem
      exact ⟨p, hGroup⟩
    obtain ⟨i, process, -, hAdmits, rfl⟩ := (groupAt?_eq_some_iff f s).mp hGroup
    exact hAdmits.1
  · intro later
    rw [targetGroups_eq, targetGroups_eq, targetGroups_eq, List.flatMap_append]

private def router (ips : List String) : Instance :=
  ⟨"router", "r", "0", ips, "z1", [⟨"gorouter"⟩]⟩

/-- The first and the last instance are the same, and that between them has no address. -/
private def clones : Snapshot := [⟨"cf", [router ["10.0.0.1"], router [], router ["10.0.0.1"]]⟩]

/-- Of equal instances each has its own group. -/
theorem clones_have_groups_of_their_own :
    ∃ positions : List ProcessPosition, (0, 0, 0) ∈ positions ∧ (0, 1, 0) ∉ positions ∧
      (0, 2, 0) ∈ positions ∧
      positions.length = (targetGroups .all clones).length := by
  obtain ⟨⟨positions, -, hPositions, hGroups⟩, -, -⟩ :=
    targets_are_admitted_processes .all clones
  refine ⟨positions, ?_, ?_, ?_, hGroups.length_eq⟩
  · exact (hPositions _).mpr ⟨_, _, rfl, by decide, rfl, rfl⟩
  · intro hMem
    obtain ⟨i, process, hProcess, hIps, -⟩ := (hPositions _).mp hMem
    obtain ⟨rfl, -⟩ := Prod.mk.inj (Option.some.inj hProcess)
    exact hIps rfl
  · exact (hPositions _).mpr ⟨_, _, rfl, by decide, rfl, rfl⟩

end TopologyExporter
