import Mathlib.Data.List.Flatten
import Mathlib.Data.List.Perm.Basic
import TopologyExporter.Proofs.Filter.Entries
import TopologyExporter.Target.Group

/-!
# Target groups — splitting by zone

Several exporters can share a topology, each with zones of its own. Between them they have each
target once, as one exporter has that admits all zones, and each has its targets in the order of
that one.

## Results

* `targetGroups_sublist`            — a narrower filter leaves out groups and changes nothing
  else.
* `targetGroups_perm`               — zone filters that share no zone divide the groups of all
  zones.
* `split_by_zone_covers_everything` — so do lists of zones that have no entry in common.
-/

namespace TopologyExporter

-- ---------------------------------------------------------------------------
-- Dividing a list
-- ---------------------------------------------------------------------------

section Dividing

variable {α κ : Type} {xs : List α}

/-- What passes one of two tests that nothing passes both of. -/
theorem filter_append_filter_perm {p q : α → Bool}
    (h : ∀ x ∈ xs, p x = true → q x = false) :
    (xs.filter p ++ xs.filter q).Perm (xs.filter fun x => p x || q x) := by
  have hLeft : (xs.filter fun x => p x || q x).filter p = xs.filter p := by
    rw [List.filter_filter]
    refine List.filter_congr fun x _ => ?_
    cases p x <;> simp
  have hRight : (xs.filter fun x => p x || q x).filter (fun x => !p x) = xs.filter q := by
    rw [List.filter_filter]
    refine List.filter_congr fun x hx => ?_
    cases hp : p x with
    | true => simp [h x hx hp]
    | false => simp
  rw [← hLeft, ← hRight]
  exact List.filter_append_perm p _

/-- **Tests that nothing passes two of divide** what passes one of them. -/
theorem flatMap_filter_perm {test : κ → α → Bool} {keys : List κ}
    (h : ∀ x ∈ xs, keys.Pairwise fun k k' => test k x = true → test k' x = false) :
    (keys.flatMap fun k => xs.filter (test k)).Perm
      (xs.filter fun x => keys.any fun k => test k x) := by
  induction keys with
  | nil => simp
  | cons k rest ih =>
    have hRest := ih fun x hx => (List.pairwise_cons.mp (h x hx)).2
    have hFirst : ∀ x ∈ xs, test k x = true → (rest.any fun k => test k x) = false := by
      intro x hx hTest
      rw [List.any_eq_false]
      exact fun k' hk' => Bool.eq_false_iff.mp ((List.pairwise_cons.mp (h x hx)).1 k' hk' hTest)
    rw [List.flatMap_cons]
    simp only [List.any_cons]
    exact (hRest.append_left _).trans (filter_append_filter_perm hFirst)

end Dividing

-- ---------------------------------------------------------------------------
-- Target groups under several filters
-- ---------------------------------------------------------------------------

variable {s : Snapshot}

/-- **A narrower filter leaves out groups** and changes nothing else. -/
theorem targetGroups_sublist {wide narrow : TargetFilter}
    (hZone : ∀ zone, narrow.admitsZone zone = true → wide.admitsZone zone = true)
    (hProcess : ∀ name, narrow.admitsProcess name = true → wide.admitsProcess name = true)
    (s : Snapshot) :
    (targetGroups narrow s).Sublist (targetGroups wide s) := by
  have hInstances : ((s.flatMap Deployment.instances).filter narrow.admitsInstance).Sublist
      ((s.flatMap Deployment.instances).filter wide.admitsInstance) := by
    refine List.monotone_filter_right _ fun i hAdmits => ?_
    rw [TargetFilter.admitsInstance, Bool.and_eq_true] at hAdmits ⊢
    exact ⟨hAdmits.1, hZone _ hAdmits.2⟩
  have hGroups : ∀ i, (TargetGroup.ofInstance narrow i).Sublist (TargetGroup.ofInstance wide i) :=
    fun i => (List.monotone_filter_right _ fun _ hAdmits => hProcess _ hAdmits).map _
  exact (List.Sublist.flatMap_right _ fun i _ => hGroups i).trans (hInstances.flatMap _)

/-- **Zone filters that share no zone divide the groups**, if each instance is in a zone that one of
them admits. -/
theorem targetGroups_perm {filters : List ZoneFilter} (process : ProcessFilter)
    (hApart : ∀ zone, filters.Pairwise fun f f' => f.admits zone = true →
      f'.admits zone = false)
    (hAll : ∀ d ∈ s, ∀ i ∈ d.instances, ∃ f ∈ filters, f.admits i.zone = true) :
    (filters.flatMap fun f => targetGroups ⟨f, process⟩ s).Perm
      (targetGroups ⟨⟨[]⟩, process⟩ s) := by
  have hInstances : (filters.flatMap fun f =>
        (s.flatMap Deployment.instances).filter (TargetFilter.admitsInstance ⟨f, process⟩)).Perm
      ((s.flatMap Deployment.instances).filter
        (TargetFilter.admitsInstance ⟨⟨[]⟩, process⟩)) := by
    refine (flatMap_filter_perm fun i _ => ?_).trans
      (List.Perm.of_eq (List.filter_congr fun i hi => ?_))
    · refine (hApart i.zone).imp fun {f f'} hZone hAdmits => ?_
      rw [TargetFilter.admitsInstance, Bool.and_eq_true] at hAdmits
      rw [TargetFilter.admitsInstance, Bool.and_eq_false_iff]
      exact .inr (hZone hAdmits.2)
    · obtain ⟨d, hd, hi⟩ := List.mem_flatMap.mp hi
      obtain ⟨f, hf, hZone⟩ := hAll d hd i hi
      rw [Bool.eq_iff_iff, List.any_eq_true]
      simp only [TargetFilter.admitsInstance, TargetFilter.admitsZone, Bool.and_eq_true]
      exact ⟨fun ⟨_, _, hIps, _⟩ => ⟨hIps, rfl⟩,
        fun ⟨hIps, _⟩ => ⟨f, hf, hIps, hZone⟩⟩
  -- the groups of an instance do not depend on the zones that are admitted
  have hTogether := hInstances.flatMap_right (TargetGroup.ofInstance ⟨⟨[]⟩, process⟩)
  rw [List.flatMap_assoc] at hTogether
  exact hTogether

/-- **Splitting by zone covers everything once.** Some lists of zones are given, each with an entry,
and no two with an entry in common; every instance is in a zone that is an entry of one of them.
Then the groups under the lists, put together, are those under no list in some order, and those
under each list are some of them in their order. So it is for any two filters of which one admits
all that the other admits. -/
theorem split_by_zone_covers_everything (process : ProcessFilter) (s : Snapshot)
    (lists : List (List String)) (hEntry : ∀ items ∈ lists, ∃ entry, Text.IsEntry items entry)
    (hApart : lists.Pairwise fun items items' => ∀ entry, Text.IsEntry items entry →
      ¬Text.IsEntry items' entry)
    (hAll : ∀ d ∈ s, ∀ i ∈ d.instances, ∃ items ∈ lists, Text.IsEntry items i.zone) :
    (lists.flatMap fun items => targetGroups ⟨.ofEntries items, process⟩ s).Perm
      (targetGroups ⟨.ofEntries [], process⟩ s) ∧
    (∀ items ∈ lists, (targetGroups ⟨.ofEntries items, process⟩ s).Sublist
      (targetGroups ⟨.ofEntries [], process⟩ s)) ∧
    ∀ wide narrow : TargetFilter,
      (∀ zone, narrow.admitsZone zone = true → wide.admitsZone zone = true) →
      (∀ name, narrow.admitsProcess name = true → wide.admitsProcess name = true) →
      (targetGroups narrow s).Sublist (targetGroups wide s) := by
  have hAdmits : ∀ items ∈ lists, ∀ zone,
      (ZoneFilter.ofEntries items).admits zone = true ↔ Text.IsEntry items zone := by
    intro items hItems zone
    obtain ⟨entry, hHas⟩ := hEntry items hItems
    rw [ZoneFilter.admits_ofEntries_iff]
    exact ⟨fun h => h.resolve_left fun hNone => hNone entry hHas, .inr⟩
  refine ⟨?_, fun items _ => ?_,
    fun wide narrow hZone hProcess => targetGroups_sublist hZone hProcess s⟩
  · have hPerm :
        ((lists.map ZoneFilter.ofEntries).flatMap fun f => targetGroups ⟨f, process⟩ s).Perm
        (targetGroups ⟨.ofEntries [], process⟩ s) := targetGroups_perm process ?_ ?_
    · rwa [List.flatMap_map] at hPerm
    · intro zone
      rw [List.pairwise_map]
      refine hApart.imp_of_mem fun {items items'} hItems hItems' hNone hAdmitted => ?_
      rw [Bool.eq_false_iff, Ne, hAdmits items' hItems']
      exact hNone zone ((hAdmits items hItems zone).mp hAdmitted)
    · intro d hd i hi
      obtain ⟨items, hItems, hZone⟩ := hAll d hd i hi
      exact ⟨_, List.mem_map_of_mem hItems, (hAdmits items hItems _).mpr hZone⟩
  · have hZone : ∀ zone, TargetFilter.admitsZone ⟨.ofEntries [], process⟩ zone = true :=
      fun _ => rfl
    have hProcess :
        ∀ name, TargetFilter.admitsProcess ⟨.ofEntries items, process⟩ name = true →
        TargetFilter.admitsProcess ⟨.ofEntries [], process⟩ name = true :=
        fun _ hAdmitted => hAdmitted
    exact targetGroups_sublist (fun zone _ => hZone zone) hProcess s

private def spread : Snapshot :=
  [⟨"cf", [⟨"router", "r0", "0", ["10.0.0.1"], "z1", [⟨"gorouter"⟩, ⟨"agent"⟩]⟩,
      ⟨"router", "r1", "1", [], "z2", [⟨"gorouter"⟩]⟩,
      ⟨"api", "a0", "0", ["10.0.0.4"], "z3", [⟨"agent"⟩]⟩]⟩,
    ⟨"redis", [⟨"redis", "d0", "0", ["10.0.0.2"], "z2", [⟨"redis"⟩]⟩]⟩]

/-- The lists repeat an entry and have blank items in common. -/
private def shares : List (List String) := [[" z3", "", "z1 "], ["z2", "", "z2"]]

/-- Two exporters that share three zones between them. -/
theorem shares_cover_spread :
    (∀ items ∈ shares, ∃ entry, Text.IsEntry items entry) ∧
    (shares.Pairwise fun items items' => ∀ entry, Text.IsEntry items entry →
      ¬Text.IsEntry items' entry) ∧
    (∀ d ∈ spread, ∀ i ∈ d.instances, ∃ items ∈ shares, Text.IsEntry items i.zone) ∧
    (shares.flatMap fun items => targetGroups ⟨.ofEntries items, ⟨[]⟩⟩ spread).Perm
      (targetGroups ⟨.ofEntries [], ⟨[]⟩⟩ spread) := by
  have hFirst : Text.entries [" z3", "", "z1 "] = ["z3", "z1"] := by decide
  have hSecond : Text.entries ["z2", "", "z2"] = ["z2", "z2"] := by decide
  have hEntry : ∀ items ∈ shares, ∃ entry, Text.IsEntry items entry := by
    simp [shares, ← Text.mem_entries, hFirst, hSecond]
  have hApart : shares.Pairwise fun items items' =>
      ∀ entry, Text.IsEntry items entry → ¬Text.IsEntry items' entry := by
    simp [shares, ← Text.mem_entries, hFirst, hSecond]
  have hAll : ∀ d ∈ spread, ∀ i ∈ d.instances, ∃ items ∈ shares,
      Text.IsEntry items i.zone := by
    simp [spread, shares, ← Text.mem_entries, hFirst, hSecond]
  exact ⟨hEntry, hApart, hAll,
    (split_by_zone_covers_everything ⟨[]⟩ spread shares hEntry hApart hAll).1⟩

end TopologyExporter
