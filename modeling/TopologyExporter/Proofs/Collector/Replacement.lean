import TopologyExporter.Proofs.Collector.ServiceDiscovery
import TopologyExporter.Proofs.Files.Outside
import TopologyExporter.Proofs.Json.Coding

/-!
# The collector for service discovery — what its calls do to the files

Calls and outside changes take turns. A call can go wrong on the way: its new content may not be
written to the end, the destination may be no place for a file, and whoever receives its gauges may
go before the first or between them. Whatever happens, it has either replaced the destination by the
whole new file or left it as it was, and has touched nothing else.

## Results

* `Call.performUntil`                  — a call whose receiver goes before one of its steps.
* `ServiceDiscoveryCollector.collects` — what one call does in any tree.
* `every_call_replaces_whole_or_not`   — and what every call does, whatever happened before it.
-/

namespace TopologyExporter

-- ---------------------------------------------------------------------------
-- Receivers that go
-- ---------------------------------------------------------------------------

/-- Performs a call that is alone: what it sends is received before the step `closing`, and then no
longer. -/
def Call.performUntil (c : Call) (closing : Nat) (tree : FileTree) : Performance :=
  let before := performSteps true (.returns none) tree (c.steps.take closing)
  if before.ending = .returns none then
    let after := performSteps false c.ending before.tree (c.steps.drop closing)
    { after with sent := before.sent ++ after.sent }
  else before

/-- Nothing is received of a call whose receiver is gone from the start. -/
theorem Call.performUntil_zero (c : Call) (tree : FileTree) :
    c.performUntil 0 tree = c.perform false tree := rfl

/-- Steps that lead to the end lead to any end. -/
theorem performSteps_ending {tree : FileTree} {steps : List CallStep} (ending : Ending) :
    performSteps true ending tree steps =
      if (performSteps true (.returns none) tree steps).ending = .returns none then
        { performSteps true (.returns none) tree steps with ending }
      else performSteps true (.returns none) tree steps := by
  induction steps generalizing tree with
  | nil => rfl
  | cons step rest ih =>
    cases step with
    | pause time => exact ih
    | send family =>
      simp only [performSteps, if_true]
      rw [ih]
      split <;> rfl
    | replace destination content =>
      rw [performSteps, performSteps]
      obtain ⟨result, tree'⟩ := tree.persistAtomically destination content
      cases result with
      | ok => exact ih
      | error e => rfl

/-- All is received of a call whose receiver stays to the end. -/
theorem Call.performUntil_of_length_le {c : Call} {closing : Nat} (h : c.steps.length ≤ closing)
    (tree : FileTree) : c.performUntil closing tree = c.perform true tree := by
  rw [perform, performSteps_ending, performUntil, List.take_of_length_le h,
    List.drop_of_length_le h]
  simp [performSteps]

-- ---------------------------------------------------------------------------
-- Calls
-- ---------------------------------------------------------------------------

/-- A call of the collector, by what may go wrong on its way. -/
inductive CollectCall
  /-- The receiver goes before the step `closing`, if it has as many. -/
  | whole (s : Snapshot) (clock : RunClock) (closing : Nat)
  /-- Writing the new content fails after some bytes. -/
  | cutOff (s : Snapshot) (written : Bytes) (reason : FileError)

/-- The snapshot that a call is for. -/
def CollectCall.snapshot : CollectCall → Snapshot
  | whole s _ _ => s
  | cutOff s _ _ => s

namespace ServiceDiscoveryCollector

variable (c : ServiceDiscoveryCollector)

/-- Performs a call. -/
def collect (k : CollectCall) (t : FileTree) : Performance :=
  match k with
  | .whole s clock closing => (c.call s clock).performUntil closing t
  | .cutOff _ written reason =>
    match t.writeAtomically c.destination ⟨written, some reason⟩ with
    | (.error e, t) => ⟨.returns (some e), [], t⟩
    | (.ok (), t) => ⟨.returns none, [], t⟩

/-- Whether a tree is another one but for the destination, which is now a file that everyone may
read, with all target groups of a snapshot. The destination is what its path names: where that is a
symbolic link, it is the link and not what the link leads to. -/
def Replaced (s : Snapshot) (t t' : FileTree) : Prop :=
  ∃ place, t.entryPlace c.destination = .ok place ∧
    t'.get? place = some (.file (TargetGroup.encodeAll (targetGroups c.filter s)) 0o644) ∧
    ∀ other, other ≠ place → t'.get? other = t.get? other

/-- What a call does in a tree. -/
structure Collects (k : CollectCall) (t : FileTree) (p : Performance) : Prop where
  /-- The call ends. -/
  returns : ∃ error, p.ending = .returns error
  /-- It brings no temporary file and takes none away. -/
  temporaries : p.tree.temporaries = t.temporaries
  /-- It changes nothing, or replaces the destination and changes nothing else. -/
  keepsOrReplaces : p.tree = t ∨ c.Replaced k.snapshot t p.tree
  /-- It succeeds if the content is written to the end, the destination is a place for a file and
  the receiver stays. -/
  succeeds_iff : p.ending = .returns none ↔
    ∃ s clock closing, k = .whole s clock closing ∧ 3 ≤ closing ∧
    ∃ place, t.replacing c.destination none = .ok place
  /-- If it succeeds it has replaced the destination. -/
  replaces : p.ending = .returns none → c.Replaced k.snapshot t p.tree
  /-- And it has sent the two gauges that it describes, the time of the call first. -/
  sends : p.ending = .returns none →
    ∃ s clock closing timestamp duration, k = .whole s clock closing ∧
    c.toCollector.descriptors = [timestamp, duration] ∧
    p.sent = [timestamp.single .gauge (.ofNat clock.now),
      duration.single .gauge clock.elapsed.seconds]

/-- A call whose content is not written to the end fails and does nothing. -/
theorem collect_cutOff (s : Snapshot) (written : Bytes) (reason : FileError) (t : FileTree) :
    ∃ e, c.collect (.cutOff s written reason) t = ⟨.returns (some e), [], t⟩ := by
  rw [collect, FileTree.writeAtomically_eq]
  cases hReplacing : t.replacing c.destination (some reason) with
  | error reason' => exact ⟨_, rfl⟩
  | ok place =>
    rw [FileTree.replacing] at hReplacing
    cases hStaging : t.staging c.destination (some reason) with
    | error e => simp [hStaging, bind, Except.bind] at hReplacing
    | ok parent => exact absurd (FileTree.staging_eq_ok_iff.mp hStaging).2 (by simp)

variable {c} {t : FileTree} {place : Location} {s : Snapshot}

theorem replaced_put (h : t.replacing c.destination none = .ok place) :
    c.Replaced s t (t.put place (c.file s)) := by
  obtain ⟨hEntry, hPlace, -⟩ := FileTree.replacing_eq_ok h
  refine ⟨place, hEntry, ?_, fun other hOther => FileTree.get?_put_of_ne hOther⟩
  rw [FileTree.get?_put hPlace, if_pos rfl]
  rfl

/-- **All that a call does** whose receiver goes before a step of it. -/
theorem performUntil_eq (clock : RunClock) (closing : Nat) :
    (c.call s clock).performUntil closing t =
      match t.replacing c.destination none with
      | .error reason => ⟨.returns (some (.persistence c.destination reason)), [], t⟩
      | .ok place =>
        ⟨.returns (if 3 ≤ closing then none else some .sinkClosed),
          (c.gauges.families clock).take (closing - 1), t.put place (c.file s)⟩ := by
  have hReplace : t.persistAtomically c.destination (c.content s) = _ := FileTree.writeAtomically_eq
  obtain _ | _ | _ | closing := closing
  · rw [Call.performUntil_zero, perform_eq]
    cases t.replacing c.destination none <;> rfl
  · simp only [Call.performUntil, call, List.take, performSteps, hReplace]
    cases t.replacing c.destination none <;> rfl
  · simp only [Call.performUntil, call, List.take, performSteps, hReplace]
    cases t.replacing c.destination none <;> rfl
  · rw [Call.performUntil_of_length_le (Nat.le_add_left 3 closing), perform_eq]
    cases t.replacing c.destination none with
    | error reason => rfl
    | ok place => simp [ScrapeGauges.families]

/-- **What one call does**, in any tree. -/
theorem collects (k : CollectCall) (t : FileTree) : c.Collects k t (c.collect k t) := by
  cases k with
  | cutOff s written reason =>
    obtain ⟨e, hFails⟩ := c.collect_cutOff s written reason t
    rw [hFails]
    exact ⟨⟨_, rfl⟩, rfl, .inl rfl, by simp, by simp, by simp⟩
  | whole s clock closing =>
    rw [collect, performUntil_eq]
    cases hReplacing : t.replacing c.destination none with
    | error reason =>
      refine ⟨⟨_, rfl⟩, rfl, .inl rfl, ?_, ?_, ?_⟩
      · simp [hReplacing]
      · simp
      · simp
    | ok place =>
      have hEntry := (FileTree.replacing_eq_ok hReplacing).1
      have hReplaced : c.Replaced s t (t.put place (c.file s)) := replaced_put hReplacing
      refine ⟨⟨_, rfl⟩, FileTree.temporaries_put (FileTree.entryPlace_isPlain hEntry),
        .inr hReplaced, ?_,
        fun _ => hReplaced, ?_⟩
      · constructor
        · intro h
          by_cases hStays : 3 ≤ closing
          · exact ⟨s, clock, closing, rfl, hStays, place, hReplacing⟩
          · simp [hStays] at h
        · rintro ⟨s, clock, closing, hCall, hStays, -⟩
          cases hCall
          simp [hStays]
      · intro h
        by_cases hStays : 3 ≤ closing
        · refine ⟨s, clock, closing, c.gauges.timestamp, c.gauges.duration, rfl, rfl, ?_⟩
          exact List.take_of_length_le (by show 2 ≤ closing - 1; omega)
        · simp [hStays] at h

/-- Without target groups the file is an empty list. -/
theorem content_of_no_groups (h : targetGroups c.filter s = []) : c.content s = Text.utf8 "[]" := by
  rw [content, h]
  rfl

-- ---------------------------------------------------------------------------
-- Histories
-- ---------------------------------------------------------------------------

variable (c)

/-- What happens to the files: others change them, or the collector is called. -/
inductive Turn
  | outside (change : OutsideChange)
  | call (k : CollectCall)

/-- The tree after a turn. A change that is refused changes nothing. -/
def treeOf (t : FileTree) : Turn → FileTree
  | .outside change => (change.apply t).toOption.getD t
  | .call k => (c.collect k t).tree

/-- The tree after some turns. -/
def treeAfter (first : FileTree) (turns : List Turn) : FileTree := turns.foldl c.treeOf first

/-- No turn brings a temporary file or takes one away. -/
theorem treeOf_temporaries (t : FileTree) (turn : Turn) :
    (c.treeOf t turn).temporaries = t.temporaries := by
  cases turn with
  | call k => exact (c.collects k t).temporaries
  | outside change =>
    rw [treeOf]
    cases hChange : change.apply t with
    | error reason => rfl
    | ok t' => exact change.passesBy.temporaries t t' hChange

theorem treeAfter_temporaries (first : FileTree) (turns : List Turn) :
    (c.treeAfter first turns).temporaries = first.temporaries := by
  induction turns generalizing first with
  | nil => rfl
  | cons turn rest ih =>
    rw [treeAfter, List.foldl_cons]
    exact (ih (c.treeOf first turn)).trans (c.treeOf_temporaries first turn)

end ServiceDiscoveryCollector

/-- **Every call replaces the whole file or nothing**, whatever calls and outside changes came
before it, from any first tree. The temporary files are those of the first tree, none if it had
none, and all that `Collects` says holds. What the file holds then stands for the target groups of
the snapshot: it is `[]` if there are none. -/
theorem every_call_replaces_whole_or_not (c : ServiceDiscoveryCollector) (first : FileTree)
    (turns : List ServiceDiscoveryCollector.Turn) (k : CollectCall) :
    c.Collects k (c.treeAfter first turns) (c.collect k (c.treeAfter first turns)) ∧
    (c.collect k (c.treeAfter first turns)).tree.temporaries = first.temporaries ∧
    Json.decode (Json.Decoder.list TargetGroup.decoder)
        (TargetGroup.encodeAll (targetGroups c.filter k.snapshot)) =
      .ok (targetGroups c.filter k.snapshot) ∧
    (targetGroups c.filter k.snapshot = [] →
      TargetGroup.encodeAll (targetGroups c.filter k.snapshot) = Text.utf8 "[]") ∧
    ∀ s clock closing, k = .whole s clock closing → ∀ t,
      (closing = 0 → c.collect k t = (c.call s clock).perform false t) ∧
      (3 ≤ closing → c.collect k t = (c.call s clock).perform true t) := by
  refine ⟨c.collects k _, ?_, ?_, fun h => c.content_of_no_groups h, ?_⟩
  · exact (c.collects k _).temporaries.trans (c.treeAfter_temporaries first turns)
  · exact (Json.Decoder.Reads.ofList fun g _ => g.reads).decode
  · rintro s clock closing rfl t
    refine ⟨?_, fun hStays => Call.performUntil_of_length_le hStays t⟩
    rintro rfl
    exact Call.performUntil_zero _ t

/-- A tree where the destination leads to an older and longer file that only its owner may read. -/
private def swappedTree : FileTree :=
  ⟨⟨[([.given "old.json"], .file [123, 125, 10, 10] 0o600),
    ([.given "sd.json"], .link "old.json")], by decide⟩⟩

/-- The same tree with the link replaced by an empty list. -/
private def replacedTree : FileTree :=
  ⟨⟨[([.given "old.json"], .file [123, 125, 10, 10] 0o600),
    ([.given "sd.json"], .file [91, 93] 0o644)], by decide⟩⟩

private def linker : ServiceDiscoveryCollector := ⟨"sd.json", .all, default⟩

/-- A call that no one receives from replaces the link, and then someone makes it anew. -/
private def relinked : List ServiceDiscoveryCollector.Turn :=
  [.call (.whole [] default 0), .outside (.remove "sd.json"), .outside (.link "sd.json" "old.json")]

private theorem swappedTree_replacing :
    swappedTree.replacing "sd.json" none = .ok [.given "sd.json"] := by
  decide +kernel

private theorem linker_relinked : linker.treeAfter swappedTree relinked = swappedTree := by
  have hContent : linker.content [] = [91, 93] := by
    rw [ServiceDiscoveryCollector.content_of_no_groups rfl]
    decide +kernel
  have hCall : linker.treeOf swappedTree (.call (.whole [] default 0)) = replacedTree := by
    show ((linker.call [] default).performUntil 0 swappedTree).tree = _
    have hReplacing : swappedTree.replacing linker.destination none = .ok [.given "sd.json"] :=
      swappedTree_replacing
    rw [ServiceDiscoveryCollector.performUntil_eq, hReplacing, ServiceDiscoveryCollector.file,
      hContent]
    decide
  have hRemove : linker.treeOf replacedTree (.outside (.remove "sd.json")) =
      replacedTree.erase [.given "sd.json"] := by decide +kernel
  have hLink : linker.treeOf (replacedTree.erase [.given "sd.json"])
      (.outside (.link "sd.json" "old.json")) = swappedTree := by decide +kernel
  rw [ServiceDiscoveryCollector.treeAfter, relinked, List.foldl_cons, List.foldl_cons,
    List.foldl_cons, hCall, hRemove, hLink, List.foldl_nil]

/-- The link is replaced by the new file, and the file that it led to is left alone. -/
theorem link_is_replaced_by_whole_file :
    (linker.treeAfter swappedTree relinked).get? [.given "sd.json"] = some (.link "old.json") ∧
    ∃ p, p = linker.collect (.whole [] default 3) (linker.treeAfter swappedTree relinked) ∧
      p.ending = .returns none ∧ p.sent.length = 2 ∧ p.tree.temporaries = .empty ∧
      p.tree.get? [.given "sd.json"] = some (.file (Text.utf8 "[]") 0o644) ∧
      p.tree.get? [.given "old.json"] = some (.file [123, 125, 10, 10] 0o600) := by
  obtain ⟨hCollects, hTemporaries, -, hEmpty, -⟩ :=
    every_call_replaces_whole_or_not linker swappedTree relinked (.whole [] default 3)
  rw [linker_relinked] at hCollects hTemporaries ⊢
  have hDone : (linker.collect (.whole [] default 3) swappedTree).ending = .returns none :=
    hCollects.succeeds_iff.mpr ⟨_, _, _, rfl, by decide, _, swappedTree_replacing⟩
  obtain ⟨_, _, _, _, _, -, -, hSent⟩ := hCollects.sends hDone
  obtain ⟨place, hEntry, hFile, hOthers⟩ := hCollects.replaces hDone
  have hPlace : place = [.given "sd.json"] := by
    have hNamed : swappedTree.entryPlace "sd.json" = .ok [.given "sd.json"] := by decide +kernel
    exact Except.ok.inj (hEntry.symm.trans hNamed)
  rw [hPlace] at hFile hOthers
  rw [hEmpty rfl] at hFile
  refine ⟨rfl, _, rfl, hDone, by rw [hSent]; rfl, hTemporaries.trans rfl, hFile, ?_⟩
  rw [hOthers [.given "old.json"] (by decide)]
  rfl

end TopologyExporter
