import TopologyExporter.Collector.ServiceDiscovery
import TopologyExporter.Proofs.Files.Staged

/-!
# The collector for service discovery — failed calls

A call replaces the file and then sends its gauges. If the file cannot be replaced nothing happens
at all. If it can, and no one receives the gauges, the call fails although the file has been
replaced: that is the only way in which a failed call leaves a trace, and it never leaves a
temporary file.

## Results

* `ServiceDiscoveryCollector.perform_eq`   — all that a call does, said by the tree before it.
* `failed_call_leaves_no_trace_iff`        — when exactly failed calls are all or nothing.
* `closed_sink_leaves_replaced_file`       — they are not when no one receives.
-/

namespace TopologyExporter

-- ---------------------------------------------------------------------------
-- Sending
-- ---------------------------------------------------------------------------

theorem performSteps_sends_open (ending : Ending) (tree : FileTree) (families : List Family) :
    performSteps true ending tree (families.map .send) = ⟨ending, families, tree⟩ := by
  induction families with
  | nil => rfl
  | cons family rest ih => simp [performSteps, ih]

theorem performSteps_sends_closed (ending : Ending) (tree : FileTree) (family : Family)
    (steps : List CallStep) :
    performSteps false ending tree (.send family :: steps) =
      ⟨.returns (some .sinkClosed), [], tree⟩ := by
  simp [performSteps]

-- ---------------------------------------------------------------------------
-- Calls
-- ---------------------------------------------------------------------------

namespace ServiceDiscoveryCollector

variable (c : ServiceDiscoveryCollector) (s : Snapshot) (clock : RunClock) (isOpen : Bool)
  (t : FileTree)

/-- The file that a call leaves behind. -/
def file : Node := .file (c.content s) FileTree.publicMode

/-- **All that a call does**, said by the tree before it. -/
theorem perform_eq :
    (c.call s clock).perform isOpen t =
      match t.replacing c.destination none with
      | .error reason => ⟨.returns (some (.persistence c.destination reason)), [], t⟩
      | .ok target =>
        if isOpen then ⟨.returns none, c.gauges.families clock, t.put target (c.file s)⟩
        else ⟨.returns (some .sinkClosed), [], t.put target (c.file s)⟩ := by
  rw [Call.perform, call, performSteps, FileTree.persistAtomically, FileTree.writeAtomically_eq]
  cases t.replacing c.destination none with
  | error reason => rfl
  | ok target =>
    cases isOpen with
    | true => exact performSteps_sends_open ..
    | false => exact performSteps_sends_closed ..

end ServiceDiscoveryCollector

open ServiceDiscoveryCollector in
/-- **When failed calls are all or nothing.** A failed call sends nothing and leaves the files as
they were, unless no one receives its gauges and the destination is not yet just the file that the
call replaces it by. Even then it sends nothing and leaves no temporary file: it has replaced the
file and done nothing else. -/
theorem failed_call_leaves_no_trace_iff (c : ServiceDiscoveryCollector) (s : Snapshot)
    (clock : RunClock) (isOpen : Bool) (t : FileTree) :
    ((∀ error, ((c.call s clock).perform isOpen t).ending = .returns (some error) →
        ((c.call s clock).perform isOpen t).sent = [] ∧
        ((c.call s clock).perform isOpen t).tree = t) ↔
      (isOpen = false → ∀ target, t.replacing c.destination none = .ok target →
        t.get? target = some (c.file s))) ∧
    (∀ error, ((c.call s clock).perform isOpen t).ending = .returns (some error) →
      ((c.call s clock).perform isOpen t).sent = [] ∧
      ((c.call s clock).perform isOpen t).tree.temporaries = t.temporaries) ∧
    (∀ target, isOpen = false → t.replacing c.destination none = .ok target →
      (c.call s clock).perform isOpen t =
        ⟨.returns (some .sinkClosed), [], t.put target (c.file s)⟩) := by
  rw [perform_eq]
  cases hReplacing : t.replacing c.destination none with
  | error reason => simp
  | ok target =>
    cases isOpen with
    | true => simp
    | false =>
      obtain ⟨hEntry, hTarget, -⟩ := FileTree.replacing_eq_ok hReplacing
      refine ⟨?_, ?_, ?_⟩
      · simp [FileTree.put_eq_self_iff hTarget]
      · intro error _
        exact ⟨rfl, FileTree.temporaries_put (FileTree.entryPlace_isPlain hEntry)⟩
      · simp

private def watcher : ServiceDiscoveryCollector := ⟨"sd.json", .all, default⟩

private def watched : FileTree :=
  ⟨⟨[([.given "sd.json"], .file [112] FileTree.privateMode)], by simp⟩⟩

private theorem watched_replacing : watched.replacing "sd.json" none = .ok [.given "sd.json"] := by
  rfl

/-- A call that no one receives from fails with the file replaced. -/
theorem replaced_file_of_closed_sink :
    watched.replacing "sd.json" none = .ok [.given "sd.json"] ∧
    (watcher.call [] default).perform false watched =
      ⟨.returns (some .sinkClosed), [], watched.put [.given "sd.json"] (watcher.file [])⟩ :=
  ⟨watched_replacing,
    (failed_call_leaves_no_trace_iff watcher [] default false watched).2.2 _ rfl
      watched_replacing⟩

/-- **Failed calls are not all or nothing**: with no one to receive, a call fails and has replaced
the file. -/
theorem closed_sink_leaves_replaced_file :
    ¬ ∀ (c : ServiceDiscoveryCollector) (s : Snapshot) (clock : RunClock) (isOpen : Bool)
        (t : FileTree) (error : CollectorError),
      ((c.call s clock).perform isOpen t).ending = .returns (some error) →
      ((c.call s clock).perform isOpen t).sent = [] ∧
      ((c.call s clock).perform isOpen t).tree = t := by
  intro h
  have hCall : (watcher.call [] default).perform false watched =
      ⟨.returns (some .sinkClosed), [], watched.put [.given "sd.json"] (watcher.file [])⟩ := by
    have hReplacing : watched.replacing watcher.destination none = .ok [.given "sd.json"] :=
      watched_replacing
    rw [watcher.perform_eq, hReplacing]
    rfl
  have hTree : watched.put [.given "sd.json"] (watcher.file []) = watched := by
    have hClaim := h watcher [] default false watched .sinkClosed
    rw [hCall] at hClaim
    exact (hClaim rfl).2
  -- the file was private, and the one that replaced it is not
  rw [FileTree.put_eq_self_iff (by simp)] at hTree
  have hMode : FileTree.privateMode = FileTree.publicMode := by
    have hFile : watched.get? [.given "sd.json"] = some (.file [112] FileTree.privateMode) := rfl
    rw [hFile, ServiceDiscoveryCollector.file, Option.some.injEq, Node.file.injEq] at hTree
    exact hTree.2
  exact absurd hMode (by decide)

end TopologyExporter
