import TopologyExporter.Proofs.Health.Registry

/-!
# Probes beside the writer — every schedule

The components and the flag that says that a scrape was completed are behind two locks. Who records
a scrape writes all components in one turn and sets the flag in another; who asks whether the
exporter is ready reads the flag in one turn and the components in another. The opposite order makes
the answer safe: a flag that was seen belongs to a report that is in the components by then.

## Results

* `SharedHealth.run_writer`      — undisturbed, the writer does what the registry does call by
  call.
* `SharedHealth.Kept.turn`       — what every turn of anyone preserves.
* `answers_show_whole_calls`     — what readers are told under every schedule.
-/

namespace TopologyExporter

open HealthCall HealthRegistry

-- ---------------------------------------------------------------------------
-- Turns
-- ---------------------------------------------------------------------------

/-- A registry that one writer and any number of readers share. -/
structure SharedHealth where
  registry : HealthRegistry
  /-- What the writer has not begun to record. -/
  todo : List HealthCall
  /-- Whether a report is in the components for which the flag has still to be set. -/
  unflagged : Bool
  /-- The flag as it was read by everyone who is going to read the components next. -/
  flags : Keyed Nat Bool

/-- Whose turn it is. -/
inductive ProbeTurn
  | writer
  | health
  | readiness (reader : Nat)
deriving Repr, DecidableEq, Inhabited

/-- What a reader is told; for readiness with the components that were read. -/
inductive ProbeAnswer
  | health (answer : HealthAnswer)
  | readiness (read : Keyed String ComponentHealth) (answer : ReadinessAnswer)
deriving Repr, DecidableEq, Inhabited

namespace SharedHealth

/-- A registry with some components, and what is to be recorded in it. -/
def start (components : List (String × Int)) (calls : List HealthCall) : SharedHealth :=
  ⟨registered components, calls, false, .empty⟩

/-- The writer sets the flag for the report that it has written, or writes the components of the
next call. -/
def write (s : SharedHealth) : SharedHealth :=
  if s.unflagged then { s with registry := { s.registry with ready := true }, unflagged := false }
  else
    match s.todo with
    | [] => s
    | .fetchFailed error now :: todo =>
      { s with registry := s.registry.recordFetchFailure error now, todo }
    | .scraped report now :: todo =>
      { s with
          registry :=
            { s.registry with components := componentsAfter s.registry.components report now }
          todo
          unflagged := true }

/-- One turn, with what is answered in it. -/
def turn (s : SharedHealth) : ProbeTurn → SharedHealth × List ProbeAnswer
  | .writer => (s.write, [])
  | .health => (s, [.health s.registry.health])
  | .readiness reader =>
    match s.flags.get? reader with
    | none => ({ s with flags := s.flags.put reader s.registry.ready }, [])
    | some flag =>
      ({ s with flags := s.flags.erase reader },
        [.readiness s.registry.components (readinessOf flag s.registry.health)])

/-- Some turns one after the other, with all answers. -/
def run (s : SharedHealth) : List ProbeTurn → SharedHealth × List ProbeAnswer
  | [] => (s, [])
  | t :: turns => (((s.turn t).1.run turns).1, (s.turn t).2 ++ ((s.turn t).1.run turns).2)

/-- Undisturbed, the writer does what the registry does: two turns for every call are enough. -/
theorem run_writer (s : SharedHealth) (h : s.unflagged = false) :
    ∃ n, s.run (List.replicate n .writer) =
      ({ s with registry := s.registry.after s.todo, todo := [] }, []) := by
  obtain ⟨registry, todo, unflagged, flags⟩ := s
  obtain rfl : unflagged = false := h
  induction todo generalizing registry with
  | nil => exact ⟨0, rfl⟩
  | cons c todo ih =>
    obtain ⟨n, hRest⟩ := ih (registry.record c)
    cases c with
    | fetchFailed error now => exact ⟨n + 1, by rw [List.replicate_succ, run]; exact hRest⟩
    | scraped report now =>
      exact ⟨n + 2, by rw [List.replicate_succ, run, List.replicate_succ, run]; exact hRest⟩

-- ---------------------------------------------------------------------------
-- What every turn preserves
-- ---------------------------------------------------------------------------

variable {first : HealthRegistry} {past : List HealthCall} {s : SharedHealth}

/-- After some calls of the writer: the components are those of all these calls, and wherever the
flag is set or was read as set, a report is among the calls. -/
structure Kept (first : HealthRegistry) (past : List HealthCall) (s : SharedHealth) : Prop where
  components : s.registry.components = (first.after past).components
  pending    : s.unflagged = true → ∃ last, lastReport? past = some last
  ready      : s.registry.ready = true → ∃ last, lastReport? past = some last
  flags      : ∀ reader, s.flags.get? reader = some true →
    ∃ last, lastReport? past = some last

/-- What a reader is told is true of the calls so far. -/
def Shows (first : HealthRegistry) (past : List HealthCall) : ProbeAnswer → Prop
  | .health answer => answer = (first.after past).health
  | .readiness read answer =>
    read = (first.after past).components ∧
      (answer.ready = true → ∃ report now, lastReport? past = some (report, now) ∧
        report.allFailed = false ∧ ∀ name, (first.after past).statusOf name ≠ some .unhealthy)

theorem lastReport?_append_of_exists (c : HealthCall) (h : ∃ last, lastReport? past = some last) :
    ∃ last, lastReport? (past ++ [c]) = some last := by
  obtain ⟨last, hLast⟩ := h
  cases hReport : c.report? with
  | none => exact ⟨last, by simpa [lastReport?, hReport] using hLast⟩
  | some newer => exact ⟨newer, by simp [lastReport?, hReport]⟩

/-- A turn of the writer sets the flag, or is the write of one more call. -/
theorem Kept.write (h : Kept first past s) :
    (s.write.todo = s.todo ∧ Kept first past s.write) ∨
      ∃ c, s.todo = c :: s.write.todo ∧ Kept first (past ++ [c]) s.write := by
  obtain ⟨registry, todo, unflagged, flags⟩ := s
  obtain ⟨hComponents, hPending, hReady, hFlags⟩ := h
  have hAfter (c : HealthCall) :
      ((first.after past).record c).components = (first.after (past ++ [c])).components := by simp
  cases unflagged with
  | true =>
    exact .inl ⟨rfl, hComponents, fun h => by simp [SharedHealth.write] at h,
      fun _ => hPending rfl, hFlags⟩
  | false =>
    cases todo with
    | nil => exact .inl ⟨rfl, hComponents, hPending, hReady, hFlags⟩
    | cons c todo =>
      refine .inr ⟨c, ?_⟩
      cases c with
      | fetchFailed error now =>
        refine ⟨rfl, ?_, fun h => by simp [SharedHealth.write] at h,
          fun h => lastReport?_append_of_exists _ (hReady h),
          fun reader h => lastReport?_append_of_exists _ (hFlags reader h)⟩
        rw [← hAfter]
        exact congrArg (Keyed.put · _ _) hComponents
      | scraped report now =>
        refine ⟨rfl, ?_,
          fun _ => ⟨(report, now), by rw [lastReport?, List.reverse_append]; rfl⟩,
          fun h => lastReport?_append_of_exists _ (hReady h),
          fun reader h => lastReport?_append_of_exists _ (hFlags reader h)⟩
        rw [← hAfter]
        exact congrArg (componentsAfter · _ _) hComponents

/-- A reader who has seen the flag is told that the exporter is ready only while nothing is
unhealthy, and not if all collectors failed in the last report. -/
theorem Kept.shows_readiness (h : Kept first past s) (hFirst : first.AllHealthy) {reader : Nat}
    {flag : Bool} (hFlag : s.flags.get? reader = some flag) :
    Shows first past (.readiness s.registry.components (readinessOf flag s.registry.health)) := by
  refine ⟨h.components, fun hReady => ?_⟩
  obtain ⟨rfl, hStatus⟩ := readinessOf_ready_iff.mp hReady
  obtain ⟨⟨report, now⟩, hLast⟩ := h.flags reader hFlag
  have hNone (name : String) : (first.after past).statusOf name ≠ some .unhealthy := by
    intro hUnhealthy
    rw [HealthRegistry.health, h.components] at hStatus
    exact hStatus (status_eq_unhealthy_iff.mpr ⟨name, hUnhealthy⟩)
  refine ⟨report, now, hLast, ?_, hNone⟩
  rw [← Bool.not_eq_true]
  intro hAllFailed
  exact hNone _ ((orchestrator_unhealthy_iff hFirst past).mpr ⟨report, now, hLast, hAllFailed⟩)

/-- **One turn of anyone**: what the writer has written grows by one call at most, and what a reader
is told shows all of it. -/
theorem Kept.turn (h : Kept first past s) (hFirst : first.AllHealthy) (t : ProbeTurn) :
    (∃ new, s.todo = new ++ (s.turn t).1.todo ∧ Kept first (past ++ new) (s.turn t).1) ∧
      ∀ answer ∈ (s.turn t).2, Shows first past answer := by
  cases t with
  | writer =>
    refine ⟨?_, fun answer hAnswer => by simp [SharedHealth.turn] at hAnswer⟩
    rcases h.write with ⟨hTodo, hKept⟩ | ⟨c, hTodo, hKept⟩
    · exact ⟨[], hTodo.symm, (List.append_nil past).symm ▸ hKept⟩
    · exact ⟨[c], hTodo, hKept⟩
  | health =>
    refine ⟨⟨[], rfl, (List.append_nil past).symm ▸ h⟩, fun answer hAnswer => ?_⟩
    obtain rfl := List.mem_singleton.mp hAnswer
    exact congrArg HealthAnswer.ofComponents h.components
  | readiness reader =>
    rw [SharedHealth.turn]
    cases hFlag : s.flags.get? reader with
    | none =>
      refine ⟨⟨[], rfl, ?_⟩, fun answer hAnswer => by simp at hAnswer⟩
      rw [List.append_nil]
      refine ⟨h.components, h.pending, h.ready, fun other hOther => ?_⟩
      rw [Keyed.get?_put] at hOther
      split at hOther
      · exact h.ready (Option.some.inj hOther)
      · exact h.flags other hOther
    | some flag =>
      refine ⟨⟨[], rfl, ?_⟩, fun answer hAnswer => ?_⟩
      · rw [List.append_nil]
        refine ⟨h.components, h.pending, h.ready, fun other hOther => ?_⟩
        rw [Keyed.get?_erase] at hOther
        split at hOther
        · simp at hOther
        · exact h.flags other hOther
      · obtain rfl := List.mem_singleton.mp hAnswer
        exact h.shows_readiness hFirst hFlag

/-- Whoever has which turn, every reader is told about the calls that were written before some
point. -/
theorem Kept.run (h : Kept first past s) (hFirst : first.AllHealthy) (turns : List ProbeTurn) :
    ∀ answer ∈ (s.run turns).2,
      ∃ new rest, s.todo = new ++ rest ∧ Shows first (past ++ new) answer := by
  induction turns generalizing past s with
  | nil => simp [SharedHealth.run]
  | cons t turns ih =>
    intro answer hAnswer
    obtain ⟨⟨new, hTodo, hKept⟩, hShows⟩ := h.turn hFirst t
    rcases List.mem_append.mp hAnswer with hNow | hLater
    · exact ⟨[], s.todo, rfl, by simpa using hShows answer hNow⟩
    · obtain ⟨later, rest, hRest, hShown⟩ := ih hKept answer hLater
      exact ⟨new ++ later, rest, by rw [hTodo, hRest, List.append_assoc],
        by rwa [← List.append_assoc]⟩

theorem Kept.start (components : List (String × Int)) (calls : List HealthCall) :
    Kept (registered components) [] (SharedHealth.start components calls) := by
  refine ⟨rfl, fun h => by simp [SharedHealth.start] at h, fun h => ?_, fun reader h => ?_⟩
  · simp [SharedHealth.start, (registered_fresh components).2] at h
  · simp [SharedHealth.start, Keyed.get?, Keyed.empty] at h

end SharedHealth

/-- **Readers see whole calls.** Register any components, let one writer record any failed fetches
and reports, and let any number of readers have their turns in between, in any order. Then whoever
asks for the health is told the components after the first so many calls of the writer and nothing
of the others. Who asks whether the exporter is ready has read such components as well, and is told
that it is ready only if there is a report among those calls, not all collectors failed in the last
of them, and no component that was read is unhealthy. -/
theorem answers_show_whole_calls (components : List (String × Int)) (calls : List HealthCall)
    (turns : List ProbeTurn) (answer : ProbeAnswer)
    (hAnswer : answer ∈ ((SharedHealth.start components calls).run turns).2) :
    ∃ k ≤ calls.length, match answer with
      | .health answer => answer = ((registered components).after (calls.take k)).health
      | .readiness read answer =>
        read = ((registered components).after (calls.take k)).components ∧
          (answer.ready = true →
            (∃ report now, lastReport? (calls.take k) = some (report, now) ∧
              report.allFailed = false) ∧
            ∀ h ∈ read.values, h.status ≠ .unhealthy) := by
  obtain ⟨new, rest, hCalls, hShows⟩ :=
    (SharedHealth.Kept.start components calls).run
      (registered_fresh components).1 turns answer hAnswer
  rw [List.nil_append] at hShows
  have hTake : calls.take new.length = new := by
    rw [show calls = new ++ rest from hCalls, List.take_left]
  refine ⟨new.length, by rw [show calls = new ++ rest from hCalls]; simp, ?_⟩
  rw [hTake]
  cases answer with
  | health answer => exact hShows
  | readiness read answer =>
    refine ⟨hShows.1, fun hReady => ?_⟩
    obtain ⟨report, now, hLast, hSome, hNone⟩ := hShows.2 hReady
    refine ⟨⟨report, now, hLast, hSome⟩, fun h hMem hUnhealthy => ?_⟩
    rw [hShows.1, Keyed.mem_values_iff] at hMem
    obtain ⟨name, hGet⟩ := hMem
    exact hNone name (statusOf_eq_some_iff.mpr ⟨h, hGet, hUnhealthy⟩)

/-- A scrape in which all collectors fail, and a better one. -/
private def twoScrapes : List HealthCall :=
  [.scraped ⟨[⟨"files", some .sinkClosed⟩], .ofSeconds 0⟩ 10,
    .scraped ⟨[⟨"files", none⟩], .ofSeconds 0⟩ 20]

/-- One reader asks before the first flag is set, one between the scrapes, and one reads that flag
and, late, the components of the second scrape. -/
private def threeReaders : List ProbeTurn :=
  [.writer, .readiness 0, .writer, .readiness 0, .readiness 1, .readiness 2, .readiness 1, .writer,
    .readiness 2]

/-- What the late reader is told. -/
private def lateAnswer : ProbeAnswer :=
  .readiness ((registered [("files", 0)]).after twoScrapes).components ⟨true, none⟩

/-- Only the late reader is told that the exporter is ready, for the sake of the second scrape. -/
theorem late_reader_is_told_ready :
    ((SharedHealth.start [("files", 0)] twoScrapes).run threeReaders).2.map
        (fun | .health _ => false | .readiness _ answer => answer.ready) = [false, false, true] ∧
      lateAnswer ∈ ((SharedHealth.start [("files", 0)] twoScrapes).run threeReaders).2 ∧
      ∃ k ≤ twoScrapes.length, ∃ report now,
        lastReport? (twoScrapes.take k) = some (report, now) ∧ report.allFailed = false := by
  have hAnswer :
      lateAnswer ∈ ((SharedHealth.start [("files", 0)] twoScrapes).run threeReaders).2 := by
    decide +kernel
  refine ⟨by decide +kernel, hAnswer, ?_⟩
  obtain ⟨k, hk, -, hReady⟩ := answers_show_whole_calls _ _ _ lateAnswer hAnswer
  exact ⟨k, hk, (hReady rfl).1⟩

end TopologyExporter
