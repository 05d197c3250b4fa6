import TopologyExporter.Proofs.Scrape.Chronicle
import TopologyExporter.Proofs.Scrape.Publication

/-!
# Consecutive scrapes — in their order

A collector whose calls replace one file at most commits them in the order of the scrapes, and so
does it publish. A scrape that was abandoned does neither, whatever becomes of the job it left
behind.

## Results

* `Phase.Ordered.step`     — a step keeps the order of the chronicle.
* `Phase.Reaches.ordered`  — scrapes commit and publish in their order, and abandoned ones never
  do.
* `Phase.Reaches.served`   — what is served is what the last scrape sent that published it.
-/

namespace TopologyExporter

-- ---------------------------------------------------------------------------
-- The order of the chronicle
-- ---------------------------------------------------------------------------

/-- The order of a chronicle: files are committed and outputs published scrape after scrape, and
those of abandoned scrapes never. -/
structure Chronicle.Ordered (c : Chronicle) : Prop where
  committed : c.committed.Pairwise (· < ·)
  published : c.published.Pairwise (· < ·)
  apart     : ∀ k ∈ c.abandoned, k ∉ c.committed ∧ k ∉ c.published
  bounded   : ∀ k, k ∈ c.committed ∨ k ∈ c.abandoned ∨ k ∈ c.published →
    k < c.scraped.length

/-- What the chronicle says of a task under way: it replaces one file at most, as long as it may
still do so nothing is noted of its scrape, and if it was abandoned it has failed. -/
structure Task.Noted (t : Task) (c : Chronicle) : Prop where
  once    : t.filesAhead ≤ 1
  pending : 0 < t.filesAhead → c.latest ∉ c.committed ∧ c.latest ∉ c.abandoned
  failed  : c.latest ∈ c.abandoned → ∃ error, t.activity = .ended (some error)

/-- The order of a chronicle at some moment. -/
def Phase.Ordered (i : Nat) (c : Chronicle) : Phase → Prop
  | idle _ _ => c.Ordered
  | scraping _ run =>
    c.Ordered ∧ 0 < c.scraped.length ∧ c.latest ∉ c.published ∧
      ∀ t, run.tasks[i]? = some t → t.Noted c

namespace Chronicle

variable {c : Chronicle} {k : Nat}

/-- Nothing but a beginning and a commit is noted of what was scraped and committed. -/
theorem note_of_lost {happening : Happening} (h : happening = .abandons ∨ happening = .passes) :
    (c.note happening).scraped = c.scraped ∧ (c.note happening).committed = c.committed := by
  rcases h with rfl | rfl <;> exact ⟨rfl, rfl⟩

/-- The number of the next scrape is new. -/
theorem Ordered.notMem_next (h : c.Ordered) :
    c.scraped.length ∉ c.committed ∧ c.scraped.length ∉ c.abandoned ∧
      c.scraped.length ∉ c.published :=
  ⟨fun hk => absurd (h.bounded _ (.inl hk)) (by omega),
    fun hk => absurd (h.bounded _ (.inr (.inl hk))) (by omega),
    fun hk => absurd (h.bounded _ (.inr (.inr hk))) (by omega)⟩

/-- The latest scrape comes after all others in a list that it is not in. -/
theorem pairwise_append_latest {numbers : List Nat} (hSorted : numbers.Pairwise (· < ·))
    (hBounded : ∀ k ∈ numbers, k < c.scraped.length) (hNew : c.latest ∉ numbers) :
    (numbers ++ [c.latest]).Pairwise (· < ·) := by
  rw [List.pairwise_append]
  refine ⟨hSorted, List.pairwise_singleton _ _, ?_⟩
  intro k hk last hLast
  obtain rfl := List.mem_singleton.mp hLast
  have hLt := hBounded k hk
  have hNe : k ≠ c.latest := fun hEq => hNew (hEq ▸ hk)
  rw [latest] at hNe ⊢
  omega

theorem Ordered.begin (h : c.Ordered) (s : Snapshot) (clock : String → RunClock) :
    (c.note (.begins s clock)).Ordered where
  committed := h.committed
  published := h.published
  apart := h.apart
  bounded k hk := by
    have hLt := h.bounded k hk
    simp only [note, List.length_append, List.length_singleton]
    omega

theorem Ordered.commit (h : c.Ordered) (hScraped : 0 < c.scraped.length)
    (hNew : c.latest ∉ c.committed) (hKept : c.latest ∉ c.abandoned) :
    (c.note .commits).Ordered where
  committed := pairwise_append_latest h.committed (fun k hk => h.bounded k (.inl hk)) hNew
  published := h.published
  apart k hk := by
    refine ⟨fun hCommitted => ?_, (h.apart k hk).2⟩
    rcases List.mem_append.mp hCommitted with hBefore | hLast
    · exact (h.apart k hk).1 hBefore
    · exact hKept (List.mem_singleton.mp hLast ▸ hk)
  bounded k hk := by
    simp only [note, List.mem_append, List.mem_singleton] at hk ⊢
    rcases hk with (hCommitted | rfl) | hOther
    · exact h.bounded k (.inl hCommitted)
    · rw [latest]
      omega
    · exact h.bounded k (.inr hOther)

theorem Ordered.abandon (h : c.Ordered) (hScraped : 0 < c.scraped.length)
    (hCommitted : c.latest ∉ c.committed) (hPublished : c.latest ∉ c.published) :
    (c.note .abandons).Ordered where
  committed := h.committed
  published := h.published
  apart k hk := by
    rcases List.mem_append.mp hk with hBefore | hLast
    · exact h.apart k hBefore
    · rw [List.mem_singleton.mp hLast]
      exact ⟨hCommitted, hPublished⟩
  bounded k hk := by
    simp only [note, List.mem_append, List.mem_singleton] at hk ⊢
    rcases hk with hBefore | (hBefore | rfl) | hBefore
    · exact h.bounded k (.inl hBefore)
    · exact h.bounded k (.inr (.inl hBefore))
    · rw [latest]
      omega
    · exact h.bounded k (.inr (.inr hBefore))

theorem Ordered.publish (h : c.Ordered) (hScraped : 0 < c.scraped.length)
    (hNew : c.latest ∉ c.published) (hKept : c.latest ∉ c.abandoned) :
    (c.note .publishes).Ordered where
  committed := h.committed
  published := pairwise_append_latest h.published (fun k hk => h.bounded k (.inr (.inr hk))) hNew
  apart k hk := by
    refine ⟨(h.apart k hk).1, fun hPublished => ?_⟩
    rcases List.mem_append.mp hPublished with hBefore | hLast
    · exact (h.apart k hk).2 hBefore
    · exact hKept (List.mem_singleton.mp hLast ▸ hk)
  bounded k hk := by
    simp only [note, List.mem_append, List.mem_singleton] at hk ⊢
    rcases hk with hBefore | hBefore | (hBefore | rfl)
    · exact h.bounded k (.inl hBefore)
    · exact h.bounded k (.inr (.inl hBefore))
    · exact h.bounded k (.inr (.inr hBefore))
    · rw [latest]
      omega

end Chronicle

/-- **A task keeps to what is noted of it**, and what happens to it keeps the order. -/
theorem Task.Noted.turns {t t' : Task} {c : Chronicle} (h : t.Noted c) (hOrdered : c.Ordered)
    (hScraped : 0 < c.scraped.length) (hPublished : c.latest ∉ c.published)
    (hTurns : t.Turns t') :
    (c.note (t.happening t')).Ordered ∧ t'.Noted (c.note (t.happening t')) ∧
      (c.note (t.happening t')).scraped = c.scraped ∧
      (c.note (t.happening t')).published = c.published := by
  have hOnce := h.once
  rcases t.happening_cases t' with
    ⟨⟨file, hBefore⟩, hAfter, hHappening⟩ | ⟨⟨job, hBefore⟩, ⟨error, hAfter⟩,
      hHappening⟩ | hHappening
  · -- it commits, and has nothing left to replace
    obtain ⟨hCommitted, hAbandoned⟩ := h.pending (filesAhead_pos_of_staging hBefore)
    have hAhead := hTurns.filesAhead_of_ready hBefore hAfter
    rw [hHappening]
    refine ⟨hOrdered.commit hScraped hCommitted hAbandoned,
      ⟨by omega, by omega, ?_⟩, rfl, rfl⟩
    exact fun hLost => absurd hLost hAbandoned
  · -- it is abandoned, and over
    obtain ⟨hCommitted, -⟩ := h.pending (filesAhead_pos_of_staging hBefore)
    have hAhead := hTurns.filesAhead_of_ended hBefore hAfter
    rw [hHappening]
    refine ⟨hOrdered.abandon hScraped hCommitted hPublished,
      ⟨by omega, by omega, ?_⟩, rfl, rfl⟩
    exact fun _ => ⟨error, hAfter⟩
  · have hAhead := hTurns.filesAhead_le
    rw [hHappening]
    refine ⟨hOrdered, ⟨by omega, fun hPending => h.pending (by omega), ?_⟩, rfl, rfl⟩
    intro hLost
    obtain ⟨error, hEnded⟩ := h.failed hLost
    exact ⟨error, hTurns.eq_of_ended hEnded ▸ hEnded⟩

namespace Phase

variable {i : Nat} {c : Chronicle} {p p' first : Phase} {happening : Happening}

/-- **One step keeps the order of the chronicle**, if no call of the collector replaces more than
one file. -/
theorem Ordered.step (h : p.Ordered i c) (hStep : p.Step i happening p')
    (hOnce : ∀ d, p.orchestrator.collectors[i]? = some d →
      ∀ number s clock, (d.call number s clock).files ≤ 1) :
    p'.Ordered i (c.note happening) := by
  cases hStep with
  | @begins o storage s clock run hStart =>
    obtain ⟨hCommitted, hAbandoned, hPublished⟩ := Chronicle.Ordered.notMem_next h
    have hLatest : (c.note (.begins s clock)).latest = c.scraped.length := by
      simp [Chronicle.note, Chronicle.latest]
    refine ⟨Chronicle.Ordered.begin h s clock, by simp [Chronicle.note], ?_, ?_⟩
    · rwa [hLatest]
    · intro t hTask
      obtain ⟨d, hCollector, rfl⟩ := Orchestrator.start_task hStart hTask
      refine ⟨?_, ?_, ?_⟩
      · rw [Task.filesAhead_start]
        exact hOnce d hCollector _ _ _
      · intro _
        rw [hLatest]
        exact ⟨hCommitted, hAbandoned⟩
      · intro hLost
        rw [hLatest] at hLost
        exact absurd hLost hAbandoned
  | @goesOn o run run' shown hRun =>
    obtain ⟨hOrdered, hScraped, hPublished, hTasks⟩ := h
    have hTurns := hRun.turns i
    generalize hBefore : run.tasks[i]? = before at hTurns
    generalize hAfter : run'.tasks[i]? = after at hTurns
    cases hTurns with
    | none =>
      rw [Run.happening_of_same (hAfter.trans hBefore.symm)]
      exact ⟨hOrdered, hScraped, hPublished, fun t hTask => by simp [hAfter] at hTask⟩
    | @some t t' hTurns =>
      rw [Run.happening_of_tasks hBefore hAfter]
      obtain ⟨hOrdered', hNoted, hSame, hSame'⟩ :=
        (hTasks t hBefore).turns hOrdered hScraped hPublished hTurns
      refine ⟨hOrdered', hSame ▸ hScraped, ?_, fun u hTask => ?_⟩
      · rwa [Chronicle.latest, hSame', hSame]
      · rw [hAfter, Option.some.injEq] at hTask
        exact hTask ▸ hNoted
  | @concludes o run hOver elapsed =>
    obtain ⟨hOrdered, hScraped, hPublished, hTasks⟩ := h
    split
    case isFalse => exact hOrdered
    case isTrue hSuccess =>
      refine hOrdered.publish hScraped hPublished fun hLost => ?_
      rw [Option.any_eq_true] at hSuccess
      obtain ⟨outcome, hOutcome, hSuccess⟩ := hSuccess
      rw [Run.outcomes, List.getElem?_map, Option.map_eq_some_iff] at hOutcome
      obtain ⟨t, hTask, rfl⟩ := hOutcome
      obtain ⟨error, hEnded⟩ := (hTasks t hTask).failed hLost
      simp [Outcome.isSuccess, Task.outcome, hEnded] at hSuccess
  | sweeps hSweep => exact h

/-- **Scrapes commit and publish in their order, and abandoned ones never do.** -/
theorem Reaches.ordered {o : Orchestrator} {storage : Storage}
    (h : (Phase.idle o storage).Reaches i c p)
    (hOnce : ∀ d, o.collectors[i]? = some d →
      ∀ number s clock, (d.call number s clock).files ≤ 1) :
    p.Ordered i c := by
  induction h with
  | start => exact ⟨.nil, .nil, by simp [Chronicle.empty], by simp [Chronicle.empty]⟩
  | step hReaches hStep ih =>
    refine ih.step hStep ?_
    rw [hReaches.collectors_eq]
    exact hOnce

/-- Whether no other task has files to replace. -/
def Alone (i : Nat) : Phase → Prop
  | idle _ _ => True
  | scraping _ run => ∀ j t, j ≠ i → run.tasks[j]? = some t → t.filesAhead = 0

/-- A collector whose companions replace no files stays alone with its own. -/
theorem Alone.step (h : p.Alone i) (hStep : p.Step i happening p')
    (hOthers : ∀ j d, j ≠ i → p.orchestrator.collectors[j]? = some d →
      ∀ number s clock, (d.call number s clock).files = 0) : p'.Alone i := by
  cases hStep with
  | begins hStart =>
    intro j t hj hTask
    obtain ⟨d, hCollector, rfl⟩ := Orchestrator.start_task hStart hTask
    rw [Task.filesAhead_start]
    exact hOthers j d hj hCollector _ _ _
  | @goesOn o run run' shown hRun =>
    intro j t' hj hTask'
    have hTurns := hRun.turns j
    rw [hTask'] at hTurns
    generalize hTask : run.tasks[j]? = before at hTurns
    cases hTurns with
    | @some t _ hTurns =>
      have hLe := hTurns.filesAhead_le
      rw [h j t hj hTask] at hLe
      exact Nat.le_zero.mp hLe
  | concludes hOver elapsed => trivial
  | sweeps hSweep => trivial

theorem Reaches.alone {o : Orchestrator} {storage : Storage}
    (h : (Phase.idle o storage).Reaches i c p)
    (hOthers : ∀ j d, j ≠ i → o.collectors[j]? = some d →
      ∀ number s clock, (d.call number s clock).files = 0) : p.Alone i := by
  induction h with
  | start => trivial
  | step hReaches hStep ih =>
    refine ih.step hStep ?_
    rw [hReaches.collectors_eq]
    exact hOthers

theorem Ordered.chronicle (h : p.Ordered i c) : c.Ordered := by
  cases p with
  | idle o storage => exact h
  | scraping o run => exact h.1

end Phase

-- ---------------------------------------------------------------------------
-- What is published
-- ---------------------------------------------------------------------------

/-- The complete output of a collector in the scrape of a number, the first scrape being that of an
orchestrator. -/
def Chronicle.output (c : Chronicle) (o : Orchestrator) (d : Collector) (k : Nat) : List Family :=
  match c.scraped[k]? with
  | some (s, clock) => (d.call (o.scrapes + k) s (clock d.name)).output
  | none => []

/-- What the orchestrator should serve of a collector: what the last scrape sent that published
it. -/
def Chronicle.served (c : Chronicle) (o : Orchestrator) (d : Collector) : List Family :=
  match c.published.getLast? with
  | some k => c.output o d k
  | none => o.latest.familiesFor d.name

namespace Chronicle

variable {c : Chronicle} {o : Orchestrator} {d : Collector}

/-- The scrapes before one that begins are as they were. -/
theorem output_begin {k : Nat} (hk : k < c.scraped.length) (s : Snapshot)
    (clock : String → RunClock) : (c.note (.begins s clock)).output o d k = c.output o d k := by
  rw [output, output, note, List.getElem?_append_left hk]

theorem Ordered.served_begin (h : c.Ordered) (s : Snapshot) (clock : String → RunClock) :
    (c.note (.begins s clock)).served o d = c.served o d := by
  show (match c.published.getLast? with | some k => _ | none => _) = c.served o d
  unfold served
  cases hLast : c.published.getLast? with
  | none => rfl
  | some k => exact output_begin (h.bounded k (.inr (.inr (List.mem_of_getLast? hLast)))) s clock

end Chronicle

/-- What is served at some moment, and during a scrape how it began. -/
structure Phase.Served (o : Orchestrator) (d : Collector) (c : Chronicle) (p : Phase) : Prop where
  served : p.orchestrator.latest.familiesFor d.name = c.served o d
  number : match p with
    | .idle o' _ => o'.scrapes = o.scrapes + c.scraped.length
    | .scraping o' _ => o'.scrapes = o.scrapes + c.latest
  begun  : ∀ o' run, p = .scraping o' run → ∃ storage s clock first events,
    c.scraped[c.latest]? = some (s, clock) ∧ o'.start storage s clock = .ok first ∧
      first.History events run

namespace Phase

variable {i : Nat} {c : Chronicle} {p p' : Phase} {happening : Happening} {o : Orchestrator}
  {storage : Storage} {d : Collector}

/-- One step keeps what is served. -/
theorem Served.step (h : p.Served o d c) (hOrdered : p.Ordered i c) (hStep : p.Step i happening p')
    (hNames : p.orchestrator.names.Nodup) (hCollector : p.orchestrator.collectors[i]? = some d) :
    p'.Served o d (c.note happening) := by
  cases hStep with
  | @begins o' storage s clock run hStart =>
    have hLatest : (c.note (.begins s clock)).latest = c.scraped.length := by
      simp [Chronicle.note, Chronicle.latest]
    constructor
    case served => exact h.served.trans (hOrdered.chronicle.served_begin s clock).symm
    case number =>
      show o'.scrapes = o.scrapes + (c.note (.begins s clock)).latest
      rw [hLatest]
      exact h.number
    case begun =>
      intro o'' run' hPhase
      obtain ⟨rfl, rfl⟩ := Phase.scraping.inj hPhase
      refine ⟨storage, s, clock, run, [], ?_, hStart, .start⟩
      rw [hLatest]
      simp [Chronicle.note]
  | @goesOn o' run run' shown hRun =>
    have hBegun (o'' : Orchestrator) (run'' : Run)
        (hPhase : Phase.scraping o' run' = .scraping o'' run'') :
        ∃ storage s clock first events, c.scraped[c.latest]? = some (s, clock) ∧
          o''.start storage s clock = .ok first ∧ first.History events run'' := by
      obtain ⟨rfl, rfl⟩ := Phase.scraping.inj hPhase
      obtain ⟨storage, s, clock, first, events, hScraped, hStart, hHistory⟩ :=
        h.begun o' run rfl
      exact ⟨storage, s, clock, first, _, hScraped, hStart, hHistory.step hRun⟩
    -- what happens to a task changes neither the scrapes nor what they published
    rcases run.happening_cases run' i with hHappening | hHappening | hHappening
    all_goals
      rw [hHappening]
      exact ⟨h.served, h.number, hBegun⟩
  | @concludes o' run hOver elapsed =>
    obtain ⟨storage, s, clock, first, events, hScraped, hStart, hHistory⟩ := h.begun o' run rfl
    obtain ⟨error, hOutcome, -, -, hSent, hServed⟩ :=
      (Orchestrator.Scrapes.concluded hStart hHistory hOver elapsed).outcome hNames hCollector
    have hNumber : o'.scrapes = o.scrapes + c.latest := h.number
    have hLength : o'.scrapes + 1 = o.scrapes + c.scraped.length := by
      have hPos := hOrdered.2.1
      rw [hNumber, Chronicle.latest]
      omega
    have hOutcome' : run.outcomes[i]? = some ⟨d.name, error⟩ := hOutcome
    rw [hOutcome', Option.any_some, Outcome.isSuccess]
    cases error with
    | none =>
      refine ⟨?_, hLength, by simp⟩
      refine hServed.trans ?_
      simp [hSent, hNumber, Chronicle.note, Chronicle.served, Chronicle.output, hScraped]
    | some error => exact ⟨hServed.trans h.served, hLength, by simp⟩
  | sweeps hSweep => exact ⟨h.served, h.number, by simp⟩

/-- The task of a collector goes through its call for what is scraped. -/
theorem Served.accounted (h : p.Served o d c) (hCollector : p.orchestrator.collectors[i]? = some d)
    {t : Task} (hOwn : p.own? i = some t) :
    ∃ number s clock limit sent endings, c.scraped[c.latest]? = some (s, clock) ∧
      t.Accounted limit d.name (d.call number s (clock d.name)) sent endings := by
  cases p with
  | idle o' storage => simp [own?] at hOwn
  | scraping o' run =>
    obtain ⟨storage, s, clock, first, events, hScraped, hStart, hHistory⟩ := h.begun o' run rfl
    have hCall : (o'.calls s clock)[i]? = some (d.name, d.call o'.scrapes s (clock d.name)) := by
      have hHere : o'.collectors[i]? = some d := hCollector
      simp [Orchestrator.calls, hHere]
    have hAccount := hHistory.accounted (Orchestrator.accounted_of_start hStart)
    exact ⟨_, s, clock, _, _, _, hScraped, hAccount.tasks i t _ hOwn hCall⟩

/-- **Abandoned scrapes publish nothing**: what is served of a collector is what the last scrape
sent that published it. -/
theorem Reaches.served (h : (Phase.idle o storage).Reaches i c p) (hNames : o.names.Nodup)
    (hCollector : o.collectors[i]? = some d)
    (hOnce : ∀ number s clock, (d.call number s clock).files ≤ 1) : p.Served o d c := by
  induction h with
  | start => exact ⟨rfl, rfl, by simp⟩
  | @step c p p' happening hReaches hStep ih =>
    have hSame : p.orchestrator.collectors = o.collectors := hReaches.collectors_eq
    have hOrdered : p.Ordered i c := hReaches.ordered fun d' hCollector' => by
      rw [hCollector, Option.some.injEq] at hCollector'
      exact hCollector' ▸ hOnce
    refine ih.step hOrdered hStep ?_ (hSame ▸ hCollector)
    rwa [Orchestrator.names, hSame]

end Phase

end TopologyExporter
