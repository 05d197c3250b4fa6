import TopologyExporter.Proofs.Scrape.Publication
import TopologyExporter.Proofs.Scrape.Turns

/-!
# Consecutive scrapes — what becomes of the files of one collector

Scrapes follow each other: one begins when the one before has concluded. The jobs that time limits
leave behind go on by themselves, during later scrapes and between them. A **chronicle** notes,
scrape by scrape, what becomes of the file that one collector replaces: whether it was committed,
whether it was abandoned because the limit struck first, and whether the scrape published what the
collector sent.

## Results

* `Phase.Step`, `Phase.Reaches`  — the steps of consecutive scrapes, and what they come to.
* `Orchestrator.start_task`      — a scrape begins with one task for each collector.
* `Phase.Reaches.of_replay?`     — following given moves is one way in which scrapes come about.
-/

namespace TopologyExporter

-- ---------------------------------------------------------------------------
-- Phases
-- ---------------------------------------------------------------------------

/-- Between two scrapes, or in the middle of one. -/
inductive Phase
  | idle (o : Orchestrator) (storage : Storage)
  | scraping (o : Orchestrator) (run : Run)

namespace Phase

/-- The orchestrator as of the last scrape that has concluded. -/
def orchestrator : Phase → Orchestrator
  | idle o _ => o
  | scraping o _ => o

/-- The files, and the jobs that no task waits for. -/
def storage : Phase → Storage
  | idle _ storage => storage
  | scraping _ run => run.storage

end Phase

/-- A step of consecutive scrapes, with what happens to the collector at position `i`. Time limits
strike at any moment, and the jobs that are left behind go on whenever they like. -/
inductive Phase.Step (i : Nat) : Phase → Happening → Phase → Prop
  | begins {o : Orchestrator} {storage : Storage} {s : Snapshot} {clock : String → RunClock}
      {run : Run} (hStart : o.start storage s clock = .ok run) :
      Step i (.idle o storage) (.begins s clock) (.scraping o run)
  | goesOn {o : Orchestrator} {run run' : Run} {shown : List RunEvent}
      (hStep : run.Step shown run') :
      Step i (.scraping o run) (run.happening run' i) (.scraping o run')
  | concludes {o : Orchestrator} {run : Run} (hOver : run.isOver = true) (elapsed : Duration) :
      Step i (.scraping o run) (if run.outcomes[i]?.any Outcome.isSuccess
        then .publishes else .passes)
        (.idle (o.conclude run elapsed).orchestrator (o.conclude run elapsed).storage)
  | sweeps {o : Orchestrator} {storage storage' : Storage} {j : Nat}
      (hSweep : storage.sweep? j = some storage') :
      Step i (.idle o storage) .passes (.idle o storage')

-- ---------------------------------------------------------------------------
-- Chronicles
-- ---------------------------------------------------------------------------

/-- What was scraped, and which scrapes, by number from zero on, committed a file, abandoned one,
and published. -/
structure Chronicle where
  scraped : List (Snapshot × (String → RunClock))
  committed : List Nat
  abandoned : List Nat
  published : List Nat

namespace Chronicle

/-- Nothing has happened. -/
def empty : Chronicle := ⟨[], [], [], []⟩

/-- The number of the latest scrape. -/
def latest (c : Chronicle) : Nat := c.scraped.length - 1

/-- Notes what happens; all but a beginning is about the latest scrape. -/
def note (c : Chronicle) : Happening → Chronicle
  | .begins s clock => { c with scraped := c.scraped ++ [(s, clock)] }
  | .commits => { c with committed := c.committed ++ [c.latest] }
  | .abandons => { c with abandoned := c.abandoned ++ [c.latest] }
  | .publishes => { c with published := c.published ++ [c.latest] }
  | .passes => c

end Chronicle

/-- What consecutive scrapes come to in any order of steps, with the chronicle of them. -/
inductive Phase.Reaches (i : Nat) (first : Phase) : Chronicle → Phase → Prop
  | start : Reaches i first .empty first
  | step {c : Chronicle} {p p' : Phase} {happening : Happening} (hReaches : Reaches i first c p)
      (hStep : p.Step i happening p') : Reaches i first (c.note happening) p'

-- ---------------------------------------------------------------------------
-- What stays
-- ---------------------------------------------------------------------------

/-- A scrape begins with one task for each collector. -/
theorem Orchestrator.start_eq_ok {o : Orchestrator} {storage : Storage} {s : Snapshot}
    {clock : String → RunClock} {run : Run} (h : o.start storage s clock = .ok run) :
    run.tasks = (o.calls s clock).map (fun call => .start call.1 call.2) ∧
    run.storage = storage := by
  obtain ⟨-, -, rfl⟩ := start_eq_ok_iff.mp h
  exact ⟨rfl, rfl⟩

/-- The task of a collector at the beginning of a scrape. -/
theorem Orchestrator.start_task {o : Orchestrator} {storage : Storage} {s : Snapshot}
    {clock : String → RunClock} {run : Run} (h : o.start storage s clock = .ok run) {i : Nat}
    {t : Task} (hTask : run.tasks[i]? = some t) :
    ∃ d, o.collectors[i]? = some d ∧ t = .start d.name (d.call o.scrapes s (clock d.name)) := by
  rw [(start_eq_ok h).1, calls, List.map_map, List.getElem?_map, Option.map_eq_some_iff] at hTask
  obtain ⟨d, hCollector, rfl⟩ := hTask
  exact ⟨d, hCollector, rfl⟩

namespace Phase

variable {i : Nat} {c : Chronicle} {p p' first : Phase} {happening : Happening}

/-- No step changes the collectors. -/
theorem Step.collectors_eq (h : p.Step i happening p') :
    p'.orchestrator.collectors = p.orchestrator.collectors := by
  cases h <;> rfl

theorem Reaches.collectors_eq (h : first.Reaches i c p) :
    p.orchestrator.collectors = first.orchestrator.collectors := by
  induction h with
  | start => rfl
  | step _ hStep ih => rw [hStep.collectors_eq, ih]

/-- The task of a collector, during a scrape. -/
def own? (i : Nat) : Phase → Option Task
  | idle _ _ => none
  | scraping _ run => run.tasks[i]?

end Phase

-- ---------------------------------------------------------------------------
-- Given moves
-- ---------------------------------------------------------------------------

/-- A move of consecutive scrapes. -/
inductive PhaseMove
  | begin (s : Snapshot) (clock : String → RunClock)
  /-- The run of the scrape makes a move. -/
  | within (move : Move)
  | conclude (elapsed : Duration)
  /-- A job that is left behind goes on between two scrapes. -/
  | sweep (job : Nat)

namespace Phase

/-- What a move makes of a phase, if it can be made, and what happens then. -/
def move? (i : Nat) : PhaseMove → Phase → Option (Happening × Phase)
  | .begin s clock, idle o storage =>
    match o.start storage s clock with
    | .ok run => some (.begins s clock, scraping o run)
    | .error _ => none
  | .within move, scraping o run => do
    let next ← run.move? move
    pure (run.happening next i, scraping o next)
  | .conclude elapsed, scraping o run =>
    if run.isOver then
      some (if run.outcomes[i]?.any Outcome.isSuccess then .publishes else .passes,
        idle (o.conclude run elapsed).orchestrator (o.conclude run elapsed).storage)
    else none
  | .sweep job, idle o storage => do
    let storage ← storage.sweep? job
    pure (.passes, idle o storage)
  | _, _ => none

/-- Follows given moves, if they can all be made, and notes what happens. -/
def replay? (i : Nat) : List PhaseMove → Chronicle → Phase → Option (Chronicle × Phase)
  | [], c, p => some (c, p)
  | m :: rest, c, p => do
    let (happening, next) ← p.move? i m
    replay? i rest (c.note happening) next

variable {i : Nat} {c c' : Chronicle} {p p' first : Phase} {happening : Happening}

/-- Every move is a step. -/
theorem Step.of_move? {m : PhaseMove} (h : p.move? i m = some (happening, p')) :
    p.Step i happening p' := by
  unfold move? at h
  split at h
  case h_1 s clock o storage =>
    split at h
    case h_1 run hStart =>
      obtain ⟨rfl, rfl⟩ := Prod.mk.inj (Option.some.inj h)
      exact .begins hStart
    case h_2 => simp at h
  case h_2 move o run =>
    obtain ⟨next, hMove, h⟩ := Option.bind_eq_some_iff.mp h
    obtain ⟨rfl, rfl⟩ := Prod.mk.inj (Option.some.inj h)
    exact .goesOn (.of_move? hMove)
  case h_3 elapsed o run =>
    split at h
    case isFalse => simp at h
    case isTrue hOver =>
      obtain ⟨rfl, rfl⟩ := Prod.mk.inj (Option.some.inj h)
      exact .concludes hOver elapsed
  case h_4 job o storage =>
    obtain ⟨storage', hSweep, h⟩ := Option.bind_eq_some_iff.mp h
    obtain ⟨rfl, rfl⟩ := Prod.mk.inj (Option.some.inj h)
    exact .sweeps hSweep
  case h_5 => simp at h

/-- Following given moves is one way in which scrapes come about. -/
theorem Reaches.of_replay? {moves : List PhaseMove} (h : first.Reaches i c p)
    (hMoves : replay? i moves c p = some (c', p')) : first.Reaches i c' p' := by
  induction moves generalizing c p with
  | nil =>
    obtain ⟨rfl, rfl⟩ := Prod.mk.inj (Option.some.inj hMoves)
    exact h
  | cons m rest ih =>
    rw [replay?] at hMoves
    obtain ⟨⟨happening, next⟩, hMove, hRest⟩ := Option.bind_eq_some_iff.mp hMoves
    exact ih (h.step (.of_move? hMove)) hRest

end Phase

end TopologyExporter
