import Mathlib.Data.List.Nodup
import TopologyExporter.Proofs.Scrape.Task

/-!
# Runs — histories in any order

A run goes on by steps in any order: whichever task, job or receiver moves next, and a time limit
may strike a task at any moment before it is over. A **history** is any sequence of such steps
together with what they show: the families that tasks send and how tasks end.

## Results

* `familiesOf_sinkItems`     — with distinct names, what came from a collector is what its task
  sent.
* `Run.proceed_eq_some` etc. — what each move changes.
* `Run.Step.of_move?`        — every move of a run is a step.
* `Run.History.of_replay?`   — following given moves gives a history.
-/

namespace TopologyExporter

-- ---------------------------------------------------------------------------
-- Events
-- ---------------------------------------------------------------------------

/-- What can be seen of a run: a task sends a family, or is over. Tasks are given by position. -/
inductive RunEvent
  | sent (task : Nat) (family : Family)
  | ended (task : Nat) (error : Option CollectorError)
deriving Repr, DecidableEq, Inhabited

/-- The families that a task sent, in order. -/
def sentBy (i : Nat) (events : List RunEvent) : List Family :=
  events.filterMap fun
    | .sent j family => if j = i then some family else none
    | .ended _ _ => none

/-- The endings of a task. -/
def endingsOf (i : Nat) (events : List RunEvent) : List (Option CollectorError) :=
  events.filterMap fun
    | .sent _ _ => none
    | .ended j error => if j = i then some error else none

/-- The item that an event puts into the channel of a run of some calls. -/
def sinkItem? (calls : List (String × Call)) : RunEvent → Option SinkItem
  | .sent i family => calls[i]?.map fun c => ⟨c.1, family⟩
  | .ended _ _ => none

/-- The ending of a task that is over. -/
def Task.endings (t : Task) : List (Option CollectorError) :=
  match t.activity with
  | .ended error => [error]
  | _ => []

/-- The events of one task. -/
def taskEvents (i : Nat) (families : List Family) (endings : List (Option CollectorError)) :
    List RunEvent :=
  families.map (.sent i) ++ endings.map (.ended i)

@[simp] theorem sinkItem?_sent (calls : List (String × Call)) (i : Nat) (family : Family) :
    sinkItem? calls (.sent i family) = calls[i]?.map fun c => ⟨c.1, family⟩ := rfl

@[simp] theorem sinkItem?_ended (calls : List (String × Call)) (i : Nat)
    (error : Option CollectorError) : sinkItem? calls (.ended i error) = none := rfl

section Events

variable (i j : Nat) (families : List Family) (endings : List (Option CollectorError))

@[simp] theorem sentBy_append (a b : List RunEvent) :
    sentBy i (a ++ b) = sentBy i a ++ sentBy i b :=
  List.filterMap_append

@[simp] theorem endingsOf_append (a b : List RunEvent) :
    endingsOf i (a ++ b) = endingsOf i a ++ endingsOf i b :=
  List.filterMap_append

theorem sentBy_taskEvents_self : sentBy i (taskEvents i families endings) = families := by
  simp [sentBy, taskEvents, List.filterMap_map]

theorem sentBy_taskEvents_of_ne (h : i ≠ j) : sentBy j (taskEvents i families endings) = [] := by
  simp [sentBy, taskEvents, List.filterMap_map, h]

theorem endingsOf_taskEvents_self : endingsOf i (taskEvents i families endings) = endings := by
  simp [endingsOf, taskEvents, List.filterMap_map]

theorem endingsOf_taskEvents_of_ne (h : i ≠ j) :
    endingsOf j (taskEvents i families endings) = [] := by
  simp [endingsOf, taskEvents, List.filterMap_map, h]

theorem sinkItems_taskEvents {calls : List (String × Call)} {c : String × Call}
    (h : calls[i]? = some c) :
    (taskEvents i families endings).filterMap (sinkItem? calls) =
      families.map (SinkItem.mk c.1) := by
  simp [taskEvents, List.filterMap_map, Function.comp_def, sinkItem?, h]

end Events

/-- With distinct names, what came from a collector is what its task sent. -/
theorem familiesOf_sinkItems {calls : List (String × Call)} {i : Nat} {c : String × Call}
    (hNames : (calls.map Prod.fst).Nodup) (hCall : calls[i]? = some c) (events : List RunEvent) :
    familiesOf c.1 (events.filterMap (sinkItem? calls)) = sentBy i events := by
  induction events with
  | nil => rfl
  | cons e rest ih =>
    cases e with
    | ended j error =>
      rw [List.filterMap_cons_none rfl]
      simpa [sentBy] using ih
    | sent j family =>
      by_cases hij : j = i
      · subst hij
        simpa [sentBy, hCall, familiesOf] using ih
      · cases hOther : calls[j]? with
        | none => simpa [sentBy, hij, hOther] using ih
        | some d =>
          -- a task at another position has another name
          have hName : d.1 ≠ c.1 := by
            intro hEq
            have hj : j < (calls.map Prod.fst).length := by
              simpa using (List.getElem?_eq_some_iff.mp hOther).1
            exact hij ((List.getElem?_inj hj hNames).mp (by simp [hCall, hOther, hEq]))
          simpa [sentBy, hij, hOther, familiesOf, hName] using ih

-- ---------------------------------------------------------------------------
-- Steps and histories
-- ---------------------------------------------------------------------------

namespace Run

/-- The events of the task at a position, given the run before and after it went on. -/
def shown (before after : Run) (i : Nat) : List RunEvent :=
  taskEvents i ((after.channel.waiting.drop before.channel.waiting.length).map SinkItem.family)
    (after.tasks[i]?.toList.flatMap Task.endings)

/-- The run after a task has timed out. -/
def timeOut (r : Run) (i : Nat) (t : Task) : Run :=
  { r with
    tasks := r.tasks.set i (t.finish (some (.timeout t.collector r.limit)))
    storage := { r.storage with abandoned := r.storage.abandoned ++ t.job?.toList } }

/-- A step of a run, with what it shows. A time limit may strike whenever a task is not over: how
late its timer is looked at, and whether there was room in the channel just then, is left open. -/
inductive Step (r : Run) : List RunEvent → Run → Prop
  | proceeds {i : Nat} {r' : Run} (hMove : r.move? (.proceed i) = some r') :
      Step r (r.shown r' i) r'
  | timesOut {i : Nat} {t : Task} (hTask : r.tasks[i]? = some t) (hActive : t.hasEnded = false) :
      Step r [.ended i (some (.timeout t.collector r.limit))] (r.timeOut i t)
  | stages {i : Nat} {r' : Run} (hMove : r.move? (.stage i) = some r') : Step r [] r'
  | receives {r' : Run} (hMove : r.move? .receive = some r') : Step r [] r'
  | sweeps {i : Nat} {r' : Run} (hMove : r.move? (.sweep i) = some r') : Step r [] r'
  | advances {r' : Run} (hMove : r.move? .advance = some r') : Step r [] r'

/-- A history of a run: any steps, in any order. -/
inductive History (first : Run) : List RunEvent → Run → Prop
  | start : History first [] first
  | step {events new : List RunEvent} {r r' : Run} (hHistory : History first events r)
      (hStep : r.Step new r') : History first (events ++ new) r'

variable {r r' : Run} {i : Nat}

/-- A task that goes on: everything that changes in its run. -/
theorem proceed_eq_some (h : r.move? (.proceed i) = some r') :
    ∃ t t' channel tree, r.tasks[i]? = some t ∧
      t.Proceeds r.channel r.storage.tree r.now t' channel tree ∧
      r' = { r with tasks := r.tasks.set i t', channel, storage := { r.storage with tree } } := by
  rw [move?, proceed?] at h
  obtain ⟨t, hTask, h⟩ := Option.bind_eq_some_iff.mp h
  obtain ⟨⟨t', channel, tree⟩, hStep, h⟩ := Option.bind_eq_some_iff.mp h
  exact ⟨t, t', channel, tree, hTask, .of_proceed? hStep, (Option.some.inj h).symm⟩

/-- A task that times out in the order of moves does so before it is over. -/
theorem expire_eq_some (h : r.move? (.expire i) = some r') :
    ∃ t, r.tasks[i]? = some t ∧ t.hasEnded = false ∧ r' = r.timeOut i t := by
  rw [move?, expire?] at h
  obtain ⟨t, hTask, h⟩ := Option.bind_eq_some_iff.mp h
  split at h
  case isTrue => simp at h
  case isFalse hWaits =>
    refine ⟨t, hTask, ?_, (Option.some.inj h).symm⟩
    simp only [Bool.or_eq_true, not_or, Bool.not_eq_true] at hWaits
    exact hWaits.1.1

theorem stage_eq_some (h : r.move? (.stage i) = some r') :
    ∃ t job, r.tasks[i]? = some t ∧ t.activity = .staging job ∧ job.isOver = false ∧
      r' = { r with
        tasks := r.tasks.set i { t with activity := .staging (job.finish r.storage.tree).1 }
        storage := { r.storage with tree := (job.finish r.storage.tree).2 } } := by
  rw [move?, stage?] at h
  obtain ⟨t, hTask, h⟩ := Option.bind_eq_some_iff.mp h
  obtain ⟨job, hJob, h⟩ := Option.bind_eq_some_iff.mp h
  split at h
  case isTrue => simp at h
  case isFalse hOver =>
    exact ⟨t, job, hTask, Task.activity_of_job? hJob, by simpa using hOver,
      (Option.some.inj h).symm⟩

theorem receive_eq_some (h : r.move? .receive = some r') :
    ∃ item rest, r.channel.waiting = item :: rest ∧
      r' = { r with
        channel := { r.channel with waiting := rest }
        received := r.received ++ [item] } := by
  rw [move?, receive?] at h
  obtain ⟨⟨item, channel⟩, hReceive, h⟩ := Option.bind_eq_some_iff.mp h
  unfold Channel.receive at hReceive
  split at hReceive
  case h_1 => simp at hReceive
  case h_2 first rest hWaiting =>
    simp only [Option.some.injEq, Prod.mk.injEq] at hReceive
    obtain ⟨rfl, rfl⟩ := hReceive
    exact ⟨first, rest, hWaiting, (Option.some.inj h).symm⟩

theorem sweep_eq_some (h : r.move? (.sweep i) = some r') :
    ∃ storage, r.storage.sweep? i = some storage ∧ r' = { r with storage } := by
  rw [move?] at h
  obtain ⟨storage, hSweep, h⟩ := Option.bind_eq_some_iff.mp h
  exact ⟨storage, hSweep, (Option.some.inj h).symm⟩

theorem advance_eq_some (h : r.move? .advance = some r') :
    ∃ time, r.timers.min? = some time ∧ r' = { r with now := time } := by
  rw [move?, advance?] at h
  obtain ⟨time, hTime, h⟩ := Option.bind_eq_some_iff.mp h
  exact ⟨time, hTime, (Option.some.inj h).symm⟩

-- ---------------------------------------------------------------------------
-- Given moves
-- ---------------------------------------------------------------------------

/-- The events of a move, given the run before and after it. -/
def eventsOf (before after : Run) : Move → List RunEvent
  | .proceed i => before.shown after i
  | .expire i => before.shown after i
  | _ => []

/-- Follows given moves, if they can all be made. -/
def replay? : List Move → Run → Option (List RunEvent × Run)
  | [], r => some ([], r)
  | m :: rest, r => do
    let next ← r.move? m
    let (events, last) ← replay? rest next
    pure (r.eventsOf next m ++ events, last)

/-- Every move of a run is a step. -/
theorem Step.of_move? {m : Move} (h : r.move? m = some r') : r.Step (r.eventsOf r' m) r' := by
  cases m with
  | proceed i => exact .proceeds h
  | expire i =>
    obtain ⟨t, hTask, hActive, rfl⟩ := expire_eq_some h
    have hi : i < r.tasks.length := (List.getElem?_eq_some_iff.mp hTask).1
    have hShown : r.eventsOf (r.timeOut i t) (.expire i) =
        [.ended i (some (.timeout t.collector r.limit))] := by
      simp [Run.eventsOf, shown, timeOut, taskEvents, hi, Task.endings, Task.finish]
    exact hShown ▸ .timesOut hTask hActive
  | stage i => exact .stages h
  | receive => exact .receives h
  | sweep i => exact .sweeps h
  | advance => exact .advances h

/-- A history goes on with a later one. -/
theorem History.trans {first middle last : Run} {events later : List RunEvent}
    (h : first.History events middle) (hLater : middle.History later last) :
    first.History (events ++ later) last := by
  induction hLater with
  | start => rwa [List.append_nil]
  | step _ hStep ih => exact List.append_assoc .. ▸ ih.step hStep

/-- Following given moves gives a history. -/
theorem History.of_replay? {moves : List Move} {first last : Run} {events : List RunEvent}
    (h : first.replay? moves = some (events, last)) : first.History events last := by
  induction moves generalizing first events with
  | nil =>
    simp only [replay?, Option.some.injEq, Prod.mk.injEq] at h
    obtain ⟨rfl, rfl⟩ := h
    exact .start
  | cons m rest ih =>
    rw [replay?] at h
    obtain ⟨next, hMove, h⟩ := Option.bind_eq_some_iff.mp h
    obtain ⟨⟨later, last'⟩, hRest, h⟩ := Option.bind_eq_some_iff.mp h
    simp only [pure, Option.some.injEq, Prod.mk.injEq] at h
    obtain ⟨rfl, rfl⟩ := h
    exact (History.step .start (.of_move? hMove)).trans (ih hRest)

end Run

end TopologyExporter
