import Mathlib.Data.List.MinMax
import Mathlib.Order.Nat
import TopologyExporter.Proofs.Scrape.Course

/-!
# The deadline — how a scrape ends, and when

Calls that send their families at once, wait for a time of their own and then end, or never do. They
share a channel that may be smaller than what one of them sends, and one limit that strikes all of
them at the same moment. Nothing of this can bring a run to a standstill: where it is not over a
move can be made at its time, and no run goes on for ever. And as sending and receiving take no
time, every call is over at its own time or at the limit, whichever is first, whatever the others
do.

## Results

* `Run.exists_timely`       — a run that is not over can go on.
* `Run.not_endless`         — no run goes on for ever.
* `Run.OnTime.paced`        — a run on time keeps to the times of its calls.
* `Run.Paced.now_eq`        — so it is over when the last of them is.
* `scrape_ends_by_deadline` — the scrapes of such calls.
-/

namespace TopologyExporter

-- ---------------------------------------------------------------------------
-- Calls with a time of their own
-- ---------------------------------------------------------------------------

/-- The time that a step takes by itself. -/
def CallStep.time : CallStep → Nat
  | pause time => time
  | _ => 0

namespace Call

/-- Whether a call sends all its families before it waits, and then does nothing but wait. -/
def SendsFirst (c : Call) : Prop :=
  ∃ (families : List Family) (times : List Nat), c.steps = families.map .send ++ times.map .pause

/-- The time that the pauses of a call take. -/
def pauses (c : Call) : Nat := Task.total CallStep.time c.steps

/-- The own time of a call, after which it ends if it does. -/
def ownTime? (c : Call) : Option Nat := if c.ending = .hangs then none else some c.pauses

/-- Whether a call has ended by some time, that moment included. -/
def endsBy (c : Call) (time : Nat) : Bool := c.ownTime?.any (· ≤ time)

/-- When a call is over that is not waited for longer than some time. -/
def overBy (c : Call) (time : Nat) : Nat := c.ownTime?.elim time (min · time)

/-- What a call of a collector comes to: what it ends with, if it has ended by the limit. -/
def verdict (c : Call) (collector : String) (limit : Duration) : Option CollectorError :=
  if c.endsBy limit.ceilMillis then c.ending.result collector limit
  else some (.timeout collector limit)

variable {c : Call} {time : Nat} {collector : String} {limit : Duration}

theorem pauses_of_steps {families : List Family} {times : List Nat}
    (h : c.steps = families.map .send ++ times.map .pause) : c.pauses = times.sum := by
  have hSends : Task.total CallStep.time (families.map .send) = 0 := by
    induction families generalizing c with
    | nil => rfl
    | cons family families ih =>
      rw [List.map_cons, Task.total_cons,
        ih (c := ⟨families.map .send ++ times.map .pause, .hangs⟩) rfl]
      rfl
  have hPauses : Task.total CallStep.time (times.map .pause) = times.sum := by
    clear h
    induction times with
    | nil => rfl
    | cons time times ih =>
      rw [List.map_cons, Task.total_cons, ih, List.sum_cons]
      rfl
  rw [pauses, h, Task.total_append, hSends, hPauses, Nat.zero_add]

theorem overBy_le (c : Call) (time : Nat) : c.overBy time ≤ time := by
  unfold overBy
  cases c.ownTime? with
  | none => exact Nat.le_refl time
  | some own => exact Nat.min_le_right own time

theorem overBy_of_hangs (h : c.ending = .hangs) : c.overBy time = time := by
  simp [overBy, ownTime?, h]

theorem le_overBy {t : Nat} (hOwn : t ≤ c.pauses) (hTime : t ≤ time) : t ≤ c.overBy time := by
  unfold overBy ownTime?
  split
  · exact hTime
  · exact Nat.le_min.mpr ⟨hOwn, hTime⟩

theorem overBy_le_of_ends (hEnds : c.ending ≠ .hangs) : c.overBy time ≤ c.pauses := by
  simp [overBy, ownTime?, hEnds]

/-- A call that has come to its end in time ends with what is its own. -/
theorem verdict_of_ends (hEnds : c.ending ≠ .hangs) (hTime : c.pauses ≤ limit.ceilMillis) :
    c.verdict collector limit = c.ending.result collector limit := by
  simp [verdict, endsBy, ownTime?, hEnds, hTime]

/-- A call that hangs comes to its limit, … -/
theorem verdict_of_hangs (h : c.ending = .hangs) :
    c.verdict collector limit = some (.timeout collector limit) := by
  simp [verdict, endsBy, ownTime?, h]

/-- … and so does one that takes longer. -/
theorem verdict_of_late (hLate : limit.ceilMillis < c.pauses) :
    c.verdict collector limit = some (.timeout collector limit) := by
  have hNot : c.endsBy limit.ceilMillis = false := by
    unfold endsBy ownTime?
    split
    · rfl
    · simpa using hLate
  rw [verdict, hNot, if_neg Bool.false_ne_true]

end Call

-- ---------------------------------------------------------------------------
-- No standstill
-- ---------------------------------------------------------------------------

namespace Run

variable {r r' first last : Run} {m : Move} {events : List RunEvent}

/-- **A run that is not over can go on**: a move can be made at its time. -/
theorem exists_timely (h : r.isOver = false) : ∃ m r', r.IsTimely m ∧ r.move? m = some r' := by
  cases hNext : r.next? with
  | none => simp [next?_eq_none hNext] at h
  | some m =>
    obtain ⟨hTimely, r', hMove, -⟩ := (Picks.of_next? hNext).weight_lt
    exact ⟨m, r', hTimely, hMove⟩

/-- **No run goes on for ever**, whatever moves are made. -/
theorem not_endless (runs : Nat → Run) :
    ¬ ∀ n, ∃ m, (runs n).move? m = some (runs (n + 1)) := by
  intro hMoves
  have hLess : ∀ n, (runs n).weight + n ≤ (runs 0).weight := by
    intro n
    induction n with
    | zero => rw [Nat.add_zero]
    | succ n ih =>
      obtain ⟨m, hMove⟩ := hMoves n
      have hNext := weight_lt_of_move? hMove
      omega
  have hTooMany := hLess ((runs 0).weight + 1)
  omega

end Run

-- ---------------------------------------------------------------------------
-- The pace of a task
-- ---------------------------------------------------------------------------

/-- Whether a task keeps to the time of its call: what it has to send it sends at the beginning, its
pauses follow each other without delay, and it is over in time with the verdict on its call. -/
def Task.Paced (c : Call) (limit : Duration) (now : Nat) (t : Task) : Prop :=
  match t.activity with
  | .ready => now ≤ limit.ceilMillis ∧ ∃ (families : List Family) (times : List Nat),
      t.steps = families.map .send ++ times.map .pause ∧ (families ≠ [] → now = 0) ∧
      -- past its last pause a call that hangs gets later than its own time
      c.pauses ≤ now + times.sum ∧ (t.steps ≠ [] → now + times.sum ≤ c.pauses)
  | .asleep wake => now ≤ limit.ceilMillis ∧ now ≤ wake ∧ ∃ times : List Nat,
      t.steps = times.map .pause ∧ wake + times.sum = c.pauses
  | .staging _ => False
  | .ended error => error = c.verdict t.collector limit ∧ c.overBy limit.ceilMillis ≤ now

namespace Task.Paced

variable {c : Call} {limit : Duration} {now time : Nat} {t t' : Task} {name : String}
  {channel channel' : Channel SinkItem} {tree tree' : FileTree}

theorem start (h : c.SendsFirst) : (Task.start name c).Paced c limit 0 := by
  obtain ⟨families, times, hSteps⟩ := h
  have hSum := Call.pauses_of_steps hSteps
  exact ⟨Nat.zero_le _, families, times, hSteps, fun _ => rfl, by omega, fun _ => by omega⟩

/-- A task that returns or panics has come to the end of its own time. -/
theorem ends (h : t.Paced c limit now) (hReady : t.activity = .ready) (hSteps : t.steps = [])
    (hEnds : c.ending ≠ .hangs) :
    (t.finish (c.ending.result t.collector limit)).Paced c limit now := by
  simp only [Paced, hReady, hSteps] at h
  obtain ⟨hInTime, families, times, hEq, -, hOwn, -⟩ := h
  have hNone : times = [] := by simpa using (List.append_eq_nil_iff.mp hEq.symm).2
  rw [hNone, List.sum_nil, Nat.add_zero] at hOwn
  exact ⟨(Call.verdict_of_ends hEnds (Nat.le_trans hOwn hInTime)).symm,
    Nat.le_trans (Call.overBy_le_of_ends hEnds) hOwn⟩

/-- **A task that goes on keeps its pace.** -/
theorem proceeds (h : t.Paced c limit now) (hEnding : t.ending = c.ending)
    (hOpen : channel.isOpen = true) (hProceeds : t.Proceeds channel tree now t' channel' tree') :
    t'.Paced c limit now := by
  cases hProceeds with
  | wakes hAsleep hNow =>
    simp only [Paced, hAsleep] at h
    obtain ⟨hInTime, hEarly, times, hSteps, hOwn⟩ := h
    refine ⟨hInTime, [], times, hSteps, fun hSome => absurd rfl hSome, ?_,
      fun _ => ?_⟩ <;> omega
  | learnsFailure hJob => simp only [Paced, hJob] at h
  | commits hJob hCommit => simp only [Paced, hJob] at h
  | failsToCommit hJob hCommit => simp only [Paced, hJob] at h
  | returns hReady hSteps hReturns =>
    have hEnds : c.ending ≠ .hangs := by simp [← hEnding, hReturns]
    have hDone := h.ends hReady hSteps hEnds
    rwa [← hEnding, hReturns] at hDone
  | panics hReady hSteps hPanics =>
    have hEnds : c.ending ≠ .hangs := by simp [← hEnding, hPanics]
    have hDone := h.ends hReady hSteps hEnds
    rwa [← hEnding, hPanics] at hDone
  | @pauses time rest hReady hSteps =>
    simp only [Paced, hReady, hSteps] at h
    obtain ⟨hInTime, families, times, hEq, -, hOwn, hOwn'⟩ := h
    cases families with
    | cons family families => simp at hEq
    | nil =>
      cases times with
      | nil => simp at hEq
      | cons time' times =>
        simp only [List.map_nil, List.nil_append, List.map_cons, List.cons.injEq,
          CallStep.pause.injEq] at hEq
        obtain ⟨rfl, rfl⟩ := hEq
        have hSame := hOwn' (by simp)
        rw [List.sum_cons] at hOwn hSame
        exact ⟨hInTime, Nat.le_add_right now time, times, rfl, by omega⟩
  | stages hReady hSteps =>
    simp only [Paced, hReady, hSteps] at h
    obtain ⟨-, families, times, hEq, -⟩ := h
    cases families <;> cases times <;> simp at hEq
  | @sends family rest hReady hSteps _ hRoom =>
    simp only [Paced, hReady, hSteps] at h
    obtain ⟨hInTime, families, times, hEq, hFirst, hOwn, hOwn'⟩ := h
    cases families with
    | nil => cases times <;> simp at hEq
    | cons family' families =>
      simp only [List.map_cons, List.cons_append, List.cons.injEq] at hEq
      simp only [Paced, hReady]
      exact ⟨hInTime, families, times, hEq.2, fun _ => hFirst (by simp), hOwn,
        fun _ => hOwn' (by simp)⟩
  | findsClosed hReady hSteps hClosed => simp [hOpen] at hClosed

/-- **A task that times out** could not have ended in time. -/
theorem timesOut (h : t.Paced c limit now) (hEnding : t.ending = c.ending)
    (hPositive : 0 < limit.ceilMillis) (hWaits : t.Waits channel now)
    (hLate : limit.ceilMillis ≤ now) :
    (t.finish (some (.timeout t.collector limit))).Paced c limit now := by
  suffices hVerdict : c.verdict t.collector limit = some (.timeout t.collector limit) from
    ⟨hVerdict.symm, Nat.le_trans (c.overBy_le _) hLate⟩
  cases hWaits with
  | forTime hAsleep hEarly =>
    simp only [Paced, hAsleep] at h
    obtain ⟨-, -, times, -, hOwn⟩ := h
    exact Call.verdict_of_late (by omega)
  | forJob hJob => simp only [Paced, hJob] at h
  | forRoom hReady hSteps _ =>
    -- what is to be sent is sent long before the limit
    simp only [Paced, hReady, hSteps] at h
    obtain ⟨-, families, times, hEq, hFirst, -⟩ := h
    have hSome : families ≠ [] := by
      rintro rfl
      cases times <;> simp at hEq
    have hNow := hFirst hSome
    omega
  | forever _ _ hHangs => exact Call.verdict_of_hangs (hEnding ▸ hHangs)

/-- **A task that waits while the clock goes on** keeps its pace, and the clock does not go past the
time at which its call is over. -/
theorem waits (h : t.Paced c limit now) (hEnding : t.ending = c.ending)
    (hWaits : t.Waits channel now) (hRoom : channel.waiting.length < channel.capacity)
    (hLater : now ≤ time)
    (hInTime : time ≤ limit.ceilMillis)
    (hWake : ∀ wake, t.activity = .asleep wake → now < wake → time ≤ wake) :
    t.Paced c limit time ∧ time ≤ c.overBy limit.ceilMillis := by
  cases hWaits with
  | forTime hAsleep hEarly =>
    have hTime := hWake _ hAsleep hEarly
    simp only [Paced, hAsleep] at h ⊢
    obtain ⟨-, -, times, hSteps, hOwn⟩ := h
    exact ⟨⟨hInTime, hTime, times, hSteps, hOwn⟩, Call.le_overBy (by omega) hInTime⟩
  | forJob hJob => simp only [Paced, hJob] at h
  | forRoom _ _ hFull => omega
  | forever hReady hSteps hHangs =>
    simp only [Paced, hReady, hSteps] at h ⊢
    obtain ⟨-, families, times, hEq, -, hOwn, -⟩ := h
    obtain ⟨hNoSends, hNoPauses⟩ := List.append_eq_nil_iff.mp hEq.symm
    obtain rfl : families = [] := by simpa using hNoSends
    obtain rfl : times = [] := by simpa using hNoPauses
    rw [Call.overBy_of_hangs (hEnding ▸ hHangs)]
    refine ⟨⟨hInTime, [], [], rfl, fun hSome => absurd rfl hSome, ?_,
      fun hSome => absurd rfl hSome⟩, hInTime⟩
    omega

/-- A task that is over stays so. -/
theorem stays {error : Option CollectorError} (h : t.Paced c limit now)
    (hEnded : t.activity = .ended error) (hLater : now ≤ time) : t.Paced c limit time := by
  simp only [Paced, hEnded] at h ⊢
  exact ⟨h.1, Nat.le_trans h.2 hLater⟩

end Task.Paced

-- ---------------------------------------------------------------------------
-- The pace of a run
-- ---------------------------------------------------------------------------

/-- When the last of some calls is over, if none is waited for longer than some time. -/
def overByAll (calls : List (String × Call)) (time : Nat) : Nat :=
  (calls.map fun c => c.2.overBy time).foldr max 0

theorem le_overByAll {calls : List (String × Call)} {c : String × Call} {t time : Nat}
    (hCall : c ∈ calls) (h : t ≤ c.2.overBy time) : t ≤ overByAll calls time :=
  List.le_max_of_le (l := calls.map fun c => c.2.overBy time) (List.mem_map_of_mem hCall) h

theorem overByAll_le {calls : List (String × Call)} {t time : Nat}
    (h : ∀ c ∈ calls, c.2.overBy time ≤ t) : overByAll calls time ≤ t := by
  refine List.max_le_of_forall_le (calls.map fun c : String × Call => c.2.overBy time) t ?_
  intro time' hMem
  obtain ⟨c, hCall, rfl⟩ := List.mem_map.mp hMem
  exact h c hCall

/-- Whether all tasks of a run keep to the times of their calls, and the clock to the last of
them. -/
structure Run.Paced (calls : List (String × Call)) (limit : Duration) (r : Run) : Prop where
  room   : 0 < r.channel.capacity
  tasks  : ∀ (i : Nat) (t : Task) (c : String × Call),
             r.tasks[i]? = some t → calls[i]? = some c → t.Paced c.2 limit r.now
  inTime : r.now ≤ overByAll calls limit.ceilMillis

namespace Run

variable {r r' first last : Run} {m : Move} {calls : List (String × Call)} {limit : Duration}
  {events : List RunEvent} {i : Nat} {t' : Task}

namespace Paced

theorem start {buffer : Nat} (hRoom : 0 < buffer) (hCalls : ∀ c ∈ calls, c.2.SendsFirst)
    (storage : Storage) :
    (Run.start calls limit ⟨buffer, [], true⟩ storage).Paced calls limit where
  room := hRoom
  tasks i t c hTask hCall := by
    simp only [Run.start, List.getElem?_map, hCall, Option.map_some, Option.some.injEq] at hTask
    exact hTask ▸ .start (hCalls c (List.mem_of_getElem? hCall))
  inTime := Nat.zero_le _

/-- Where one task has made a step and no time has passed, the pace of that task is what counts. -/
theorem setTask (h : r.Paced calls limit) (hMove : r.move? m = some r')
    (hTasks : r'.tasks = r.tasks.set i t') (hNow : r'.now = r.now)
    (hPaced : ∀ c, calls[i]? = some c → t'.Paced c.2 limit r.now) : r'.Paced calls limit where
  room := capacity_eq hMove ▸ h.room
  tasks j u c hTask hCall := by
    rw [hTasks, List.getElem?_set] at hTask
    rw [hNow]
    split at hTask
    case isTrue hSame =>
      subst hSame
      split at hTask
      · exact Option.some.inj hTask ▸ hPaced c hCall
      · simp at hTask
    case isFalse => exact h.tasks j u c hTask hCall
  inTime := hNow ▸ h.inTime

/-- **When the clock goes on**, all tasks wait, and it goes past the time of none that is not
over. -/
theorem advance (h : r.Paced calls limit) (hAccount : r.Accounted calls limit events)
    (hQuiet : ∀ m, m ≠ .advance → r.move? m = none) (hMove : r.move? .advance = some r') :
    r'.Paced calls limit := by
  have hRoom : r.channel.waiting.length < r.channel.capacity := by
    simpa [empty_of_quiet hQuiet] using h.room
  obtain ⟨time, hTime, rfl⟩ := advance_eq_some hMove
  obtain ⟨hLater, hWake, hLimit⟩ := advance_le hTime
  -- a task that is not over bounds the clock, and keeps its pace
  have hActive : ∀ (i : Nat) (t : Task) (c : String × Call), r.tasks[i]? = some t →
      calls[i]? = some c → t.hasEnded = false →
      t.Paced c.2 limit time ∧ time ≤ c.2.overBy limit.ceilMillis := by
    intro i t c hTask hCall hActive
    have hMem := List.mem_of_getElem? hTask
    have hInTime := hLimit ⟨t, hMem, hActive⟩ (early_of_quiet hQuiet hTask hActive)
    exact (h.tasks i t c hTask hCall).waits (hAccount.tasks i t c hTask hCall).ending
      (.of_proceed? hActive (stuck_of_quiet hQuiet hTask)) hRoom (Nat.le_of_lt hLater)
      (hAccount.limit_eq ▸ hInTime) (hWake t hMem)
  refine ⟨h.room, fun i t c hTask hCall => ?_, ?_⟩
  · cases hOver : t.hasEnded with
    | false => exact (hActive i t c hTask hCall hOver).1
    | true =>
      obtain ⟨error, hEnded⟩ := Task.exists_ended hOver
      exact (h.tasks i t c hTask hCall).stays hEnded (Nat.le_of_lt hLater)
  · -- the clock goes on for a task: that which wakes, or one that waits for the limit
    obtain ⟨t, hMem, hOver⟩ : ∃ t ∈ r.tasks, t.hasEnded = false := by
      by_contra hNone
      have hAll : ∀ t ∈ r.tasks, t.hasEnded = true := fun t hMem => by
        by_contra hActive
        exact hNone ⟨t, hMem, Bool.eq_false_iff.mpr hActive⟩
      have hMem := List.min?_mem hTime
      rw [timers, if_pos (List.all_eq_true.mpr hAll), List.append_nil, List.mem_filter,
        List.mem_filterMap] at hMem
      obtain ⟨⟨t, hMem, hWakes⟩, -⟩ := hMem
      obtain ⟨error, hEnded⟩ := Task.exists_ended (hAll t hMem)
      simp [Task.wake?, hEnded] at hWakes
    obtain ⟨i, hTask⟩ := List.getElem?_of_mem hMem
    obtain ⟨c, hCall⟩ := hAccount.exists_call hTask
    exact le_overByAll (List.mem_of_getElem? hCall) (hActive i t c hTask hCall hOver).2

/-- **A move that is made at its time keeps the pace.** -/
theorem move? (h : r.Paced calls limit) (hAccount : r.Accounted calls limit events)
    (hPositive : 0 < limit.ceilMillis) (hTimely : r.IsTimely m) (hMove : r.move? m = some r') :
    r'.Paced calls limit := by
  have hRoom' : 0 < r'.channel.capacity := capacity_eq hMove ▸ h.room
  cases m with
  | proceed i =>
    obtain ⟨t, t', channel, tree, hTask, hProceeds, rfl⟩ := proceed_eq_some hMove
    refine h.setTask hMove rfl rfl fun c hCall => ?_
    exact (h.tasks i t c hTask hCall).proceeds
      (hAccount.tasks i t c hTask hCall).ending hAccount.isOpen
      hProceeds
  | expire i =>
    obtain ⟨t, hTask, hActive, rfl⟩ := expire_eq_some hMove
    obtain ⟨hStuck, hLate⟩ := expire_stuck hMove hTask
    refine h.setTask hMove rfl rfl fun c hCall => ?_
    rw [hAccount.limit_eq]
    exact (h.tasks i t c hTask hCall).timesOut (hAccount.tasks i t c hTask hCall).ending hPositive
      (.of_proceed? hActive hStuck) (hAccount.limit_eq ▸ hLate)
  | stage i =>
    obtain ⟨t, job, hTask, hJob, -⟩ := stage_eq_some hMove
    obtain ⟨c, hCall⟩ := hAccount.exists_call hTask
    have hPaced := h.tasks i t c hTask hCall
    simp only [Task.Paced, hJob] at hPaced
  | receive =>
    obtain ⟨item, rest, -, rfl⟩ := receive_eq_some hMove
    exact ⟨hRoom', h.tasks, h.inTime⟩
  | sweep i =>
    obtain ⟨storage, -, rfl⟩ := sweep_eq_some hMove
    exact ⟨hRoom', h.tasks, h.inTime⟩
  | advance => exact h.advance hAccount hTimely hMove

end Paced

/-- **A run on time keeps to the times of its calls**, by induction on its moves. -/
theorem OnTime.paced (h : first.OnTime events r) (hAccount : first.Accounted calls limit [])
    (hPositive : 0 < limit.ceilMillis) (hFirst : first.Paced calls limit) :
    r.Paced calls limit := by
  induction h with
  | start => exact hFirst
  | step hOnTime hTimely hMove ih =>
    exact ih.move? (hOnTime.history.accounted hAccount) hPositive hTimely hMove

section Over

variable (h : r.Paced calls limit) (hAccount : r.Accounted calls limit events)
  (hOver : r.isOver = true)
include h hAccount hOver

/-- Where a run is over, every task has ended with the verdict on its call, … -/
theorem Paced.task (hCall : calls[i]? = some c) :
    ∃ t, r.tasks[i]? = some t ∧ t.collector = c.1 ∧
    t.activity = .ended (c.2.verdict c.1 limit) ∧ c.2.overBy limit.ceilMillis ≤ r.now := by
  have hi : i < r.tasks.length := hAccount.length ▸ (List.getElem?_eq_some_iff.mp hCall).1
  have hTask := List.getElem?_eq_getElem hi
  rw [isOver, Bool.and_eq_true, List.all_eq_true] at hOver
  obtain ⟨error, hEnded⟩ := Task.exists_ended (hOver.1 _ (List.mem_of_getElem? hTask))
  have hName := (hAccount.tasks i _ c hTask hCall).collector
  have hPaced := h.tasks i _ c hTask hCall
  simp only [Task.Paced, hEnded, hName] at hPaced
  exact ⟨_, hTask, hName, hPaced.1 ▸ hEnded, hPaced.2⟩

/-- … which is what is reported of it, … -/
theorem Paced.outcomes_eq : r.outcomes = calls.map fun c => ⟨c.1, c.2.verdict c.1 limit⟩ := by
  refine List.ext_getElem? fun i => ?_
  rw [outcomes, List.getElem?_map, List.getElem?_map]
  cases hCall : calls[i]? with
  | none =>
    have hNone : r.tasks[i]? = none := by
      rw [List.getElem?_eq_none_iff, hAccount.length, ← List.getElem?_eq_none_iff, hCall]
    rw [hNone]
    rfl
  | some c =>
    obtain ⟨t, hTask, hName, hEnded, -⟩ := h.task hAccount hOver hCall
    simp [hTask, hName, Task.outcome, hEnded]

/-- … **and no more time has passed than the last call took**. -/
theorem Paced.now_eq : r.now = overByAll calls limit.ceilMillis := by
  refine Nat.le_antisymm h.inTime (overByAll_le fun c hMem => ?_)
  obtain ⟨i, hCall⟩ := List.getElem?_of_mem hMem
  obtain ⟨-, -, -, -, hNow⟩ := h.task hAccount hOver hCall
  exact hNow

end Over

end Run

-- ---------------------------------------------------------------------------
-- Scrapes
-- ---------------------------------------------------------------------------

namespace Orchestrator

/-- The call of a collector in the next scrape. -/
def callOf (o : Orchestrator) (s : Snapshot) (clock : String → RunClock) (c : Collector) : Call :=
  c.call o.scrapes s (clock c.name)

/-- The run of the next scrape at its beginning, over a channel of whatever size. -/
def opening (o : Orchestrator) (storage : Storage) (s : Snapshot) (clock : String → RunClock) :
    Run :=
  .start (o.calls s clock) o.limit ⟨o.buffer, [], true⟩ storage

variable {o : Orchestrator} {storage : Storage} {s : Snapshot} {clock : String → RunClock}
  {events : List RunEvent} {last : Run} {millis : Nat}

/-- What a run on time of calls that send first is over with: its outcomes, and its time. -/
theorem over_of_onTime (hPositive : 0 < o.limit.ceilMillis) (hRoom : 0 < o.buffer)
    (hCalls : ∀ c ∈ o.collectors, (o.callOf s clock c).SendsFirst)
    (hOnTime : (o.opening storage s clock).OnTime events last) (hOver : last.isOver = true) :
    last.outcomes = (o.calls s clock).map (fun c => ⟨c.1, c.2.verdict c.1 o.limit⟩) ∧
      last.now = overByAll (o.calls s clock) o.limit.ceilMillis := by
  have hCalls' : ∀ c ∈ o.calls s clock, c.2.SendsFirst := by
    intro c hMem
    obtain ⟨d, hd, rfl⟩ := List.mem_map.mp hMem
    exact hCalls d hd
  have hFirst : (o.opening storage s clock).Accounted (o.calls s clock) o.limit [] :=
    .start rfl rfl storage
  have hPaced := hOnTime.paced hFirst hPositive (.start hRoom hCalls' storage)
  have hAccount := hOnTime.history.accounted hFirst
  exact ⟨hPaced.outcomes_eq hAccount hOver, hPaced.now_eq hAccount hOver⟩

end Orchestrator

/-- **A scrape always ends, and by its deadline.** Take any collectors whose calls send any number
of families and then, after a time of their own, return, panic, or never end; any limit of whole
milliseconds; and a channel with room for at least one item.

* No run of theirs is ever stuck, in whatever order its steps were made, and none goes on for ever.
* Whatever the order of moves on time, a collector is reported with the ending of its own call if
  that comes at the limit or before, and with the limit otherwise; and the time that passes is the
  greatest of those after which the calls are over, each at its own time or at the limit.
* Followed by the order of moves, the run comes to its end; and that is what the scrape is, if there
  can be a channel of that size. -/
theorem scrape_ends_by_deadline (o : Orchestrator) (millis : Nat)
    (hLimit : o.limit = .ofMillis millis) (hPositive : 0 < millis) (hRoom : 0 < o.buffer)
    (storage : Storage) (s : Snapshot) (clock : ScrapeClock)
    (hCalls : ∀ c ∈ o.collectors, (o.callOf s clock.calls c).SendsFirst) :
    (∀ events r, (o.opening storage s clock.calls).History events r → r.isOver = false →
      ∃ m r', r.IsTimely m ∧ r.move? m = some r') ∧
    (∀ runs : Nat → Run, runs 0 = o.opening storage s clock.calls →
      ¬ ∀ n, ∃ m, (runs n).move? m = some (runs (n + 1))) ∧
    (∀ events last elapsed, (o.opening storage s clock.calls).OnTime events last →
      last.isOver = true →
      (o.conclude last elapsed).report.outcomes = (o.collectors.map fun c =>
        ⟨c.name, if (o.callOf s clock.calls c).endsBy millis then
            (o.callOf s clock.calls c).ending.result c.name o.limit
          else some (.timeout c.name o.limit)⟩) ∧
      (o.conclude last elapsed).elapsed =
        (o.collectors.map fun c => (o.callOf s clock.calls c).overBy millis).foldr max 0) ∧
    ∃ events last, (o.opening storage s clock.calls).OnTime events last ∧ last.isOver = true ∧
      (o.buffer ≤ maxCapacity → o.scrape storage s clock =
        .ok (o.conclude last clock.elapsed)) := by
  have hMillis : o.limit.ceilMillis = millis := by rw [hLimit, Duration.ceilMillis_ofMillis]
  refine ⟨fun _ r _ hOver => r.exists_timely hOver, fun runs _ => Run.not_endless runs, ?_, ?_⟩
  · intro events last elapsed hOnTime hOver
    obtain ⟨hOutcomes, hNow⟩ :=
      Orchestrator.over_of_onTime (hMillis ▸ hPositive) hRoom hCalls hOnTime hOver
    constructor
    · show last.outcomes = _
      rw [hOutcomes, Orchestrator.calls, List.map_map]
      simp only [Function.comp_def, Call.verdict, hMillis]
      rfl
    · show last.now = _
      rw [hNow, overByAll, Orchestrator.calls, List.map_map, hMillis]
      rfl
  · obtain ⟨events, hOnTime⟩ :=
      Run.follow_onTime (o.opening storage s clock.calls).weight (o.opening storage s clock.calls)
    exact ⟨events, _, hOnTime, Run.finish_isOver _, fun hMost =>
      Orchestrator.scrape_eq_ok hRoom hMost storage s clock⟩

private def flooding : Collector :=
  ⟨"flooding", [],
    fun _ _ _ => ⟨[.send default, .send default, .send default, .pause 5], .returns none⟩⟩

private def hanging : Collector := ⟨"hanging", [], fun _ _ _ => ⟨[.send default], .hangs⟩⟩

private def faulty : Collector :=
  ⟨"faulty", [], fun _ _ _ => ⟨[.pause 1, .pause 2], .panics⟩⟩

private def crowd : Orchestrator := .make [hanging, flooding, faulty] (.ofMillis 5) 1

private theorem crowd_sendsFirst (s : Snapshot) (clock : String → RunClock) :
    ∀ c ∈ crowd.collectors, (crowd.callOf s clock c).SendsFirst := by
  intro c hMem
  rcases List.mem_cons.mp hMem with rfl | hMem
  · exact ⟨[default], [], rfl⟩
  rcases List.mem_cons.mp hMem with rfl | hMem
  · exact ⟨[default, default, default], [5], rfl⟩
  · obtain rfl := List.mem_singleton.mp hMem
    exact ⟨[], [1, 2], rfl⟩

/-- Over a channel for one item, one collector hangs, another sends three families and returns at
the very moment of the limit, and a third panics: together they take just as long as the limit. -/
theorem crowd_ends_by_deadline :
    (∀ c ∈ crowd.collectors, (crowd.callOf [] (fun _ => default) c).SendsFirst) ∧
    ∃ scraped, crowd.scrape ⟨.empty, []⟩ [] default = .ok scraped ∧ scraped.elapsed = 5 ∧
      scraped.report.outcomes = [⟨"hanging", some (.timeout "hanging" (.ofMillis 5))⟩,
        ⟨"flooding", none⟩, ⟨"faulty", some (.panicked "faulty")⟩] := by
  have hCalls := crowd_sendsFirst [] (default : ScrapeClock).calls
  obtain ⟨-, -, hOver, events, last, hOnTime, hEnd, hScrape⟩ :=
    scrape_ends_by_deadline crowd 5 rfl (by decide) (by decide) ⟨.empty, []⟩ [] default hCalls
  obtain ⟨hOutcomes, hElapsed⟩ := hOver events last default hOnTime hEnd
  exact ⟨crowd_sendsFirst [] _, _, hScrape (by decide), hElapsed.trans (by decide),
    hOutcomes.trans (by decide)⟩

end TopologyExporter
