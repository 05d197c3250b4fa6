import TopologyExporter.Proofs.Scrape.Publication

/-!
# Runs on time — how they come to their end

On the clock that pauses and limits go by, sending, receiving and staging take no time: the clock
goes on when nothing else can happen, and a task whose limit has passed does not wait for its job. A
run is **on time** if its moves keep to that, whatever their order is otherwise. The moves that
`Run.next?` picks do, and every one of them leaves less to be done.

## Results

* `Run.next?_eq_none`         — where no move is picked, the run is over.
* `Run.weight_lt_of_move?`    — every move leaves less to be done.
* `Run.finish_isOver`         — so following the moves that are picked comes to the end.
* `Orchestrator.scrape_onTime` — a scrape is a run on time that has come to its end.
-/

namespace TopologyExporter

-- ---------------------------------------------------------------------------
-- Runs on time
-- ---------------------------------------------------------------------------

namespace Run

/-- Whether a move is made at its time: the clock goes on when nothing else can happen, and a job
does its work before the limit of the task that waits for it. -/
def IsTimely (r : Run) : Move → Prop
  | .advance => ∀ m, m ≠ .advance → r.move? m = none
  | .stage _ => r.now < r.deadline
  | _ => True

/-- What a run comes to by moves that are made at their time, in any order, with the events of
them. -/
inductive OnTime (first : Run) : List RunEvent → Run → Prop
  | start : OnTime first [] first
  | step {events : List RunEvent} {r r' : Run} {m : Move} (hOnTime : OnTime first events r)
      (hTimely : r.IsTimely m) (hMove : r.move? m = some r') :
      OnTime first (events ++ r.eventsOf r' m) r'

variable {r first last : Run} {m : Move} {events later : List RunEvent}

/-- Moves that are made at their time make a history. -/
theorem OnTime.history (h : first.OnTime events r) : first.History events r := by
  induction h with
  | start => exact .start
  | step _ _ hMove ih => exact ih.step (.of_move? hMove)

theorem OnTime.trans (h : first.OnTime events r) (hLater : r.OnTime later last) :
    first.OnTime (events ++ later) last := by
  induction hLater with
  | start => rwa [List.append_nil]
  | step _ hTimely hMove ih => exact List.append_assoc .. ▸ ih.step hTimely hMove

-- ---------------------------------------------------------------------------
-- The move that is picked
-- ---------------------------------------------------------------------------

/-- When a move is picked: a task goes on if one can, and only where none can the other moves have
their turn. -/
inductive Picks (r : Run) : Move → Prop
  | proceeds {i : Nat} {t : Task} (hTask : r.tasks[i]? = some t) (hCan : r.canProceed t = true) :
      Picks r (.proceed i)
  | expires {i : Nat} {t : Task} (hTask : r.tasks[i]? = some t) (hActive : t.hasEnded = false)
      (hStuck : r.canProceed t = false) (hLate : r.deadline ≤ r.now) : Picks r (.expire i)
  | receives (hWaiting : r.channel.waiting ≠ []) : Picks r .receive
  | stages {i : Nat} {t : Task} {job : StagingJob} (hTask : r.tasks[i]? = some t)
      (hJob : t.job? = some job) (hRunning : job.isOver = false) (hEarly : r.now < r.deadline) :
      Picks r (.stage i)
  | sweeps (hLeft : r.storage.abandoned ≠ []) : Picks r (.sweep 0)
  | advances (hQuiet : ∀ m, m ≠ .advance → r.move? m = none) (hTimers : r.timers ≠ []) :
      Picks r .advance

/-- The task that a test picks. -/
theorem first?_eq_some {test : Task → Bool} {move : Nat → Move}
    (h : r.first? test move = some m) :
    ∃ i t, r.tasks[i]? = some t ∧ test t = true ∧ m = move i := by
  rw [first?, Option.map_eq_some_iff] at h
  obtain ⟨i, hFound, rfl⟩ := h
  rw [List.findIdx?_eq_some_iff_getElem] at hFound
  obtain ⟨hi, hTest, -⟩ := hFound
  exact ⟨i, _, List.getElem?_eq_getElem hi, hTest, rfl⟩

theorem first?_eq_none {test : Task → Bool} {move : Nat → Move}
    (h : r.first? test move = none) :
    ∀ t ∈ r.tasks, test t = false := by
  rw [first?, Option.map_eq_none_iff, List.findIdx?_eq_none_iff] at h
  exact h

/-- Where no task can go on or wait for its job, no item waits and no job is left behind, nothing
can happen before the clock goes on. -/
theorem quiet_of_waiting (hStuck : ∀ t ∈ r.tasks, r.canProceed t = false)
    (hEarly : r.now < r.deadline ∨ ∀ t ∈ r.tasks, t.hasEnded = true)
    (hEmpty : r.channel.waiting = [])
    (hJobs : ∀ t ∈ r.tasks, (t.job?.any fun job => !job.isOver) = false)
    (hLeft : r.storage.abandoned = []) : ∀ m, m ≠ .advance → r.move? m = none := by
  intro m hm
  rw [Option.eq_none_iff_forall_ne_some]
  intro r' hMove
  cases m with
  | proceed i =>
    obtain ⟨t, t', channel, tree, hTask, hProceeds, -⟩ := proceed_eq_some hMove
    have hCan := hStuck t (List.mem_of_getElem? hTask)
    rw [canProceed, hProceeds.proceed?_eq] at hCan
    simp at hCan
  | expire i =>
    obtain ⟨t, hTask, hActive, -⟩ := expire_eq_some hMove
    rcases hEarly with hEarly | hEnded
    · simp [move?, expire?, hTask, hEarly] at hMove
    · simp [hEnded t (List.mem_of_getElem? hTask)] at hActive
  | stage i =>
    obtain ⟨t, job, hTask, hJob, hRunning, -⟩ := stage_eq_some hMove
    have hOver := hJobs t (List.mem_of_getElem? hTask)
    simp [Task.job?, hJob, hRunning] at hOver
  | receive =>
    obtain ⟨item, rest, hWaiting, -⟩ := receive_eq_some hMove
    simp [hEmpty] at hWaiting
  | sweep i =>
    obtain ⟨storage, hSweep, -⟩ := sweep_eq_some hMove
    simp [Storage.sweep?, hLeft] at hSweep
  | advance => exact hm rfl

private theorem none_orElse (other : Option Move) : (none <|> other) = other := rfl

/-- What is known where no move but that of the clock is picked. -/
theorem next?_cases :
    (∃ m, r.next? = some m ∧ r.Picks m) ∨
      (r.next? = none ∧ r.channel.waiting = [] ∧ r.timers = [] ∧
        (r.now < r.deadline ∨ ∀ t ∈ r.tasks, t.hasEnded = true)) := by
  unfold next?
  cases hProceed : r.first? r.canProceed .proceed with
  | some m =>
    obtain ⟨i, t, hTask, hCan, rfl⟩ := first?_eq_some hProceed
    exact .inl ⟨_, rfl, .proceeds hTask hCan⟩
  | none =>
  have hStuck := first?_eq_none hProceed
  rw [none_orElse]
  cases hExpire : (if r.now < r.deadline then none else r.first? (!·.hasEnded) .expire) with
  | some m =>
    split at hExpire
    case isTrue => simp at hExpire
    case isFalse hLate =>
      obtain ⟨i, t, hTask, hActive, rfl⟩ := first?_eq_some hExpire
      exact .inl ⟨_, rfl, .expires hTask (by simpa using hActive)
        (hStuck t (List.mem_of_getElem? hTask)) (Nat.not_lt.mp hLate)⟩
  | none =>
  have hEarly : r.now < r.deadline ∨ ∀ t ∈ r.tasks, t.hasEnded = true := by
    split at hExpire
    case isTrue hEarly => exact .inl hEarly
    case isFalse =>
      refine .inr fun t hTask => ?_
      simpa using first?_eq_none hExpire t hTask
  rw [none_orElse]
  by_cases hEmpty : r.channel.waiting = []
  case neg => exact .inl ⟨.receive, by simp [hEmpty], .receives hEmpty⟩
  rw [if_pos (List.isEmpty_iff.mpr hEmpty), none_orElse]
  cases hStage : r.first? (fun t => t.job?.any (!·.isOver)) .stage with
  | some m =>
    obtain ⟨i, t, hTask, hJob, rfl⟩ := first?_eq_some hStage
    obtain ⟨job, hJob, hRunning⟩ := Option.any_eq_true _ _ |>.mp hJob
    -- a task that waits for a job is not over
    have hNow : r.now < r.deadline := by
      rcases hEarly with hEarly | hEnded
      · exact hEarly
      · obtain ⟨error, hActivity⟩ := Task.exists_ended (hEnded t (List.mem_of_getElem? hTask))
        simp [Task.job?, hActivity] at hJob
    exact .inl ⟨_, rfl, .stages hTask hJob (by simpa using hRunning) hNow⟩
  | none =>
  have hJobs := first?_eq_none hStage
  rw [none_orElse]
  by_cases hLeft : r.storage.abandoned = []
  case neg => exact .inl ⟨.sweep 0, by simp [hLeft], .sweeps hLeft⟩
  rw [if_pos (List.isEmpty_iff.mpr hLeft), none_orElse]
  by_cases hTimers : r.timers = []
  case pos => exact .inr ⟨by simp [hTimers], hEmpty, hTimers, hEarly⟩
  refine .inl ⟨.advance, by simp [hTimers], .advances ?_ hTimers⟩
  exact quiet_of_waiting hStuck hEarly hEmpty hJobs hLeft

end Run

-- ---------------------------------------------------------------------------
-- Work that is left
-- ---------------------------------------------------------------------------

namespace Task

section Total

variable {α : Type} (weight : α → Nat)

@[simp] theorem total_nil : total weight [] = 0 := rfl

@[simp] theorem total_cons (item : α) (rest : List α) :
    total weight (item :: rest) = weight item + total weight rest := rfl

@[simp] theorem total_append (items rest : List α) :
    total weight (items ++ rest) = total weight items + total weight rest := by
  induction items with
  | nil => simp
  | cons item items ih => simp [ih, Nat.add_assoc]

/-- Putting an item in place of another changes the weight by theirs. -/
theorem total_set {items : List α} {i : Nat} {item : α} (h : items[i]? = some item) (item' : α) :
    total weight (items.set i item') + weight item = total weight items + weight item' := by
  induction items generalizing i with
  | nil => simp at h
  | cons first rest ih =>
    cases i with
    | zero =>
      rw [List.getElem?_cons_zero, Option.some.injEq] at h
      rw [List.set_cons_zero, total_cons, total_cons, h]
      omega
    | succ i =>
      rw [List.getElem?_cons_succ] at h
      rw [List.set_cons_succ, total_cons, total_cons]
      have hRest := ih h
      omega

theorem total_eraseIdx {items : List α} {i : Nat} {item : α} (h : items[i]? = some item) :
    total weight (items.eraseIdx i) + weight item = total weight items := by
  induction items generalizing i with
  | nil => simp at h
  | cons first rest ih =>
    cases i with
    | zero =>
      rw [List.getElem?_cons_zero, Option.some.injEq] at h
      rw [List.eraseIdx_cons_zero, total_cons, h]
      omega
    | succ i =>
      rw [List.getElem?_cons_succ] at h
      rw [List.eraseIdx_cons_succ, total_cons, total_cons]
      have hRest := ih h
      omega

theorem total_le {weight weight' : α → Nat} {items : List α}
    (h : ∀ item ∈ items, weight item ≤ weight' item) :
    total weight items ≤ total weight' items := by
  induction items with
  | nil => simp
  | cons first rest ih =>
    have hFirst := h first (List.mem_cons_self ..)
    have hRest := ih fun item hItem => h item (List.mem_cons_of_mem _ hItem)
    simp only [total_cons]
    omega

end Total

variable {t t' : Task} {now now' : Nat}

/-- A task that waits has less to do as time goes by. -/
theorem weight_anti (h : now ≤ now') : t.weight now' ≤ t.weight now := by
  unfold weight
  cases t.activity with
  | asleep wake =>
    dsimp only
    split <;> split <;> omega
  | _ => exact Nat.le_refl _

/-- A task whose time comes has less to do from then on. -/
theorem weight_lt_of_wake (hWake : t.wake? = some now') (h : now < now') :
    t.weight now' < t.weight now := by
  unfold wake? at hWake
  unfold weight
  cases hActivity : t.activity with
  | asleep wake =>
    simp only [hActivity, Option.some.injEq] at hWake
    simp only [hWake, h, if_true, Nat.lt_irrefl, if_false]
    omega
  | _ => simp [hActivity] at hWake

/-- A task that is over has nothing to do. -/
theorem weight_finish (error : Option CollectorError) : (t.finish error).weight now = 0 := rfl

/-- A task that is not over has more to do than the job that it waits for. -/
theorem weight_pos (h : t.hasEnded = false) :
    total jobWeight t.job?.toList < t.weight now := by
  unfold weight job?
  unfold hasEnded at h
  cases hActivity : t.activity with
  | ended error => simp [hActivity] at h
  | ready =>
    simp only [Option.toList_none, total_nil]
    omega
  | asleep wake =>
    simp only [Option.toList_none, total_nil]
    split <;> omega
  | staging job =>
    simp only [Option.toList_some, total_cons, total_nil]
    omega

/-- A task that goes on has less to do, with what it sends. -/
theorem Proceeds.weight_lt {channel channel' : Channel SinkItem} {tree tree' : FileTree}
    (h : t.Proceeds channel tree now t' channel' tree') :
    t'.weight now + channel'.waiting.length < t.weight now + channel.waiting.length := by
  cases h with
  | wakes hAsleep hNow =>
    simp only [weight, hAsleep, Nat.not_lt.mpr hNow, if_false]
    omega
  | learnsFailure hJob =>
    rw [weight_finish]
    simp only [weight, hJob]
    omega
  | commits hJob hCommit =>
    simp only [weight, hJob, jobWeight, StagingJob.isOver, if_true]
    omega
  | failsToCommit hJob hCommit =>
    rw [weight_finish]
    simp only [weight, hJob]
    omega
  | returns hReady hSteps hEnding =>
    rw [weight_finish]
    simp only [weight, hReady]
    omega
  | panics hReady hSteps hEnding =>
    rw [weight_finish]
    simp only [weight, hReady]
    omega
  | pauses hReady hSteps =>
    simp only [weight, hReady, hSteps, total_cons, stepWeight]
    split <;> omega
  | stages hReady hSteps =>
    simp only [weight, hReady, hSteps, total_cons, stepWeight, jobWeight, StagingJob.isOver,
      Bool.false_eq_true, if_false]
    omega
  | sends hReady hSteps hOpen hRoom =>
    simp only [weight, hReady, hSteps, total_cons, stepWeight, List.length_append,
      List.length_singleton]
    omega
  | findsClosed hReady hSteps hClosed =>
    rw [weight_finish]
    simp only [weight, hReady]
    omega

end Task

/-- A job that has done its work is over. -/
theorem StagingJob.finish_isOver (job : StagingJob) (tree : FileTree) :
    (job.finish tree).1.isOver = true := by
  cases job with
  | running destination content =>
    rw [finish]
    split <;> rfl
  | _ => rfl

theorem Task.jobWeight_finish_lt {job : StagingJob} (h : job.isOver = false) (tree : FileTree) :
    jobWeight (job.finish tree).1 < jobWeight job := by
  simp [jobWeight, job.finish_isOver tree, h]

/-- A job that is left behind has less to do when it has gone on. -/
theorem Storage.sweep?_weight_lt {storage storage' : Storage} {i : Nat}
    (h : storage.sweep? i = some storage') :
    Task.total Task.jobWeight storage'.abandoned < Task.total Task.jobWeight storage.abandoned := by
  rw [sweep?] at h
  obtain ⟨job, hJob, h⟩ := Option.bind_eq_some_iff.mp h
  split at h
  case isTrue hOver =>
    rw [← Option.some.inj h]
    have hErase := Task.total_eraseIdx Task.jobWeight hJob
    have hPos : 0 < Task.jobWeight job := by simp [Task.jobWeight, hOver]
    show Task.total Task.jobWeight (storage.abandoned.eraseIdx i) < _
    omega
  case isFalse hRunning =>
    rw [← Option.some.inj h]
    have hLess := Task.jobWeight_finish_lt (Bool.eq_false_iff.mpr hRunning) storage.tree
    have hSet := Task.total_set Task.jobWeight hJob (job.finish storage.tree).1
    show Task.total Task.jobWeight (storage.abandoned.set i (job.finish storage.tree).1) < _
    omega

namespace Run

variable {r r' : Run} {m : Move}

/-- The times that are waited for lie ahead, and are those of tasks or that of the limit. -/
theorem mem_timers {time : Nat} (h : time ∈ r.timers) :
    r.now < time ∧ ((∃ t ∈ r.tasks, t.wake? = some time) ∨ time = r.deadline) := by
  rw [timers, List.mem_filter, decide_eq_true_eq, List.mem_append, List.mem_filterMap] at h
  refine ⟨h.2, ?_⟩
  rcases h.1 with hTask | hLimit
  · exact .inl hTask
  · split at hLimit
    · simp at hLimit
    · exact .inr (List.mem_singleton.mp hLimit)

/-- While the clock stands still, there is less to be done if tasks, items and jobs have less. -/
theorem weight_lt_of_still (hNow : r'.now = r.now) (hLimit : r'.limit = r.limit)
    (h : Task.total (fun t => t.weight r.now) r'.tasks + r'.channel.waiting.length +
        Task.total Task.jobWeight r'.storage.abandoned <
      Task.total (fun t => t.weight r.now) r.tasks + r.channel.waiting.length +
        Task.total Task.jobWeight r.storage.abandoned) : r'.weight < r.weight := by
  unfold weight deadline
  rw [hNow, hLimit]
  omega

/-- When the clock goes on there is less to be done: a time that was waited for has come. -/
theorem weight_lt_of_timer {time : Nat} (h : time ∈ r.timers) :
    ({ r with now := time } : Run).weight < r.weight := by
  obtain ⟨hLater, hWhose⟩ := mem_timers h
  have hTasks : Task.total (fun t => t.weight time) r.tasks ≤
      Task.total (fun t => t.weight r.now) r.tasks :=
    Task.total_le fun t _ => Task.weight_anti (Nat.le_of_lt hLater)
  have hLimit : (if time < r.deadline then 1 else 0) ≤ (if r.now < r.deadline then 1 else 0) := by
    split <;> split <;> omega
  show Task.total (fun t => t.weight time) r.tasks + r.channel.waiting.length +
      Task.total Task.jobWeight r.storage.abandoned + (if time < r.deadline then 1 else 0) <
    Task.total (fun t => t.weight r.now) r.tasks + r.channel.waiting.length +
      Task.total Task.jobWeight r.storage.abandoned + (if r.now < r.deadline then 1 else 0)
  rcases hWhose with ⟨t, hTask, hWake⟩ | rfl
  · obtain ⟨i, hi⟩ := List.getElem?_of_mem hTask
    -- the tasks without the one that wakes have no more to do, and it has less
    have hBefore := Task.total_eraseIdx (fun t => t.weight r.now) hi
    have hAfter := Task.total_eraseIdx (fun t => t.weight time) hi
    have hOthers : Task.total (fun t => t.weight time) (r.tasks.eraseIdx i) ≤
        Task.total (fun t => t.weight r.now) (r.tasks.eraseIdx i) :=
      Task.total_le fun t _ => Task.weight_anti (Nat.le_of_lt hLater)
    have hLess := Task.weight_lt_of_wake hWake hLater
    omega
  · rw [if_pos hLater, if_neg (Nat.lt_irrefl _)]
    omega

/-- **Every move leaves less to be done**, whether it is made at its time or not. -/
theorem weight_lt_of_move? (h : r.move? m = some r') : r'.weight < r.weight := by
  cases m with
  | proceed i =>
    obtain ⟨t, t', channel, tree, hTask, hProceeds, rfl⟩ := proceed_eq_some h
    refine weight_lt_of_still rfl rfl ?_
    have hLess := hProceeds.weight_lt
    have hSet := Task.total_set (fun t => t.weight r.now) hTask t'
    simp only at hSet ⊢
    omega
  | expire i =>
    obtain ⟨t, hTask, hActive, rfl⟩ := expire_eq_some h
    refine weight_lt_of_still rfl rfl ?_
    have hLess : Task.total Task.jobWeight t.job?.toList < t.weight r.now := Task.weight_pos hActive
    have hSet := Task.total_set (fun t => t.weight r.now) hTask
      (t.finish (some (.timeout t.collector r.limit)))
    simp only [timeOut, Task.total_append, Task.weight_finish] at hSet ⊢
    omega
  | stage i =>
    obtain ⟨t, job, hTask, hActivity, hRunning, rfl⟩ := stage_eq_some h
    refine weight_lt_of_still rfl rfl ?_
    have hLess := Task.jobWeight_finish_lt hRunning r.storage.tree
    have hSet := Task.total_set (fun t => t.weight r.now) hTask
      { t with activity := .staging (job.finish r.storage.tree).1 }
    simp only [Task.weight, hActivity] at hSet ⊢
    omega
  | receive =>
    obtain ⟨item, rest, hItems, rfl⟩ := receive_eq_some h
    refine weight_lt_of_still rfl rfl ?_
    simp only [hItems, List.length_cons]
    omega
  | sweep i =>
    obtain ⟨storage, hSweep, rfl⟩ := sweep_eq_some h
    refine weight_lt_of_still rfl rfl ?_
    have hLess := Storage.sweep?_weight_lt hSweep
    simp only
    omega
  | advance =>
    obtain ⟨time, hTime, rfl⟩ := advance_eq_some h
    exact weight_lt_of_timer (List.min?_mem hTime)

/-- **A move that is picked can be made, at its time, and leaves less to be done.** -/
theorem Picks.weight_lt (h : r.Picks m) :
    r.IsTimely m ∧ ∃ r', r.move? m = some r' ∧ r'.weight < r.weight := by
  suffices hMade : r.IsTimely m ∧ ∃ r', r.move? m = some r' by
    obtain ⟨hTimely, r', hMove⟩ := hMade
    exact ⟨hTimely, r', hMove, weight_lt_of_move? hMove⟩
  cases h with
  | @proceeds i t hTask hCan =>
    rw [canProceed, Option.isSome_iff_exists] at hCan
    obtain ⟨⟨t', channel, tree⟩, hProceeds⟩ := hCan
    exact ⟨trivial, _, by simp [move?, proceed?, hTask, hProceeds]; rfl⟩
  | @expires i t hTask hActive hStuck hLate =>
    exact ⟨trivial, r.timeOut i t, by
      simp [move?, expire?, hTask, hActive, hStuck, hLate, timeOut]⟩
  | receives hWaiting =>
    obtain ⟨item, rest, hItems⟩ := List.exists_cons_of_ne_nil hWaiting
    exact ⟨trivial, _, by simp [move?, receive?, Channel.receive, hItems]; rfl⟩
  | @stages i t job hTask hJob hRunning hEarly =>
    exact ⟨hEarly, _, by simp [move?, stage?, hTask, hJob, hRunning]; rfl⟩
  | sweeps hLeft =>
    obtain ⟨job, rest, hJobs⟩ := List.exists_cons_of_ne_nil hLeft
    obtain ⟨storage, hSweep⟩ : ∃ storage, r.storage.sweep? 0 = some storage := by
      rw [Storage.sweep?, hJobs]
      by_cases hOver : job.isOver = true
      · exact ⟨_, by simp [hOver]; rfl⟩
      · exact ⟨_, by simp [hOver]; rfl⟩
    exact ⟨trivial, { r with storage }, by simp [move?, hSweep]⟩
  | advances hQuiet hTimers =>
    obtain ⟨time, hTime⟩ := Option.isSome_iff_exists.mp (List.isSome_min?_of_ne_nil hTimers)
    exact ⟨hQuiet, { r with now := time }, by simp [move?, advance?, hTime]⟩

-- ---------------------------------------------------------------------------
-- The end
-- ---------------------------------------------------------------------------

theorem Picks.of_next? (h : r.next? = some m) : r.Picks m := by
  rcases r.next?_cases with ⟨m', hNext, hPicks⟩ | ⟨hNext, -⟩
  · rw [h, Option.some.injEq] at hNext
    exact hNext ▸ hPicks
  · simp [h] at hNext

/-- **Where no move is picked, the run is over.** -/
theorem next?_eq_none (h : r.next? = none) : r.isOver = true := by
  rcases r.next?_cases with ⟨m, hNext, -⟩ | ⟨-, hEmpty, hTimers, hEarly⟩
  · simp [h] at hNext
  rw [isOver, hEmpty, List.isEmpty_nil, Bool.and_true, List.all_eq_true]
  rcases hEarly with hEarly | hEnded
  case inr => exact hEnded
  case inl =>
    -- the limit of a task that is not over would still be waited for
    by_contra hActive
    have hWaits : r.tasks.all Task.hasEnded = false := by
      rw [← Bool.not_eq_true, List.all_eq_true]
      exact hActive
    have hMem : r.deadline ∈ r.timers := by
      rw [timers, List.mem_filter]
      simp [hWaits, hEarly]
    simp [hTimers] at hMem

/-- The moves that are picked are made at their time. -/
theorem follow_onTime (moves : Nat) (r : Run) : ∃ events, r.OnTime events (follow moves r) := by
  induction moves generalizing r with
  | zero => exact ⟨[], .start⟩
  | succ moves ih =>
    rw [follow]
    cases hNext : r.next? with
    | none => exact ⟨[], .start⟩
    | some m =>
      obtain ⟨hTimely, r', hMove, -⟩ := (Picks.of_next? hNext).weight_lt
      obtain ⟨events, hRest⟩ := ih r'
      simp only [bind, Option.bind, hMove]
      exact ⟨_, (OnTime.step .start hTimely hMove).trans hRest⟩

/-- Enough of them come to the end. -/
theorem follow_isOver {moves : Nat} (h : r.weight ≤ moves) : (follow moves r).isOver = true := by
  induction moves generalizing r with
  | zero =>
    cases hNext : r.next? with
    | none => exact next?_eq_none hNext
    | some m =>
      obtain ⟨-, r', -, hLess⟩ := (Picks.of_next? hNext).weight_lt
      omega
  | succ moves ih =>
    rw [follow]
    cases hNext : r.next? with
    | none => exact next?_eq_none hNext
    | some m =>
      obtain ⟨-, r', hMove, hLess⟩ := (Picks.of_next? hNext).weight_lt
      simp only [bind, Option.bind, hMove]
      exact ih (by omega)

/-- **Following the moves that are picked comes to the end of a run.** -/
theorem finish_isOver (r : Run) : r.finish.isOver = true := follow_isOver (Nat.le_refl _)

end Run

-- ---------------------------------------------------------------------------
-- Scrapes on time
-- ---------------------------------------------------------------------------

/-- A scrape whose run is on time, in any order of moves: what was seen of it, and what it came
to. -/
inductive Orchestrator.ScrapesOnTime (o : Orchestrator) (storage : Storage) (s : Snapshot)
    (clock : String → RunClock) : List RunEvent → Scraped → Prop
  | concluded {first last : Run} {events : List RunEvent}
      (hStart : o.start storage s clock = .ok first)
      (hOnTime : first.OnTime events last) (hOver : last.isOver = true) (elapsed : Duration) :
      ScrapesOnTime o storage s clock events (o.conclude last elapsed)

namespace Orchestrator

variable {o : Orchestrator} {storage : Storage} {s : Snapshot} {scraped : Scraped}

theorem ScrapesOnTime.scrapes {clock : String → RunClock} {events : List RunEvent}
    (h : o.ScrapesOnTime storage s clock events scraped) :
    o.Scrapes storage s clock events scraped := by
  cases h with
  | concluded hStart hOnTime hOver elapsed => exact .concluded hStart hOnTime.history hOver elapsed

/-- **A scrape is a run on time that has come to its end.** -/
theorem scrape_onTime {clock : ScrapeClock} (h : o.scrape storage s clock = .ok scraped) :
    ∃ events, o.ScrapesOnTime storage s clock.calls events scraped := by
  unfold scrape at h
  cases hStart : o.start storage s clock.calls with
  | error e => simp [hStart, bind, Except.bind] at h
  | ok run =>
    simp only [hStart, bind, Except.bind, pure, Except.pure, Except.ok.injEq] at h
    obtain ⟨events, hOnTime⟩ := run.follow_onTime run.weight
    exact ⟨events, h ▸ .concluded hStart hOnTime run.finish_isOver clock.elapsed⟩

/-- **A scrape comes to an end** with every buffer that a channel can have. -/
theorem scrape_eq_ok (hRoom : 0 < o.buffer) (hMost : o.buffer ≤ maxCapacity) (storage : Storage)
    (s : Snapshot) (clock : ScrapeClock) :
    o.scrape storage s clock = .ok (o.conclude
      (Run.start (o.calls s clock.calls) o.limit ⟨o.buffer, [], true⟩ storage).finish
        clock.elapsed) := by
  rw [scrape, start_eq_ok_iff.mpr ⟨hRoom, hMost, rfl⟩]
  rfl

end Orchestrator

end TopologyExporter
