import TopologyExporter.Proofs.Files.Staged
import TopologyExporter.Proofs.Scrape.History

/-!
# Runs — the account of a history

`Run.Accounted` sets a run against the events of its history so far. Nothing in the channel is lost,
made up or out of order, and a task that has not failed has sent just what the steps it has left
behind send. It holds at the start of a run and every step keeps it, whatever the order.

## Results

* `Task.Accounted.proceeds` — a step of one task keeps its account.
* `Run.Accounted.step`      — a step of a run keeps the account of all tasks and of the channel.
* `Run.History.accounted`   — so does a whole history.
-/

namespace TopologyExporter

-- ---------------------------------------------------------------------------
-- One task
-- ---------------------------------------------------------------------------

/-- Whether a job stages a file that a call replaces. -/
def StagingJob.IsOf (call : Call) : StagingJob → Prop
  | running destination content => .replace destination content ∈ call.steps
  | staged file => file.directory = Path.directory file.destination ∧
      ∃ content, .replace file.destination content ∈ call.steps
  | failed error => ∃ destination content reason,
      .replace destination content ∈ call.steps ∧ error = .persistence destination reason

theorem StagingJob.IsOf.finish {call : Call} {job : StagingJob} (h : job.IsOf call)
    (tree : FileTree) : (job.finish tree).1.IsOf call := by
  cases job with
  | staged file => exact h
  | failed error => exact h
  | running destination content =>
    rw [StagingJob.finish]
    split
    case h_1 file tree' hStage =>
      obtain ⟨_, _, rfl, _⟩ := FileTree.stage_eq_ok hStage
      exact ⟨rfl, content, h⟩
    case h_2 error hStage =>
      obtain ⟨reason, rfl⟩ := FileTree.stage_error hStage
      exact ⟨destination, content, reason, h, rfl⟩

theorem Task.endings_of_active {t : Task} (h : t.hasEnded = false) : t.endings = [] := by
  unfold hasEnded at h
  unfold endings
  cases hActivity : t.activity with
  | ended error => simp [hActivity] at h
  | ready => rfl
  | asleep wake => rfl
  | staging job => rfl

@[simp] theorem Task.endings_finish (t : Task) (error : Option CollectorError) :
    (t.finish error).endings = [error] := rfl

/-- The account of one task: whose call it goes through, what it has sent, and how it ended. -/
structure Task.Accounted (limit : Duration) (name : String) (call : Call) (sent : List Family)
    (endings : List (Option CollectorError)) (t : Task) : Prop where
  collector  : t.collector = name
  ending     : t.ending = call.ending
  steps      : t.steps <:+ call.steps
  job        : ∀ job, t.activity = .staging job → job.IsOf call
  endings_eq : endings = t.endings
  result     : ∀ error, t.activity = .ended error → call.Result name limit error
  steps_nil  : ∀ error, t.activity = .ended error → t.steps = []
  sent_eq    : (∀ error, t.activity ≠ .ended (some error)) →
                 sent ++ familiesOfSteps t.steps = call.output

namespace Task.Accounted

variable {limit : Duration} {name : String} {call : Call} {sent : List Family}
  {endings : List (Option CollectorError)} {t t' : Task}

theorem start : (Task.start name call).Accounted limit name call [] [] where
  collector := rfl
  ending := rfl
  steps := List.suffix_rfl
  job := by simp [Task.start]
  endings_eq := rfl
  result := by simp [Task.start]
  steps_nil := by simp [Task.start]
  sent_eq _ := rfl

/-- A task that was not over fails. -/
theorem fail (h : t.Accounted limit name call sent endings) (hActive : t.hasEnded = false)
    {error : CollectorError} (hResult : call.Result name limit (some error)) :
    (t.finish (some error)).Accounted limit name call sent (endings ++ [some error]) where
  collector := h.collector
  ending := h.ending
  steps := List.nil_suffix
  job := by simp [Task.finish]
  endings_eq := by
    rw [h.endings_eq, endings_of_active hActive]
    rfl
  result error' hEnded := by
    simp only [Task.finish, Activity.ended.injEq] at hEnded
    exact hEnded ▸ hResult
  steps_nil _ _ := rfl
  sent_eq hNot := absurd rfl (hNot error)

/-- A task with no steps left returns without an error. -/
theorem succeed (h : t.Accounted limit name call sent endings) (hReady : t.activity = .ready)
    (hSteps : t.steps = []) (hEnding : t.ending = .returns none) :
    (t.finish none).Accounted limit name call sent (endings ++ [none]) where
  collector := h.collector
  ending := h.ending
  steps := List.nil_suffix
  job := by simp [Task.finish]
  endings_eq := by
    rw [h.endings_eq, endings_of_active (by simp [Task.hasEnded, hReady])]
    rfl
  result error hEnded := by
    simp only [Task.finish, Activity.ended.injEq] at hEnded
    exact hEnded ▸ .returned (h.ending ▸ hEnding)
  steps_nil _ _ := rfl
  sent_eq _ := by
    have hSent := h.sent_eq (by simp [hReady])
    rwa [hSteps] at hSent

/-- A task goes on to later steps, past some that are `done`, and is not over. -/
theorem goOn (h : t.Accounted limit name call sent endings) (hActive : t.hasEnded = false)
    (done : List CallStep) {rest : List CallStep} (hSteps : t.steps = done ++ rest)
    {activity : Activity} (hJob : ∀ job, activity = .staging job → job.IsOf call)
    (hActive' : ∀ error, activity ≠ .ended error) :
    ({ t with steps := rest, activity := activity } : Task).Accounted limit name call
      (sent ++ familiesOfSteps done)
      (endings ++ ({ t with steps := rest, activity := activity } : Task).endings) where
  collector := h.collector
  ending := h.ending
  steps := (List.suffix_append done rest).trans (hSteps ▸ h.steps)
  job := hJob
  endings_eq := by
    rw [h.endings_eq, endings_of_active hActive]
    rfl
  result error hEnded := absurd hEnded (hActive' error)
  steps_nil error hEnded := absurd hEnded (hActive' error)
  sent_eq _ := by
    have hSent := h.sent_eq fun error hEnded => by simp [Task.hasEnded, hEnded] at hActive
    rw [hSteps, familiesOfSteps, List.filterMap_append] at hSent
    rw [List.append_assoc]
    exact hSent

/-- **One step keeps the account of a task.** What it sends goes to the end of the channel under the
task's own name. -/
theorem proceeds {channel channel' : Channel SinkItem} {tree tree' : FileTree} {now : Nat}
    (h : t.Accounted limit name call sent endings) (hOpen : channel.isOpen = true)
    (hStep : t.Proceeds channel tree now t' channel' tree') :
    ∃ new : List Family,
      channel'.waiting = channel.waiting ++ new.map (SinkItem.mk name) ∧
      channel'.isOpen = true ∧
      t'.Accounted limit name call (sent ++ new) (endings ++ t'.endings) := by
  cases hStep with
  | wakes hAsleep hNow =>
    have hActive : t.hasEnded = false := by simp [Task.hasEnded, hAsleep]
    exact ⟨_, by simp [familiesOfSteps], hOpen, h.goOn hActive [] rfl (by simp) (by simp)⟩
  | learnsFailure hJob =>
    have hActive : t.hasEnded = false := by simp [Task.hasEnded, hJob]
    obtain ⟨destination, content, reason, hMem, rfl⟩ := h.job _ hJob
    exact ⟨[], by simp, hOpen, by simpa using h.fail hActive (.notReplaced hMem)⟩
  | commits hJob hCommit =>
    have hActive : t.hasEnded = false := by simp [Task.hasEnded, hJob]
    exact ⟨_, by simp [familiesOfSteps], hOpen, h.goOn hActive [] rfl (by simp) (by simp)⟩
  | failsToCommit hJob hCommit =>
    have hActive : t.hasEnded = false := by simp [Task.hasEnded, hJob]
    obtain ⟨-, content, hMem⟩ := h.job _ hJob
    obtain ⟨reason, rfl⟩ := StagedFile.commit_error hCommit
    exact ⟨[], by simp, hOpen, by simpa using h.fail hActive (.notReplaced hMem)⟩
  | @returns error hReady hSteps hEnding =>
    have hActive : t.hasEnded = false := by simp [Task.hasEnded, hReady]
    refine ⟨[], by simp, hOpen, ?_⟩
    cases error with
    | none => simpa using h.succeed hReady hSteps hEnding
    | some error => simpa using h.fail hActive (.returned (h.ending ▸ hEnding))
  | panics hReady hSteps hEnding =>
    have hActive : t.hasEnded = false := by simp [Task.hasEnded, hReady]
    have hResult : call.Result name limit (some (.panicked name)) :=
      .panicked (h.ending ▸ hEnding)
    refine ⟨[], by simp, hOpen, ?_⟩
    rw [h.collector]
    simpa using h.fail hActive hResult
  | pauses hReady hSteps =>
    have hActive : t.hasEnded = false := by simp [Task.hasEnded, hReady]
    exact ⟨_, by simp [familiesOfSteps, CallStep.family?], hOpen,
      h.goOn hActive [.pause _] hSteps (by simp) (by simp)⟩
  | @stages destination content rest hReady hSteps =>
    have hActive : t.hasEnded = false := by simp [Task.hasEnded, hReady]
    have hMem : .replace destination content ∈ call.steps :=
      h.steps.subset (hSteps ▸ List.mem_cons_self ..)
    refine ⟨_, by simp [familiesOfSteps, CallStep.family?], hOpen,
      h.goOn hActive [.replace destination content] hSteps ?_ (by simp)⟩
    intro job hJob
    exact Activity.staging.inj hJob ▸ hMem
  | sends hReady hSteps _ hRoom =>
    have hActive : t.hasEnded = false := by simp [Task.hasEnded, hReady]
    refine ⟨_, ?_, hOpen, h.goOn hActive [.send _] hSteps (by simp [hReady]) (by simp [hReady])⟩
    simp [familiesOfSteps, CallStep.family?, h.collector]
  | findsClosed hReady hSteps hClosed => simp [hOpen] at hClosed

end Task.Accounted

-- ---------------------------------------------------------------------------
-- A whole run
-- ---------------------------------------------------------------------------

/-- The account of a run of some calls after some events. -/
structure Run.Accounted (calls : List (String × Call)) (limit : Duration) (events : List RunEvent)
    (r : Run) : Prop where
  isOpen   : r.channel.isOpen = true
  limit_eq : r.limit = limit
  length   : r.tasks.length = calls.length
  queue    : r.received ++ r.channel.waiting = events.filterMap (sinkItem? calls)
  tasks    : ∀ (i : Nat) (t : Task) (c : String × Call),
               r.tasks[i]? = some t → calls[i]? = some c →
               t.Accounted limit c.1 c.2 (sentBy i events) (endingsOf i events)

namespace Run.Accounted

variable {calls : List (String × Call)} {limit : Duration}
  {events new : List RunEvent} {r r' : Run}
  {i : Nat} {t t' : Task} {c : String × Call}

theorem start {channel : Channel SinkItem} (hOpen : channel.isOpen = true)
    (hEmpty : channel.waiting = []) (storage : Storage) :
    (Run.start calls limit channel storage).Accounted calls limit [] where
  isOpen := hOpen
  limit_eq := rfl
  length := by simp [Run.start]
  queue := by simp [Run.start, hEmpty]
  tasks i t c hTask hCall := by
    simp only [Run.start, List.getElem?_map, hCall, Option.map_some, Option.some.injEq] at hTask
    exact hTask ▸ .start

/-- Every task goes through a call. -/
theorem exists_call (h : r.Accounted calls limit events) (hTask : r.tasks[i]? = some t) :
    ∃ c, calls[i]? = some c := by
  have hi : i < calls.length := h.length ▸ (List.getElem?_eq_some_iff.mp hTask).1
  exact ⟨_, List.getElem?_eq_getElem hi⟩

/-- One task is replaced by another, and shows what it sends and how it ends. -/
theorem setTask (h : r.Accounted calls limit events) (hTask : r.tasks[i]? = some t)
    (hCall : calls[i]? = some c) {families : List Family} {endings : List (Option CollectorError)}
    (hAccount : t'.Accounted limit c.1 c.2 (sentBy i events ++ families)
      (endingsOf i events ++ endings))
    {channel : Channel SinkItem} (hOpen : channel.isOpen = true)
    (hWaiting : channel.waiting = r.channel.waiting ++ families.map (SinkItem.mk c.1))
    (storage : Storage) :
    ({ r with tasks := r.tasks.set i t', channel, storage } : Run).Accounted calls limit
      (events ++ taskEvents i families endings) where
  isOpen := hOpen
  limit_eq := h.limit_eq
  length := by simpa using h.length
  queue := by
    show r.received ++ channel.waiting = _
    rw [List.filterMap_append, sinkItems_taskEvents i families endings hCall, ← h.queue, hWaiting,
      List.append_assoc]
  tasks j u d hTask' hCall' := by
    rw [sentBy_append, endingsOf_append]
    by_cases hij : i = j
    · subst hij
      have hi : i < r.tasks.length := (List.getElem?_eq_some_iff.mp hTask).1
      rw [List.getElem?_set_self hi, Option.some.injEq] at hTask'
      rw [hCall, Option.some.injEq] at hCall'
      rw [sentBy_taskEvents_self, endingsOf_taskEvents_self, ← hTask', ← hCall']
      exact hAccount
    · rw [List.getElem?_set_ne hij] at hTask'
      rw [sentBy_taskEvents_of_ne i j _ _ hij, endingsOf_taskEvents_of_ne i j _ _ hij,
        List.append_nil, List.append_nil]
      exact h.tasks j u d hTask' hCall'

/-- **One step keeps the account of a run.** -/
theorem step (h : r.Accounted calls limit events) (hStep : r.Step new r') :
    r'.Accounted calls limit (events ++ new) := by
  cases hStep with
  | @proceeds i r' hMove =>
    obtain ⟨t, t', channel, tree, hTask, hProceeds, rfl⟩ := Run.proceed_eq_some hMove
    obtain ⟨c, hCall⟩ := h.exists_call hTask
    obtain ⟨families, hWaiting, hOpen, hAccount⟩ :=
      (h.tasks i t c hTask hCall).proceeds h.isOpen hProceeds
    have hi : i < r.tasks.length := (List.getElem?_eq_some_iff.mp hTask).1
    have hShown : r.shown { r with
        tasks := r.tasks.set i t', channel, storage := { r.storage with tree } } i =
        taskEvents i families t'.endings := by
      simp [Run.shown, hWaiting, hi, Function.comp_def]
    rw [hShown]
    exact h.setTask hTask hCall hAccount hOpen hWaiting _
  | @timesOut i t hTask hActive =>
    obtain ⟨c, hCall⟩ := h.exists_call hTask
    have hOld := h.tasks i t c hTask hCall
    have hAccount := hOld.fail hActive .timedOut
    rw [← List.append_nil (sentBy i events)] at hAccount
    have hError : CollectorError.timeout t.collector r.limit = .timeout c.1 limit := by
      rw [hOld.collector, h.limit_eq]
    rw [Run.timeOut, hError]
    exact h.setTask hTask hCall hAccount h.isOpen (by simp) _
  | @stages i r' hMove =>
    obtain ⟨t, job, hTask, hStaging, hRunning, rfl⟩ := Run.stage_eq_some hMove
    obtain ⟨c, hCall⟩ := h.exists_call hTask
    have hOld := h.tasks i t c hTask hCall
    have hActive : t.hasEnded = false := by simp [Task.hasEnded, hStaging]
    have hJob : ∀ job', Activity.staging (job.finish r.storage.tree).1 = .staging job' →
        job'.IsOf c.2 := fun job' hEq => Activity.staging.inj hEq ▸ (hOld.job _ hStaging).finish _
    have hAccount := hOld.goOn hActive [] rfl hJob (by simp)
    exact h.setTask hTask hCall hAccount h.isOpen (by simp [familiesOfSteps]) _
  | receives hMove =>
    obtain ⟨item, rest, hWaiting, rfl⟩ := Run.receive_eq_some hMove
    have hQueue : (r.received ++ [item]) ++ rest = (events ++ []).filterMap (sinkItem? calls) := by
      rw [List.append_nil, ← h.queue, hWaiting, List.append_assoc, List.singleton_append]
    exact ⟨h.isOpen, h.limit_eq, h.length, hQueue, by simpa using h.tasks⟩
  | sweeps hMove =>
    obtain ⟨storage, _, rfl⟩ := Run.sweep_eq_some hMove
    exact ⟨h.isOpen, h.limit_eq, h.length, by simpa using h.queue, by simpa using h.tasks⟩
  | advances hMove =>
    obtain ⟨time, _, rfl⟩ := Run.advance_eq_some hMove
    exact ⟨h.isOpen, h.limit_eq, h.length, by simpa using h.queue, by simpa using h.tasks⟩

end Run.Accounted

/-- **A whole history keeps the account**, by induction on its steps. -/
theorem Run.History.accounted {calls : List (String × Call)} {limit : Duration} {first last : Run}
    {events : List RunEvent} (h : first.History events last)
    (hFirst : first.Accounted calls limit []) : last.Accounted calls limit events := by
  induction h with
  | start => exact hFirst
  | step _ hStep ih => exact ih.step hStep

end TopologyExporter
