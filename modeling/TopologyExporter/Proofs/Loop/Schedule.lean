import Mathlib.Data.List.Induction
import TopologyExporter.Loop.Session
import TopologyExporter.Proofs.Loop.Cycle

/-!
# The schedule of a loop

When the cycles of a loop start depends on how long all cycles before them took: a cycle that starts
little late leaves the next where it was due, one that starts later moves it. Two times bear on it,
that at which the loop is free again and that at which the next cycle is due, and all that is needed
of the rule is that a cycle puts the next one at least a period after both its due time and its
start, less what counts as little.

A loop stops between two cycles, when the signal is ready. Where a cycle is ready as well, either of
them may come first.

## Results

* `Timetable.next_apart`        — how far apart cycles start, whatever lies between them.
* `Timetable.next_after_start`  — while cycles are short they start at the multiples of the
  period.
* `Session.Reaches.start_eq`    — the cycles of a session start when its timetable says so.
* `Session.Stops.of_run`        — a loop that runs is one of these sessions.
* `sessions_keep_schedule`      — the schedule and the end of every session.
-/

namespace TopologyExporter

-- ---------------------------------------------------------------------------
-- Timetables
-- ---------------------------------------------------------------------------

namespace Timetable

/-- The timetable after cycles of some lengths. -/
def after (t : Timetable) (period : Nat) (lengths : List Nat) : Timetable :=
  lengths.foldl (fun t length => t.tick period length) t

variable (t : Timetable) (period length : Nat) (lengths later : List Nat)

@[simp] theorem after_nil : t.after period [] = t := rfl

@[simp] theorem after_cons :
    t.after period (length :: lengths) = (t.tick period length).after period lengths := rfl

@[simp] theorem after_append :
    t.after period (lengths ++ later) = (t.after period lengths).after period later :=
  List.foldl_append

theorem due_le_next : t.due ≤ t.next := Nat.le_max_right t.now t.due

@[simp] theorem tick_now : (t.tick period length).now = t.next + length := rfl

theorem now_le_tick : t.now ≤ (t.tick period length).now :=
  Nat.le_trans (Nat.le_max_left t.now t.due) (Nat.le_add_right t.next length)

/-- **A cycle puts the next one a period after it**, counted from when it was due, … -/
theorem due_add_le_tick : t.due + period ≤ (t.tick period length).due := by
  show t.due + period ≤ dueAfter period t.due t.next
  unfold dueAfter
  split <;> omega

/-- … **and counted from when it started**, as far as that was not little later. -/
theorem next_add_le_tick : t.next + period ≤ (t.tick period length).due + lateness := by
  show t.next + period ≤ dueAfter period t.due t.next + lateness
  unfold dueAfter
  split <;> omega

/-- Over any cycles the due time grows by a period each. -/
theorem due_add_le_after : t.due + lengths.length * period ≤ (t.after period lengths).due := by
  induction lengths generalizing t with
  | nil => simp
  | cons length rest ih =>
    have hFirst := t.due_add_le_tick period length
    have hRest := ih (t.tick period length)
    rw [after_cons, List.length_cons, Nat.succ_mul]
    omega

theorem now_le_after : t.now ≤ (t.after period lengths).now := by
  induction lengths generalizing t with
  | nil => exact Nat.le_refl _
  | cons length rest ih => exact Nat.le_trans (t.now_le_tick period length) (ih _)

/-- **Cycles do not overlap, and lie periods apart**: from the start of a cycle to that of a later
one at least as many periods pass as there are cycles from the one to the other, less what counts as
little. It does not add up. -/
theorem next_apart : t.next + length ≤ (t.after period (length :: lengths)).next ∧
    t.next + (lengths.length + 1) * period ≤
      (t.after period (length :: lengths)).next + lateness := by
  rw [after_cons]
  generalize hFirst : t.tick period length = first
  have hFree : t.next + length ≤ first.now := hFirst ▸ Nat.le_refl _
  have hDue : t.next + period ≤ first.due + lateness :=
    hFirst ▸ t.next_add_le_tick period length
  have hNow := first.now_le_after period lengths
  have hLater := first.due_add_le_after period lengths
  have hNext := (first.after period lengths).due_le_next
  have hNext' : (first.after period lengths).now ≤ (first.after period lengths).next :=
    Nat.le_max_left _ _
  rw [Nat.succ_mul]
  constructor <;> omega

variable {period lengths}

/-- **While no cycle takes longer than a period**, cycles are due, and start, at the multiples of
it. -/
theorem after_start (hShort : ∀ length ∈ lengths, length ≤ period) :
    (start.after period lengths).due = lengths.length * period ∧
      (start.after period lengths).now ≤ lengths.length * period := by
  induction lengths using List.reverseRecOn with
  | nil => exact ⟨by simp [start], by simp [start]⟩
  | append_singleton lengths length ih =>
    obtain ⟨hDue, hNow⟩ := ih fun l hl => hShort l (List.mem_append_left _ hl)
    have hLength := hShort length (by simp)
    have hNext : (start.after period lengths).next = lengths.length * period := by
      rw [next, hDue]
      exact Nat.max_eq_right hNow
    rw [after_append, after_cons, after_nil, List.length_append,
      List.length_singleton, Nat.succ_mul]
    constructor
    · show dueAfter period (start.after period lengths).due (start.after period lengths).next = _
      rw [hDue, hNext, dueAfter, if_neg (by omega)]
    · rw [tick_now, hNext]
      omega

theorem next_after_start (hShort : ∀ length ∈ lengths, length ≤ period) :
    (start.after period lengths).next = lengths.length * period := by
  obtain ⟨hDue, hNow⟩ := after_start hShort
  rw [next, hDue]
  exact Nat.max_eq_right hNow

variable {t} {time : Nat}

/-- Where the signal is not ready, a cycle is. -/
theorem tickReady_of_not_signalReady (h : t.signalReady time = false) :
    t.tickReady time = true := by
  rw [signalReady, decide_eq_false_iff_not] at h
  rw [tickReady, decide_eq_true_eq]
  omega

/-- Once the next cycle is due after the signal, the signal is ready. -/
theorem signalReady_of_lt (h : time < t.due) : t.signalReady time = true := by
  rw [signalReady, decide_eq_true_eq, noticed, next]
  omega

end Timetable

-- ---------------------------------------------------------------------------
-- Sessions
-- ---------------------------------------------------------------------------

/-- A cycle of a session: when it started, and what it came to. -/
structure Turn where
  start : Nat
  cycle : Cycle

/-- When a cycle of a session was over. -/
def Turn.stop (turn : Turn) : Nat := turn.start + turn.cycle.elapsed

namespace Session

/-- A session after one more cycle. -/
def next (s : Session) (c : Cycle) : Session where
  loop := c.loop
  storage := c.storage
  timetable := s.timetable.tick s.loop.interval.ceilMillis c.elapsed
  events := s.events ++ c.events
  starts := s.starts ++ [s.timetable.next]

/-- What a session comes to by some cycles, with a signal that comes at some time. A cycle begins
where one is ready, although the signal may be ready too; the files may have changed since the last
one. -/
inductive Reaches (first : Session) (time : Nat) : List Turn → Session → Prop
  | start : Reaches first time [] first
  | cycle {turns : List Turn} {s : Session} {storage : Storage} {c : Cycle}
      (hPast : Reaches first time turns s) (hReady : s.timetable.tickReady time = true)
      (hCycle : s.loop.RunsOnce storage c) :
      Reaches first time (turns ++ [⟨s.timetable.next, c⟩]) (s.next c)

/-- How a loop that runs from some time on stops: where the signal is ready, it may be taken. -/
inductive Stops (l : ScrapeLoop) (storage : Storage) (time : Nat) : List Turn → Session → Prop
  | stopped {turns : List Turn} {s : Session}
      (hRun : (Session.start l storage).Reaches time turns s)
      (hReady : s.timetable.signalReady time = true) :
      Stops l storage time turns { s with events := s.events ++ [stopEvent] }

variable {first s : Session} {l : ScrapeLoop} {storage : Storage} {time k j : Nat}
  {turns : List Turn}
  {a b : Turn}

/-- What a session keeps account of. -/
structure Accounted (l : ScrapeLoop) (storage : Storage) (turns : List Turn) (s : Session) :
    Prop where
  interval  : s.loop.interval = l.interval
  timetable :
    s.timetable = Timetable.start.after l.interval.ceilMillis (turns.map (·.cycle.elapsed))
  cycles    : s.loop.cycles = l.cycles + turns.length
  scrapes   : s.loop.metrics.scrapes = l.metrics.scrapes + turns.length
  starts    : s.starts = turns.map Turn.start
  events    : s.events = startEvent l :: turns.flatMap (·.cycle.events)

namespace Reaches

/-- **Every session keeps account of its cycles**, by induction on them. -/
theorem accounted (h : (Session.start l storage).Reaches time turns s) :
    s.Accounted l storage turns := by
  induction h with
  | start => exact ⟨rfl, rfl, rfl, rfl, rfl, rfl⟩
  | @cycle turns s storage c _ _ hCycle ih =>
    obtain ⟨hCycles, hScrapes⟩ := hCycle.counts
    refine ⟨hCycle.keeps.2.1.trans ih.interval, ?_, ?_, ?_, ?_, ?_⟩
    · show s.timetable.tick _ _ = _
      rw [ih.interval, ih.timetable, List.map_append, Timetable.after_append]
      rfl
    · show c.loop.cycles = _
      rw [hCycles, ih.cycles, List.length_append, List.length_singleton, Nat.add_assoc]
    · show c.loop.metrics.scrapes = _
      rw [hScrapes, ih.scrapes, List.length_append, List.length_singleton, Nat.add_assoc]
    · show s.starts ++ [s.timetable.next] = _
      rw [ih.starts, List.map_append]
      rfl
    · show s.events ++ c.events = _
      rw [ih.events, List.flatMap_append, List.flatMap_singleton, List.cons_append]

/-- **A cycle starts when the cycles before it let it.** -/
theorem start_eq (h : (Session.start l storage).Reaches time turns s) (hTurn : turns[k]? = some a) :
    a.start =
      (Timetable.start.after l.interval.ceilMillis
        ((turns.take k).map (·.cycle.elapsed))).next := by
  induction h with
  | start => simp at hTurn
  | @cycle turns s storage c hPast _ _ ih =>
    rcases Nat.lt_or_ge k turns.length with hEarlier | hLast
    · rw [List.getElem?_append_left hEarlier] at hTurn
      rw [ih hTurn, List.take_append_of_le_length (Nat.le_of_lt hEarlier)]
    · obtain ⟨hk, rfl⟩ : k - turns.length = 0 ∧ a = ⟨s.timetable.next, c⟩ := by
        rw [List.getElem?_append_right hLast, List.getElem?_singleton] at hTurn
        split at hTurn
        case isTrue hZero => exact ⟨hZero, (Option.some.inj hTurn).symm⟩
        case isFalse => simp at hTurn
      rw [List.take_append_of_le_length (by omega), List.take_of_length_le (by omega),
        ← hPast.accounted.timetable]

/-- A cycle and a later one do not overlap, and lie periods apart. -/
theorem apart (h : (Session.start l storage).Reaches time turns s) (hEarlier : turns[j]? = some a)
    (hLater : turns[k]? = some b) (hjk : j < k) :
    a.stop ≤ b.start ∧ a.start + (k - j) * l.interval.ceilMillis ≤ b.start + lateness := by
  have hk : k < turns.length := (List.getElem?_eq_some_iff.mp hLater).1
  -- the cycles up to the later one are those before the earlier one, that one, and those in between
  have hBetween : (turns.take k).map (·.cycle.elapsed) =
      (turns.take j).map (·.cycle.elapsed) ++
        a.cycle.elapsed :: ((turns.take k).drop (j + 1)).map (·.cycle.elapsed) := by
    have hAt : (turns.take k)[j]? = some a := by rw [List.getElem?_take_of_lt hjk, hEarlier]
    obtain ⟨hj, hGet⟩ := List.getElem?_eq_some_iff.mp hAt
    have hSplit := List.take_append_drop j (turns.take k)
    rw [List.take_take, Nat.min_eq_left (Nat.le_of_lt hjk), List.drop_eq_getElem_cons hj,
      hGet] at hSplit
    have hLengths := congrArg (List.map (·.cycle.elapsed)) hSplit
    rw [List.map_append, List.map_cons] at hLengths
    exact hLengths.symm
  have hCount : (((turns.take k).drop (j + 1)).map (·.cycle.elapsed)).length + 1 = k - j := by
    rw [List.length_map, List.length_drop, List.length_take]
    omega
  have hApart := Timetable.next_apart
    (Timetable.start.after l.interval.ceilMillis ((turns.take j).map (·.cycle.elapsed)))
    l.interval.ceilMillis a.cycle.elapsed (((turns.take k).drop (j + 1)).map (·.cycle.elapsed))
  rw [← Timetable.after_append, ← hBetween, ← h.start_eq hEarlier, ← h.start_eq hLater,
    hCount] at hApart
  exact hApart

/-- No cycle is under way any more where a session stands. -/
theorem stop_le_now (h : (Session.start l storage).Reaches time turns s) :
    ∀ turn ∈ turns, turn.stop ≤ s.timetable.now := by
  induction h with
  | start => simp
  | @cycle turns s storage c _ _ _ ih =>
    intro turn hTurn
    rcases List.mem_append.mp hTurn with hEarlier | hLast
    · exact Nat.le_trans (ih turn hEarlier) (s.timetable.now_le_tick _ _)
    · obtain rfl := List.mem_singleton.mp hLast
      exact Nat.le_refl _

end Reaches

-- ---------------------------------------------------------------------------
-- A loop that runs
-- ---------------------------------------------------------------------------

theorem cycle_eq_ok {clock : CycleClock} {s' : Session} (h : s.cycle clock = .ok s') :
    ∃ c, s.loop.RunsOnce s.storage c ∧ s' = s.next c := by
  unfold cycle at h
  cases hRun : s.loop.runOnce s.storage clock with
  | error e => simp [hRun, bind, Except.bind] at h
  | ok c =>
    simp only [hRun, bind, Except.bind, pure, Except.pure, Except.ok.injEq] at h
    exact ⟨c, .of_runOnce hRun, h.symm⟩

/-- **As many cycles as there are milliseconds until the signal are enough to come to it**: each of
them puts the next one a period later. -/
theorem Reaches.of_runFor {clock : Nat → CycleClock} {cycles : Nat} {last : Session}
    (hPast : (Session.start l storage).Reaches time turns s) (hPositive : 0 < l.interval.ceilMillis)
    (hEnough : time < s.timetable.due + cycles) (h : runFor clock time cycles s = .ok last) :
    ∃ turns, (Session.start l storage).Reaches time turns last ∧
      last.timetable.signalReady time = true := by
  induction cycles generalizing turns s with
  | zero =>
    obtain rfl : s = last := by simpa [runFor] using h
    exact ⟨turns, hPast, Timetable.signalReady_of_lt hEnough⟩
  | succ cycles ih =>
    rw [runFor] at h
    split at h
    case isTrue hReady =>
      obtain rfl : s = last := by simpa using h
      exact ⟨turns, hPast, hReady⟩
    case isFalse hNot =>
      cases hCycle : s.cycle (clock s.loop.cycles) with
      | error e => simp [hCycle, bind, Except.bind] at h
      | ok s' =>
        simp only [hCycle, bind, Except.bind] at h
        obtain ⟨c, hRuns, rfl⟩ := cycle_eq_ok hCycle
        have hTick := Timetable.tickReady_of_not_signalReady (Bool.eq_false_iff.mpr hNot)
        have hDue := s.timetable.due_add_le_tick s.loop.interval.ceilMillis c.elapsed
        rw [hPast.accounted.interval] at hDue
        have hLater : (s.next c).timetable.due =
            (s.timetable.tick l.interval.ceilMillis c.elapsed).due := by
          rw [next, hPast.accounted.interval]
        exact ih (hPast.cycle hTick hRuns) (by omega) h

/-- **A loop that runs stops where the signal is ready.** -/
theorem Stops.of_run {clock : Nat → CycleClock} (hPositive : 0 < l.interval.ceilMillis)
    (h : run l storage clock time = .ok s) : ∃ turns, Stops l storage time turns s := by
  unfold run at h
  cases hRun : runFor clock time (time + 1) (Session.start l storage) with
  | error e => simp [hRun, bind, Except.bind] at h
  | ok last =>
    simp only [hRun, bind, Except.bind, pure, Except.pure, Except.ok.injEq] at h
    obtain ⟨turns, hReaches, hReady⟩ := Reaches.of_runFor .start hPositive
      (show time < 0 + (time + 1) by omega) hRun
    exact ⟨turns, h ▸ .stopped hReaches hReady⟩

end Session

/-- **Sessions keep their schedule.** Take a loop with a period of whole milliseconds, whatever its
fetches give and its cycles take, a signal at any moment, and either choice where a cycle and the
signal are ready at once.

* No cycle starts before an earlier one is over. From the start of a cycle to that of the `n`-th
  after it `n` periods pass, less 5 ms at most, however long the cycles take: none is made up for.
  And up to the first cycle that takes longer than a period, cycles start at the multiples of it.
* When the loop has stopped, every cycle that was begun has ended before the signal was taken, and
  is recorded: in the starts, in the events, in the number of fetches, and in the metrics. No cycle
  follows the signal.
* What a loop that runs comes to is such a session. -/
theorem sessions_keep_schedule (l : ScrapeLoop) (period : Nat)
    (hInterval : l.interval = .ofMillis period) (hPositive : 0 < period) (storage : Storage)
    (time : Nat) :
    (∀ turns s, (Session.start l storage).Reaches time turns s →
      (∀ j k a b, turns[j]? = some a → turns[k]? = some b → j < k →
        a.stop ≤ b.start ∧ a.start + (k - j) * period ≤ b.start + 5) ∧
      (∀ k a, turns[k]? = some a → (∀ b ∈ turns.take k, b.cycle.elapsed ≤ period) →
        a.start = k * period)) ∧
    (∀ turns s, Session.Stops l storage time turns s →
      (∃ before, (Session.start l storage).Reaches time turns before ∧
        before.timetable.signalReady time = true ∧
        time ≤ before.timetable.noticed time ∧
        ∀ turn ∈ turns, turn.stop ≤ before.timetable.noticed time) ∧
      s.starts = turns.map Turn.start ∧
      s.events = Session.startEvent l :: turns.flatMap (·.cycle.events) ++ [Session.stopEvent] ∧
      s.loop.cycles = l.cycles + turns.length ∧
      s.loop.metrics.scrapes = l.metrics.scrapes + turns.length) ∧
    (∀ clock s, Session.run l storage clock time = .ok s →
      ∃ turns, Session.Stops l storage time turns s) := by
  have hMillis : l.interval.ceilMillis = period := by rw [hInterval, Duration.ceilMillis_ofMillis]
  refine ⟨fun turns s hRun => ⟨?_, ?_⟩, ?_, ?_⟩
  · intro j k a b hEarlier hLater hjk
    exact hMillis ▸ hRun.apart hEarlier hLater hjk
  · intro k a hTurn hShort
    have hk : k < turns.length := (List.getElem?_eq_some_iff.mp hTurn).1
    rw [hRun.start_eq hTurn, hMillis, Timetable.next_after_start (List.forall_mem_map.mpr hShort),
      List.length_map, List.length_take, Nat.min_eq_left (Nat.le_of_lt hk)]
  · rintro turns _ ⟨hRun, hReady⟩
    rename_i s
    have hAccount := hRun.accounted
    refine ⟨⟨s, hRun, hReady, Nat.le_max_right _ _, fun turn hTurn => ?_⟩,
      hAccount.starts, ?_, hAccount.cycles, hAccount.scrapes⟩
    · exact Nat.le_trans (hRun.stop_le_now turn hTurn) (Nat.le_max_left _ _)
    · show s.events ++ _ = _
      rw [hAccount.events]
  · intro clock s hRun
    exact Session.Stops.of_run (hMillis ▸ hPositive) hRun

/-- A loop whose fetches take 13 ms, nothing and 30 ms, and then nothing any more, and all fail. -/
private def unevenLoop : ScrapeLoop :=
  { (default : ScrapeLoop) with
    fetcher := fun number _ => ⟨.error (.unavailable "down"), [13, 0, 30].getD number 0⟩
    interval := .ofMillis 10 }

/-- What it comes to with a signal after 55 ms. -/
private def unevenEnd : Session :=
  match Session.run unevenLoop ⟨.empty, []⟩ (fun _ => default) 55 with
  | .ok s => s
  | .error _ => default

private theorem unevenLoop_run :
    Session.run unevenLoop ⟨.empty, []⟩ (fun _ => default) 55 = .ok unevenEnd := by
  have hOk : (Session.run unevenLoop ⟨.empty, []⟩ (fun _ => default) 55).isOk =
      true := by decide +kernel
  unfold unevenEnd
  split
  · assumption
  · rename_i error hError
    simp [hError, Except.isOk, Except.toBool] at hOk

/-- The second cycle starts 3 ms late, and the third on time; the fourth starts 20 ms late, and
those after it are put off. -/
theorem uneven_keeps_schedule :
    0 < 10 ∧ unevenLoop.interval = .ofMillis 10 ∧
    ∃ turns, Session.Stops unevenLoop ⟨.empty, []⟩ 55 turns unevenEnd ∧
      turns.map Turn.start = [0, 13, 20, 50] ∧
      unevenEnd.loop.metrics.scrapes = unevenLoop.metrics.scrapes + 4 := by
  obtain ⟨-, hStops, hRun⟩ :=
    sessions_keep_schedule unevenLoop 10 rfl (by decide) ⟨.empty, []⟩ 55
  obtain ⟨turns, hTurns⟩ := hRun _ _ unevenLoop_run
  obtain ⟨-, hStarts, -, -, hScrapes⟩ := hStops turns _ hTurns
  have hFour : unevenEnd.starts = [0, 13, 20, 50] := by decide +kernel
  have hCount : turns.length = 4 := by
    have hLength := congrArg List.length (hStarts.symm.trans hFour)
    simpa using hLength
  exact ⟨by decide, rfl, turns, hTurns, hStarts ▸ hFour, hCount ▸ hScrapes⟩

end TopologyExporter
