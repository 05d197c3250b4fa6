import Mathlib.Data.List.Basic
import TopologyExporter.Proofs.Scrape.Publication
import TopologyExporter.Sink.Channel

/-!
# The metrics sink — sessions

A sink is used in any order: a collector sends lists of families, each as far as there is room,
someone receives, and at some time no one receives any more. Each family that was accepted is
received once and in its turn, or waits, or waited when receiving ended.

## Results

* `Channel.sendAll_open`, `sendAll_closed` — what sending some items comes to.
* `SinkSession.Kept.step`                  — a step keeps what was accepted, in order.
* `sessions_keep_accepted_order`           — so does a session, and each call takes what there is
  room for.
-/

namespace TopologyExporter

-- ---------------------------------------------------------------------------
-- Sending some items
-- ---------------------------------------------------------------------------

namespace Channel

variable {α : Type} {c : Channel α}

/-- How many more items can wait. -/
def room (c : Channel α) : Nat := c.capacity - c.waiting.length

/-- **Sending takes what there is room for**, and is blocked by the next item. -/
theorem sendAll_open (hOpen : c.isOpen = true) (items : List α) :
    c.sendAll items =
      (if items.length ≤ c.room then .done else .blocked,
        { c with waiting := c.waiting ++ items.take c.room }) := by
  induction items generalizing c with
  | nil => simp [sendAll]
  | cons item rest ih =>
    obtain ⟨capacity, waiting, isOpen⟩ := c
    obtain rfl : isOpen = true := hOpen
    by_cases hRoom : waiting.length < capacity
    · have hSend : (⟨capacity, waiting, true⟩ : Channel α).send item =
          (.done, ⟨capacity, waiting ++ [item], true⟩) := by
        simp [send, hRoom]
      obtain ⟨n, hn⟩ : ∃ n, capacity - waiting.length = n + 1 :=
        ⟨capacity - waiting.length - 1, by omega⟩
      have hAfter : capacity - (waiting.length + 1) = n := by omega
      rw [sendAll, hSend]
      show sendAll ⟨capacity, waiting ++ [item], true⟩ rest = _
      rw [ih rfl]
      simp [room, hn, hAfter]
    · have hFull : capacity - waiting.length = 0 := by omega
      simp [sendAll, send, hRoom, room, hFull]

/-- Once no one receives, nothing is taken. -/
theorem sendAll_closed (hClosed : c.isOpen = false) (items : List α) :
    c.sendAll items = (if items = [] then .done else .closed, c) := by
  cases items with
  | nil => simp [sendAll]
  | cons item rest => simp [sendAll, send, hClosed]

/-- What is received has waited longest, and the rest goes on waiting. -/
theorem receive_eq_some {item : α} {c' : Channel α} (h : c.receive = some (item, c')) :
    ∃ rest, c.waiting = item :: rest ∧ c' = { c with waiting := rest } := by
  unfold receive at h
  cases hWaiting : c.waiting with
  | nil => simp [hWaiting] at h
  | cons first rest =>
    rw [hWaiting, Option.some.injEq, Prod.mk.injEq] at h
    obtain ⟨rfl, rfl⟩ := h
    exact ⟨rest, rfl, rfl⟩

end Channel

-- ---------------------------------------------------------------------------
-- Sessions
-- ---------------------------------------------------------------------------

/-- What can be done with a sink: families are sent by one call, which is given up where it cannot
go on, an item is received, or no one receives any more. -/
inductive SinkStep
  | send (families : List Family)
  | receive
  | close
deriving Repr, DecidableEq, Inhabited

/-- A sink in use: its channel, what was received, what waited when receiving ended, and the
families that its calls have put into the channel, call by call. -/
structure SinkSession where
  channel : Channel SinkItem
  received : List SinkItem
  lost : List SinkItem
  accepted : List Family
deriving Repr, DecidableEq, Inhabited

/-- A call that sends families: how it ended, the families that it put into the channel, and the
channel after it. -/
structure SinkCall where
  result : Sending
  accepted : List Family
  channel : Channel SinkItem
deriving Repr, DecidableEq, Inhabited

namespace SinkSession

/-- A session that begins. -/
def start (channel : Channel SinkItem) : SinkSession := ⟨channel, [], [], []⟩

/-- The next call that sends families. What waits after it beyond those that waited before is what
it has put in. -/
def call (s : SinkSession) (collector : String) (families : List Family) : SinkCall :=
  let (result, channel) := sendFamilies collector families s.channel
  ⟨result, (channel.waiting.drop s.channel.waiting.length).map SinkItem.family, channel⟩

/-- One step of a session. -/
def step (collector : String) (s : SinkSession) : SinkStep → SinkSession
  | .send families =>
    let call := s.call collector families
    { s with channel := call.channel, accepted := s.accepted ++ call.accepted }
  | .receive =>
    match s.channel.receive with
    | none => s
    | some (item, channel) => { s with channel, received := s.received ++ [item] }
  | .close => { s with channel := s.channel.close, lost := s.lost ++ s.channel.waiting }

/-- A session after some steps. -/
def after (collector : String) (steps : List SinkStep) (s : SinkSession) : SinkSession :=
  steps.foldl (step collector) s

variable {collector : String} {s : SinkSession}

theorem call_open (hOpen : s.channel.isOpen = true) (families : List Family) :
    s.call collector families =
      ⟨if families.length ≤ s.channel.room then .done else .blocked,
        families.take s.channel.room, { s.channel with
          waiting := s.channel.waiting ++ (families.take s.channel.room).map
            (SinkItem.mk collector) }⟩ := by
  simp [call, sendFamilies, Channel.sendAll_open hOpen, ← List.map_take, Function.comp_def]

theorem call_closed (hClosed : s.channel.isOpen = false) (families : List Family) :
    s.call collector families = ⟨if families = [] then .done else .closed, [], s.channel⟩ := by
  simp [call, sendFamilies, Channel.sendAll_closed hClosed]

/-- What a session keeps: `closed` says whether receiving has ended. -/
structure Kept (collector : String) (capacity : Nat) (closed : Bool) (s : SinkSession) : Prop where
  capacity_eq : s.channel.capacity = capacity
  isOpen_eq   : s.channel.isOpen = !closed
  bounded     : s.channel.waiting.length ≤ capacity
  order       : s.received ++ s.lost ++ s.channel.waiting = s.accepted.map (SinkItem.mk collector)
  lost_nil    : closed = false → s.lost = []
  waiting_nil : closed = true → s.channel.waiting = []

theorem Kept.start (collector : String) (capacity : Nat) :
    (start ⟨capacity, [], true⟩).Kept collector capacity false where
  capacity_eq := rfl
  isOpen_eq := rfl
  bounded := Nat.zero_le _
  order := rfl
  lost_nil _ := rfl
  waiting_nil h := absurd h Bool.false_ne_true

/-- A call keeps what was accepted: what it puts in waits last. -/
theorem Kept.send {capacity : Nat} {closed : Bool} (h : s.Kept collector capacity closed)
    (families : List Family) :
    (s.step collector (.send families)).Kept collector capacity closed := by
  cases closed with
  | false =>
    rw [SinkSession.step, call_open h.isOpen_eq]
    refine ⟨h.capacity_eq, h.isOpen_eq, ?_, ?_, h.lost_nil,
      fun hClosed => absurd hClosed Bool.false_ne_true⟩
    · have hBounded := h.bounded
      have hCapacity := h.capacity_eq
      simp only [List.length_append, List.length_map, List.length_take, Channel.room]
      omega
    · show s.received ++ s.lost ++ (s.channel.waiting ++ _) =
        (s.accepted ++ _).map (SinkItem.mk collector)
      rw [← List.append_assoc, h.order, List.map_append]
  | true =>
    rw [SinkSession.step, call_closed h.isOpen_eq]
    exact ⟨h.capacity_eq, h.isOpen_eq, h.bounded, by simpa using h.order, h.lost_nil,
      h.waiting_nil⟩

/-- Receiving keeps what was accepted: the item goes from the front of what waits to the end of what
was received. -/
theorem Kept.receive {capacity : Nat} {closed : Bool} (h : s.Kept collector capacity closed) :
    (s.step collector .receive).Kept collector capacity closed := by
  rw [SinkSession.step]
  split
  case h_1 => exact h
  case h_2 item channel hReceive =>
    obtain ⟨rest, hWaiting, rfl⟩ := Channel.receive_eq_some hReceive
    have hOpen : closed = false := by
      rw [← Bool.not_eq_true]
      intro hClosed
      rw [h.waiting_nil hClosed] at hWaiting
      exact List.cons_ne_nil _ _ hWaiting.symm
    have hBounded := h.bounded
    have hOrder := h.order
    rw [hWaiting] at hBounded hOrder
    refine ⟨h.capacity_eq, h.isOpen_eq, Nat.le_of_succ_le hBounded, ?_, h.lost_nil,
      fun hClosed => absurd (hOpen.symm.trans hClosed) Bool.false_ne_true⟩
    show s.received ++ [item] ++ s.lost ++ rest = s.accepted.map (SinkItem.mk collector)
    -- nothing is lost as long as someone receives
    rw [h.lost_nil hOpen, List.append_nil] at hOrder ⊢
    rw [← hOrder, List.append_assoc, List.singleton_append]

/-- The end of receiving keeps what was accepted: what waited is lost. -/
theorem Kept.close {capacity : Nat} {closed : Bool} (h : s.Kept collector capacity closed) :
    (s.step collector .close).Kept collector capacity true where
  capacity_eq := h.capacity_eq
  isOpen_eq := rfl
  bounded := Nat.zero_le _
  order := by
    show s.received ++ (s.lost ++ s.channel.waiting) ++ [] = s.accepted.map (SinkItem.mk collector)
    rw [List.append_nil, ← List.append_assoc, h.order]
  lost_nil hOpen := absurd hOpen.symm Bool.false_ne_true
  waiting_nil _ := rfl

/-- **One step keeps what was accepted, in order.** -/
theorem Kept.step {capacity : Nat} {closed : Bool} (h : s.Kept collector capacity closed)
    (step : SinkStep) :
    (s.step collector step).Kept collector capacity (closed || step == .close) := by
  cases step with
  | send families =>
    have hSame : (closed || SinkStep.send families == SinkStep.close) = closed := by simp
    rw [hSame]
    exact h.send families
  | receive =>
    have hSame : (closed || SinkStep.receive == SinkStep.close) = closed := by simp
    rw [hSame]
    exact h.receive
  | close =>
    have hClosed : (closed || SinkStep.close == SinkStep.close) = true := by simp
    rw [hClosed]
    exact h.close

/-- **A whole session keeps what was accepted, in order**, by induction on its steps. -/
theorem Kept.after {capacity : Nat} {closed : Bool} (h : s.Kept collector capacity closed)
    (steps : List SinkStep) :
    (s.after collector steps).Kept collector capacity (closed || steps.contains .close) := by
  induction steps generalizing s closed with
  | nil =>
    rw [List.contains_nil, Bool.or_false]
    exact h
  | cons step rest ih =>
    have hRest := ih (h.step step)
    rwa [Bool.or_assoc, Bool.beq_comm, ← List.contains_cons] at hRest

/-- What the next call puts in, and how it ends. -/
theorem Kept.call_eq {capacity : Nat} {closed : Bool} (h : s.Kept collector capacity closed)
    (families : List Family) :
    (s.call collector families).accepted =
        (if closed then [] else families.take (capacity - s.channel.waiting.length)) ∧
      (s.call collector families).result =
        if closed then if families = [] then .done else .closed
        else if families.length ≤ capacity - s.channel.waiting.length then .done
          else .blocked := by
  cases closed with
  | false =>
    have hLeft : s.channel.room = capacity - s.channel.waiting.length := by
      rw [Channel.room, h.capacity_eq]
    rw [call_open h.isOpen_eq, hLeft]
    exact ⟨rfl, rfl⟩
  | true =>
    rw [call_closed h.isOpen_eq]
    exact ⟨rfl, rfl⟩

end SinkSession

open SinkSession in
/-- **A sink loses, doubles and moves nothing.** For a channel of any capacity that is not zero,
unless it is greater than any channel's, and for every session:

* what was received, followed by what waits or waited when receiving ended, is what the calls have
  put in, call by call, under the name of the collector;
* never more items wait than the capacity;
* whatever has been done before, the next call puts in the first of its families: all if it is done;
  if it is blocked, as many as there was room for; and none once no one receives, when it fails if
  it has any. -/
theorem sessions_keep_accepted_order (collector : String) {capacity : Nat} (hRoom : 0 < capacity) :
    (maxCapacity < capacity ∧
      (Channel.make capacity : Except CapacityError (Channel SinkItem)) = .error .tooGreat) ∨
    ∃ channel, Channel.make capacity = .ok channel ∧ ∀ steps : List SinkStep,
      let s := (start channel).after collector steps
      s.received ++ s.lost ++ s.channel.waiting = s.accepted.map (SinkItem.mk collector) ∧
      (.close ∉ steps → s.lost = []) ∧ (.close ∈ steps → s.channel.waiting = []) ∧
      s.channel.waiting.length ≤ capacity ∧
      ∀ families : List Family,
        let call := s.call collector families
        call.accepted <+: families ∧
        (call.result = .done → call.accepted = families) ∧
        (call.result = .blocked → .close ∉ steps ∧
          capacity - s.channel.waiting.length < families.length ∧
          call.accepted = families.take (capacity - s.channel.waiting.length)) ∧
        (call.result.error? = some .sinkClosed ↔ .close ∈ steps ∧ families ≠ []) ∧
        (.close ∈ steps → call.accepted = []) := by
  by_cases hMost : capacity ≤ maxCapacity
  · refine .inr ⟨_, Channel.make_eq_ok_iff.mpr ⟨hRoom, hMost, rfl⟩, fun steps => ?_⟩
    have hKept := (Kept.start collector capacity).after steps
    rw [Bool.false_or] at hKept
    generalize (start ⟨capacity, [], true⟩).after collector steps = s at hKept
    refine ⟨hKept.order, fun hOpen => hKept.lost_nil (by simpa using hOpen),
      fun hClosed => hKept.waiting_nil (by simpa using hClosed), hKept.bounded,
        fun families => ?_⟩
    obtain ⟨hAccepted, hResult⟩ := hKept.call_eq families
    simp only [hAccepted, hResult]
    by_cases hClosed : SinkStep.close ∈ steps
    · by_cases hNone : families = []
      · simp [hClosed, hNone, Sending.error?]
      · simp [hClosed, hNone, Sending.error?]
    · by_cases hFits : families.length ≤ capacity - s.channel.waiting.length
      · simp [hClosed, hFits, Sending.error?, List.take_of_length_le hFits]
      · simp [hClosed, hFits, Sending.error?, Nat.not_le.mp hFits, List.take_prefix]
  · have hGreat : maxCapacity < capacity := Nat.not_le.mp hMost
    refine .inl ⟨hGreat, ?_⟩
    rw [Channel.make, if_neg (Nat.ne_of_gt hRoom), if_pos hGreat]

private def hourly : Family := ⟨"hourly", "What happens every hour.", .gauge, []⟩

private def daily : Family := ⟨"daily", "What happens every day.", .gauge, []⟩

/-- The second call is given up when the channel is full, and the third finds that no one
receives. -/
private def interrupted : List SinkStep :=
  [.send [hourly], .receive, .send [daily, hourly, daily], .receive, .close, .send [hourly]]

/-- Of a session whose calls are given up, what was received and lost is what was accepted. -/
theorem interrupted_session_keeps_order :
    0 < 2 ∧
    let s := (SinkSession.start ⟨2, [], true⟩).after "clock" interrupted
    s.received = [⟨"clock", hourly⟩, ⟨"clock", daily⟩] ∧
      s.lost = [⟨"clock", hourly⟩] ∧
      s.accepted.map (SinkItem.mk "clock") = s.received ++ s.lost ++ s.channel.waiting := by
  refine ⟨by decide, by decide +kernel, by decide +kernel, ?_⟩
  obtain ⟨hGreat, -⟩ | ⟨channel, hMade, hSession⟩ :=
    sessions_keep_accepted_order "clock" (show 0 < 2 by decide)
  · exact absurd hGreat (by decide)
  · obtain ⟨-, -, rfl⟩ := Channel.make_eq_ok_iff.mp hMade
    exact (hSession interrupted).1.symm

end TopologyExporter
