import Mathlib.Data.List.Forall2
import TopologyExporter.Proofs.Scrape.Task

/-!
# Calls alone — what a call comes to under its limit

A call that is alone, and whose families are received at once, waits for nothing but times and its
own files. What it comes to then is a function of its steps, its limit and the files. With others
beside it this is not so when the limit strikes while the call, all its waiting done, has only
families left to send: whether there is room for all of them at that moment is not for the call to
say. Such a call is **tied** with its limit.

## Results

* `soloSteps_of_waits`     — at its limit a call that still has to wait comes to its limit.
* `HeadsFor.send` etc. — every step of a call that is not tied leads to what it comes to alone.
* `Call.Alike.solo_eq`     — calls that differ in what their families say come to the same.
-/

namespace TopologyExporter

-- ---------------------------------------------------------------------------
-- A call alone
-- ---------------------------------------------------------------------------

/-- What a call comes to that has no steps left. -/
def Ending.result (collector : String) (limit : Duration) : Ending → Option CollectorError
  | returns error => error
  | panics => some (.panicked collector)
  | hangs => some (.timeout collector limit)

/-- What the rest of a call comes to that is alone at the time `now`, and the files after it. All
that it sends is received at once. -/
def soloSteps (collector : String) (limit : Duration) (ending : Ending) (now : Nat)
    (tree : FileTree) :
    List CallStep → Option CollectorError × FileTree
  | [] => (ending.result collector limit, tree)
  | .pause time :: rest =>
    if now + time ≤ limit.ceilMillis then soloSteps collector limit ending (now + time) tree rest
    else (some (.timeout collector limit), tree)
  | .send _ :: rest => soloSteps collector limit ending now tree rest
  | .replace destination content :: rest =>
    -- at its limit a call does not wait for a file any more
    if now < limit.ceilMillis then
      match tree.persistAtomically destination content with
      | (.ok (), tree) => soloSteps collector limit ending now tree rest
      | (.error e, tree) => (some e, tree)
    else (some (.timeout collector limit), tree)

/-- What a call of a collector comes to that is alone, and the files after it. -/
def Call.solo (c : Call) (collector : String) (limit : Duration) (tree : FileTree) :
    Option CollectorError × FileTree :=
  soloSteps collector limit c.ending 0 tree c.steps

/-- Whether a call with some steps left has nothing to wait for but room for what it sends. -/
def endsAtOnce (ending : Ending) (steps : List CallStep) : Bool :=
  ending ≠ .hangs && steps.all fun
    | .pause time => time = 0
    | .send _ => true
    | .replace _ _ => false

/-- Whether the rest of a call would come to its end at the very moment of its limit, with families
to send at that moment; `left` milliseconds are left until then. -/
def tiedSteps (ending : Ending) (left : Nat) : List CallStep → Bool
  | [] => false
  | .pause time :: rest => time ≤ left && tiedSteps ending (left - time) rest
  | .send _ :: rest => if left = 0 then endsAtOnce ending rest else tiedSteps ending left rest
  | .replace _ _ :: rest => left ≠ 0 && tiedSteps ending left rest

/-- Whether a call would come to its end at the very moment of a limit, with families to send at
that moment. -/
def Call.isTied (c : Call) (limit : Duration) : Bool := tiedSteps c.ending limit.ceilMillis c.steps

section Solo

variable {collector : String} {limit : Duration} {ending : Ending} {now : Nat}
  {tree tree' : FileTree}
  {steps rest : List CallStep}

/-- **At its limit a call that still has to wait comes to its limit**, and to no more files. -/
theorem soloSteps_of_waits (hLate : now = limit.ceilMillis)
    (hWaits : endsAtOnce ending steps = false) :
    soloSteps collector limit ending now tree steps = (some (.timeout collector limit), tree) := by
  induction steps with
  | nil =>
    obtain rfl : ending = .hangs := by simpa [endsAtOnce] using hWaits
    rfl
  | cons step rest ih =>
    cases step with
    | send family => exact ih (by simpa [endsAtOnce] using hWaits)
    | replace destination content => rw [soloSteps, if_neg (by omega)]
    | pause time =>
      rw [soloSteps]
      split
      case isTrue hTime =>
        obtain rfl : time = 0 := by omega
        exact ih (by simpa [endsAtOnce] using hWaits)
      case isFalse => rfl

-- ---------------------------------------------------------------------------
-- What the rest of a call leads to
-- ---------------------------------------------------------------------------

/-- Whether the rest of a call, from a time within its limit, leads to a result whatever room there
is for what it sends. At the limit itself it may, past a family for which there was room, lead
elsewhere alone, if nothing but the limit can come of it. -/
structure HeadsFor (collector : String) (limit : Duration) (ending : Ending)
    (result : Option CollectorError × FileTree) (now : Nat) (tree : FileTree)
    (steps : List CallStep) :
    Prop where
  inTime : now ≤ limit.ceilMillis
  solo   : soloSteps collector limit ending now tree steps = result
  untied : tiedSteps ending (limit.ceilMillis - now) steps = false ∨
             (now = limit.ceilMillis ∧ result = (some (.timeout collector limit), tree))

/-- A call that is not tied leads to what it comes to alone. -/
theorem HeadsFor.start {c : Call} (hUntied : c.isTied limit = false) :
    HeadsFor collector limit c.ending (c.solo collector limit tree) 0 tree c.steps :=
  ⟨Nat.zero_le _, rfl, .inl hUntied⟩

namespace HeadsFor

variable {result : Option CollectorError × FileTree}

theorem wait {wake : Nat}
    (h : HeadsFor collector limit ending result now tree (.pause (wake - now) :: rest)) {now' : Nat}
    (hLater : now ≤ now') (hWake : now' ≤ wake) (hInTime : now' ≤ limit.ceilMillis) :
    HeadsFor collector limit ending result now' tree (.pause (wake - now') :: rest) := by
  refine ⟨hInTime, ?_, ?_⟩
  · rw [← h.solo, soloSteps, soloSteps, show now' + (wake - now') = now + (wake - now) by omega]
  · refine h.untied.imp (fun hUntied => ?_) (fun ⟨hLate, hResult⟩ => ⟨by omega, hResult⟩)
    have hSame : wake - now' ≤ limit.ceilMillis - now' ↔
        wake - now ≤ limit.ceilMillis - now := by omega
    rw [tiedSteps] at hUntied ⊢
    rwa [show limit.ceilMillis - now' - (wake - now') =
      limit.ceilMillis - now - (wake - now) by omega, decide_eq_decide.mpr hSame]

/-- A pause that is over leads on. -/
theorem wake (h : HeadsFor collector limit ending result now tree (.pause 0 :: rest)) :
    HeadsFor collector limit ending result now tree rest := by
  refine ⟨h.inTime, ?_, h.untied.imp_left fun hUntied => ?_⟩
  · rw [← h.solo, soloSteps, if_pos (by simpa using h.inTime), Nat.add_zero]
  · simpa [tiedSteps] using hUntied

/-- **A family for which there is room leads on.** -/
theorem send {family : Family}
    (h : HeadsFor collector limit ending result now tree (.send family :: rest)) :
    HeadsFor collector limit ending result now tree rest := by
  refine ⟨h.inTime, h.solo, ?_⟩
  rcases h.untied with hUntied | hLate
  case inr => exact .inr hLate
  rw [tiedSteps] at hUntied
  split at hUntied
  case isFalse => exact .inl hUntied
  case isTrue hLeft =>
    have hLate : now = limit.ceilMillis := Nat.le_antisymm h.inTime (by omega)
    exact .inr ⟨hLate, h.solo ▸ soloSteps_of_waits hLate hUntied⟩

/-- A file that is replaced leads on. -/
theorem replace {destination : String} {content : Bytes}
    (h : HeadsFor collector limit ending result now tree (.replace destination content :: rest))
    (hEarly : now < limit.ceilMillis)
    (hReplaced : tree.persistAtomically destination content = (.ok (), tree')) :
    HeadsFor collector limit ending result now tree' rest := by
  refine ⟨h.inTime, ?_, .inl ?_⟩
  · rw [← h.solo, soloSteps, if_pos hEarly, hReplaced]
  · have hUntied := h.untied.resolve_right fun hLate => by omega
    rw [tiedSteps] at hUntied
    simpa [show limit.ceilMillis - now ≠ 0 by omega] using hUntied

/-- The error of a file is what the call comes to. -/
theorem replace_error {destination : String} {content : Bytes} {error : CollectorError}
    (h : HeadsFor collector limit ending result now tree (.replace destination content :: rest))
    (hEarly : now < limit.ceilMillis)
    (hError : tree.persistAtomically destination content = (.error error, tree')) :
    result = (some error, tree') := by
  rw [← h.solo, soloSteps, if_pos hEarly, hError]

/-- **A call that waits at its limit comes to its limit**, whether for room, … -/
theorem late_send {family : Family}
    (h : HeadsFor collector limit ending result now tree (.send family :: rest))
    (hLate : limit.ceilMillis ≤ now) : result = (some (.timeout collector limit), tree) := by
  rcases h.untied with hUntied | ⟨-, hResult⟩
  · rw [tiedSteps, if_pos (by omega)] at hUntied
    exact h.solo ▸ soloSteps_of_waits (Nat.le_antisymm h.inTime hLate) hUntied
  · exact hResult

/-- … for a time, … -/
theorem late_pause {time : Nat}
    (h : HeadsFor collector limit ending result now tree (.pause time :: rest))
    (hLate : limit.ceilMillis ≤ now) (hTime : 0 < time) :
    result = (some (.timeout collector limit), tree) := by
  rw [← h.solo, soloSteps, if_neg (by omega)]

/-- … or for a file. -/
theorem late_replace {destination : String} {content : Bytes}
    (h : HeadsFor collector limit ending result now tree (.replace destination content :: rest))
    (hLate : limit.ceilMillis ≤ now) : result = (some (.timeout collector limit), tree) := by
  rw [← h.solo, soloSteps, if_neg (by omega)]

end HeadsFor

end Solo

-- ---------------------------------------------------------------------------
-- Calls that are alike
-- ---------------------------------------------------------------------------

/-- Steps that are the same but for what a family says. -/
inductive CallStep.Alike (alike : Family → Family → Prop) : CallStep → CallStep → Prop
  | pause (time : Nat) : Alike alike (.pause time) (.pause time)
  | send {family family' : Family} (h : alike family family') :
      Alike alike (.send family) (.send family')
  | replace (destination : String) (content : Bytes) :
      Alike alike (.replace destination content) (.replace destination content)

/-- Calls that are the same but for what their families say. -/
structure Call.Alike (alike : Family → Family → Prop) (c c' : Call) : Prop where
  steps  : List.Forall₂ (CallStep.Alike alike) c.steps c'.steps
  ending : c.ending = c'.ending

namespace Call.Alike

variable {alike : Family → Family → Prop} {c c' : Call}

theorem soloSteps_eq {steps steps' : List CallStep}
    (h : List.Forall₂ (CallStep.Alike alike) steps steps') (collector : String) (limit : Duration)
    (ending : Ending) (now : Nat) (tree : FileTree) :
    soloSteps collector limit ending now tree steps =
      soloSteps collector limit ending now tree steps' := by
  induction h generalizing now tree with
  | nil => rfl
  | cons hStep _ ih =>
    cases hStep with
    | pause time => rw [soloSteps, soloSteps, ih]
    | send h => exact ih now tree
    | replace destination content =>
      rw [soloSteps, soloSteps]
      split
      · split
        · exact ih _ _
        · rfl
      · rfl

/-- **Calls that are alike come to the same.** -/
theorem solo_eq (h : c.Alike alike c') (collector : String) (limit : Duration) (tree : FileTree) :
    c.solo collector limit tree = c'.solo collector limit tree := by
  rw [solo, solo, h.ending, soloSteps_eq h.steps]

theorem familiesOfSteps_alike {steps steps' : List CallStep}
    (h : List.Forall₂ (CallStep.Alike alike) steps steps') :
    List.Forall₂ alike (familiesOfSteps steps) (familiesOfSteps steps') := by
  induction h with
  | nil => exact .nil
  | cons hStep _ ih =>
    cases hStep with
    | pause time => exact ih
    | send hFamily => exact .cons hFamily ih
    | replace destination content => exact ih

/-- What they send is alike. -/
theorem output (h : c.Alike alike c') : List.Forall₂ alike c.output c'.output :=
  familiesOfSteps_alike h.steps

end Call.Alike

end TopologyExporter
