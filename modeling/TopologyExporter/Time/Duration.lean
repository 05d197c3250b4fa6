import TopologyExporter.Number.Binary64

/-!
# Durations

Stretches of time to the nanosecond.
-/

namespace TopologyExporter

/-- The nanoseconds of a second. -/
def nanosPerSecond : Nat := 1000000000

/-- The nanoseconds of a millisecond. -/
def nanosPerMilli : Nat := 1000000

/-- A stretch of time in nanoseconds. -/
structure Duration where
  nanos : Nat
deriving Repr, DecidableEq, Inhabited

namespace Duration

/-- A duration of seconds and nanoseconds. -/
def ofSeconds (seconds : Nat) (nanos : Nat := 0) : Duration :=
  ⟨seconds * nanosPerSecond + nanos⟩

/-- A duration of milliseconds. -/
def ofMillis (millis : Nat) : Duration := ⟨millis * nanosPerMilli⟩

/-- The whole seconds. -/
def wholeSeconds (d : Duration) : Nat := d.nanos / nanosPerSecond

/-- The whole milliseconds. -/
def wholeMillis (d : Duration) : Nat := d.nanos / nanosPerMilli

/-- The whole milliseconds in a word of 64 bits, the rest being lost. -/
def millisWord (d : Duration) : Nat := d.wholeMillis % Nat.pow 2 64

/-- The milliseconds that hold the duration; a part of one counts as a whole. -/
def ceilMillis (d : Duration) : Nat := (d.nanos + (nanosPerMilli - 1)) / nanosPerMilli

/-- Whole milliseconds hold no more than themselves. -/
@[simp] theorem ceilMillis_ofMillis (millis : Nat) : (ofMillis millis).ceilMillis = millis := by
  -- the unit is kept as a name, since its digits are no help
  have hCeil : ∀ unit : Nat, 0 < unit → (millis * unit + (unit - 1)) / unit = millis := by
    intro unit hUnit
    rw [Nat.mul_comm, Nat.mul_add_div hUnit, Nat.div_eq_of_lt (Nat.sub_lt hUnit Nat.one_pos),
      Nat.add_zero]
  exact hCeil nanosPerMilli (by decide)

/-- Whether no time passes. -/
def isZero (d : Duration) : Bool := d.nanos = 0

/-- The seconds as a number: the fraction is rounded, and then its sum with the whole seconds. -/
def seconds (d : Duration) : Binary64 :=
  (Binary64.ofNat d.wholeSeconds).add
    ((Binary64.ofNat (d.nanos % nanosPerSecond)).div (.ofNat nanosPerSecond))

/-- A number of units with the part that is left as decimals, without zeros at the end; the part has
`places` digits. -/
def withDecimals (whole part places : Nat) : String :=
  let digits := (toString part).toList
  let padded := List.replicate (places - digits.length) '0' ++ digits
  -- zeros before the first digit count, those after the last do not
  let kept := (padded.reverse.dropWhile (· = '0')).reverse
  if part = 0 then toString whole else toString whole ++ "." ++ String.ofList kept

/-- The text of a duration, in the greatest unit of which it has one. -/
def describe (d : Duration) : String :=
  if nanosPerSecond ≤ d.nanos then
    withDecimals (d.nanos / nanosPerSecond) (d.nanos % nanosPerSecond) 9 ++ "s"
  else if nanosPerMilli ≤ d.nanos then
    withDecimals (d.nanos / nanosPerMilli) (d.nanos % nanosPerMilli) 6 ++ "ms"
  else if 1000 ≤ d.nanos then withDecimals (d.nanos / 1000) (d.nanos % 1000) 3 ++ "µs"
  else toString d.nanos ++ "ns"

end Duration

end TopologyExporter
