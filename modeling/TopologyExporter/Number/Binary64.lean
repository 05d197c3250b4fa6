/-!
# Binary numbers of 64 bits

The values of metrics: signed significands of 53 bits times a power of two, the two infinities, and
`nan`. Every operation computes an exact ratio and rounds it once.

* `Binary64.ofRatio` rounds a ratio of natural numbers to the nearest value, ties to even;
* `Binary64.ofDecimal`, `add`, `mul` and `div` are that rounding of the exact result.
-/

namespace TopologyExporter

/-- A binary number. `finite` stands for `significand * 2 ^ exponent` with a sign; its significand
has 53 bits unless the exponent is the least one. -/
inductive Binary64
  | finite (negative : Bool) (significand : Nat) (exponent : Int)
  | infinite (negative : Bool)
  | nan
deriving Repr, DecidableEq, Inhabited

/-- The quotient rounded to the nearest whole number, ties to even. -/
def roundedQuotient (num den : Nat) : Nat :=
  let q := num / den
  let r := num % den
  if den < 2 * r ∨ (den = 2 * r ∧ q % 2 = 1) then q + 1 else q

namespace Binary64

/-- The least exponent of a finite value. -/
def leastExponent : Int := -1074

/-- The greatest exponent of a finite value. -/
def greatestExponent : Int := 971

/-- Zero with a sign. -/
def zero (negative : Bool) : Binary64 := finite negative 0 leastExponent

/-- The ratio `num / (den * 2 ^ e)` as numerator and denominator. -/
def scaled (num den : Nat) (e : Int) : Nat × Nat :=
  if e < 0 then (num * Nat.pow 2 (-e).toNat, den) else (num, den * Nat.pow 2 e.toNat)

/-- The exponent for which the significand of `num / den` has 53 bits, or the least one. -/
def exponentFor (num den : Nat) : Int :=
  let e : Int := (num.log2 : Int) - den.log2 - 52
  let (n, d) := scaled num den e
  -- the guess from the lengths is right or one too great
  max leastExponent (if n < d * Nat.pow 2 52 then e - 1 else e)

/-- The value nearest to `num / den`, ties to even. -/
def ofRatio (negative : Bool) (num den : Nat) : Binary64 :=
  if num = 0 then zero negative
  else
    let e := exponentFor num den
    let (n, d) := scaled num den e
    let s := roundedQuotient n d
    -- rounding up may have made the significand a bit too long
    let (s, e) := if s = Nat.pow 2 53 then (Nat.pow 2 52, e + 1) else (s, e)
    if greatestExponent < e then infinite negative else finite negative s e

/-- The value nearest to a natural number. -/
def ofNat (n : Nat) : Binary64 := ofRatio false n 1

instance (n : Nat) : OfNat Binary64 n := ⟨ofNat n⟩

/-- The value nearest to `digits * 10 ^ exponent`. -/
def ofDecimal (negative : Bool) (digits : Nat) (exponent : Int) : Binary64 :=
  if exponent < 0 then ofRatio negative digits (Nat.pow 10 (-exponent).toNat)
  else ofRatio negative (digits * Nat.pow 10 exponent.toNat) 1

/-- The value nearest to `n * 2 ^ e`. -/
def ofScaled (negative : Bool) (n : Nat) (e : Int) : Binary64 :=
  if e < 0 then ofRatio negative n (Nat.pow 2 (-e).toNat)
  else ofRatio negative (n * Nat.pow 2 e.toNat) 1

/-- The value with the other sign. -/
def neg : Binary64 → Binary64
  | finite s m e => finite (!s) m e
  | infinite s => infinite (!s)
  | nan => nan

/-- The sum. Opposite values make a positive zero, and so do zeros unless both are negative. -/
def add : Binary64 → Binary64 → Binary64
  | finite s m e, finite s' m' e' =>
    let low := min e e'
    let whole (s : Bool) (m : Nat) (e : Int) : Int :=
      let n := m * Nat.pow 2 (e - low).toNat
      if s then -(n : Int) else n
    let sum := whole s m e + whole s' m' e'
    if sum = 0 then zero (s && s') else ofScaled (sum < 0) sum.natAbs low
  | finite .., infinite s => infinite s
  | infinite s, finite .. => infinite s
  | infinite s, infinite s' => if s = s' then infinite s else nan
  | nan, _ => nan
  | _, nan => nan

/-- The product. -/
def mul : Binary64 → Binary64 → Binary64
  | finite s m e, finite s' m' e' => ofScaled (s != s') (m * m') (e + e')
  | finite s m _, infinite s' => if m = 0 then nan else infinite (s != s')
  | infinite s, finite s' m _ => if m = 0 then nan else infinite (s != s')
  | infinite s, infinite s' => infinite (s != s')
  | nan, _ => nan
  | _, nan => nan

/-- The quotient. -/
def div : Binary64 → Binary64 → Binary64
  | finite s m e, finite s' m' e' =>
    if m' = 0 then (if m = 0 then nan else infinite (s != s'))
    else
      let (n, d) := scaled m m' (e' - e)
      ofRatio (s != s') n d
  | finite s _ _, infinite s' => zero (s != s')
  | infinite s, finite s' _ _ => infinite (s != s')
  | infinite _, infinite _ => nan
  | nan, _ => nan
  | _, nan => nan

/-- Whether the value is zero, with either sign. -/
def isZero : Binary64 → Bool
  | finite _ m _ => m = 0
  | _ => false

/-- Whether the value is infinite. -/
def isInfinite : Binary64 → Bool
  | infinite _ => true
  | _ => false

end Binary64

end TopologyExporter
