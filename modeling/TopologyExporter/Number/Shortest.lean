import TopologyExporter.Number.Binary64

/-!
# Shortest decimals

The texts of binary numbers: the fewest digits that read back to the same value, of these the
nearest to it. `plain` never uses an exponent; `compact` uses one for very large and very small
values.
-/

namespace TopologyExporter.Binary64

/-- A decimal number `digits * 10 ^ exponent`. -/
structure Decimal where
  digits : Nat
  exponent : Int
deriving Repr, DecidableEq, Inhabited

/-- The ratio `n * 2 ^ e / 10 ^ k` as numerator and denominator. -/
def decimalRatio (n : Nat) (e k : Int) : Nat × Nat :=
  (n * Nat.pow 2 e.toNat * Nat.pow 10 (-k).toNat, Nat.pow 2 (-e).toNat * Nat.pow 10 k.toNat)

/-- Whether `c * 10 ^ k` is rounded to the value `m * 2 ^ e`: it lies between the middles to the
two neighbours of the value, at which rounding goes to the even significand. -/
def readsBack (m : Nat) (e : Int) (c : Nat) (k : Int) : Bool :=
  -- below a power of two the neighbours lie twice as close
  let below := if m = Nat.pow 2 52 ∧ leastExponent < e then 4 * m - 1 else 4 * m - 2
  let (lowNum, lowDen) := decimalRatio below (e - 2) k
  let (highNum, highDen) := decimalRatio (4 * m + 2) (e - 2) k
  if m % 2 = 0 then lowNum ≤ c * lowDen && c * highDen ≤ highNum
  else lowNum < c * lowDen && c * highDen < highNum

/-- Tries grids of ever finer steps `10 ^ k`: on each the two points next to the value. -/
def search (m : Nat) (e : Int) : Nat → Int → Decimal
  | 0, k =>
    let (num, den) := decimalRatio m e k
    ⟨num / den, k⟩
  | fuel + 1, k =>
    let (num, den) := decimalRatio m e k
    let c := num / den
    match readsBack m e c k, readsBack m e (c + 1) k with
    -- of two points that both read back, the nearer
    | true, true => if 2 * (num % den) < den then ⟨c, k⟩ else ⟨c + 1, k⟩
    | true, false => ⟨c, k⟩
    | false, true => ⟨c + 1, k⟩
    | false, false => search m e fuel (k - 1)

/-- A power of ten above `m * 2 ^ e`, at most a few steps too great. -/
def decimalScale (m : Nat) (e : Int) : Int :=
  (((m.log2 : Int) + e + 1) * 30103).fdiv 100000 + 1

/-- The decimal with the fewest digits that is rounded to `m * 2 ^ e`, without zeros at its end. -/
def shortest (m : Nat) (e : Int) : Decimal :=
  strip 20 (search m e 24 (decimalScale m e))
where
  strip : Nat → Decimal → Decimal
    | 0, d => d
    | fuel + 1, d =>
      if d.digits ≠ 0 ∧ d.digits % 10 =
        0 then strip fuel ⟨d.digits / 10, d.exponent + 1⟩ else d

/-- A decimal without an exponent. -/
def positional (d : Decimal) : String :=
  let digits := (toString d.digits).toList
  if 0 ≤ d.exponent then String.ofList (digits ++ List.replicate d.exponent.toNat '0')
  else
    let places := (-d.exponent).toNat
    let padded := List.replicate (places + 1 - digits.length) '0' ++ digits
    String.ofList (padded.take (padded.length - places) ++ '.' ::
      padded.drop (padded.length - places))

/-- The text of a sign. -/
def signText (negative : Bool) : String := if negative then "-" else ""

/-- The text of a value without exponent; whole numbers have no point. -/
def plain : Binary64 → String
  | nan => "NaN"
  | infinite s => signText s ++ "inf"
  | finite s m e => signText s ++ (if m = 0 then "0" else positional (shortest m e))

/-- A decimal with one digit before the point and an exponent with its sign. -/
def scientific (d : Decimal) : String :=
  let digits := (toString d.digits).toList
  let exponent := d.exponent + (digits.length - 1 : Nat)
  let fraction := digits.drop 1
  String.ofList (digits.take 1 ++ (if fraction.isEmpty then [] else '.' :: fraction)) ++ "e" ++
    (if exponent < 0 then "-" else "+") ++ toString exponent.natAbs

/-- The text of a value with a point or an exponent: the latter from `1e16` on and below `1e-5`. -/
def compact : Binary64 → String
  | nan => "NaN"
  | infinite s => signText s ++ "inf"
  | finite s m e =>
    if m = 0 then signText s ++ "0.0"
    else
      let d := shortest m e
      let order := d.exponent + ((toString d.digits).length - 1 : Nat)
      signText s ++
        (if order < -5 ∨ 15 < order then scientific d
        else if 0 ≤ d.exponent then positional d ++ ".0"
        else positional d)

end TopologyExporter.Binary64
