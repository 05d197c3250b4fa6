import Mathlib.Data.Rat.Cast.Defs
import Mathlib.Tactic.NormNum
import TopologyExporter.Number.Binary64

/-!
# Binary numbers — which natural numbers they are exactly

A natural number of at most 53 bits, or 2 to the power of 53, is a value as it is: nothing is
rounded.

## Results

* `Binary64.ofNat_of_lt` — significand and exponent of such a number.
* `Binary64.ofNat_exact` — its value.
-/

namespace TopologyExporter

/-- A quotient without a remainder is not rounded. -/
theorem roundedQuotient_one (num : Nat) : roundedQuotient num 1 = num := by
  rw [roundedQuotient, Nat.div_one, Nat.mod_one]
  exact if_neg (by omega)

namespace Binary64

variable {n : Nat}

/-- The rational number that a finite value is. -/
def value? : Binary64 → Option ℚ
  | finite negative significand exponent =>
    some ((if negative then -1 else 1) * significand * 2 ^ exponent)
  | infinite _ => none
  | nan => none

/-- A number of at most 53 bits is shifted until it has 53. -/
theorem log2_shift (hPos : 0 < n) (hBits : n < 2 ^ 53) :
    2 ^ 52 ≤ n * 2 ^ (52 - n.log2) ∧ n * 2 ^ (52 - n.log2) < 2 ^ 53 := by
  have hLog : n.log2 ≤ 52 := Nat.le_of_lt_succ ((Nat.log2_lt hPos.ne').mpr hBits)
  constructor
  · calc 2 ^ 52 = 2 ^ n.log2 * 2 ^ (52 - n.log2) := by rw [← pow_add, Nat.add_sub_cancel' hLog]
      _ ≤ n * 2 ^ (52 - n.log2) := Nat.mul_le_mul_right _ (Nat.log2_self_le hPos.ne')
  · calc n * 2 ^ (52 - n.log2) < 2 ^ (n.log2 + 1) * 2 ^ (52 - n.log2) :=
          Nat.mul_lt_mul_of_pos_right Nat.lt_log2_self (Nat.two_pow_pos _)
      _ = 2 ^ 53 := by rw [← pow_add]; congr 1; omega

/-- The exponent for such a number. -/
theorem exponentFor_of_lt (hPos : 0 < n) (hBits : n < 2 ^ 53) :
    exponentFor n 1 = (n.log2 : Int) - 52 ∧ scaled n 1 ((n.log2 : Int) - 52) =
      (n * 2 ^ (52 - n.log2), 1) := by
  have hLog : n.log2 ≤ 52 := Nat.le_of_lt_succ ((Nat.log2_lt hPos.ne').mpr hBits)
  have hScaled : scaled n 1 ((n.log2 : Int) - 52) = (n * 2 ^ (52 - n.log2), 1) := by
    rw [scaled]
    split
    · have hShift : (-((n.log2 : Int) - 52)).toNat = 52 - n.log2 := by omega
      rw [hShift]
      rfl
    · obtain hTop : n.log2 = 52 := by omega
      rw [hTop, Nat.sub_self, pow_zero, Nat.mul_one]
      rfl
  refine ⟨?_, hScaled⟩
  have hGuess : (n.log2 : Int) - ((1 : Nat).log2 : Int) - 52 = (n.log2 : Int) - 52 := by
    rw [(by decide : (1 : Nat).log2 = 0)]
    omega
  have hLong : ¬n * 2 ^ (52 - n.log2) < 1 * Nat.pow 2 52 := by
    rw [Nat.one_mul]
    exact Nat.not_lt.mpr (log2_shift hPos hBits).1
  unfold exponentFor
  dsimp only
  rw [hGuess, hScaled]
  dsimp only
  rw [if_neg hLong, leastExponent]
  omega

/-- **A number of at most 53 bits is not rounded.** -/
theorem ofNat_of_lt (hPos : 0 < n) (hBits : n < 2 ^ 53) :
    ofNat n = finite false (n * 2 ^ (52 - n.log2)) ((n.log2 : Int) - 52) := by
  have hLog : n.log2 ≤ 52 := Nat.le_of_lt_succ ((Nat.log2_lt hPos.ne').mpr hBits)
  obtain ⟨hExponent, hScaled⟩ := exponentFor_of_lt hPos hBits
  have hShort : n * 2 ^ (52 - n.log2) ≠ Nat.pow 2 53 := (log2_shift hPos hBits).2.ne
  have hSmall : ¬greatestExponent < (n.log2 : Int) - 52 := by
    rw [greatestExponent]
    omega
  rw [ofNat, ofRatio, if_neg hPos.ne', hExponent]
  dsimp only
  rw [hScaled]
  dsimp only
  rw [roundedQuotient_one, if_neg hShort]
  exact if_neg hSmall

/-- **The value of a number up to 2 to the power of 53 is that number.** -/
theorem ofNat_exact (h : n ≤ 2 ^ 53) : (ofNat n).value? = some (n : ℚ) := by
  obtain rfl | hPos := Nat.eq_zero_or_pos n
  · have hZero : ofNat 0 = finite false 0 leastExponent := by decide
    simp [hZero, value?]
  obtain hBits | rfl := Nat.lt_or_eq_of_le h
  · have hLog : n.log2 ≤ 52 := Nat.le_of_lt_succ ((Nat.log2_lt hPos.ne').mpr hBits)
    have hPower : (2 : ℚ) ^ (52 - n.log2) * 2 ^ ((n.log2 : Int) - 52) = 1 := by
      rw [← zpow_natCast, ← zpow_add₀ two_ne_zero]
      have hZero : ((52 - n.log2 : Nat) : Int) + ((n.log2 : Int) - 52) = 0 := by omega
      rw [hZero, zpow_zero]
    rw [ofNat_of_lt hPos hBits, value?]
    rw [if_neg Bool.false_ne_true, one_mul, Nat.cast_mul, Nat.cast_pow, Nat.cast_ofNat,
      mul_assoc, hPower, mul_one]
  · have hPower : ofNat (2 ^ 53) = finite false (2 ^ 52) 1 := by decide +kernel
    rw [hPower, value?]
    norm_num

/-- Whether a value shows a natural number: it is the nearest one, and up to 2 to the power of 53
that number itself. -/
def Shows (x : Binary64) (n : Nat) : Prop :=
  x = ofNat n ∧ (n ≤ 2 ^ 53 → x.value? = some (n : ℚ))

theorem ofNat_shows (n : Nat) : (ofNat n).Shows n := ⟨rfl, ofNat_exact⟩

end Binary64

end TopologyExporter
