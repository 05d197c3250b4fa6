import Mathlib.Algebra.Ring.Int.Defs
import TopologyExporter.Proofs.Json.Text

/-!
# JSON numbers — whole numbers are read back

A whole number is written as its decimal digits, perhaps after a sign. Reading takes all digits that
come, so what comes after them must be neither a digit nor anything else that a number can go on
with.

## Results

* `Decoder.digits_take`      — all digits are taken.
* `Decoder.appendDigits_eq`  — they stand for the number whose digits they are.
* `Decoder.int64_run`        — a whole number of 64 bits is read back.
-/

namespace TopologyExporter.Json.Decoder

variable {rest : Bytes} {n : Nat}

/-- Whether a number that has been read up to here is over. -/
def EndsNumber (rest : Bytes) : Prop :=
  ∀ b ∈ rest.head?, (Text.byteChar b).isDigit = false ∧ Text.byteChar b ≠ '.' ∧
    Text.byteChar b ≠ 'e' ∧ Text.byteChar b ≠ 'E'

-- ---------------------------------------------------------------------------
-- Digits
-- ---------------------------------------------------------------------------

theorem valueStart_run {b : UInt8} (h : isBlank b = false) :
    valueStart.run (b :: rest) = .ok (Text.byteChar b, b :: rest) := by
  rw [valueStart, run_bind (peekSpaced_run h)]
  rfl

theorem toNat_lt_of_isDigit {c : Char} (h : c.isDigit = true) : c.toNat < 0x80 := by
  have hLe : c.toNat ≤ '9'.toNat := (Char.isDigit_iff_toNat.mp h).2
  exact Nat.lt_of_le_of_lt hLe (by decide)

/-- Whether what comes next is no digit. -/
def NoDigit (rest : Bytes) : Prop := ∀ b ∈ rest.head?, (Text.byteChar b).isDigit = false

theorem EndsNumber.noDigit (h : EndsNumber rest) : NoDigit rest := fun b hb => (h b hb).1

/-- **All digits are taken**, up to what is none. -/
theorem digits_take {ds : List Char} (hDigits : ∀ c ∈ ds, c.isDigit = true)
    (hNext : NoDigit rest) :
    digits.run (encode ds ++ rest) = .ok (ds, rest) := by
  have hSplit : (encode ds ++ rest).takeWhile (fun b => (Text.byteChar b).isDigit) = encode ds ∧
      (encode ds ++ rest).dropWhile (fun b => (Text.byteChar b).isDigit) = rest ∧
      (encode ds).map Text.byteChar = ds := by
    induction ds with
    | nil =>
      cases rest with
      | nil => exact ⟨rfl, rfl, rfl⟩
      | cons b rest =>
        have hOther := hNext b rfl
        simp [hOther]
    | cons c ds ih =>
      rw [List.forall_mem_cons] at hDigits
      have hAscii := toNat_lt_of_isDigit hDigits.1
      obtain ⟨hTaken, hLeft, hBack⟩ := ih hDigits.2
      have hChar := Text.byteChar_toUInt8 hAscii
      rw [encode_ascii hAscii]
      simp [hChar, hDigits.1, hTaken, hLeft, hBack]
  obtain ⟨hTaken, hLeft, hBack⟩ := hSplit
  show Except.ok
    (((encode ds ++ rest).takeWhile fun b => (Text.byteChar b).isDigit).map Text.byteChar,
      (encode ds ++ rest).dropWhile fun b => (Text.byteChar b).isDigit) = _
  rw [hTaken, hLeft, hBack]

theorem digits_run {ds : List Char} (hDigits : ∀ c ∈ ds, c.isDigit = true)
    (hEnds : EndsNumber rest) :
    digits.run (encode ds ++ rest) = .ok (ds, rest) :=
  digits_take hDigits hEnds.noDigit

/-- Digits stand for a number, which is appended whole as long as it is no greater than the greatest
significand. -/
theorem appendDigits_eq {ds : List Char} {start : Nat}
    (hMost : Nat.ofDigitChars 10 ds start ≤ maxSignificand) :
    appendDigits start ds = (Nat.ofDigitChars 10 ds start, ds.length) := by
  induction ds generalizing start with
  | nil => rfl
  | cons c ds ih =>
    rw [Nat.ofDigitChars_cons, Nat.mul_comm] at hMost ⊢
    have hGrows : start * 10 + (c.toNat - '0'.toNat) ≤
        Nat.ofDigitChars 10 ds (start * 10 + (c.toNat - '0'.toNat)) := by
      rw [Nat.ofDigitChars_eq_ofDigitChars_zero]
      exact Nat.le_trans (Nat.le_mul_of_pos_left _ (Nat.pow_pos (by decide))) (Nat.le_add_right ..)
    rw [appendDigits]
    dsimp only
    rw [if_neg (by omega), ih hMost]
    rfl

/-- A number other than zero does not start with a zero. -/
theorem exists_toDigits_eq_cons (h : n ≠ 0) :
    ∃ c ds, Nat.toDigits 10 n = c :: ds ∧ c ≠ '0' := by
  induction n using Nat.strongRecOn with
  | ind n ih =>
    by_cases hSmall : n < 10
    · refine ⟨n.digitChar, [], Nat.toDigits_of_lt_base hSmall, ?_⟩
      have hAll : ∀ m : Fin 10, m.val ≠ 0 → m.val.digitChar ≠ '0' := by decide
      exact hAll ⟨n, hSmall⟩ h
    · obtain ⟨c, ds, hDigits, hNot⟩ := ih (n / 10) (by omega) (by omega)
      refine ⟨c, ds ++ [(n % 10).digitChar], ?_, hNot⟩
      rw [Nat.toDigits_of_base_le (by omega) (by omega), hDigits, List.cons_append]

theorem exists_toDigits_eq (n : Nat) :
    ∃ c ds, Nat.toDigits 10 n = c :: ds ∧ c.isDigit = true := by
  obtain ⟨c, ds, hDigits⟩ := List.exists_cons_of_ne_nil (Nat.toDigits_ne_nil (n := n) (b := 10))
  have hMem : c ∈ Nat.toDigits 10 n := by simp [hDigits]
  exact ⟨c, ds, hDigits, Nat.isDigit_of_mem_toDigits (by decide) (by decide) hMem⟩

theorem toList_ofNat (n : Nat) : (toString (Int.ofNat n)).toList = Nat.toDigits 10 n := by
  show (toString n).toList = _
  rw [Nat.toString_eq_ofList_toDigits, String.toList_ofList]

theorem toList_negSucc (n : Nat) :
    (toString (Int.negSucc n)).toList = '-' :: Nat.toDigits 10 (n + 1) := by
  show ("-" ++ Nat.repr (n + 1)).toList = _
  rw [String.toList_append, Nat.repr_eq_ofList_toDigits,
    String.toList_ofList (l := Nat.toDigits 10 (n + 1))]
  rfl

-- ---------------------------------------------------------------------------
-- Numbers
-- ---------------------------------------------------------------------------

theorem peek_run_eq : peek.run rest = .ok (rest.head?.map Text.byteChar, rest) := rfl

/-- What is left after the digits is no part of the number. -/
theorem number_end {α : Type} (hEnds : EndsNumber rest) (point exponent whole : Decoder α) :
    (do match ← peek with
      | some '.' => point
      | some 'e' => exponent
      | some 'E' => exponent
      | _ => whole : Decoder α).run rest = whole.run rest := by
  rw [run_bind peek_run_eq]
  cases rest with
  | nil => rfl
  | cons b rest =>
    obtain ⟨-, hPoint, hLower, hUpper⟩ := hEnds b rfl
    show StateT.run (match some (Text.byteChar b) with
      | some '.' => point
      | some 'e' => exponent
      | some 'E' => exponent
      | _ => whole : Decoder α) (b :: rest) = _
    split
    case h_1 hEq => exact absurd (Option.some.inj hEq) hPoint
    case h_2 hEq => exact absurd (Option.some.inj hEq) hLower
    case h_3 hEq => exact absurd (Option.some.inj hEq) hUpper
    case h_4 => rfl

/-- A whole number is read back from after its sign. -/
theorem number_run (negative : Bool) (hMost : n ≤ maxSignificand)
    (hFits : fitsWhole negative n = true) (hEnds : EndsNumber rest) :
    (number negative).run (encode (Nat.toDigits 10 n) ++ rest) =
      .ok (.whole (if negative then -n else n), rest) := by
  have hAll : ∀ c ∈ Nat.toDigits 10 n, c.isDigit = true := fun c hc =>
    Nat.isDigit_of_mem_toDigits (by decide) (by decide) hc
  have hRun : appendDigits 0 (Nat.toDigits 10 n) = (n, (Nat.toDigits 10 n).length) := by
    rw [appendDigits_eq (by rwa [Nat.ofDigitChars_ten_toDigits]), Nat.ofDigitChars_ten_toDigits]
  by_cases hZero : n = 0
  · subst hZero
    have hNext : (rest.head?.map Text.byteChar).any Char.isDigit = false := by
      cases rest with
      | nil => rfl
      | cons b rest => exact (hEnds b rfl).1
    rw [Nat.toDigits_zero] at hRun ⊢
    rw [encode_ascii (by decide), encode_nil, List.cons_append, List.nil_append, number,
      run_bind peek_run]
    dsimp only
    rw [if_neg (by decide), if_pos (by decide), run_bind skip_run, run_bind (run_pure _),
      run_bind peek_run_eq, if_neg (by simp [hNext]), hRun]
    refine (number_end hEnds _ _ _).trans ?_
    rw [if_neg (by decide), if_pos hFits]
    rfl
  · obtain ⟨c, ds, hDigits, hNot⟩ := exists_toDigits_eq_cons hZero
    have hDigit : c.isDigit = true := hAll c (by simp [hDigits])
    have hChar := Text.byteChar_toUInt8 (toNat_lt_of_isDigit hDigit)
    have hTaken := digits_run hAll hEnds
    rw [number]
    rw [hDigits, encode_ascii (toNat_lt_of_isDigit hDigit)] at hTaken ⊢
    rw [List.cons_append, run_bind peek_run, hChar]
    dsimp only
    rw [hDigit, if_neg (by decide), if_neg hNot, ← List.cons_append, run_bind hTaken,
      run_bind peek_run_eq, if_neg (by simp [hNot]), ← hDigits, hRun]
    refine (number_end hEnds _ _ _).trans ?_
    rw [if_neg (by simp), if_pos hFits]
    rfl

theorem isBlank_of_isDigit {b : UInt8} (h : (Text.byteChar b).isDigit = true) :
    isBlank b = false := by
  rw [Bool.eq_false_iff]
  intro hBlank
  simp only [isBlank, Bool.or_eq_true, decide_eq_true_eq] at hBlank
  obtain ((rfl | rfl) | rfl) | rfl := hBlank
  all_goals exact absurd h (by decide)

/-- A number that has been read is given if it fits into 64 bits with its sign. -/
theorem int64_end {n : Int} (h : n < 2 ^ 63) : StateT.run (match Number.whole n with
    | .whole n => if n < Nat.pow 2 63 then pure n else refuse (.wrongValue (.integer n) "i64")
    | .float x => refuse (.wrongType (.float x) "i64") : Decoder Int) rest = .ok (n, rest) := by
  have hFits : n < Nat.pow 2 63 := h
  dsimp only
  rw [if_pos hFits]
  rfl

/-- **A whole number of 64 bits is read back**, whatever comes after it that is no part of a
number. -/
theorem int64_run {n : Int} (hLeast : -2 ^ 63 ≤ n) (hMost : n < 2 ^ 63)
    (hEnds : EndsNumber rest) :
    int64.run (encode (toString n).toList ++ rest) = .ok (n, rest) := by
  have hSignificand : ∀ m : Nat, m ≤ 2 ^ 63 → m ≤ maxSignificand := fun m hm =>
    Nat.le_trans hm (by decide)
  cases n with
  | ofNat m =>
    have hNat : m < 2 ^ 63 := Int.ofNat_lt.mp hMost
    have hNumber := number_run false (hSignificand m (by omega)) rfl hEnds
    obtain ⟨c, ds, hDigits, hDigit⟩ := exists_toDigits_eq m
    have hChar := Text.byteChar_toUInt8 (toNat_lt_of_isDigit hDigit)
    have hBlank := isBlank_of_isDigit (hChar.symm ▸ hDigit)
    rw [hDigits, encode_ascii (toNat_lt_of_isDigit hDigit), List.cons_append] at hNumber
    rw [toList_ofNat, hDigits, encode_ascii (toNat_lt_of_isDigit hDigit), List.cons_append, int64,
      run_bind (valueStart_run hBlank), hChar]
    have hNotSign : c ≠ '-' := by rintro rfl; exact absurd hDigit (by decide)
    dsimp only
    rw [if_neg hNotSign, if_pos hDigit, run_bind hNumber]
    exact int64_end hMost
  | negSucc m =>
    have hFits : fitsWhole true (m + 1) = true := by
      simp [fitsWhole]
      omega
    have hNumber := number_run true (hSignificand (m + 1) (by omega)) hFits hEnds
    rw [toList_negSucc, encode_ascii (by decide), List.cons_append, int64,
      run_bind (valueStart_run (by decide))]
    dsimp only
    rw [if_pos (by decide), run_bind skip_run, run_bind hNumber]
    exact int64_end hMost

end TopologyExporter.Json.Decoder
