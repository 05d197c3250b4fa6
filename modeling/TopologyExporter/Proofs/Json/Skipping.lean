import TopologyExporter.Proofs.Json.Escapes

/-!
# Values that nobody asked for — every spelling is stepped over

The reader that steps over a value keeps a stack of the brackets that are still open, so that it is
the text, and not the reader, that the induction follows: what is said for the value in a bracket is
said for any stack. Numbers end where no digit follows, and what follows a value never goes on with
a number.

## Results

* `peekSpaced_space`      — blanks do not matter.
* `skipNumber_run`        — a number is stepped over,
* `Spells.skipped`        — and so is every value,
* `skipValue_run`        — with the rounds that there are.
-/

namespace TopologyExporter.Json

theorem Exponent.letter_plain (e : Exponent) :
    e.letter.toNat < 0x80 ∧ e.letter.isDigit = false ∧ e.letter ≠ '.' := by
  obtain hLetter | hLetter := e.isLetter
  · rw [hLetter]
    decide
  · rw [hLetter]
    decide

namespace Decoder

variable {rest : Bytes} {fuel : Nat}

-- ---------------------------------------------------------------------------
-- Blanks
-- ---------------------------------------------------------------------------

theorem isBlank_of_mem_space (space : Space) : ∀ b ∈ space.bytes, isBlank b = true := by
  have hAll : ∀ b ∈ encode [' ', '\n', '\t', '\r'], isBlank b = true := List.all_eq_true.mp rfl
  exact fun b hb => hAll b (space.blank b hb)

/-- **Blanks before the next byte do not matter.** -/
theorem peekSpaced_space (space : Space) {c : Char} (hAscii : c.toNat < 0x80)
    (hPlain : isBlank c.toNat.toUInt8 = false) (rest : Bytes) :
    peekSpaced.run (space.bytes ++ c.toNat.toUInt8 :: rest) =
      .ok (some c, c.toNat.toUInt8 :: rest) := by
  have hDrop : (space.bytes ++ c.toNat.toUInt8 :: rest).dropWhile isBlank =
      c.toNat.toUInt8 :: rest := by
    rw [List.dropWhile_append_of_pos (isBlank_of_mem_space space), List.dropWhile_cons, hPlain]
    rfl
  show peek.run ((space.bytes ++ c.toNat.toUInt8 :: rest).dropWhile isBlank) = _
  rw [hDrop, peek_run, Text.byteChar_toUInt8 hAscii]

/-- Neither a blank nor what follows blanks goes on with a number. -/
theorem endsNumber_space (space : Space) (h : EndsNumber rest) :
    EndsNumber (space.bytes ++ rest) := by
  have hAll : (encode [' ', '\n', '\t', '\r']).all fun b => (Text.byteChar b).isDigit = false ∧
      Text.byteChar b ≠ '.' ∧ Text.byteChar b ≠ 'e' ∧ Text.byteChar b ≠ 'E' := by decide
  cases hSpace : space.bytes with
  | nil => exact h
  | cons b bs =>
    intro b' hb'
    have hSame : b = b' := by simpa using hb'
    exact hSame ▸ of_decide_eq_true
      (List.all_eq_true.mp hAll b (space.blank b (by simp [hSpace])))

-- ---------------------------------------------------------------------------
-- Numbers
-- ---------------------------------------------------------------------------

theorem noDigit_ascii {c : Char} (hAscii : c.toNat < 0x80) (hOther : c.isDigit = false)
    (cs : List Char) (rest : Bytes) : NoDigit (encode (c :: cs) ++ rest) := by
  rw [encode_ascii hAscii]
  intro b hb
  cases hb
  rw [Text.byteChar_toUInt8 hAscii]
  exact hOther

/-- Digits are stepped over from the first on. -/
theorem skipDigits_run (ds : Digits) (hNext : NoDigit rest) :
    ∃ c cs, ds.chars = c :: cs ∧ c.isDigit = true ∧
    encode ds.chars ++ rest = c.toNat.toUInt8 :: (encode cs ++ rest) ∧
    digits.run (encode cs ++ rest) = .ok (cs, rest) := by
  obtain ⟨c, cs, hChars⟩ := List.exists_cons_of_ne_nil ds.some
  have hAll := ds.digits
  rw [hChars, List.forall_mem_cons] at hAll
  refine ⟨c, cs, hChars, hAll.1, ?_, digits_take hAll.2 hNext⟩
  rw [hChars, encode_ascii (toNat_lt_of_isDigit hAll.1)]
  rfl

theorem skipExponent_run (e : Exponent) (hNext : NoDigit rest) :
    skipExponent.run (encode e.chars ++ rest) = .ok ((), rest) := by
  obtain ⟨c, cs, hChars, hDigit, hBytes, hTake⟩ := skipDigits_run e.digits hNext
  have hAscii := toNat_lt_of_isDigit hDigit
  have hDigits : (do
      let first ← peek
      skip
      if first.any Char.isDigit then do
        let _ ← digits
        pure ()
      else refuse .invalidNumber : Decoder Unit).run (encode e.digits.chars ++ rest) =
        .ok ((), rest) := by
    rw [hBytes, run_bind peek_run, run_bind skip_run, Text.byteChar_toUInt8 hAscii, Option.any_some,
      if_pos hDigit, run_bind hTake]
    rfl
  rw [Exponent.chars, encode_ascii e.letter_plain.1, List.cons_append, encode_append,
    List.append_assoc, skipExponent, run_bind skip_run]
  obtain hSign | hSign | hSign := e.isSign
  · have hNotSign : ¬(some c = some '+' ∨ some c = some '-') := by
      rintro (hEq | hEq)
      · obtain rfl := Option.some.inj hEq
        exact absurd hDigit (by decide)
      · obtain rfl := Option.some.inj hEq
        exact absurd hDigit (by decide)
    rw [hSign, encode_nil, List.nil_append, hBytes, run_bind peek_run, Text.byteChar_toUInt8 hAscii]
    dsimp only
    rw [if_neg hNotSign, ← hBytes]
    exact hDigits
  · rw [hSign]
    exact hDigits
  · rw [hSign]
    exact hDigits

theorem skipExponentIfAny_run (exponent : Option Exponent) (hEnds : EndsNumber rest) :
    skipExponentIfAny.run (encode (exponent.elim [] Exponent.chars) ++ rest) = .ok ((), rest) := by
  cases exponent with
  | none =>
    rw [Option.elim_none, encode_nil, List.nil_append, skipExponentIfAny, run_bind peek_run_eq]
    cases rest with
    | nil => rfl
    | cons b rest =>
      obtain ⟨-, -, hLower, hUpper⟩ := hEnds b rfl
      split
      case h_1 hEq => exact absurd (Option.some.inj hEq) hLower
      case h_2 hEq => exact absurd (Option.some.inj hEq) hUpper
      case h_3 => rfl
  | some e =>
    have hRun := skipExponent_run e hEnds.noDigit
    rw [Option.elim_some]
    obtain ⟨letter, sign, digits, hLetter | hLetter, hSign⟩ := e
    · obtain rfl := hLetter
      exact hRun
    · obtain rfl := hLetter
      exact hRun

/-- What may follow the digits of a number is no digit. -/
theorem noDigit_exponent (exponent : Option Exponent) (hEnds : EndsNumber rest) :
    NoDigit (encode (exponent.elim [] Exponent.chars) ++ rest) := by
  cases exponent with
  | none => exact hEnds.noDigit
  | some e => exact noDigit_ascii e.letter_plain.1 e.letter_plain.2.1 _ rest

theorem noDigit_tail (n : Numeral) (hEnds : EndsNumber rest) :
    NoDigit (encode n.tailChars ++ rest) := by
  rw [Numeral.tailChars]
  cases n.fraction with
  | none => exact noDigit_exponent n.exponent hEnds
  | some ds => exact noDigit_ascii (by decide) (by decide) _ rest

/-- What follows the whole part of a number is stepped over. -/
theorem skipFraction_run (n : Numeral) (hEnds : EndsNumber rest) : (do
      if (← peek) = some '.' then do
        skip
        let run ← digits
        if run.isEmpty then refuseNext .invalidNumber
      skipExponentIfAny : Decoder Unit).run (encode n.tailChars ++ rest) = .ok ((), rest) := by
  have hExponent := skipExponentIfAny_run n.exponent hEnds
  rw [Numeral.tailChars]
  cases n.fraction with
  | none =>
    have hNoPoint : ¬(encode (n.exponent.elim [] Exponent.chars) ++ rest).head?.map Text.byteChar =
        some '.' := by
      intro hPoint
      obtain ⟨b, hHead, hChar⟩ := Option.map_eq_some_iff.mp hPoint
      cases hExp : n.exponent with
      | none =>
        rw [hExp] at hHead
        exact (hEnds b hHead).2.1 hChar
      | some e =>
        obtain ⟨hAscii, -, hLetter⟩ := e.letter_plain
        rw [hExp, Option.elim_some, Exponent.chars, encode_ascii hAscii] at hHead
        obtain rfl := Option.some.inj hHead
        exact hLetter ((Text.byteChar_toUInt8 hAscii).symm.trans hChar)
    rw [Option.elim_none, List.nil_append, run_bind peek_run_eq]
    dsimp only
    rw [if_neg hNoPoint]
    exact hExponent
  | some ds =>
    have hTake := digits_take ds.digits (noDigit_exponent n.exponent hEnds)
    have hSome : ds.chars.isEmpty = false := by simpa using ds.some
    rw [Option.elim_some, List.cons_append, encode_ascii (by decide), List.cons_append,
      encode_append, List.append_assoc, run_bind peek_run]
    dsimp only
    rw [if_pos (by decide), run_bind skip_run, run_bind hTake, hSome]
    exact hExponent

/-- **A number is stepped over** from after its sign. -/
theorem skipNumber_run (n : Numeral) (hEnds : EndsNumber rest) :
    skipNumber.run (encode (n.whole.chars ++ n.tailChars) ++ rest) = .ok ((), rest) := by
  have hFraction := skipFraction_run n hEnds
  have hNext := noDigit_tail n hEnds
  obtain ⟨c, cs, hChars, hDigit, hBytes, hTake⟩ := skipDigits_run n.whole hNext
  rw [encode_append, List.append_assoc, hBytes, skipNumber, run_bind peek_run, run_bind skip_run,
    Text.byteChar_toUInt8 (toNat_lt_of_isDigit hDigit)]
  dsimp only
  split
  · rename_i hZero
    obtain rfl := Option.some.inj hZero
    -- nothing but zero itself starts with a zero
    have hAlone : cs = [] := by
      obtain hWhole | hWhole := n.noZero
      · rw [hChars] at hWhole
        exact (List.cons.inj hWhole).2
      · rw [hChars] at hWhole
        exact absurd rfl hWhole
    have hNoDigit :
        ¬((encode n.tailChars ++ rest).head?.map Text.byteChar).any Char.isDigit = true := by
      cases hHead : (encode n.tailChars ++ rest).head? with
      | none => exact Bool.false_ne_true
      | some b =>
        have hOther := hNext b hHead
        simp [hOther]
    rw [hAlone, encode_nil, List.nil_append, run_bind peek_run_eq, if_neg hNoDigit]
    exact hFraction
  · rename_i d _ hOther
    obtain rfl := Option.some.inj hOther
    rw [if_pos hDigit, run_bind hTake]
    exact hFraction
  · rename_i hNone
    cases hNone

-- ---------------------------------------------------------------------------
-- Values
-- ---------------------------------------------------------------------------

/-- Whether a text is stepped over in some rounds, whatever the brackets that are open around it. -/
def Skipped (bytes : Bytes) (rounds : Nat) : Prop :=
  ∀ (fuel : Nat) (frames : List Frame) (space : Space) (rest : Bytes), EndsNumber rest →
    (skipFrom (fuel + rounds) .before frames).run (space.bytes ++ (bytes ++ rest)) =
      (skipFrom fuel .after frames).run rest

theorem word_run {cs : List Char} (hAscii : cs.all fun c => c.toNat < 0x80) (rest : Bytes) :
    (word cs).run (encode cs ++ rest) = .ok ((), rest) := by
  induction cs with
  | nil => rfl
  | cons c cs ih =>
    rw [List.all_cons, Bool.and_eq_true, decide_eq_true_eq] at hAscii
    rw [encode_ascii hAscii.1, List.cons_append, word, run_bind peek_run,
      Text.byteChar_toUInt8 hAscii.1]
    dsimp only
    rw [run_bind skip_run, if_pos rfl]
    exact ih hAscii.2

/-- A value that its first character gives away is stepped over in one round. -/
theorem skipped_after {c : Char} {cs : List Char} {d : Decoder Unit} (hAscii : c.toNat < 0x80)
    (hStep : ∀ (fuel : Nat) (frames : List Frame) (space : Space) (more : Bytes),
      (skipFrom (fuel + 1) .before frames).run (space.bytes ++ c.toNat.toUInt8 :: more) =
        (do d; skipFrom fuel .after frames : Decoder Unit).run more)
    (hRun : ∀ rest, EndsNumber rest → d.run (encode cs ++ rest) = .ok ((), rest)) :
    Skipped (encode (c :: cs)) 1 := by
  intro fuel frames space rest hEnds
  rw [encode_ascii hAscii, List.cons_append, hStep, run_bind (hRun rest hEnds)]

theorem skipped_null : Skipped (encode ['n', 'u', 'l', 'l']) 1 := by
  refine skipped_after (by decide) (fun fuel frames space more => ?_) fun rest _ =>
    word_run (by decide) rest
  exact (run_bind (peekSpaced_space space (by decide) rfl more)).trans (run_bind skip_run)

theorem skipped_yes : Skipped (encode ['t', 'r', 'u', 'e']) 1 := by
  refine skipped_after (by decide) (fun fuel frames space more => ?_) fun rest _ =>
    word_run (by decide) rest
  exact (run_bind (peekSpaced_space space (by decide) rfl more)).trans (run_bind skip_run)

theorem skipped_no : Skipped (encode ['f', 'a', 'l', 's', 'e']) 1 := by
  refine skipped_after (by decide) (fun fuel frames space more => ?_) fun rest _ =>
    word_run (by decide) rest
  exact (run_bind (peekSpaced_space space (by decide) rfl more)).trans (run_bind skip_run)

theorem skipped_text (pieces : List Piece) : Skipped (encode (quoted pieces)) 1 := by
  refine skipped_after (by decide) (fun fuel frames space more => ?_) fun rest _ =>
    skipStringTail_pieces pieces rest
  exact (run_bind (peekSpaced_space space (by decide) rfl more)).trans (run_bind skip_run)

/-- A digit starts a number, since no other value starts with one. -/
theorem skipFrom_digit {c : Char} (hDigit : c.isDigit = true) (frames : List Frame) (space : Space)
    (more : Bytes) :
    (skipFrom (fuel + 1) .before frames).run (space.bytes ++ c.toNat.toUInt8 :: more) =
      (do skipNumber; skipFrom fuel .after frames : Decoder Unit).run
        (c.toNat.toUInt8 :: more) := by
  obtain ⟨hAscii, hPlain, -⟩ := startsValue_of_isDigit hDigit
  refine (run_bind (peekSpaced_space space hAscii hPlain _)).trans ?_
  split
  case h_1 hEq => cases hEq
  case h_9 d _ _ _ _ _ _ _ hEq =>
    obtain rfl := Option.some.inj hEq
    rw [if_pos hDigit]
  all_goals
    rename_i hEq
    obtain rfl := Option.some.inj hEq
    exact absurd hDigit (by decide)

theorem skipped_number (n : Numeral) : Skipped (encode n.chars) 1 := by
  rw [Numeral.chars]
  cases n.negative with
  | true =>
    refine skipped_after (by decide) (fun fuel frames space more => ?_) fun rest hEnds =>
      skipNumber_run n hEnds
    exact (run_bind (peekSpaced_space space (by decide) rfl more)).trans (run_bind skip_run)
  | false =>
    intro fuel frames space rest hEnds
    have hNumber := skipNumber_run n hEnds
    obtain ⟨c, cs, hChars, hDigit, hBytes, -⟩ := skipDigits_run n.whole (noDigit_tail n hEnds)
    rw [if_neg Bool.false_ne_true, List.nil_append]
    rw [encode_append, List.append_assoc, hBytes] at hNumber ⊢
    rw [skipFrom_digit hDigit, run_bind hNumber]

-- ---------------------------------------------------------------------------
-- Brackets
-- ---------------------------------------------------------------------------

section Brackets

variable {frame : Frame} {parts : List Bytes}

theorem closing_plain (frame : Frame) :
    frame.closing.toNat < 0x80 ∧ isBlank frame.closing.toNat.toUInt8 = false ∧
    frame.closing ≠ ',' ∧ ∀ c, StartsValue c → c ≠ frame.closing := by
  cases frame with
  | list => exact ⟨by decide, rfl, by decide, fun _ h => h.2.2.1⟩
  | object => exact ⟨by decide, rfl, by decide, fun _ h => h.2.2.2⟩

theorem encode_closing (frame : Frame) (more : Bytes) :
    encode [frame.closing] ++ more = frame.closing.toNat.toUInt8 :: more := by
  rw [encode_ascii (closing_plain frame).1]
  rfl

theorem skipFrom_close (frames : List Frame) (space : Space) (more : Bytes) :
    (skipFrom (fuel + 1) .after (frame :: frames)).run
      (space.bytes ++ frame.closing.toNat.toUInt8 :: more) =
      (skipFrom fuel .after frames).run more := by
  obtain ⟨hAscii, hPlain, hComma, -⟩ := closing_plain frame
  refine (run_bind (peekSpaced_space space hAscii hPlain _)).trans ?_
  dsimp only
  rw [if_neg hComma, if_pos rfl, run_bind skip_run]

theorem skipFrom_comma (frames : List Frame) (space : Space) (more : Bytes) :
    (skipFrom (fuel + 1) .after (frame :: frames)).run (space.bytes ++ ','.toNat.toUInt8 :: more) =
      (do frame.skipName; skipFrom fuel .before (frame :: frames) : Decoder Unit).run more := by
  refine (run_bind (peekSpaced_space space (by decide) rfl _)).trans ?_
  dsimp only
  rw [if_pos rfl, run_bind skip_run]

theorem skipFrom_empty (frames : List Frame) (space : Space) (more : Bytes) :
    (skipFrom (fuel + 1) .opened (frame :: frames)).run
      (space.bytes ++ frame.closing.toNat.toUInt8 :: more) =
      (skipFrom fuel .after frames).run more := by
  obtain ⟨hAscii, hPlain, -, -⟩ := closing_plain frame
  refine (run_bind (peekSpaced_space space hAscii hPlain _)).trans ?_
  dsimp only
  rw [if_pos rfl, run_bind skip_run]

theorem skipFrom_first {c : Char} (hStarts : StartsValue c) (frames : List Frame) (space : Space)
    (more : Bytes) :
    (skipFrom (fuel + 1) .opened (frame :: frames)).run (space.bytes ++ c.toNat.toUInt8 :: more) =
      (do frame.skipName; skipFrom fuel .before (frame :: frames) : Decoder Unit).run
        (c.toNat.toUInt8 :: more) := by
  refine (run_bind (peekSpaced_space space hStarts.1 hStarts.2.1 _)).trans ?_
  dsimp only
  rw [if_neg ((closing_plain frame).2.2.2 c hStarts)]

/-- Whether a part of what stands in a bracket is stepped over in some rounds, from before what
names it. -/
def PartSkipped (frame : Frame) (part : Bytes) (rounds : Nat) : Prop :=
  ∃ (before after : Space) (c : Char) (core : Bytes), StartsValue c ∧
    part = before.bytes ++ (c.toNat.toUInt8 :: (core ++ after.bytes)) ∧
    ∀ (fuel : Nat) (frames : List Frame) (space : Space) (rest : Bytes), EndsNumber rest →
      (do frame.skipName; skipFrom (fuel + rounds) .before (frame :: frames) : Decoder Unit).run
        (space.bytes ++ c.toNat.toUInt8 :: (core ++ rest)) =
          (skipFrom fuel .after (frame :: frames)).run rest

/-- What follows a part does not go on with a number. -/
theorem endsNumber_parts (closing : Char) (hAscii : closing.toNat < 0x80)
    (h : closing.isDigit = false ∧ closing ≠ '.' ∧ closing ≠ 'e' ∧ closing ≠ 'E')
    (parts : List Bytes) (rest : Bytes) :
    EndsNumber (partsFrom closing false parts ++ rest) := by
  cases parts with
  | nil => exact endsNumber_ascii hAscii h [] rest
  | cons part parts =>
    rw [partsFrom, if_neg Bool.false_ne_true, List.append_assoc]
    exact endsNumber_ascii (by decide) (by decide) [] _

theorem endsNumber_frame (frame : Frame) (parts : List Bytes) (rest : Bytes) :
    EndsNumber (partsFrom frame.closing false parts ++ rest) := by
  cases frame with
  | list => exact endsNumber_parts ']' (by decide) (by decide) parts rest
  | object => exact endsNumber_parts '\x7d' (by decide) (by decide) parts rest

/-- **The parts after the first are stepped over**, each after its comma, up to the closing
bracket. -/
theorem skip_later
    (h : ∀ part ∈ parts, ∃ rounds ≤ 2 * part.length, PartSkipped frame part rounds) :
    ∃ rounds ≤ 2 * (partsFrom frame.closing false parts).length,
      ∀ (fuel : Nat) (frames : List Frame) (space : Space)
      (rest : Bytes), (skipFrom (fuel + rounds) .after (frame :: frames)).run
        (space.bytes ++ (partsFrom frame.closing false parts ++ rest)) =
          (skipFrom fuel .after frames).run rest := by
  induction parts with
  | nil =>
    refine ⟨1, ?_, fun fuel frames space rest => ?_⟩
    · have hBytes := congrArg List.length (encode_closing frame [])
      rw [partsFrom]
      simp only [List.append_nil, List.length_cons, List.length_nil] at hBytes
      omega
    · rw [partsFrom, encode_closing]
      exact skipFrom_close frames space rest
  | cons part parts ih =>
    rw [List.forall_mem_cons] at h
    obtain ⟨⟨rounds, hRounds, before, after, c, core, hStarts, hPart, hSkip⟩, hOthers⟩ := h
    obtain ⟨later, hLater, hRest⟩ := ih hOthers
    have hText (rest : Bytes) : partsFrom frame.closing false (part :: parts) ++ rest =
        ','.toNat.toUInt8 ::
        (before.bytes ++ c.toNat.toUInt8 ::
          (core ++ (after.bytes ++ (partsFrom frame.closing false parts ++ rest)))) := by
      rw [partsFrom, if_neg Bool.false_ne_true, encode_ascii (by decide), hPart]
      simp
    refine ⟨later + rounds + 1, ?_, fun fuel frames space rest => ?_⟩
    · have hLength := congrArg List.length (hText [])
      simp only [List.append_nil, List.length_cons, List.length_append] at hLength
      rw [hPart] at hRounds
      simp only [List.length_cons, List.length_append] at hRounds
      omega
    · have hEnds := endsNumber_space after (endsNumber_frame frame parts rest)
      rw [hText, ← Nat.add_assoc, ← Nat.add_assoc, skipFrom_comma, hSkip _ _ _ _ hEnds]
      exact hRest fuel frames after rest

/-- **What stands in a bracket is stepped over**, up to the closing bracket. -/
theorem skip_opened
    (h : ∀ part ∈ parts, ∃ rounds ≤ 2 * part.length, PartSkipped frame part rounds) :
    ∃ rounds ≤ 2 * (partsFrom frame.closing true parts).length + 1,
      ∀ (fuel : Nat) (frames : List Frame) (space : Space)
      (rest : Bytes), (skipFrom (fuel + rounds) .opened (frame :: frames)).run
        (space.bytes ++ (partsFrom frame.closing true parts ++ rest)) =
          (skipFrom fuel .after frames).run rest := by
  cases parts with
  | nil =>
    refine ⟨1, ?_, fun fuel frames space rest => ?_⟩
    · have hBytes := congrArg List.length (encode_closing frame [])
      rw [partsFrom]
      simp only [List.append_nil, List.length_cons, List.length_nil] at hBytes
      omega
    · rw [partsFrom, encode_closing]
      exact skipFrom_empty frames space rest
  | cons part parts =>
    rw [List.forall_mem_cons] at h
    obtain ⟨⟨rounds, hRounds, before, after, c, core, hStarts, hPart, hSkip⟩, hOthers⟩ := h
    obtain ⟨later, hLater, hRest⟩ := skip_later hOthers
    have hText (rest : Bytes) : partsFrom frame.closing true (part :: parts) ++ rest =
        before.bytes ++ c.toNat.toUInt8 ::
          (core ++ (after.bytes ++ (partsFrom frame.closing false parts ++ rest))) := by
      rw [partsFrom, if_pos rfl, hPart]
      simp
    refine ⟨later + rounds + 1, ?_, fun fuel frames space rest => ?_⟩
    · have hLength := congrArg List.length (hText [])
      simp only [List.append_nil, List.length_cons, List.length_append] at hLength
      rw [hPart] at hRounds
      simp only [List.length_cons, List.length_append] at hRounds
      omega
    · have hEnds := endsNumber_space after (endsNumber_frame frame parts rest)
      have hFirst := hSkip (fuel + later) frames .none _ hEnds
      have hSpace : space.bytes ++ (before.bytes ++ c.toNat.toUInt8 ::
          (core ++ (after.bytes ++ (partsFrom frame.closing false parts ++ rest)))) =
            (space.append before).bytes ++
          c.toNat.toUInt8 ::
            (core ++ (after.bytes ++ (partsFrom frame.closing false parts ++ rest))) := by
        rw [Space.append, List.append_assoc]
      rw [hText, hSpace, ← Nat.add_assoc, ← Nat.add_assoc, skipFrom_first hStarts]
      exact hFirst.trans (hRest fuel frames after rest)

end Brackets

/-- An item of a list is stepped over. -/
theorem partSkipped_item {item : Item} (hSpells : Spells item.value item.bytes) {rounds : Nat}
    (h : Skipped item.bytes rounds) : PartSkipped .list item.text rounds := by
  obtain ⟨c, core, hBytes, hStarts⟩ := hSpells.starts
  refine ⟨item.before, item.after, c, core, hStarts.value, ?_,
    fun fuel frames space rest hEnds => ?_⟩
  · rw [Item.text, hBytes]
    rfl
  · have hValue := h fuel (.list :: frames) space rest hEnds
    rw [hBytes] at hValue
    exact hValue

/-- The name of a member is stepped over, with its colon. -/
theorem skipName_run (pieces : List Piece) (space after : Space) (rest : Bytes) :
    (Frame.skipName .object).run
      (space.bytes ++ (encode (quoted pieces) ++ (after.bytes ++ (encode [':'] ++ rest)))) =
      .ok ((), rest) := by
  rw [encode_quoted, List.cons_append, Frame.skipName,
    run_bind (peekSpaced_space space (by decide) rfl _)]
  show StateT.run (skip >>= _) _ = _
  rw [run_bind skip_run, run_bind (skipStringTail_pieces pieces _), encode_ascii (by decide),
    List.cons_append, run_bind (peekSpaced_space after (by decide) rfl _)]
  exact skip_run

/-- A member of an object is stepped over. -/
theorem partSkipped_member {m : Member} {rounds : Nat} (h : Skipped m.item.bytes rounds) :
    PartSkipped .object m.text rounds := by
  refine ⟨m.before, m.item.after, '"', encode (m.name.flatMap Piece.chars ++ ['"']) ++
    (m.after.bytes ++ (encode [':'] ++ (m.item.before.bytes ++ m.item.bytes))),
    (starts_text none).value, ?_,
    fun fuel frames space rest hEnds => ?_⟩
  · rw [Member.text, Member.head, Item.text, encode_quoted]
    simp
  · have hName := skipName_run m.name space m.after (m.item.before.bytes ++ (m.item.bytes ++ rest))
    rw [encode_quoted] at hName
    have hText :
        space.bytes ++ '"'.toNat.toUInt8 :: (encode (m.name.flatMap Piece.chars ++ ['"']) ++
        (m.after.bytes ++ (encode [':'] ++ (m.item.before.bytes ++ m.item.bytes))) ++ rest) =
        space.bytes ++ ('"'.toNat.toUInt8 :: encode (m.name.flatMap Piece.chars ++ ['"']) ++
          (m.after.bytes ++
            (encode [':'] ++ (m.item.before.bytes ++ (m.item.bytes ++ rest))))) := by
      simp
    rw [hText, run_bind hName]
    exact h fuel (.object :: frames) m.item.before rest hEnds

theorem skipFrom_list (frames : List Frame) (space : Space) (more : Bytes) :
    (skipFrom (fuel + 1) .before frames).run (space.bytes ++ '['.toNat.toUInt8 :: more) =
      (skipFrom fuel .opened (.list :: frames)).run more := by
  exact (run_bind (peekSpaced_space space (by decide) rfl more)).trans (run_bind skip_run)

theorem skipFrom_object (frames : List Frame) (space : Space) (more : Bytes) :
    (skipFrom (fuel + 1) .before frames).run (space.bytes ++ '\x7b'.toNat.toUInt8 :: more) =
      (skipFrom fuel .opened (.object :: frames)).run more := by
  exact (run_bind (peekSpaced_space space (by decide) rfl more)).trans (run_bind skip_run)

/-- **Brackets are stepped over** with what stands in them. -/
theorem skipped_brackets {frame : Frame} {opening : Char} {parts : List Bytes} (space : Space)
    (hOpens : ∀ (fuel : Nat) (frames : List Frame) (space : Space) (more : Bytes),
      (skipFrom (fuel + 1) .before frames).run (space.bytes ++ opening.toNat.toUInt8 :: more) =
        (skipFrom fuel .opened (frame :: frames)).run more)
    (h : ∀ part ∈ parts, ∃ rounds ≤ 2 * part.length, PartSkipped frame part rounds) :
    ∃ rounds ≤ 2 * (opening.toNat.toUInt8 ::
        (space.bytes ++ partsFrom frame.closing true parts)).length,
      Skipped (opening.toNat.toUInt8 :: (space.bytes ++ partsFrom frame.closing true parts))
        rounds := by
  obtain ⟨rounds, hRounds, hSkip⟩ := skip_opened h
  refine ⟨rounds + 1, ?_, fun fuel frames before rest _ => ?_⟩
  · rw [List.length_cons, List.length_append]
    omega
  · rw [← Nat.add_assoc, List.cons_append, List.append_assoc, hOpens]
    exact hSkip fuel frames space rest

end Decoder

open Decoder

variable {v : Value} {bytes : Bytes}

/-- **Every value is stepped over**, in at most two rounds for each byte. -/
theorem Spells.skipped (h : Spells v bytes) :
    ∃ rounds ≤ 2 * bytes.length, Skipped bytes rounds := by
  have hOfItem {i : Item} (h : Spells i.value i.bytes)
      (ih : ∃ rounds ≤ 2 * i.bytes.length, Skipped i.bytes rounds) :
      ∃ rounds ≤ 2 * i.text.length, PartSkipped .list i.text rounds := by
    obtain ⟨rounds, hRounds, hSkip⟩ := ih
    refine ⟨rounds, ?_, partSkipped_item h hSkip⟩
    rw [Item.text, List.length_append, List.length_append]
    omega
  have hOfMember {m : Member} (ih : ∃ rounds ≤ 2 * m.item.bytes.length,
      Skipped m.item.bytes rounds) :
      ∃ rounds ≤ 2 * m.text.length, PartSkipped .object m.text rounds := by
    obtain ⟨rounds, hRounds, hSkip⟩ := ih
    refine ⟨rounds, ?_, partSkipped_member hSkip⟩
    rw [Member.text, Item.text]
    simp only [List.length_append]
    omega
  induction h with
  | null => exact ⟨1, by decide, skipped_null⟩
  | yes => exact ⟨1, by decide, skipped_yes⟩
  | no => exact ⟨1, by decide, skipped_no⟩
  | number n =>
    obtain ⟨c, cs, hBytes, -⟩ := (Spells.number n).starts
    refine ⟨1, ?_, skipped_number n⟩
    rw [hBytes, List.length_cons]
    omega
  | text pieces =>
    refine ⟨1, ?_, skipped_text pieces⟩
    rw [encode_quoted, List.length_cons]
    omega
  | emptyList space => exact skipped_brackets space (fun _ => skipFrom_list) (List.forall_mem_nil _)
  | list items hSome hItems ih =>
    rw [partsFrom_intercalate _ (by simpa using hSome)]
    refine skipped_brackets .none (fun _ => skipFrom_list) fun part hPart => ?_
    obtain ⟨i, hi, rfl⟩ := List.mem_map.mp hPart
    exact hOfItem (hItems i hi) (ih i hi)
  | emptyObject space =>
    exact skipped_brackets space (fun _ => skipFrom_object) (List.forall_mem_nil _)
  | object members hSome hMembers ih =>
    rw [partsFrom_intercalate _ (by simpa using hSome)]
    refine skipped_brackets .none (fun _ => skipFrom_object) fun part hPart => ?_
    obtain ⟨m, hm, rfl⟩ := List.mem_map.mp hPart
    exact hOfMember (ih m hm)

/-- **The rounds suffice**, with blanks before the value. -/
theorem Spells.skipValue_run (h : Spells v bytes) (space : Space) {rest : Bytes}
    (hEnds : EndsNumber rest) :
    skipValue.run (space.bytes ++ (bytes ++ rest)) = .ok ((), rest) := by
  obtain ⟨rounds, hRounds, hSkip⟩ := h.skipped
  obtain ⟨fuel, hFuel⟩ : ∃ fuel, 2 * (space.bytes ++ (bytes ++ rest)).length + 2 =
      fuel + 1 + rounds := by
    refine ⟨2 * (space.bytes ++ (bytes ++ rest)).length + 1 - rounds, ?_⟩
    simp only [List.length_append]
    omega
  rw [skipValue, run_bind get_run, hFuel, hSkip (fuel + 1) [] space rest hEnds]
  rfl

end TopologyExporter.Json
