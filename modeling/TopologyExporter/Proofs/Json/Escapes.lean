import TopologyExporter.Proofs.Json.Spelling

/-!
# JSON strings — every escape is read

A string is read as the text that its parts stand for, whatever form each of them has, and refused
if they stand for none. Where nobody asked for the string, it is stepped over in either case.

## Results

* `Decoder.Yields`                — what comes of a decoder, a value or a fault.
* `Decoder.unicodeEscape_yields`  — the code of a character, or the two codes of a pair.
* `Decoder.stringTail_yields`     — a string is read as what it stands for.
* `Decoder.skipStringTail_pieces` — and stepped over.
-/

namespace TopologyExporter.Json.Decoder

-- ---------------------------------------------------------------------------
-- Outcomes
-- ---------------------------------------------------------------------------

section Outcomes

variable {α β : Type} {d : Decoder α} {f : α → Decoder β} {bytes mid rest : Bytes}
  {o : Option α}

/-- What comes of a decoder: a value, with what is left of the text, or some fault. -/
def Yields (d : Decoder α) (bytes : Bytes) (o : Option α) (rest : Bytes) : Prop :=
  match o with
  | some a => d.run bytes = .ok (a, rest)
  | none => ∃ fault, d.run bytes = .error fault

theorem yields_some {a : α} : d.Yields bytes (some a) rest ↔ d.run bytes = .ok (a, rest) :=
  Iff.rfl

/-- A fault ends whatever was to follow. -/
theorem bind_error {fault : Fault} (h : d.run bytes = .error fault) :
    (d >>= f).run bytes = .error fault := by
  rw [StateT.run_bind, h]
  rfl

/-- **One decoder after the other** comes to a value if both do. -/
theorem Yields.bind {g : α → Option β} (h : d.Yields bytes o mid)
    (hNext : ∀ a, o = some a → (f a).Yields mid (g a) rest) :
    (d >>= f).Yields bytes (o.bind g) rest := by
  cases o with
  | none =>
    obtain ⟨fault, hFault⟩ := h
    exact ⟨fault, bind_error hFault⟩
  | some a =>
    have hRun : (d >>= f).run bytes = (f a).run mid := run_bind h
    have hAfter := hNext a rfl
    rw [Option.bind_some]
    cases hResult : g a with
    | none =>
      rw [hResult] at hAfter
      obtain ⟨fault, hFault⟩ := hAfter
      exact ⟨fault, hRun.trans hFault⟩
    | some b =>
      rw [hResult] at hAfter
      exact hRun.trans hAfter

theorem Yields.bind_none (h : d.Yields bytes none mid) : (d >>= f).Yields bytes none rest :=
  let ⟨fault, hFault⟩ := h
  ⟨fault, bind_error hFault⟩

theorem Yields.map {g : α → β} (h : d.Yields bytes o rest) :
    (g <$> d).Yields bytes (o.map g) rest := by
  cases o with
  | none =>
    obtain ⟨fault, hFault⟩ := h
    exact ⟨fault, by rw [StateT.run_map, hFault]; rfl⟩
  | some a => exact run_map h

/-- Where a decoder does what another one does, the same comes of it. -/
theorem Yields.congr {d' : Decoder α} {bytes' : Bytes} (h : d.Yields bytes o rest)
    (hSame : d'.run bytes' = d.run bytes) :
    d'.Yields bytes' o rest := by
  cases o with
  | none =>
    obtain ⟨fault, hFault⟩ := h
    exact ⟨fault, hSame.trans hFault⟩
  | some a => exact hSame.trans h

/-- After a first step that is done, the rest decides. -/
theorem Yields.after {a : α} {o : Option β} (h : d.run bytes = .ok (a, mid))
    (hNext : (f a).Yields mid o rest) :
    (d >>= f).Yields bytes o rest :=
  hNext.congr (run_bind h)

theorem refuse_yields (cause : Cause) : (refuse cause : Decoder α).Yields bytes none rest :=
  ⟨_, rfl⟩

theorem refuseNext_yields (cause : Cause) :
    (refuseNext cause : Decoder α).Yields bytes none rest := ⟨_, rfl⟩

end Outcomes

variable {rest : Bytes} {fuel : Nat}

-- ---------------------------------------------------------------------------
-- Codes
-- ---------------------------------------------------------------------------

private theorem hexadecimals_read : ∀ e ∈ hexadecimals,
    e.1.toNat < 0x80 ∧ hexValue? e.1.toNat.toUInt8 = some e.2 := by
  decide +kernel

/-- Four digits are read as the number that they are. -/
theorem hexUnit_run (c : Code) (rest : Bytes) :
    hexUnit.run (encode c.chars ++ rest) = .ok (c.value, rest) := by
  have hFirst := hexadecimals_read _ c.first.known
  have hSecond := hexadecimals_read _ c.second.known
  have hThird := hexadecimals_read _ c.third.known
  have hFourth := hexadecimals_read _ c.fourth.known
  rw [Code.chars, encode_ascii hFirst.1, encode_ascii hSecond.1, encode_ascii hThird.1,
    encode_ascii hFourth.1, encode_nil, hexUnit]
  simp only [List.cons_append, List.nil_append]
  rw [run_bind get_run]
  dsimp only
  rw [run_bind set_run, hFirst.2, hSecond.2, hThird.2, hFourth.2]
  rfl

theorem pairSign_run {c : Char} (hAscii : c.toNat < 0x80) (rest : Bytes) :
    (pairSign c).run (c.toNat.toUInt8 :: rest) = .ok ((), rest) := by
  rw [pairSign, run_bind peek_run, Text.byteChar_toUInt8 hAscii]
  dsimp only
  rw [run_bind skip_run, if_pos rfl]
  rfl

theorem pairSign_other {c : Char} {b : UInt8} (h : Text.byteChar b ≠ c) (rest rest' : Bytes) :
    (pairSign c).Yields (b :: rest) none rest' := by
  rw [pairSign]
  refine .after peek_run ?_
  dsimp only
  refine .after skip_run ?_
  rw [if_neg h]
  exact refuse_yields _

/-- The character that a code stands for, when it is none of a pair. -/
theorem unicodeEscape_single {c : Code} (hHigh : ¬c.IsHigh) (hLow : ¬c.IsLow) (rest : Bytes) :
    unicodeEscape.run (encode c.chars ++ rest) = .ok (Char.ofNat c.value, rest) := by
  rw [Code.IsHigh, not_and, Nat.not_lt] at hHigh
  rw [Code.IsLow, not_and, Nat.not_lt] at hLow
  rw [unicodeEscape, run_bind (hexUnit_run c rest), if_neg (by omega), if_pos (by omega)]
  rfl

/-- The second half of a pair does not stand first. -/
theorem unicodeEscape_low {c : Code} (hLow : c.IsLow) (rest rest' : Bytes) :
    unicodeEscape.Yields (encode c.chars ++ rest) none rest' := by
  obtain ⟨hLeast, hMost⟩ := hLow
  rw [unicodeEscape]
  refine .after (hexUnit_run c rest) ?_
  rw [if_pos (by omega)]
  exact refuse_yields _

/-- After the first half of a pair the other half is read. -/
theorem unicodeEscape_high {c : Code} (hHigh : c.IsHigh) (rest : Bytes) :
    unicodeEscape.run (encode c.chars ++ rest) = (do
      pairSign '\\'
      pairSign 'u'
      let low ← hexUnit
      if low < 0xDC00 ∨ 0xDFFF < low then refuse .loneSurrogate
      else pure (Char.ofNat ((c.value - 0xD800) * 0x400 + (low - 0xDC00) + 0x10000)) :
      Decoder Char).run rest := by
  obtain ⟨hLeast, hMost⟩ := hHigh
  rw [unicodeEscape, run_bind (hexUnit_run c rest), if_neg (by omega), if_neg (by omega)]

theorem unicodeEscape_pair {c low : Code} (hHigh : c.IsHigh) (hLow : low.IsLow) (rest : Bytes) :
    unicodeEscape.run (encode c.chars ++ (encode (Piece.code low).chars ++ rest)) =
      .ok (c.pairChar low, rest) := by
  obtain ⟨hLeast, hMost⟩ := hLow
  rw [unicodeEscape_high hHigh, Piece.chars, encode_ascii (by decide), encode_ascii (by decide),
    List.cons_append, List.cons_append, run_bind (pairSign_run (by decide) _),
    run_bind (pairSign_run (by decide) _),
    run_bind (hexUnit_run low rest), if_neg (by omega)]
  rfl

theorem unicodeEscape_not_low {c low : Code} (hHigh : c.IsHigh) (hLow : ¬low.IsLow)
    (rest rest' : Bytes) :
    unicodeEscape.Yields (encode c.chars ++ (encode (Piece.code low).chars ++ rest))
      none rest' := by
  rw [Code.IsLow, not_and, Nat.not_lt] at hLow
  refine .congr ?_ (unicodeEscape_high hHigh _)
  rw [Piece.chars, encode_ascii (by decide), encode_ascii (by decide), List.cons_append,
    List.cons_append]
  refine .after (pairSign_run (by decide) _)
    (.after (pairSign_run (by decide) _) (.after (hexUnit_run low rest) ?_))
  rw [if_pos (by omega)]
  exact refuse_yields _

/-- A byte that is taken as it is does not look like a backslash. -/
theorem byteChar_ne_of_isTaken {b : UInt8} (h : IsTaken b) : Text.byteChar b ≠ '\\' := by
  intro hChar
  have hCode : (Char.ofNat b.toNat).toNat = b.toNat := by
    have hValid : Nat.isValidChar b.toNat := .inl (Nat.lt_trans b.toNat_lt (by decide))
    rw [Char.ofNat, dif_pos hValid]
    rfl
  have hNat : b.toNat = '\\'.toNat := by rw [← hCode, ← hChar]; rfl
  exact h.2.1 (UInt8.toNat_inj.mp hNat)

/-- The bytes of a character that stands for itself. -/
theorem plain_isTaken {c : Char} (h : c ≠ '"' ∧ c ≠ '\\' ∧ 0x20 ≤ c.toNat) :
    ∀ b ∈ String.utf8EncodeChar c, IsTaken b := by
  refine (encode_of_not_escaped ?_).2
  rintro (hQuote | hBackslash | hControl)
  · exact h.1 hQuote
  · exact h.2.1 hBackslash
  · omega

private theorem shortEscapes_read : ∀ e ∈ shortEscapes,
    e.1.toNat < 0x80 ∧ e.1 ≠ 'u' ∧ simpleEscape? e.1 = some e.2 := by
  decide

theorem encode_pieces_cons (p : Piece) (pieces : List Piece) :
    encode ((p :: pieces).flatMap Piece.chars) =
      encode p.chars ++ encode (pieces.flatMap Piece.chars) := by
  rw [List.flatMap_cons, encode_append]

theorem encode_singleton (c : Char) : encode [c] = String.utf8EncodeChar c := by
  rw [encode_cons, encode_nil, List.append_nil]

/-- The first half of a pair does not stand alone. -/
theorem unicodeEscape_unpaired {c : Code} (hHigh : c.IsHigh) {pieces : List Piece}
    (hOther : ∀ low rest, pieces ≠ .code low :: rest) (rest rest' : Bytes) :
    unicodeEscape.Yields
      (encode c.chars ++ (encode (pieces.flatMap Piece.chars) ++ '"'.toUInt8 :: rest))
        none rest' := by
  refine .congr ?_ (unicodeEscape_high hHigh _)
  have hSign {b : UInt8} (h : Text.byteChar b ≠ '\\') (more : Bytes) (f : Unit → Decoder Char) :
      (pairSign '\\' >>= f).Yields (b :: more) none rest' := (pairSign_other h more more).bind_none
  cases pieces with
  | nil => exact hSign (by decide) _ _
  | cons p pieces =>
    rw [encode_pieces_cons]
    cases p with
    | plain c' h =>
      obtain ⟨b, more, hBytes⟩ :=
        List.exists_cons_of_ne_nil (String.utf8EncodeChar_ne_nil (c := c'))
      have hTaken : IsTaken b := plain_isTaken h b (by simp [hBytes])
      rw [Piece.chars, encode_singleton, hBytes]
      exact hSign (byteChar_ne_of_isTaken hTaken) _ _
    | short letter c' h =>
      obtain ⟨hAscii, hNotCode, -⟩ := shortEscapes_read _ h
      rw [Piece.chars, encode_ascii (by decide), encode_ascii hAscii]
      refine .after (pairSign_run (by decide) _) (pairSign_other ?_ _ rest').bind_none
      rw [Text.byteChar_toUInt8 hAscii]
      exact hNotCode
    | code low => exact absurd rfl (hOther low pieces)

-- ---------------------------------------------------------------------------
-- Strings that are read
-- ---------------------------------------------------------------------------

/-- A byte that is taken as it is, whatever comes after it. -/
theorem stringBytes_byte {b : UInt8} (h : IsTaken b) {more rest : Bytes} {o : Option Bytes}
    (hRest : (stringBytes fuel).Yields more o rest) :
    (stringBytes (fuel + 1)).Yields (b :: more) (o.map (b :: ·)) rest := by
  have hStep : (stringBytes (fuel + 1)).run (b :: more) =
      ((b :: ·) <$> stringBytes fuel : Decoder Bytes).run more := by
    rw [stringBytes, run_bind get_run]
    dsimp only
    rw [run_bind set_run, if_neg h.1, if_neg h.2.1, if_neg h.2.2]
    rfl
  exact hRest.map.congr hStep

theorem stringBytes_bytes {bs more rest : Bytes} {o : Option Bytes} (h : ∀ b ∈ bs, IsTaken b)
    (hRest : (stringBytes fuel).Yields more o rest) :
    (stringBytes (fuel + bs.length)).Yields (bs ++ more) (o.map (bs ++ ·)) rest := by
  induction bs with
  | nil => simpa using hRest
  | cons b bs ih =>
    rw [List.forall_mem_cons] at h
    have hAll := stringBytes_byte h.1 (ih h.2)
    rw [Option.map_map] at hAll
    exact hAll

/-- An escape is read, and then what comes after it. -/
theorem stringBytes_backslash (more : Bytes) : (stringBytes (fuel + 1)).run ('\\'.toUInt8 :: more) =
    (do let c ← escape; (String.utf8EncodeChar c ++ ·) <$> stringBytes fuel :
      Decoder Bytes).run more := by
  rw [stringBytes, run_bind get_run]
  dsimp only
  rw [run_bind set_run, if_neg (by decide), if_pos rfl]
  rfl

theorem escape_short {letter c : Char} (h : (letter, c) ∈ shortEscapes) (rest : Bytes) :
    escape.run (letter.toNat.toUInt8 :: rest) = .ok (c, rest) := by
  obtain ⟨hAscii, -, hSimple⟩ := shortEscapes_read _ h
  rw [escape, run_bind peek_run, Text.byteChar_toUInt8 hAscii]
  dsimp only
  rw [run_bind skip_run, hSimple]
  rfl

theorem escape_code (rest : Bytes) : escape.run ('u'.toUInt8 :: rest) = unicodeEscape.run rest :=
  rfl

theorem stringBytes_code (more : Bytes) :
    (stringBytes (fuel + 1)).run ('\\'.toUInt8 :: 'u'.toUInt8 :: more) =
      (do let c ← unicodeEscape; (String.utf8EncodeChar c ++ ·) <$> stringBytes fuel :
        Decoder Bytes).run more := by
  rw [stringBytes_backslash, StateT.run_bind, StateT.run_bind, escape_code]

/-- A code of a string with what comes after it. -/
theorem encode_code (c : Code) (pieces : List Piece) (more : Bytes) :
    encode ((.code c :: pieces).flatMap Piece.chars) ++ more =
      '\\'.toUInt8 :: 'u'.toUInt8 ::
        (encode c.chars ++ (encode (pieces.flatMap Piece.chars) ++ more)) := by
  rw [encode_pieces_cons, Piece.chars, encode_ascii (by decide), encode_ascii (by decide),
    List.append_assoc]
  rfl

/-- A short escape of a string with what comes after it. -/
theorem encode_short {letter c : Char} (h : (letter, c) ∈ shortEscapes) (pieces : List Piece)
    (more : Bytes) :
    encode ((.short letter c h :: pieces).flatMap Piece.chars) ++ more =
      '\\'.toUInt8 :: letter.toNat.toUInt8 :: (encode (pieces.flatMap Piece.chars) ++ more) := by
  have hAscii := (shortEscapes_read _ h).1
  rw [encode_pieces_cons, Piece.chars, encode_ascii (by decide), encode_ascii hAscii,
    List.append_assoc]
  rfl

/-- A code takes six bytes, and another escape two. -/
theorem length_encode_code (c : Code) (pieces : List Piece) :
    (encode ((.code c :: pieces).flatMap Piece.chars)).length =
      (encode (pieces.flatMap Piece.chars)).length + 6 := by
  have hBytes := congrArg List.length (encode_code c pieces [])
  have hCode : (encode c.chars).length = 4 := by
    rw [Code.chars, encode_ascii (hexadecimals_read _ c.first.known).1,
      encode_ascii (hexadecimals_read _ c.second.known).1,
      encode_ascii (hexadecimals_read _ c.third.known).1,
      encode_ascii (hexadecimals_read _ c.fourth.known).1]
    rfl
  simp only [List.append_nil, List.length_cons, List.length_append, hCode] at hBytes
  omega

theorem length_encode_short {letter c : Char} (h : (letter, c) ∈ shortEscapes)
    (pieces : List Piece) :
    (encode ((.short letter c h :: pieces).flatMap Piece.chars)).length =
      (encode (pieces.flatMap Piece.chars)).length + 2 := by
  have hBytes := congrArg List.length (encode_short h pieces [])
  simpa using hBytes

/-- **The parts of a string are read as what they stand for**, up to the quote. There is a byte for
every round. -/
theorem stringBytes_yields (pieces : List Piece) (rest : Bytes)
    (hFuel : (encode (pieces.flatMap Piece.chars)).length < fuel) :
    (stringBytes fuel).Yields (encode (pieces.flatMap Piece.chars) ++ '"'.toUInt8 :: rest)
      ((meaning? pieces).map encode) rest := by
  have hPut {o : Option (List Char)} (c : Char) :
      (o.map encode).map (String.utf8EncodeChar c ++ ·) = (o.map (c :: ·)).map encode := by
    rw [Option.map_map, Option.map_map]
    rfl
  induction pieces using meaning?.induct generalizing fuel with
  | case1 =>
    obtain ⟨fuel, rfl⟩ := Nat.exists_eq_succ_of_ne_zero (Nat.ne_of_gt hFuel)
    exact rfl
  | case2 c h pieces ih =>
    rw [encode_pieces_cons, Piece.chars, encode_singleton, List.length_append] at hFuel
    rw [encode_pieces_cons, Piece.chars, encode_singleton, List.append_assoc, meaning?, ← hPut]
    obtain ⟨fuel, rfl⟩ := Nat.exists_eq_add_of_le'
      (by omega : (String.utf8EncodeChar c).length ≤ fuel)
    have hLess : (encode (pieces.flatMap Piece.chars)).length < fuel := by omega
    exact stringBytes_bytes (plain_isTaken h) (ih hLess)
  | case3 letter c h pieces ih =>
    rw [length_encode_short] at hFuel
    obtain ⟨fuel, rfl⟩ := Nat.exists_eq_succ_of_ne_zero (Nat.ne_zero_of_lt hFuel)
    have hLess : (encode (pieces.flatMap Piece.chars)).length < fuel := by omega
    rw [encode_short, meaning?, ← hPut]
    exact (Yields.after (escape_short h _) (ih hLess).map).congr (stringBytes_backslash _)
  | case4 c hHigh low pieces hLow ih =>
    rw [length_encode_code, length_encode_code] at hFuel
    obtain ⟨fuel, rfl⟩ := Nat.exists_eq_succ_of_ne_zero (Nat.ne_zero_of_lt hFuel)
    have hLess : (encode (pieces.flatMap Piece.chars)).length < fuel := by omega
    have hPair := unicodeEscape_pair hHigh hLow
      (encode (pieces.flatMap Piece.chars) ++ '"'.toUInt8 :: rest)
    rw [← List.append_assoc (encode (Piece.code low).chars), ← encode_pieces_cons] at hPair
    rw [encode_code, meaning?, if_pos hHigh, if_pos hLow, ← hPut]
    refine .congr ?_ (stringBytes_code _)
    exact .after hPair (ih hLess).map
  | case5 c hHigh low pieces hLow =>
    rw [length_encode_code] at hFuel
    obtain ⟨fuel, rfl⟩ := Nat.exists_eq_succ_of_ne_zero (Nat.ne_zero_of_lt hFuel)
    have hHalf := unicodeEscape_not_low hHigh hLow
      (encode (pieces.flatMap Piece.chars) ++ '"'.toUInt8 :: rest) rest
    rw [← List.append_assoc (encode (Piece.code low).chars), ← encode_pieces_cons] at hHalf
    rw [encode_code, meaning?, if_pos hHigh, if_neg hLow]
    exact hHalf.bind_none.congr (stringBytes_code _)
  | case6 c pieces hHigh hOther =>
    rw [length_encode_code] at hFuel
    obtain ⟨fuel, rfl⟩ := Nat.exists_eq_succ_of_ne_zero (Nat.ne_zero_of_lt hFuel)
    have hAlone := unicodeEscape_unpaired hHigh hOther rest rest
    rw [encode_code, meaning?.eq_def]
    dsimp only
    rw [if_pos hHigh]
    split
    · rename_i low others
      exact absurd rfl (hOther low others)
    · exact hAlone.bind_none.congr (stringBytes_code _)
  | case7 c pieces hHigh hLow =>
    rw [length_encode_code] at hFuel
    obtain ⟨fuel, rfl⟩ := Nat.exists_eq_succ_of_ne_zero (Nat.ne_zero_of_lt hFuel)
    have hFirst := unicodeEscape_low hLow
      (encode (pieces.flatMap Piece.chars) ++ '"'.toUInt8 :: rest) rest
    rw [encode_code, meaning?.eq_def]
    dsimp only
    rw [if_neg hHigh, if_pos hLow]
    exact hFirst.bind_none.congr (stringBytes_code _)
  | case8 c pieces hHigh hLow ih =>
    rw [length_encode_code] at hFuel
    obtain ⟨fuel, rfl⟩ := Nat.exists_eq_succ_of_ne_zero (Nat.ne_zero_of_lt hFuel)
    have hLess : (encode (pieces.flatMap Piece.chars)).length < fuel := by omega
    have hSingle := unicodeEscape_single hHigh hLow
      (encode (pieces.flatMap Piece.chars) ++ '"'.toUInt8 :: rest)
    rw [encode_code, meaning?.eq_def]
    dsimp only
    rw [if_neg hHigh, if_neg hLow, ← hPut]
    exact (Yields.after hSingle (ih hLess).map).congr (stringBytes_code _)

theorem encode_tail (pieces : List Piece) (rest : Bytes) :
    encode (pieces.flatMap Piece.chars ++ ['"']) ++ rest =
      encode (pieces.flatMap Piece.chars) ++ '"'.toUInt8 :: rest := by
  rw [encode_append, List.append_assoc]
  rfl

/-- **A string is read as the text that it stands for**, whatever comes after it. -/
theorem stringTail_yields (pieces : List Piece) (rest : Bytes) :
    stringTail.Yields (encode (pieces.flatMap Piece.chars ++ ['"']) ++ rest)
      (text? pieces) rest := by
  have hFuel : (encode (pieces.flatMap Piece.chars)).length <
      (encode (pieces.flatMap Piece.chars) ++ '"'.toUInt8 :: rest).length + 1 := by
    rw [List.length_append]
    omega
  have hBytes := stringBytes_yields pieces rest hFuel
  rw [encode_tail, stringTail]
  refine .after get_run ?_
  rw [text?]
  cases hMeaning : meaning? pieces with
  | none =>
    rw [hMeaning] at hBytes
    exact Yields.bind_none hBytes
  | some cs =>
    rw [hMeaning] at hBytes
    have hDecoded : Text.decode? (encode cs) = some (String.ofList cs) := by
      rw [encode, ← Text.utf8_ofList, Text.decode?_utf8]
    refine .after hBytes ?_
    rw [hDecoded]
    exact rfl

-- ---------------------------------------------------------------------------
-- Strings that are stepped over
-- ---------------------------------------------------------------------------

theorem skipString_taken {bs : Bytes} (h : ∀ b ∈ bs, IsTaken b) (more : Bytes) :
    (skipString (fuel + bs.length)).run (bs ++ more) = (skipString fuel).run more := by
  induction bs with
  | nil => rfl
  | cons b bs ih =>
    rw [List.forall_mem_cons] at h
    obtain ⟨⟨hQuote, hBackslash, hControl⟩, hOthers⟩ := h
    rw [List.length_cons, ← Nat.add_assoc, List.cons_append, skipString, run_bind get_run]
    dsimp only
    rw [if_neg hQuote, if_neg hBackslash, if_neg hControl, run_bind set_run]
    exact ih hOthers

theorem skipString_backslash {text more : Bytes}
    (h : skipEscape.run (text ++ more) = .ok ((), more)) :
    (skipString (fuel + 1)).run ('\\'.toUInt8 :: (text ++ more)) = (skipString fuel).run more := by
  rw [skipString, run_bind get_run]
  dsimp only
  rw [if_neg (by decide), if_pos rfl, run_bind set_run, run_bind h]

theorem skipEscape_short {letter c : Char} (h : (letter, c) ∈ shortEscapes) (rest : Bytes) :
    skipEscape.run ([letter.toNat.toUInt8] ++ rest) = .ok ((), rest) := by
  obtain ⟨hAscii, -, hSimple⟩ := shortEscapes_read _ h
  rw [List.singleton_append, skipEscape, run_bind peek_run, Text.byteChar_toUInt8 hAscii]
  dsimp only
  rw [run_bind skip_run, hSimple]
  rfl

theorem skipEscape_code (c : Code) (rest : Bytes) :
    skipEscape.run ('u'.toUInt8 :: encode c.chars ++ rest) = .ok ((), rest) := by
  have hStep (more : Bytes) : skipEscape.run ('u'.toUInt8 :: more) =
      (do let _ ← hexUnit : Decoder Unit).run more := rfl
  rw [List.cons_append, hStep, run_bind (hexUnit_run c rest)]
  rfl

/-- The parts of a string are stepped over, up to the quote, whatever they stand for. -/
theorem skipString_pieces (pieces : List Piece) (rest : Bytes)
    (hFuel : (encode (pieces.flatMap Piece.chars)).length < fuel) :
    (skipString fuel).run (encode (pieces.flatMap Piece.chars) ++ '"'.toUInt8 :: rest) =
      .ok ((), rest) := by
  induction pieces generalizing fuel with
  | nil =>
    obtain ⟨fuel, rfl⟩ := Nat.exists_eq_succ_of_ne_zero (Nat.ne_of_gt hFuel)
    rfl
  | cons p pieces ih =>
    cases p with
    | plain c h =>
      rw [encode_pieces_cons, Piece.chars, encode_singleton, List.length_append] at hFuel
      obtain ⟨fuel, rfl⟩ := Nat.exists_eq_add_of_le'
        (by omega : (String.utf8EncodeChar c).length ≤ fuel)
      rw [encode_pieces_cons, Piece.chars, encode_singleton, List.append_assoc,
        skipString_taken (plain_isTaken h)]
      exact ih (by omega)
    | short letter c h =>
      rw [length_encode_short] at hFuel
      obtain ⟨fuel, rfl⟩ := Nat.exists_eq_succ_of_ne_zero (Nat.ne_zero_of_lt hFuel)
      rw [encode_short]
      exact (skipString_backslash (skipEscape_short h _)).trans (ih (by omega))
    | code c =>
      rw [length_encode_code] at hFuel
      obtain ⟨fuel, rfl⟩ := Nat.exists_eq_succ_of_ne_zero (Nat.ne_zero_of_lt hFuel)
      rw [encode_code]
      exact (skipString_backslash (skipEscape_code c _)).trans (ih (by omega))

/-- **A string is stepped over**, whatever comes after it. -/
theorem skipStringTail_pieces (pieces : List Piece) (rest : Bytes) :
    skipStringTail.run (encode (pieces.flatMap Piece.chars ++ ['"']) ++ rest) = .ok ((), rest) := by
  rw [encode_tail, skipStringTail, run_bind get_run]
  refine skipString_pieces pieces rest ?_
  rw [List.length_append]
  omega

end TopologyExporter.Json.Decoder
