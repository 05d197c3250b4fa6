import TopologyExporter.Json.Decoder
import TopologyExporter.Json.Value
import TopologyExporter.Proofs.Text.Utf8

/-!
# JSON strings — what is written is read back

A string is written as its characters between quotes, some of them escaped. Reading goes byte by
byte: the bytes of a character that is not escaped are taken as they are, since none of them can be
a quote, a backslash or a control character, and an escape stands for one character.

## Results

* `Decoder.run_bind`                — a decoder that is done leaves the rest to the next.
* `Decoder.escape_run`              — every escape that is written is read as its character.
* `Decoder.stringTail_run`          — a string is read back, whatever comes after it.
-/

namespace TopologyExporter.Json

/-- The bytes of some characters. -/
def encode (cs : List Char) : Bytes := cs.flatMap String.utf8EncodeChar

@[simp] theorem encode_nil : encode [] = [] := rfl

@[simp] theorem encode_append (cs cs' : List Char) : encode (cs ++ cs') = encode cs ++ encode cs' :=
  List.flatMap_append

theorem encode_cons (c : Char) (cs : List Char) :
    encode (c :: cs) = String.utf8EncodeChar c ++ encode cs :=
  List.flatMap_cons

theorem encode_ascii {c : Char} (h : c.toNat < 0x80) (cs : List Char) :
    encode (c :: cs) = c.toNat.toUInt8 :: encode cs := by
  rw [encode_cons, Text.utf8EncodeChar_ascii h]
  rfl

namespace Decoder

variable {α β : Type} {d : Decoder α} {f : α → Decoder β} {a : α}
  {bytes rest : Bytes} {b : UInt8}
  {c : Char} {fuel : Nat}

-- ---------------------------------------------------------------------------
-- Steps
-- ---------------------------------------------------------------------------

/-- A decoder that is done leaves the rest to the next. -/
theorem run_bind (h : d.run bytes = .ok (a, rest)) : (d >>= f).run bytes = (f a).run rest := by
  rw [StateT.run_bind, h]
  rfl

theorem run_map {f : α → β} (h : d.run bytes = .ok (a, rest)) :
    (f <$> d).run bytes = .ok (f a, rest) := by
  rw [StateT.run_map, h]
  rfl

theorem run_pure (a : α) : (pure a : Decoder α).run bytes = .ok (a, bytes) := rfl

theorem get_run : (get : Decoder Bytes).run bytes = .ok (bytes, bytes) := rfl

theorem set_run : (set rest : Decoder PUnit).run bytes = .ok (⟨⟩, rest) := rfl

theorem peek_run : peek.run (b :: rest) = .ok (some (Text.byteChar b), b :: rest) := rfl

theorem skip_run : skip.run (b :: rest) = .ok ((), rest) := rfl

theorem peekSpaced_run (h : isBlank b = false) :
    peekSpaced.run (b :: rest) = .ok (some (Text.byteChar b), b :: rest) := by
  have hDrop : (b :: rest).dropWhile isBlank = b :: rest := by rw [List.dropWhile_cons, h]; rfl
  show peek.run ((b :: rest).dropWhile isBlank) = _
  rw [hDrop]
  rfl

-- ---------------------------------------------------------------------------
-- Escapes
-- ---------------------------------------------------------------------------

/-- The byte of a hexadecimal digit. -/
private def hexByte (digit : Nat) : UInt8 := (Nat.digitChar digit).toNat.toUInt8

private theorem hexValue?_hexByte :
    ∀ digit : Fin 16, hexValue? (hexByte digit) = some digit.val := by
  decide

private theorem encode_hexDigits : ∀ n : Fin 32,
    encode (Text.hexDigits 4 n) = [hexByte 0, hexByte 0, hexByte (n / 16), hexByte (n % 16)] := by
  decide +kernel

/-- The code of a control character is read as that character. -/
theorem unicodeEscape_run (h : c.toNat < 0x20) :
    unicodeEscape.run (encode (Text.hexDigits 4 c.toNat) ++ rest) = .ok (c, rest) := by
  have hDigits := encode_hexDigits ⟨c.toNat, h⟩
  have hHigh := hexValue?_hexByte ⟨c.toNat / 16, by omega⟩
  have hLow := hexValue?_hexByte ⟨c.toNat % 16, by omega⟩
  dsimp only at hDigits hHigh hLow
  have hUnit : hexUnit.run (encode (Text.hexDigits 4 c.toNat) ++ rest) = .ok (c.toNat, rest) := by
    rw [hDigits]
    show hexUnit.run (hexByte 0 :: hexByte 0 :: hexByte (c.toNat / 16) :: hexByte
      (c.toNat % 16) :: rest) = _
    rw [hexUnit, run_bind get_run, run_bind set_run,
      hexValue?_hexByte ⟨0, by omega⟩, hHigh, hLow]
    show Except.ok (((0 * 16 + 0) * 16 + c.toNat / 16) * 16 + c.toNat % 16, rest) = _
    rw [Nat.zero_mul, Nat.zero_add, Nat.div_add_mod']
  rw [unicodeEscape, run_bind hUnit, if_neg (by omega), if_pos (by omega), Char.ofNat_toNat]
  rfl

/-- Whether a character is written as an escape. -/
def IsEscaped (c : Char) : Prop := c = '"' ∨ c = '\\' ∨ c.toNat < 0x20

/-- An escape stands for its character. -/
theorem escape_run (h : IsEscaped c) : ∃ text, encode (escapeChar c) = '\\'.toUInt8 :: text ∧
    ∀ rest, escape.run (text ++ rest) = .ok (c, rest) := by
  unfold escapeChar
  split
  case h_1 => exact ⟨_, rfl, fun _ => rfl⟩
  case h_2 => exact ⟨_, rfl, fun _ => rfl⟩
  case h_3 => exact ⟨_, rfl, fun _ => rfl⟩
  case h_4 => exact ⟨_, rfl, fun _ => rfl⟩
  case h_5 => exact ⟨_, rfl, fun _ => rfl⟩
  case h_6 => exact ⟨_, rfl, fun _ => rfl⟩
  case h_7 => exact ⟨_, rfl, fun _ => rfl⟩
  case h_8 hQuote hBackslash _ _ _ _ _ =>
    have hControl : c.toNat < 0x20 := (h.resolve_left hQuote).resolve_left hBackslash
    refine ⟨'u'.toUInt8 :: encode (Text.hexDigits 4 c.toNat), ?_, fun rest => ?_⟩
    · rw [if_pos hControl]
      rfl
    · have hCode (text : Bytes) : escape.run ('u'.toUInt8 :: text) = unicodeEscape.run text := rfl
      exact (hCode _).trans (unicodeEscape_run hControl)

-- ---------------------------------------------------------------------------
-- Strings
-- ---------------------------------------------------------------------------

/-- Whether a byte of a string is taken as it is. -/
def IsTaken (b : UInt8) : Prop := b ≠ '"'.toUInt8 ∧ b ≠ '\\'.toUInt8 ∧ ¬ b < 0x20

/-- A character that is not escaped is written as its own bytes, which are taken as they are. -/
theorem encode_of_not_escaped (h : ¬ IsEscaped c) :
    encode (escapeChar c) = String.utf8EncodeChar c ∧
    ∀ b ∈ String.utf8EncodeChar c, IsTaken b := by
  rw [IsEscaped, not_or, not_or, Nat.not_lt] at h
  obtain ⟨hQuote, hBackslash, hControl⟩ := h
  constructor
  · unfold escapeChar
    split
    case h_8 =>
      rw [if_neg (by omega), encode_cons]
      simp
    case h_1 => exact absurd rfl hQuote
    case h_2 => exact absurd rfl hBackslash
    all_goals exact absurd hControl (by decide)
  · intro b hMem
    by_cases hAscii : c.toNat < 0x80
    · rw [Text.utf8EncodeChar_ascii hAscii, List.mem_singleton] at hMem
      have hByte : Text.byteChar b = c := hMem ▸ Text.byteChar_toUInt8 hAscii
      have hNat : b.toNat = c.toNat := by
        rw [hMem]
        show c.toNat % 256 = c.toNat
        omega
      refine ⟨?_, ?_, ?_⟩
      · rintro rfl
        exact hQuote hByte.symm
      · rintro rfl
        exact hBackslash hByte.symm
      · rw [UInt8.lt_iff_toNat_lt, hNat, Nat.not_lt]
        exact hControl
    · have hHigh := Text.le_of_mem_utf8EncodeChar (Nat.not_lt.mp hAscii) hMem
      refine ⟨?_, ?_, ?_⟩
      · rintro rfl
        exact absurd hHigh (by decide)
      · rintro rfl
        exact absurd hHigh (by decide)
      · rw [UInt8.lt_iff_toNat_lt, Nat.not_lt]
        exact Nat.le_trans (by decide) hHigh

/-- A byte that is taken as it is. -/
theorem stringBytes_taken (h : IsTaken b) {taken rest' : Bytes}
    (hRest : (stringBytes fuel).run rest = .ok (taken, rest')) :
    (stringBytes (fuel + 1)).run (b :: rest) = .ok (b :: taken, rest') := by
  rw [stringBytes, run_bind get_run]
  dsimp only
  rw [run_bind set_run, if_neg h.1, if_neg h.2.1, if_neg h.2.2, run_bind hRest]
  rfl

/-- An escape is read as the bytes of its character. -/
theorem stringBytes_escape {text taken rest' : Bytes}
    (h : escape.run (text ++ rest) = .ok (c, rest))
    (hRest : (stringBytes fuel).run rest = .ok (taken, rest')) :
    (stringBytes (fuel + 1)).run ('\\'.toUInt8 :: text ++ rest) =
      .ok (String.utf8EncodeChar c ++ taken, rest') := by
  rw [stringBytes, List.cons_append, run_bind get_run]
  dsimp only
  rw [run_bind set_run, if_neg (by decide), if_pos rfl, run_bind h, run_bind hRest]
  rfl

theorem stringBytes_all_taken {taken rest' : Bytes} {bs : Bytes} (h : ∀ b ∈ bs, IsTaken b)
    (hRest : (stringBytes fuel).run rest = .ok (taken, rest')) :
    (stringBytes (fuel + bs.length)).run (bs ++ rest) = .ok (bs ++ taken, rest') := by
  induction bs with
  | nil => exact hRest
  | cons b bs ih =>
    rw [List.forall_mem_cons] at h
    exact stringBytes_taken h.1 (ih h.2)

/-- **The characters of a string are read back** up to its quote. There is a byte for every
round. -/
theorem stringBytes_run (cs : List Char) (hFuel : (encode (cs.flatMap escapeChar)).length < fuel) :
    (stringBytes fuel).run (encode (cs.flatMap escapeChar) ++ '"'.toUInt8 :: rest) =
      .ok (encode cs, rest) := by
  induction cs generalizing fuel with
  | nil =>
    obtain ⟨fuel, rfl⟩ := Nat.exists_eq_succ_of_ne_zero (Nat.ne_of_gt hFuel)
    rfl
  | cons c cs ih =>
    rw [List.flatMap_cons, encode_append, List.length_append] at hFuel
    rw [List.flatMap_cons, encode_append, List.append_assoc, encode_cons]
    by_cases hEscaped : IsEscaped c
    · obtain ⟨text, hText, hEscape⟩ := escape_run hEscaped
      rw [hText, List.length_cons] at hFuel
      rw [hText]
      obtain ⟨fuel, rfl⟩ := Nat.exists_eq_add_of_lt (by omega : 0 < fuel)
      rw [Nat.zero_add] at hFuel ⊢
      exact stringBytes_escape (hEscape _) (ih (by omega))
    · obtain ⟨hSelf, hTaken⟩ := encode_of_not_escaped hEscaped
      rw [hSelf] at hFuel ⊢
      obtain ⟨fuel, rfl⟩ := Nat.exists_eq_add_of_le'
        (by omega : (String.utf8EncodeChar c).length ≤ fuel)
      exact stringBytes_all_taken hTaken (ih (by omega))

/-- **A string is read back** from after its opening quote, whatever comes after it. -/
theorem stringTail_run (s : String) (rest : Bytes) :
    stringTail.run (encode (s.toList.flatMap escapeChar ++ ['"']) ++ rest) = .ok (s, rest) := by
  have hText : encode (s.toList.flatMap escapeChar ++ ['"']) ++ rest =
      encode (s.toList.flatMap escapeChar) ++ '"'.toUInt8 :: rest := by
    rw [encode_append, List.append_assoc]
    rfl
  have hDecoded : Text.decode? (encode s.toList) = some s := by
    rw [encode, ← Text.utf8_eq, Text.decode?_utf8]
  have hFuel : (encode (s.toList.flatMap escapeChar)).length <
      (encode (s.toList.flatMap escapeChar) ++ '"'.toUInt8 :: rest).length + 1 := by
    rw [List.length_append]
    omega
  rw [hText, stringTail, run_bind get_run, run_bind (stringBytes_run s.toList hFuel), hDecoded]
  rfl

end Decoder

end TopologyExporter.Json
