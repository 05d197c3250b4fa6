/-!
# Bytes and text

Files hold bytes, messages hold text. `utf8` is the encoding of a text; `decodeLossy` shows bytes
that may not be an encoding.
-/

namespace TopologyExporter

/-- The content of a file. -/
abbrev Bytes := List UInt8

namespace Text

/-- The bytes of a text in UTF-8. -/
def utf8 (s : String) : Bytes := s.toUTF8.toList

/-- The text that bytes encode, if they do. -/
def decode? (bytes : Bytes) : Option String := String.fromUTF8? ⟨bytes.toArray⟩

/-- The character with the code of a byte. -/
def byteChar (b : UInt8) : Char := Char.ofNat b.toNat

/-- How many bytes follow a leading byte, with the bounds of the first of them. -/
def continuation? (lead : Nat) : Option (Nat × Nat × Nat) :=
  if lead < 0x80 then some (0, 0x80, 0xBF)
  else if lead < 0xC2 then none
  else if lead < 0xE0 then some (1, 0x80, 0xBF)
  else if lead < 0xF0 then
    some (2, if lead = 0xE0 then 0xA0 else 0x80, if lead = 0xED then 0x9F else 0xBF)
  else if lead < 0xF5 then
    some (3, if lead = 0xF0 then 0x90 else 0x80, if lead = 0xF4 then 0x8F else 0xBF)
  else none

/-- Decodes bytes one at a time; what belongs to no character becomes a replacement character, one
for each longest start of a character. `pending` is the number of bytes that the current character
still lacks, `value` its bits so far, and the next byte lies between `lo` and `hi`. -/
def decodeFrom (pending value lo hi : Nat) : Bytes → List Char
  | [] => if pending = 0 then [] else ['\ufffd']
  | b :: rest =>
    let n := b.toNat
    if pending ≠ 0 ∧ lo ≤ n ∧ n ≤ hi then
      let value := value * 64 + n % 64
      if pending = 1 then Char.ofNat value :: decodeFrom 0 0 0 0 rest
      else decodeFrom (pending - 1) value 0x80 0xBF rest
    else
      -- the character before this byte was not finished, and the byte starts anew
      let broken := if pending = 0 then [] else ['\ufffd']
      match continuation? n with
      | none => broken ++ '\ufffd' :: decodeFrom 0 0 0 0 rest
      | some (0, _, _) => broken ++ Char.ofNat n :: decodeFrom 0 0 0 0 rest
      | some (more, lo, hi) => broken ++ decodeFrom more (n % Nat.pow 2 (6 - more)) lo hi rest

/-- Counts the bytes up to the first that belongs to no character. `whole` bytes make up characters,
and `part` more the start of one that lacks `pending` bytes, the next one between `lo` and `hi`. -/
def validFrom (whole part pending lo hi : Nat) : Bytes → Nat
  | [] => whole
  | b :: rest =>
    let n := b.toNat
    if pending = 0 then
      match continuation? n with
      | none => whole
      | some (0, _, _) => validFrom (whole + 1) 0 0 0 0 rest
      | some (more, lo, hi) => validFrom whole 1 more lo hi rest
    else if lo ≤ n ∧ n ≤ hi then
      if pending = 1 then validFrom (whole + part + 1) 0 0 0 0 rest
      else validFrom whole (part + 1) (pending - 1) 0x80 0xBF rest
    else whole

/-- How many bytes at the front encode a text. -/
def validLength (bytes : Bytes) : Nat := validFrom 0 0 0 0 0 bytes

/-- The text that bytes show as. -/
def decodeLossy (bytes : Bytes) : String := String.ofList (decodeFrom 0 0 0 0 bytes)

end Text

end TopologyExporter
