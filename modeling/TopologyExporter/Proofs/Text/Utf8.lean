import Mathlib.Data.List.Basic
import TopologyExporter.Text.Utf8

/-!
# Bytes and text — encoding and decoding

The bytes of a text are those of its characters, one after the other. An ASCII character is one
byte, its code, and all bytes of any other character are beyond ASCII, so that no byte of it can be
taken for an ASCII character.

## Results

* `Text.utf8_ofList`            — the bytes of a text by its characters.
* `Text.decode?_utf8`           — decoding the bytes of a text gives it back.
* `Text.utf8EncodeChar_ascii`   — the byte of an ASCII character.
* `Text.le_of_mem_utf8EncodeChar` — the bytes of any other.
-/

namespace TopologyExporter.Text

-- ---------------------------------------------------------------------------
-- Byte arrays
-- ---------------------------------------------------------------------------

private theorem toList_loop (a : ByteArray) (i : Nat) (read : List UInt8) :
    ByteArray.toList.loop a i read = read.reverse ++ a.data.toList.drop i := by
  fun_induction ByteArray.toList.loop a i read with
  | case1 i read hLt ih =>
    have hLength : i < a.data.toList.length := by simpa using hLt
    have hGet : a.get! i = a.data.toList[i] := by
      show a.data[i]! = _
      rw [getElem!_pos a.data i hLt, Array.getElem_toList]
    rw [ih, List.drop_eq_getElem_cons hLength, hGet]
    simp
  | case2 i read hNot =>
    have hLength : a.data.toList.length ≤ i := by simpa using hNot
    rw [List.drop_eq_nil_of_le hLength, List.append_nil]

theorem toList_eq_data (a : ByteArray) : a.toList = a.data.toList := by
  rw [ByteArray.toList, toList_loop]
  simp

-- ---------------------------------------------------------------------------
-- Texts
-- ---------------------------------------------------------------------------

/-- The bytes of a text are those of its characters. -/
theorem utf8_ofList (cs : List Char) :
    utf8 (String.ofList cs) = cs.flatMap String.utf8EncodeChar := by
  rw [utf8, String.toUTF8, String.toByteArray_ofList, toList_eq_data, List.utf8Encode]
  exact List.toList_data_toByteArray

theorem utf8_eq (s : String) : utf8 s = s.toList.flatMap String.utf8EncodeChar := by
  conv_lhs => rw [← String.ofList_toList (s := s)]
  exact utf8_ofList s.toList

/-- **Decoding the bytes of a text gives it back.** -/
theorem decode?_utf8 (s : String) : decode? (utf8 s) = some s := by
  have hArray : (⟨(utf8 s).toArray⟩ : ByteArray) = s.toByteArray := by
    rw [utf8, String.toUTF8, toList_eq_data]
  rw [decode?, hArray, String.fromUTF8?, dif_pos s.isValidUTF8]
  rfl

-- ---------------------------------------------------------------------------
-- Characters
-- ---------------------------------------------------------------------------

theorem utf8EncodeChar_ascii {c : Char} (h : c.toNat < 0x80) :
    String.utf8EncodeChar c = [c.toNat.toUInt8] := by
  rw [String.utf8EncodeChar.eq_1, if_pos (by show c.toNat ≤ 127; omega)]
  rfl

theorem byteChar_toUInt8 {c : Char} (h : c.toNat < 0x80) : byteChar c.toNat.toUInt8 = c := by
  rw [byteChar]
  have hNat : c.toNat.toUInt8.toNat = c.toNat := by
    show c.toNat % 256 = c.toNat
    omega
  rw [hNat, Char.ofNat_toNat]

/-- No byte of a character beyond ASCII is that of an ASCII character. -/
theorem le_of_mem_utf8EncodeChar {c : Char} (h : 0x80 ≤ c.toNat) {b : UInt8}
    (hMem : b ∈ String.utf8EncodeChar c) : 0x80 ≤ b.toNat := by
  have hAbove : ¬ c.val.toNat ≤ 127 := by
    show ¬ c.toNat ≤ 127
    omega
  rw [String.utf8EncodeChar.eq_1, if_neg hAbove] at hMem
  split at hMem
  · simp only [List.mem_cons, List.not_mem_nil, or_false] at hMem
    rcases hMem with rfl | rfl <;> simp only [UInt8.toNat_ofNat'] <;> omega
  · split at hMem
    · simp only [List.mem_cons, List.not_mem_nil, or_false] at hMem
      rcases hMem with rfl | rfl | rfl <;> simp only [UInt8.toNat_ofNat'] <;> omega
    · simp only [List.mem_cons, List.not_mem_nil, or_false] at hMem
      rcases hMem with rfl | rfl | rfl | rfl <;> simp only [UInt8.toNat_ofNat'] <;> omega

end TopologyExporter.Text
