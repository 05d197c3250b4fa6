import TopologyExporter.Proofs.Json.Reading

/-!
# Spellings of JSON values

One value has many texts: blanks may stand between its parts, each character of a string has several
escapes, and the members of an object come in any order. The grammar of these texts is said here
without any decoder. Numbers are not told apart, and a string that stands for no text, since half of
a pair of escapes is missing, is a string all the same.

## Results

* `Spells`                — which texts spell a value.
* `Spells.starts`         — how such a text starts.
* `Spells.text_eq`, `Spells.list_eq`, `Spells.object_eq` — what the texts of strings, lists and
  objects are.
-/

namespace TopologyExporter.Json

-- ---------------------------------------------------------------------------
-- Blanks
-- ---------------------------------------------------------------------------

/-- Blanks between the parts of a text. -/
structure Space where
  bytes : Bytes
  blank : ∀ b ∈ bytes, b ∈ encode [' ', '\n', '\t', '\r']

/-- No blanks. -/
def Space.none : Space := ⟨[], List.forall_mem_nil _⟩

/-- Blanks after blanks. -/
def Space.append (s t : Space) : Space where
  bytes := s.bytes ++ t.bytes
  blank := fun b hb => (List.mem_append.mp hb).elim (s.blank b) (t.blank b)

-- ---------------------------------------------------------------------------
-- Strings
-- ---------------------------------------------------------------------------

/-- The hexadecimal digits with their values. -/
def hexadecimals : List (Char × Nat) :=
  [('0', 0), ('1', 1), ('2', 2), ('3', 3), ('4', 4), ('5', 5), ('6', 6), ('7', 7),
    ('8', 8), ('9', 9), ('a', 10), ('b', 11), ('c', 12), ('d', 13), ('e', 14), ('f', 15),
    ('A', 10), ('B', 11), ('C', 12), ('D', 13), ('E', 14), ('F', 15)]

/-- A hexadecimal digit. -/
structure HexDigit where
  char : Char
  value : Nat
  known : (char, value) ∈ hexadecimals := by decide

/-- A code of four hexadecimal digits. -/
structure Code where
  first : HexDigit
  second : HexDigit
  third : HexDigit
  fourth : HexDigit

namespace Code

/-- The number that a code is. -/
def value (c : Code) : Nat :=
  ((c.first.value * 16 + c.second.value) * 16 + c.third.value) * 16 + c.fourth.value

/-- The digits of a code. -/
def chars (c : Code) : List Char := [c.first.char, c.second.char, c.third.char, c.fourth.char]

/-- Whether a code is the first half of a pair. -/
def IsHigh (c : Code) : Prop := 0xD800 ≤ c.value ∧ c.value < 0xDC00

/-- Whether a code is the second half of a pair. -/
def IsLow (c : Code) : Prop := 0xDC00 ≤ c.value ∧ c.value < 0xE000

instance (c : Code) : Decidable c.IsHigh := inferInstanceAs (Decidable (_ ∧ _))

instance (c : Code) : Decidable c.IsLow := inferInstanceAs (Decidable (_ ∧ _))

/-- The character of a pair. -/
def pairChar (high low : Code) : Char :=
  Char.ofNat ((high.value - 0xD800) * 0x400 + (low.value - 0xDC00) + 0x10000)

end Code

/-- The escapes of one letter with what they stand for. -/
def shortEscapes : List (Char × Char) :=
  [('"', '"'), ('\\', '\\'), ('/', '/'), ('b', '\x08'), ('f', '\x0c'), ('n', '\n'),
    ('r', '\r'), ('t', '\t')]

/-- A part of a string: a character as it is, or an escape. -/
inductive Piece
  | plain (c : Char) (h : c ≠ '"' ∧ c ≠ '\\' ∧ 0x20 ≤ c.toNat)
  | short (letter c : Char) (h : (letter, c) ∈ shortEscapes)
  | code (c : Code)

/-- The characters of a part of a string. -/
def Piece.chars : Piece → List Char
  | plain c _ => [c]
  | short letter _ _ => ['\\', letter]
  | code c => '\\' :: 'u' :: c.chars

/-- The characters that the parts of a string stand for, if each half of a pair has its other
half. -/
def meaning? : List Piece → Option (List Char)
  | [] => some []
  | .plain c _ :: rest => (meaning? rest).map (c :: ·)
  | .short _ c _ :: rest => (meaning? rest).map (c :: ·)
  | .code c :: rest =>
    if c.IsHigh then
      match rest with
      | .code low :: rest => if low.IsLow then (meaning? rest).map (c.pairChar low :: ·) else none
      | _ => none
    else if c.IsLow then none
    else (meaning? rest).map (Char.ofNat c.value :: ·)

/-- The text that the parts of a string stand for, if they stand for one. -/
def text? (pieces : List Piece) : Option String := (meaning? pieces).map String.ofList

/-- A string of some parts. -/
def quoted (pieces : List Piece) : List Char := '"' :: (pieces.flatMap Piece.chars ++ ['"'])

theorem encode_quoted (pieces : List Piece) :
    encode (quoted pieces) = '"'.toNat.toUInt8 :: encode (pieces.flatMap Piece.chars ++ ['"']) :=
  encode_ascii (by decide) _

-- ---------------------------------------------------------------------------
-- Numbers
-- ---------------------------------------------------------------------------

/-- Some digits. -/
structure Digits where
  chars : List Char
  some : chars ≠ []
  digits : ∀ c ∈ chars, c.isDigit = true

/-- The exponent of a number. -/
structure Exponent where
  letter : Char
  sign : List Char
  digits : Digits
  isLetter : letter = 'e' ∨ letter = 'E'
  isSign : sign = [] ∨ sign = ['+'] ∨ sign = ['-']

/-- The characters of an exponent. -/
def Exponent.chars (e : Exponent) : List Char := e.letter :: (e.sign ++ e.digits.chars)

/-- A number as it is written. Nothing but zero itself starts with a zero. -/
structure Numeral where
  negative : Bool
  whole : Digits
  fraction : Option Digits
  exponent : Option Exponent
  noZero : whole.chars = ['0'] ∨ whole.chars.head? ≠ some '0'

namespace Numeral

/-- The characters of a number after its sign and its whole part. -/
def tailChars (n : Numeral) : List Char :=
  (n.fraction.elim [] fun ds => '.' :: ds.chars) ++ n.exponent.elim [] Exponent.chars

/-- The characters of a number. -/
def chars (n : Numeral) : List Char :=
  (if n.negative then ['-'] else []) ++ (n.whole.chars ++ n.tailChars)

end Numeral

-- ---------------------------------------------------------------------------
-- Values
-- ---------------------------------------------------------------------------

/-- A JSON value, as far as its numbers need not be told apart. A string or a name is none if it
stands for no text. -/
inductive Value
  | null
  | boolean (b : Bool)
  | number
  | text (s : Option String)
  | list (items : List Value)
  | object (members : List (Option String × Value))

/-- A value between blanks, with one of its texts. -/
structure Item where
  before : Space
  value : Value
  bytes : Bytes
  after : Space

/-- The text of a value between blanks. -/
def Item.text (i : Item) : Bytes := i.before.bytes ++ (i.bytes ++ i.after.bytes)

/-- A member of an object: its name between blanks, and its value. -/
structure Member where
  before : Space
  name : List Piece
  after : Space
  item : Item

namespace Member

/-- The text of the name of a member, with its colon. -/
def head (m : Member) : Bytes := encode (quoted m.name) ++ (m.after.bytes ++ encode [':'])

/-- The text of a member. -/
def text (m : Member) : Bytes := m.before.bytes ++ (m.head ++ m.item.text)

/-- The name and the value of a member. -/
def value (m : Member) : Option String × Value := (text? m.name, m.item.value)

end Member

/-- Whether a text spells a value. -/
inductive Spells : Value → Bytes → Prop
  | null : Spells .null (encode ['n', 'u', 'l', 'l'])
  | yes : Spells (.boolean true) (encode ['t', 'r', 'u', 'e'])
  | no : Spells (.boolean false) (encode ['f', 'a', 'l', 's', 'e'])
  | number (n : Numeral) : Spells .number (encode n.chars)
  | text (pieces : List Piece) : Spells (.text (text? pieces)) (encode (quoted pieces))
  | emptyList (space : Space) : Spells (.list []) (encode ['['] ++ (space.bytes ++ encode [']']))
  | list (items : List Item) (hSome : items ≠ [])
      (hItems : ∀ i ∈ items, Spells i.value i.bytes) :
    Spells (.list (items.map Item.value))
      (encode ['['] ++ ((encode [',']).intercalate (items.map Item.text) ++ encode [']']))
  | emptyObject (space : Space) :
      Spells (.object []) (encode ['\x7b'] ++ (space.bytes ++ encode ['\x7d']))
  | object (members : List Member) (hSome : members ≠ [])
      (hMembers : ∀ m ∈ members, Spells m.item.value m.item.bytes) :
    Spells (.object (members.map Member.value))
      (encode ['\x7b'] ++ ((encode [',']).intercalate (members.map Member.text) ++ encode ['\x7d']))

/-- Whether a whole text spells a value: blanks may stand around it. -/
def Value.IsSpelledBy (v : Value) (text : Bytes) : Prop :=
  ∃ i : Item, i.value = v ∧ Spells i.value i.bytes ∧ i.text = text

-- ---------------------------------------------------------------------------
-- How texts start
-- ---------------------------------------------------------------------------

/-- Whether a character can be the first of the texts of a value. -/
structure Starts (v : Value) (c : Char) : Prop where
  value  : StartsValue c
  text   : c = '"' → ∃ s, v = .text s
  list   : c = '[' → ∃ items, v = .list items
  object : c = '\x7b' → ∃ members, v = .object members

theorem starts_plain {c : Char} (hStarts : StartsValue c)
    (h : c ≠ '"' ∧ c ≠ '[' ∧ c ≠ '\x7b') (v : Value) :
    Starts v c :=
  ⟨hStarts, fun hText => absurd hText h.1, fun hList => absurd hList h.2.1,
    fun hObject => absurd hObject h.2.2⟩

theorem starts_text (s : Option String) : Starts (.text s) '"' :=
  ⟨⟨by decide, rfl, by decide, by decide⟩, fun _ => ⟨s, rfl⟩,
    fun h => absurd h (by decide),
    fun h => absurd h (by decide)⟩

theorem starts_list (items : List Value) : Starts (.list items) '[' :=
  ⟨⟨by decide, rfl, by decide, by decide⟩, fun h => absurd h (by decide),
    fun _ => ⟨items, rfl⟩,
    fun h => absurd h (by decide)⟩

theorem starts_object (members : List (Option String × Value)) : Starts (.object members) '\x7b' :=
  ⟨⟨by decide, rfl, by decide, by decide⟩, fun h => absurd h (by decide),
    fun h => absurd h (by decide),
    fun _ => ⟨members, rfl⟩⟩

theorem Numeral.exists_chars_eq_cons (n : Numeral) :
    ∃ c cs, n.chars = c :: cs ∧ Starts .number c := by
  obtain ⟨c, cs, hWhole⟩ := List.exists_cons_of_ne_nil n.whole.some
  have hDigit : c.isDigit = true := n.whole.digits c (by simp [hWhole])
  rw [chars]
  cases n.negative with
  | true =>
    exact ⟨'-', _, rfl, starts_plain ⟨by decide, rfl, by decide, by decide⟩ (by decide) _⟩
  | false =>
    refine ⟨c, cs ++ n.tailChars, by rw [hWhole]; rfl,
      starts_plain (startsValue_of_isDigit hDigit) ?_ _⟩
    refine ⟨?_, ?_, ?_⟩
    · rintro rfl
      exact absurd hDigit (by decide)
    · rintro rfl
      exact absurd hDigit (by decide)
    · rintro rfl
      exact absurd hDigit (by decide)

variable {v : Value} {bytes : Bytes}

/-- **A text starts with a character that tells what it spells**, and that is no blank. -/
theorem Spells.starts (h : Spells v bytes) :
    ∃ c rest, bytes = c.toNat.toUInt8 :: rest ∧ Starts v c := by
  cases h with
  | null =>
    exact ⟨'n', _, rfl, starts_plain ⟨by decide, rfl, by decide, by decide⟩ (by decide) _⟩
  | yes =>
    exact ⟨'t', _, rfl, starts_plain ⟨by decide, rfl, by decide, by decide⟩ (by decide) _⟩
  | no =>
    exact ⟨'f', _, rfl, starts_plain ⟨by decide, rfl, by decide, by decide⟩ (by decide) _⟩
  | number n =>
    obtain ⟨c, cs, hChars, hStarts⟩ := n.exists_chars_eq_cons
    exact ⟨c, encode cs, by rw [hChars, encode_ascii hStarts.value.1], hStarts⟩
  | text pieces => exact ⟨'"', _, rfl, starts_text _⟩
  | emptyList => exact ⟨'[', _, rfl, starts_list _⟩
  | list => exact ⟨'[', _, rfl, starts_list _⟩
  | emptyObject => exact ⟨'\x7b', _, rfl, starts_object _⟩
  | object => exact ⟨'\x7b', _, rfl, starts_object _⟩

-- ---------------------------------------------------------------------------
-- What stands in brackets
-- ---------------------------------------------------------------------------

/-- Some parts up to the closing bracket, from the first part or from a later one. -/
def partsFrom (closing : Char) : Bool → List Bytes → Bytes
  | _, [] => encode [closing]
  | isFirst, part :: rest =>
    (if isFirst then [] else encode [',']) ++ (part ++ partsFrom closing false rest)

theorem partsFrom_intercalate {parts : List Bytes} (closing : Char) (h : parts ≠ []) :
    (encode [',']).intercalate parts ++ encode [closing] = partsFrom closing true parts := by
  induction parts with
  | nil => exact absurd rfl h
  | cons part rest ih =>
    cases rest with
    | nil => rw [List.intercalate_singleton]; rfl
    | cons next rest =>
      rw [List.intercalate_cons_cons, List.append_assoc, List.append_assoc,
        ih (List.cons_ne_nil _ _)]
      rfl

theorem Spells.text_eq {s : Option String} (h : Spells (.text s) bytes) :
    ∃ pieces, s = text? pieces ∧ bytes = encode (quoted pieces) := by
  cases h with
  | text pieces => exact ⟨pieces, rfl, rfl⟩

/-- **The text of a list** is that of its items in brackets. -/
theorem Spells.list_eq {values : List Value} (h : Spells (.list values) bytes) :
    ∃ (space : Space) (items : List Item), values = items.map Item.value ∧
      (∀ i ∈ items, Spells i.value i.bytes) ∧
      bytes = '['.toNat.toUInt8 :: (space.bytes ++ partsFrom ']' true (items.map Item.text)) := by
  cases h with
  | emptyList space => exact ⟨space, [], rfl, List.forall_mem_nil _, rfl⟩
  | list items hSome hItems =>
    refine ⟨.none, items, rfl, hItems, ?_⟩
    rw [partsFrom_intercalate _ (by simpa using hSome)]
    rfl

/-- **The text of an object** is that of its members in brackets. -/
theorem Spells.object_eq {values : List (Option String × Value)}
    (h : Spells (.object values) bytes) :
    ∃ (space : Space) (members : List Member), values = members.map Member.value ∧
      (∀ m ∈ members, Spells m.item.value m.item.bytes) ∧
      bytes = '\x7b'.toNat.toUInt8 ::
        (space.bytes ++ partsFrom '\x7d' true (members.map Member.text)) := by
  cases h with
  | emptyObject space => exact ⟨space, [], rfl, List.forall_mem_nil _, rfl⟩
  | object members hSome hMembers =>
    refine ⟨.none, members, rfl, hMembers, ?_⟩
    rw [partsFrom_intercalate _ (by simpa using hSome)]
    rfl

end TopologyExporter.Json
