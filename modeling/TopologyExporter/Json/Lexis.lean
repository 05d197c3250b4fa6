import TopologyExporter.Json.Fault
import TopologyExporter.Number.Reading

/-!
# The words of JSON

Reading blanks, words, strings and numbers from bytes. A reader that refuses what it finds says
whether the fault lies before the next byte (`refuse`) or is that byte itself (`refuseNext`).
-/

namespace TopologyExporter.Json

/-- Reading bytes into values. -/
abbrev Decoder := StateT Bytes (Except Fault)

namespace Decoder

/-- The next byte as a character, unless the text has ended. -/
def peek : Decoder (Option Char) := do pure ((← get).head?.map Text.byteChar)

/-- Steps over a byte. -/
def skip : Decoder Unit := modify (List.drop 1)

/-- Refuses the text for what has been read. -/
def refuse {α : Type} (cause : Cause) : Decoder α := do throw ⟨cause, ← get⟩

/-- Refuses the text for the next byte. -/
def refuseNext {α : Type} (cause : Cause) : Decoder α := do throw ⟨cause, (← get).drop 1⟩

/-- Whether a byte is a blank. -/
def isBlank (b : UInt8) : Bool :=
  b = ' '.toUInt8 || b = '\n'.toUInt8 || b = '\t'.toUInt8 || b = '\r'.toUInt8

/-- Steps over blanks; gives the next byte. -/
def peekSpaced : Decoder (Option Char) := do
  modify (List.dropWhile isBlank)
  peek

/-- Reads the letters of a word. -/
def word : List Char → Decoder Unit
  | [] => pure ()
  | c :: rest => do
    match ← peek with
    | none => refuse .endInValue
    | some d => do
      skip
      if d = c then word rest else refuse .expectedWord

/-! ## Strings -/

/-- The value of a hexadecimal digit. -/
def hexValue? (b : UInt8) : Option Nat :=
  let n := b.toNat
  if 0x30 ≤ n ∧ n ≤ 0x39 then some (n - 0x30)
  else if 0x41 ≤ n ∧ n ≤ 0x46 then some (n - 0x41 + 10)
  else if 0x61 ≤ n ∧ n ≤ 0x66 then some (n - 0x61 + 10)
  else none

/-- Reads the four digits of an escape. -/
def hexUnit : Decoder Nat := do
  match ← get with
  | a :: b :: c :: d :: rest => do
    set rest
    match hexValue? a, hexValue? b, hexValue? c, hexValue? d with
    | some a, some b, some c, some d => pure (((a * 16 + b) * 16 + c) * 16 + d)
    | _, _, _, _ => refuse .invalidEscape
  | _ => do
    set ([] : Bytes)
    refuse .endInString

/-- Steps over a sign that the second half of a pair of escapes starts with. -/
def pairSign (c : Char) : Decoder Unit := do
  match ← peek with
  | none => refuse .endInString
  | some d => do
    skip
    if d = c then pure () else refuse .unfinishedSurrogate

/-- Reads the code of a character after its sign: one number, or two that make a pair. -/
def unicodeEscape : Decoder Char := do
  let n ← hexUnit
  -- a second half cannot stand first
  if 0xDC00 ≤ n ∧ n ≤ 0xDFFF then refuse .loneSurrogate
  else if n < 0xD800 ∨ 0xDBFF < n then pure (Char.ofNat n)
  else do
    pairSign '\\'
    pairSign 'u'
    let low ← hexUnit
    if low < 0xDC00 ∨ 0xDFFF < low then refuse .loneSurrogate
    else pure (Char.ofNat ((n - 0xD800) * 0x400 + (low - 0xDC00) + 0x10000))

/-- The characters with an escape of one letter. -/
def simpleEscape? : Char → Option Char
  | '"' => some '"'
  | '\\' => some '\\'
  | '/' => some '/'
  | 'b' => some '\x08'
  | 'f' => some '\x0c'
  | 'n' => some '\n'
  | 'r' => some '\r'
  | 't' => some '\t'
  | _ => none

/-- Reads an escape after its backslash. -/
def escape : Decoder Char := do
  match ← peek with
  | none => refuse .endInString
  | some c => do
    skip
    match simpleEscape? c with
    | some d => pure d
    | none => if c = 'u' then unicodeEscape else refuse .invalidEscape

/-- Reads the bytes of a string up to the quote that ends it. Every round takes a byte. -/
def stringBytes : Nat → Decoder Bytes
  | 0 => refuse .endInString
  | fuel + 1 => do
    match ← get with
    | [] => refuse .endInString
    | b :: rest => do
      set rest
      if b = '"'.toUInt8 then pure []
      else if b = '\\'.toUInt8 then do
        let c ← escape
        pure (String.utf8EncodeChar c ++ (← stringBytes fuel))
      else if b < 0x20 then refuse .controlCharacter
      else do pure (b :: (← stringBytes fuel))

/-- Reads a string after its opening quote. Bytes that encode no text are refused where the first of
them stands; escapes are ASCII, so they may as well be looked for in the string as it is written. -/
def stringTail : Decoder String := do
  let start ← get
  let bytes ← stringBytes (start.length + 1)
  match Text.decode? bytes with
  | some s => pure s
  | none => throw ⟨.invalidCodePoint, start.drop (Text.validLength start + 1)⟩

/-! ## Numbers -/

/-- A number: whole ones that fit into 64 bits are kept as they are. -/
inductive Number
  | whole (n : Int)
  | float (x : Binary64)
deriving Repr, DecidableEq, Inhabited

/-- Takes the digits that come next. -/
def digits : Decoder (List Char) := do
  let isDigit (b : UInt8) : Bool := (Text.byteChar b).isDigit
  let run := (← get).takeWhile isDigit
  set ((← get).dropWhile isDigit)
  pure (run.map Text.byteChar)

/-- The greatest significand. -/
def maxSignificand : Nat := Nat.pow 2 64 - 1

/-- Appends digits to a significand as long as it does not get too great; gives how many were
appended as well. -/
def appendDigits (significand : Nat) : List Char → Nat × Nat
  | [] => (significand, 0)
  | c :: rest =>
    let next := significand * 10 + (c.toNat - '0'.toNat)
    if maxSignificand < next then (significand, 0)
    else
      let (s, n) := appendDigits next rest
      (s, n + 1)

/-- A power of ten. -/
def powerOfTen (n : Nat) : Binary64 := .ofDecimal false 1 n

/-- The greatest exponent of a power of ten that is finite. -/
def maxPower : Nat := 308

/-- Divides by the power of ten `n`, in steps when it is too great. A significand is zero after
three steps. -/
def dividePower : Nat → Binary64 → Nat → Binary64
  | 0, x, _ => x
  | fuel + 1, x, n =>
    if n ≤ maxPower then x.div (powerOfTen n)
    else if x.isZero then x
    else dividePower fuel (x.div (powerOfTen maxPower)) (n - maxPower)

/-- The number with a significand and an exponent. The significand is rounded before it is
scaled. -/
def scaledNumber (negative : Bool) (significand : Nat) (exponent : Int) : Decoder Number := do
  let x := Binary64.ofNat significand
  let signed (x : Binary64) : Number := .float (if negative then x.neg else x)
  if exponent < 0 then pure (signed (dividePower 4 x (-exponent).toNat))
  else if maxPower < exponent.toNat then
    if x.isZero then pure (signed x) else refuse .numberOutOfRange
  else
    let x := x.mul (powerOfTen exponent.toNat)
    if x.isInfinite then refuse .numberOutOfRange else pure (signed x)

/-- The greatest exponent that is read. -/
def maxExponent : Nat := Nat.pow 2 31 - 1

/-- Reads the digits of an exponent; `none` if it gets too great, which is an error after the digit
that makes it so, unless `harmless`. -/
def exponentDigits (harmless : Bool) : Nat → Nat → Decoder (Option Nat)
  | 0, value => pure (some value)
  | fuel + 1, value => do
    match ← peek with
    | none => pure (some value)
    | some c =>
      if c.isDigit then do
        skip
        let next := value * 10 + (c.toNat - '0'.toNat)
        if maxExponent < next then
          if harmless then do
            let _ ← digits
            pure none
          else refuse .numberOutOfRange
        else exponentDigits harmless fuel next
      else pure (some value)

/-- Reads an exponent, from its letter on; the number so far has the exponent `start`. -/
def exponentPart (negative : Bool) (significand : Nat) (start : Int) : Decoder Number := do
  skip
  let sign ← peek
  if sign = some '+' ∨ sign = some '-' then skip
  match ← peek with
  | none => refuse .endInValue
  | some c =>
    if !c.isDigit then do
      skip
      refuse .invalidNumber
    else do
      let isDown := sign = some '-'
      match ← exponentDigits (significand = 0 || isDown) (← get).length 0 with
      | none => pure (.float (.zero negative))
      | some e => scaledNumber negative significand (if isDown then start - e else start + e)

/-- Reads what follows the point of a number, from the point on. Digits beyond the greatest
significand are dropped. -/
def fractionPart (negative : Bool) (significand : Nat) (start : Int) : Decoder Number := do
  skip
  let run ← digits
  if run.isEmpty then
    match ← peek with
    | some _ => refuseNext .invalidNumber
    | none => refuse .endInValue
  else do
    let (significand, appended) := appendDigits significand run
    let exponent := start - appended
    match ← peek with
    | some 'e' => exponentPart negative significand exponent
    | some 'E' => exponentPart negative significand exponent
    | _ => scaledNumber negative significand exponent

/-- Whether a number without sign fits into 64 bits with its sign. Zero has no negative. -/
def fitsWhole (negative : Bool) (n : Nat) : Bool :=
  if negative then n ≠ 0 && n ≤ Nat.pow 2 63 else true

/-- Reads a number after its sign. -/
def number (negative : Bool) : Decoder Number := do
  match ← peek with
  | none => refuse .endInValue
  | some c =>
    if !c.isDigit then do
      skip
      refuse .invalidNumber
    else do
      -- nothing but zero itself starts with a zero
      let run ← if c = '0' then do skip; pure ['0'] else digits
      if c = '0' && (← peek).any Char.isDigit then refuseNext .invalidNumber
      else do
        let (significand, appended) := appendDigits 0 run
        -- digits that found no room still count as places before the point
        let dropped := run.length - appended
        match ← peek with
        | some '.' => fractionPart negative significand dropped
        | some 'e' => exponentPart negative significand dropped
        | some 'E' => exponentPart negative significand dropped
        | _ =>
          if dropped ≠ 0 then scaledNumber negative significand dropped
          else if fitsWhole negative significand then
            pure (.whole (if negative then -significand else significand))
          -- minus zero, and what lies below the least whole number
          else pure (.float (Binary64.ofNat significand).neg)

end Decoder

end TopologyExporter.Json
