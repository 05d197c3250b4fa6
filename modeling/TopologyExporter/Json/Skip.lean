import TopologyExporter.Json.Lexis

/-!
# Values that nobody asked for

Members with unknown names are read past. Their strings may hold any bytes and their numbers be of
any size, but brackets, commas and colons have to be in their places.
-/

namespace TopologyExporter.Json.Decoder

/-- Steps over an escape after its backslash. -/
def skipEscape : Decoder Unit := do
  match ← peek with
  | none => refuse .endInString
  | some c => do
    skip
    if (simpleEscape? c).isSome then pure ()
    else if c = 'u' then do
      let _ ← hexUnit
    else refuse .invalidEscape

/-- Steps over a string after its opening quote. Every round takes a byte. -/
def skipString : Nat → Decoder Unit
  | 0 => refuse .endInString
  | fuel + 1 => do
    match ← get with
    | [] => refuse .endInString
    | b :: rest =>
      if b = '"'.toUInt8 then set rest
      else if b = '\\'.toUInt8 then do
        set rest
        skipEscape
        skipString fuel
      else if b < 0x20 then refuse .controlCharacter
      else do
        set rest
        skipString fuel

/-- Steps over a string after its opening quote. -/
def skipStringTail : Decoder Unit := do skipString ((← get).length + 1)

/-- Steps over an exponent, from its letter on. -/
def skipExponent : Decoder Unit := do
  skip
  let sign ← peek
  if sign = some '+' ∨ sign = some '-' then skip
  let first ← peek
  skip
  if first.any Char.isDigit then do
    let _ ← digits
  else refuse .invalidNumber

/-- Steps over the exponent of a number, if it has one. -/
def skipExponentIfAny : Decoder Unit := do
  match ← peek with
  | some 'e' => skipExponent
  | some 'E' => skipExponent
  | _ => pure ()

/-- Steps over a number after its sign. -/
def skipNumber : Decoder Unit := do
  let first ← peek
  skip
  match first with
  | some '0' => do
    if (← peek).any Char.isDigit then refuseNext .invalidNumber
  | some c =>
    if c.isDigit then do
      let _ ← digits
    else refuse .invalidNumber
  | none => refuse .invalidNumber
  if (← peek) = some '.' then do
    skip
    let run ← digits
    if run.isEmpty then refuseNext .invalidNumber
  skipExponentIfAny

/-- A bracket that is still open. -/
inductive Frame
  | list
  | object
deriving Repr, DecidableEq, Inhabited

namespace Frame

/-- The bracket that closes the frame. -/
def closing : Frame → Char
  | list => ']'
  | object => '\x7d'

/-- The fault of a text that ends inside the frame. -/
def ended : Frame → Cause
  | list => .endInList
  | object => .endInObject

/-- The fault of a frame that neither goes on nor ends after a value. -/
def separator : Frame → Cause
  | list => .expectedListCommaOrEnd
  | object => .expectedObjectCommaOrEnd

/-- Steps over what stands before a value inside the frame: in an object, its name. -/
def skipName : Frame → Decoder Unit
  | list => pure ()
  | object => do
    match ← peekSpaced with
    | none => refuseNext .endInObject
    | some '"' => do
      skip
      skipStringTail
      match ← peekSpaced with
      | none => refuseNext .endInObject
      | some ':' => skip
      | some _ => refuseNext .expectedColon
    | some _ => refuseNext .keyNotText

end Frame

/-- Where a reader stands that steps over a value: before a value, just inside a bracket, or after a
value. -/
inductive SkipState
  | before
  | opened
  | after
deriving Repr, DecidableEq, Inhabited

/-- Steps over the rest of a value inside the open frames, innermost first. Every second round takes
a byte. -/
def skipFrom : Nat → SkipState → List Frame → Decoder Unit
  | 0, _, _ => refuse .endInValue
  | fuel + 1, .before, frames => do
    match ← peekSpaced with
    | none => refuseNext .endInValue
    | some 'n' => do skip; word ['u', 'l', 'l']; skipFrom fuel .after frames
    | some 't' => do skip; word ['r', 'u', 'e']; skipFrom fuel .after frames
    | some 'f' => do skip; word ['a', 'l', 's', 'e']; skipFrom fuel .after frames
    | some '-' => do skip; skipNumber; skipFrom fuel .after frames
    | some '"' => do skip; skipStringTail; skipFrom fuel .after frames
    | some '[' => do skip; skipFrom fuel .opened (.list :: frames)
    | some '\x7b' => do skip; skipFrom fuel .opened (.object :: frames)
    | some c =>
      if c.isDigit then do skipNumber; skipFrom fuel .after frames
      else refuseNext .expectedValue
  | _ + 1, .opened, [] => pure ()
  | _ + 1, .after, [] => pure ()
  | fuel + 1, .opened, frame :: frames => do
    match ← peekSpaced with
    | none => refuseNext frame.ended
    | some c =>
      -- an empty list or object has nothing before its bracket
      if c = frame.closing then do skip; skipFrom fuel .after frames
      else do frame.skipName; skipFrom fuel .before (frame :: frames)
  | fuel + 1, .after, frame :: frames => do
    match ← peekSpaced with
    | none => refuseNext frame.ended
    | some c =>
      if c = ',' then do skip; frame.skipName; skipFrom fuel .before (frame :: frames)
      else if c = frame.closing then do skip; skipFrom fuel .after frames
      else refuseNext frame.separator

/-- Steps over one value. -/
def skipValue : Decoder Unit := do skipFrom (2 * (← get).length + 2) .before []

end TopologyExporter.Json.Decoder
