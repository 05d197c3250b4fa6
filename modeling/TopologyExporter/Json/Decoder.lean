import TopologyExporter.Json.Skip

/-!
# Decoders

Reading the values of the wanted types. A record is read from an object, whose members come in any
order, or from a list of its fields in theirs.
-/

namespace TopologyExporter.Json

namespace Decoder

/-! ## Wrong values -/

/-- Reads what stands where a value of another type was wanted, as far as a message shows it. -/
def found : Decoder Found := do
  match ← peek with
  | some 'n' => do skip; word ['u', 'l', 'l']; pure .null
  | some 't' => do skip; word ['r', 'u', 'e']; pure (.boolean true)
  | some 'f' => do skip; word ['a', 'l', 's', 'e']; pure (.boolean false)
  | some '-' => do skip; pure (ofNumber (← number true))
  | some '"' => do skip; pure (.text (← stringTail))
  | some '[' => pure .sequence
  | some '\x7b' => pure .map
  | some c => if c.isDigit then do pure (ofNumber (← number false)) else refuseNext .expectedValue
  | none => refuseNext .expectedValue
where
  ofNumber : Number → Found
    | .whole n => .integer n
    | .float x => .float x

/-- Refuses what stands where something else was expected. -/
def refuseFound {α : Type} (expected : String) : Decoder α := do
  let what ← found
  refuse (.wrongType what expected)

/-- Steps to the next value; gives its first byte. -/
def valueStart : Decoder Char := do
  match ← peekSpaced with
  | some c => pure c
  | none => refuseNext .endInValue

/-! ## Single values -/

/-- Reads a string; `expected` says what it stands for. -/
def textFor (expected : String) : Decoder String := do
  if (← valueStart) = '"' then do
    skip
    stringTail
  else refuseFound expected

/-- Reads a string. -/
def text : Decoder String := textFor "a string"

/-- Reads `true` or `false`. -/
def boolean : Decoder Bool := do
  match ← valueStart with
  | 't' => do skip; word ['r', 'u', 'e']; pure true
  | 'f' => do skip; word ['a', 'l', 's', 'e']; pure false
  | _ => refuseFound "a boolean"

/-- Reads `null`. -/
def null : Decoder Unit := do
  if (← valueStart) = 'n' then do
    skip
    word ['u', 'l', 'l']
  else refuseFound "unit"

/-- Reads a whole number of 64 bits with its sign. -/
def int64 : Decoder Int := do
  let c ← valueStart
  let value ←
    if c = '-' then do skip; number true
    else if c.isDigit then number false
    else refuseFound "i64"
  match value with
  | .whole n =>
    if n < Nat.pow 2 63 then pure n else refuse (.wrongValue (.integer n) "i64")
  | .float x => refuse (.wrongType (.float x) "i64")

/-- Reads `null` or a value. -/
def option {α : Type} (d : Decoder α) : Decoder (Option α) := do
  if (← peekSpaced) = some 'n' then do
    skip
    word ['u', 'l', 'l']
    pure none
  else do pure (some (← d))

/-- Reads the name of one of the given values. -/
def variantName {α : Type} (known : List (String × α)) : Decoder α := do
  let name ← textFor "variant identifier"
  match known.find? (·.1 = name) with
  | some (_, value) => pure value
  | none => refuse (.unknownVariant name (known.map Prod.fst))

/-- Reads one of the given values: its name, or an object whose only member has that name and the
value `null`. -/
def variant {α : Type} (known : List (String × α)) : Decoder α := do
  match ← valueStart with
  | '"' => variantName known
  | '\x7b' => do
    skip
    let value ← variantName known
    match ← peekSpaced with
    | some ':' => skip
    | some _ => refuseNext .expectedColon
    | none => refuseNext .endInObject
    null
    match ← peekSpaced with
    | some '\x7d' => do
      skip
      pure value
    | some _ => refuse .expectedValue
    | none => refuse .endInObject
  | _ => refuseNext .expectedValue

/-! ## Lists -/

/-- Steps to the next item of a list; says whether there is one. -/
def nextItem (isFirst : Bool) : Decoder Bool := do
  match ← peekSpaced with
  | none => refuseNext .endInList
  | some ']' => pure false
  | some c =>
    if isFirst then pure true
    else if c = ',' then do
      skip
      match ← peekSpaced with
      | some ']' => refuseNext .trailingComma
      | some _ => pure true
      | none => refuseNext .endInValue
    else refuseNext .expectedListCommaOrEnd

/-- Reads the end of a list. -/
def closeList : Decoder Unit := do
  match ← peekSpaced with
  | some ']' => skip
  | some ',' => do
    skip
    if (← peekSpaced) = some ']' then refuseNext .trailingComma
    else refuseNext .trailingCharacters
  | some _ => refuseNext .trailingCharacters
  | none => refuseNext .endInList

/-- Reads the items of a list after its bracket. Every round takes a byte. -/
def items {α : Type} (d : Decoder α) : Nat → Bool → Decoder (List α)
  | 0, _ => refuse .endInList
  | fuel + 1, isFirst => do
    if ← nextItem isFirst then do
      let item ← d
      pure (item :: (← items d fuel false))
    else pure []

/-- Reads a list. -/
def list {α : Type} (d : Decoder α) : Decoder (List α) := do
  if (← valueStart) = '[' then do
    skip
    let all ← items d ((← get).length + 1) true
    closeList
    pure all
  else refuseFound "a sequence"

/-! ## Objects -/

/-- Steps to the name of the next member of an object; says whether there is one. -/
def nextMember (isFirst : Bool) : Decoder Bool := do
  match ← peekSpaced with
  | none => refuseNext .endInObject
  | some '\x7d' => pure false
  | some c =>
    if isFirst then
      if c = '"' then pure true else refuseNext .keyNotText
    else if c = ',' then do
      skip
      match ← peekSpaced with
      | some '"' => pure true
      | some '\x7d' => refuseNext .trailingComma
      | some _ => refuseNext .keyNotText
      | none => refuseNext .endInValue
    else refuseNext .expectedObjectCommaOrEnd

/-- Reads the end of an object. -/
def closeObject : Decoder Unit := do
  match ← peekSpaced with
  | some '\x7d' => skip
  | some ',' => refuseNext .trailingComma
  | some _ => refuseNext .trailingCharacters
  | none => refuseNext .endInObject

/-- Reads the name of a member. -/
def memberName : Decoder String := do
  skip
  stringTail

/-- Reads the colon after the name of a member. -/
def colon : Decoder Unit := do
  match ← peekSpaced with
  | some ':' => skip
  | some _ => refuseNext .expectedColon
  | none => refuseNext .endInObject

/-- Reads the members of an object that maps names to values. Every round takes a byte. -/
def entries {α : Type} (d : Decoder α) : Nat → Bool → Decoder (List (String × α))
  | 0, _ => refuse .endInObject
  | fuel + 1, isFirst => do
    if ← nextMember isFirst then do
      let name ← memberName
      colon
      let value ← d
      pure ((name, value) :: (← entries d fuel false))
    else pure []

/-- Reads an object that maps names to values, in its order and with every repetition. -/
def map {α : Type} (d : Decoder α) : Decoder (List (String × α)) := do
  if (← valueStart) = '\x7b' then do
    skip
    let all ← entries d ((← get).length + 1) true
    closeObject
    pure all
  else refuseFound "a map"

/-! ## Records -/

/-- A field of a record: its name, whether a list may end before it, and its value, which is tagged
with the field. -/
structure RecordField (μ : Type) where
  name : String
  mayLack : Bool
  read : Decoder μ

/-- Refuses an object after whatever was found between its members: if the object ends there, the
fault lies after its end. -/
def refuseMember {α : Type} (cause : Cause) : Decoder α := do
  if (← peekSpaced) = some '\x7d' then skip
  refuse cause

/-- Reads the members of a record. `seen` are the names of the fields so far. Every round takes a
byte. -/
def members {μ : Type} (fields : List (RecordField μ)) :
    Nat → Bool → List String → Decoder (List μ)
  | 0, _, _ => refuse .endInObject
  | fuel + 1, isFirst, seen => do
    if ← nextMember isFirst then do
      let name ← memberName
      match fields.find? (·.name = name) with
      -- unknown members may repeat, and their values may be anything
      | none => do
        colon
        skipValue
        members fields fuel false seen
      | some field =>
        -- the name alone is enough: the value is not looked at
        if seen.contains name then refuseMember (.duplicateField name)
        else do
          colon
          let value ← field.read
          pure (value :: (← members fields fuel false (name :: seen)))
    else pure []

/-- Reads the fields of a record that is written as a list; `length` of them have been read, and
`expected` says what the list should be. -/
def listedFields {μ : Type} (expected : String) :
    Nat → List (RecordField μ) → Decoder (List μ)
  | _, [] => pure []
  | length, field :: rest => do
    if ← nextItem (length = 0) then do
      let value ← field.read
      pure (value :: (← listedFields expected (length + 1) rest))
    else if field.mayLack then listedFields expected length rest
    else do
      skip
      refuse (.wrongLength length expected)

/-- The name of a record in messages, with the number of its fields. -/
def recordLength (title : String) (count : Nat) : String :=
  title ++ " with " ++ toString count ++ (if count = 1 then " element" else " elements")

/-- Reads a record. `build` makes it of the values of its fields, or names a field that is missing
from an object. -/
def record {μ α : Type} (title : String) (fields : List (RecordField μ))
    (build : List μ → Except String α) : Decoder α := do
  match ← valueStart with
  | '[' => do
    skip
    let values ← listedFields (recordLength title fields.length) 0 fields
    closeList
    match build values with
    | .ok a => pure a
    | .error name => refuse (.missingField name)
  | '\x7b' => do
    skip
    let values ← members fields ((← get).length + 1) true []
    -- fields that are missing come before a bracket that is
    match build values with
    | .ok a => do
      closeObject
      pure a
    | .error name => refuseMember (.missingField name)
  | _ => refuseFound title

/-- The value of a field that has to be there. -/
def required {μ α : Type} (name : String) (pick : μ → Option α) (values : List μ) :
    Except String α :=
  match values.findSome? pick with
  | some a => .ok a
  | none => .error name

/-- Reads the end of the text. -/
def closeText : Decoder Unit := do
  match ← peekSpaced with
  | none => pure ()
  | some _ => refuseNext .trailingCharacters

end Decoder

/-! ## Whole texts -/

/-- The value that a whole text stands for. -/
def decode {α : Type} (d : Decoder α) (bytes : Bytes) : Except DecodeError α :=
  match (do let a ← d; Decoder.closeText; pure a : Decoder α).run' bytes with
  | .ok a => .ok a
  | .error fault => .error (fault.locate bytes)

end TopologyExporter.Json
