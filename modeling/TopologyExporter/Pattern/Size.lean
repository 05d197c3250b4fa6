import TopologyExporter.Pattern.Expr

/-!
# The size of a pattern

The bytes that the automata of an expression take: one reads texts forward and tells where groups
start and end, the other reads them backward. Both read bytes, so that a set of characters beyond
ASCII takes many states. Alternatives are counted as they are written, even where they have a
beginning in common.
-/

namespace TopologyExporter.Pattern

open Unicode (CharSet maxCodePoint)

/-! ## Characters as bytes -/

/-- Bytes from one to another. -/
abbrev ByteRange := Nat × Nat

/-- The characters of which all are encoded with the same number of further bytes, and what is added
to their highest bits in the first byte. -/
structure EncodingBlock where
  first : Nat
  last : Nat
  further : Nat
  marker : Nat

/-- All characters, those encoded in fewer bytes first. -/
def encodingBlocks : List EncodingBlock :=
  [⟨0, 0x7F, 0, 0⟩, ⟨0x80, 0x7FF, 1, 0xC0⟩, ⟨0x800, 0xD7FF, 2, 0xE0⟩,
    ⟨0xE000, 0xFFFF, 2, 0xE0⟩, ⟨0x10000, maxCodePoint, 3, 0xF0⟩]

/-- The ways to spell the numbers from `lo` to `hi` with a first byte, which has a marker, and
further ones of six bits each. -/
def spellings : Nat → Nat → Nat → Nat → List (List ByteRange)
  | 0, marker, lo, hi => [[(marker + lo, marker + hi)]]
  | further + 1, marker, lo, hi =>
    let count := Nat.pow 64 (further + 1)
    let first := lo / count
    let last := hi / count
    let below (top lo hi : Nat) : List (List ByteRange) :=
      (spellings further 0x80 lo hi).map ((marker + top, marker + top) :: ·)
    if first = last then below first (lo % count) (hi % count)
    else
      -- first bytes that may be followed by anything share one way
      let start := if lo % count = 0 then first else first + 1
      let stop := if hi % count = count - 1 then last + 1 else last
      (if first < start then below first (lo % count) (count - 1) else []) ++
        (if start < stop then
          [(marker + start, marker + (stop - 1)) :: .replicate (further + 1) (0x80, 0xBF)]
        else []) ++
        (if stop = last then below last 0 (hi % count) else [])

/-- The ways to spell the characters of a set. -/
def setSpellings (s : CharSet) : List (List ByteRange) :=
  s.ranges.flatMap fun (lo, hi) => encodingBlocks.flatMap fun block =>
    let lo := max lo block.first
    let hi := min hi block.last
    if lo ≤ hi then spellings block.further block.marker lo hi else []

/-- Spellings by their first bytes. -/
def byFirst : List (List ByteRange) → List (ByteRange × List (List ByteRange))
  | [] => []
  | [] :: rest => byFirst rest
  | (r :: tail) :: rest =>
    match byFirst rest with
    | [] => [(r, [tail])]
    | (other, tails) :: groups =>
      if r = other then (r, tail :: tails) :: groups else (r, [tail]) :: (other, tails) :: groups

/-- How many beginnings spellings of at most `n` bytes have. -/
def beginnings : Nat → List (List ByteRange) → Nat
  | 0, _ => 0
  | n + 1, ways => (byFirst ways).foldl (fun count (_, tails) => count + 1 + beginnings n tails) 0

/-- All that may be left to spell after some beginning. -/
def endings : Nat → List (List ByteRange) → List (List (List ByteRange))
  | 0, _ => []
  | n + 1, ways =>
    match byFirst ways with
    | [] => []
    | groups => ways :: groups.flatMap fun (_, tails) => endings n tails

/-! ## Sets -/

/-- Which way an automaton reads. -/
inductive Direction
  | forward
  | backward
deriving Repr, DecidableEq, Inhabited

/-- The bytes of a state. -/
def stateSize : Nat := 32

/-- The bytes of one of the ranges that a state reads. -/
def rangeSize : Nat := 8

/-- The bytes of one of the states that a branching goes on with. -/
def targetSize : Nat := 4

/-- The bytes for reading a character of a set that is not ASCII. Forward, what is left to read is
shared; backward, what has been read. -/
def setSize (s : CharSet) : Direction → Nat
  | .forward =>
    let states := (endings 4 (setSpellings s)).eraseDups
    states.foldl (fun bytes ways => bytes + stateSize + rangeSize * (byFirst ways).length) stateSize
  | .backward =>
    let ways := setSpellings s
    stateSize * (2 + beginnings 4 ways) + targetSize * ways.length

namespace Expr

/-- The bytes for reading a character: a state for each byte of a single one, a state with all
ranges and one that follows for ASCII. -/
def readSize (s : CharSet) (d : Direction) : Nat :=
  match s.ranges with
  | [(lo, hi)] =>
    if lo = hi then stateSize * (Char.ofNat lo).utf8Size
    else if s.isAscii then 2 * stateSize + rangeSize
    else setSize s d
  | ranges => if s.isAscii then 2 * stateSize + rangeSize * ranges.length else setSize s d

/-! ## Expressions -/

/-- Whether the empty stretch of text can match. -/
def canBeEmpty : Expr → Bool
  | empty => true
  | read _ => false
  | check _ => true
  | capture body => body.canBeEmpty
  | repetition least _ body => least = 0 || body.canBeEmpty
  | seq a b => a.canBeEmpty && b.canBeEmpty
  | either a b => a.canBeEmpty || b.canBeEmpty

/-- Whether every match starts where the text does or, backward, ends where it does. -/
def isAnchored (d : Direction) : Expr → Bool
  | empty => false
  | read _ => false
  | check place => place = (match d with | .forward => .textStart | .backward => .textEnd)
  | capture body => body.isAnchored d
  | repetition least _ body => least != 0 && body.isAnchored d
  | seq a b =>
    match d with
    | .forward => a.isAnchored d || (a.isWidthless && b.isAnchored d)
    | .backward => b.isAnchored d || (b.isWidthless && a.isAnchored d)
  | either a b => a.isAnchored d && b.isAnchored d

/-- Whether there are alternatives. -/
def isChoice : Expr → Bool
  | either _ _ => true
  | _ => false

/-- The bytes of a branching with two ways on. -/
def forkSize : Nat := stateSize + 2 * targetSize

/-- The bytes that the part of an automaton takes which reads an expression. Counted repetitions are
written out. -/
def partSize (d : Direction) : Expr → Nat
  | empty => stateSize
  | read set => readSize set d
  | check _ => stateSize
  | capture body =>
    match d with
    | .forward => 2 * stateSize + body.partSize d
    | .backward => body.partSize d
  | repetition least most body =>
    let once := body.partSize d
    match most with
    | none =>
      if least ≠ 0 then least * once + forkSize
      -- what can be empty is read once or more, or not at all
      else if body.canBeEmpty then once + 2 * forkSize + stateSize
      else once + forkSize
    | some most =>
      let needed := if least = 0 then stateSize else least * once
      if least = most then needed
      else if least = 0 ∧ most = 1 then forkSize + once + stateSize
      else needed + stateSize + (most - least) * (forkSize + once)
  | seq a b => a.partSize d + b.partSize d
  | either a b =>
    -- the last two of several alternatives count for the branching itself
    a.partSize d + b.partSize d +
      if b.isChoice then targetSize else 2 * targetSize + 2 * stateSize

/-- The bytes that lead from the start of a text to that of a match. -/
def prefixSize (d : Direction) (e : Expr) : Nat :=
  if e.isAnchored d then stateSize else forkSize + 2 * stateSize + rangeSize

/-- The bytes that an automaton of an expression takes. A match is a group of its own. -/
def automatonSize (d : Direction) (e : Expr) : Nat :=
  e.prefixSize d + (capture e).partSize d + stateSize

/-- The bytes that the greater of the two automata takes. -/
def size (e : Expr) : Nat := max (e.automatonSize .forward) (e.automatonSize .backward)

end Expr

end TopologyExporter.Pattern
