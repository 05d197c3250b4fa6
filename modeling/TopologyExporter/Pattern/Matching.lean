import TopologyExporter.Pattern.Program
import TopologyExporter.Unicode.Letter
import TopologyExporter.Pattern.Meaning

/-!
# Matching

Whether a pattern matches somewhere in a text. All ways through the program go on side by side, one
character at a time, so the time is bounded by the length of the text times the size of the program.
-/

namespace TopologyExporter.Pattern

open Unicode (CharSet)

/-- Whether a neighbour of a place is a word character. -/
def isWordNeighbour (unicode : Bool) : Option Char → Bool
  | none => false
  | some c => (Shorthand.word.set unicode).contains c.toNat

/-- Whether the word characters on either side of a place are as asked for. -/
def WordEdge.holds (before after : Bool) : WordEdge → Bool
  | boundary => before != after
  | inside => before == after
  | start => !before && after
  | stop => before && !after
  | startHalf => !before
  | stopHalf => !after

/-- Whether a place is as asked for, by the characters on either side of it. No line ends or starts
between a carriage return and its line feed. -/
def Place.holds (before after : Option Char) : Place → Bool
  | textStart => before.isNone
  | textEnd => after.isNone
  | lineStart carriageReturn =>
    before.isNone || before == some '\n' ||
      (carriageReturn && before == some '\r' && after != some '\n')
  | lineEnd carriageReturn =>
    after.isNone || (after == some '\n' && !(carriageReturn && before == some '\r')) ||
      (carriageReturn && after == some '\r')
  | word unicode edge => edge.holds (isWordNeighbour unicode before) (isWordNeighbour unicode after)

namespace Program

/-- Follows all that can be reached without reading, from the instructions on the stack. Gives the
sets to read a character of with the instructions after that, or `none` if the end is reached. -/
def spread (p : Program) (before after : Option Char) :
    Nat → List Nat → Array Bool → List (CharSet × Nat) → Option (List (CharSet × Nat))
  | 0, _, _, reads => some reads
  | _ + 1, [], _, reads => some reads
  | fuel + 1, i :: stack, seen, reads =>
    -- an instruction that was met before can add nothing
    if seen.getD i true then spread p before after fuel stack seen reads
    else
      let seen := seen.setIfInBounds i true
      match p.code.getD i .accept with
      | .accept => none
      | .read set next => spread p before after fuel stack seen ((set, next) :: reads)
      | .check place next =>
        let stack := if place.holds before after then next :: stack else stack
        spread p before after fuel stack seen reads
      | .branch targets => spread p before after fuel (targets ++ stack) seen reads

/-- Whether the program accepts a stretch of the text, which starts after the character `before`;
`threads` are the instructions reached by stretches that started earlier. -/
def search (p : Program) (fuel : Nat) (before : Option Char) (threads : List Nat) :
    List Char → Bool
  | [] => (p.spread before none fuel (p.start :: threads) (.replicate p.code.size false) []).isNone
  | c :: text =>
    match p.spread before (some c) fuel (p.start :: threads) (.replicate p.code.size false) [] with
    | none => true
    | some reads =>
      -- a stretch may also start at the next character: `search` adds it each time
      let threads := reads.filterMap fun (set, next) =>
        if set.contains c.toNat then some next else none
      p.search fuel (some c) threads text

/-- Whether the program accepts some stretch of the text. -/
def isMatch (p : Program) (text : List Char) : Bool :=
  p.search (p.weight + p.code.size + 2) none [] text

end Program

end TopologyExporter.Pattern
