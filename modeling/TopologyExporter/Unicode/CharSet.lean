/-!
# Sets of characters

A set of code points as a list of closed ranges. The operations keep the ranges sorted and apart,
so `contains` may stop at the first range that starts beyond the code point it looks for.

* `CharSet.ofRanges` sorts ranges given in any order and joins those that touch;
* `CharSet.union`, `inter`, `diff`, `symmDiff` and `complement` are the set operations;
* `CharSet.ofText` reads the notation of the property tables.
-/

namespace TopologyExporter.Unicode

/-- The greatest code point. -/
def maxCodePoint : Nat := 0x10FFFF

/-- A set of characters as closed ranges of code points, in increasing order and apart. -/
structure CharSet where
  ranges : List (Nat × Nat)
deriving Repr, DecidableEq, Inhabited

namespace CharSet

/-- The set without members. -/
def empty : CharSet := ⟨[]⟩

/-- The set of one code point. -/
def single (c : Nat) : CharSet := ⟨[(c, c)]⟩

/-- Every code point from `lo` to `hi`. -/
def range (lo hi : Nat) : CharSet := ⟨[(lo, hi)]⟩

/-- Looks through sorted ranges for one that holds `c`. -/
def rangesContain (c : Nat) : List (Nat × Nat) → Bool
  | [] => false
  | (lo, hi) :: rest => if c < lo then false else if c ≤ hi then true else rangesContain c rest

/-- Whether the code point `c` is in the set. -/
def contains (s : CharSet) (c : Nat) : Bool := rangesContain c s.ranges

/-- Joins ranges that overlap or touch, given in the order of their lower ends, after the range
from `lo` to `hi`. -/
def joinFrom (lo hi : Nat) : List (Nat × Nat) → List (Nat × Nat)
  | [] => [(lo, hi)]
  | (lo', hi') :: rest =>
    if lo' ≤ hi + 1 then joinFrom lo (max hi hi') rest else (lo, hi) :: joinFrom lo' hi' rest

/-- Joins ranges that overlap or touch, given in the order of their lower ends. -/
def join : List (Nat × Nat) → List (Nat × Nat)
  | [] => []
  | (lo, hi) :: rest => joinFrom lo hi rest

/-- The set of all code points in some of the ranges, which come in any order. -/
def ofRanges (rs : List (Nat × Nat)) : CharSet :=
  ⟨join (rs.mergeSort fun a b => a.1 ≤ b.1)⟩

/-- All members of either set. -/
def union (a b : CharSet) : CharSet := ofRanges (a.ranges ++ b.ranges)

/-- The gaps that sorted ranges leave from `start` on. -/
def gaps (start : Nat) : List (Nat × Nat) → List (Nat × Nat)
  | [] => if start ≤ maxCodePoint then [(start, maxCodePoint)] else []
  | (lo, hi) :: rest =>
    if start < lo then (start, lo - 1) :: gaps (hi + 1) rest else gaps (hi + 1) rest

/-- Every code point outside the set. -/
def complement (a : CharSet) : CharSet := ⟨gaps 0 a.ranges⟩

/-- The common members. -/
def inter (a b : CharSet) : CharSet := (a.complement.union b.complement).complement

/-- The members of `a` that are not in `b`. -/
def diff (a b : CharSet) : CharSet := a.inter b.complement

/-- The members of exactly one of the sets. -/
def symmDiff (a b : CharSet) : CharSet := (a.diff b).union (b.diff a)

/-- Whether every member is an ASCII character. -/
def isAscii (a : CharSet) : Bool := a.ranges.all fun r => r.2 ≤ 0x7F

/-- Whether the set has a member. -/
def isEmpty (a : CharSet) : Bool := a.ranges.isEmpty

/-! ## Reading the property tables -/

/-- The value of a hexadecimal digit. -/
def hexDigit? (c : Char) : Option Nat :=
  if '0' ≤ c ∧ c ≤ '9' then some (c.toNat - '0'.toNat)
  else if 'A' ≤ c ∧ c ≤ 'F' then some (c.toNat - 'A'.toNat + 10)
  else if 'a' ≤ c ∧ c ≤ 'f' then some (c.toNat - 'a'.toNat + 10)
  else none

/-- Reads hexadecimal numbers joined by hyphens into groups set apart by blanks; any other
character ends a group too. The accumulators hold the number and the group read so far. -/
def readGroups (number : Option Nat) (group : List Nat) : List Char → List (List Nat)
  | [] => close number group
  | c :: rest =>
    match hexDigit? c with
    | some d => readGroups (some (number.getD 0 * 16 + d)) group rest
    | none =>
      if c = '-' then readGroups none (number.toList ++ group) rest
      else close number group ++ readGroups none [] rest
where
  close (number : Option Nat) (group : List Nat) : List (List Nat) :=
    match number.toList ++ group with
    | [] => []
    | numbers => [numbers.reverse]

/-- Reads ranges in hexadecimal: `41-5A AA` is the letters from A to Z and the code point `AA`. -/
def ofText (text : String) : CharSet :=
  ⟨(readGroups none [] text.toList).filterMap fun
    | [c] => some (c, c)
    | [lo, hi] => some (lo, hi)
    | _ => none⟩

end CharSet

end TopologyExporter.Unicode
