import TopologyExporter.Unicode.CharSet
import TopologyExporter.Unicode.Folding

/-!
# Matching without case

Closing a set of characters under case: with each letter it also gets the letters that differ from
it only in case.
-/

namespace TopologyExporter.Unicode

/-- The groups of characters that are one letter up to case. -/
def foldingGroups : List (List Nat) := CharSet.readGroups none [] foldingText.toList

/-- The pairs of capital and small letters of ASCII. -/
def asciiFoldingGroups : List (List Nat) :=
  (List.range 26).map fun n => ['A'.toNat + n, 'a'.toNat + n]

/-- Adds every group that has a member in the set. -/
def CharSet.foldWith (groups : List (List Nat)) (s : CharSet) : CharSet :=
  let touched := groups.filter fun group => group.any s.contains
  -- most sets hold no letter at all, and need no sorting
  if touched.isEmpty then s
  else CharSet.ofRanges (s.ranges ++ (touched.flatMap id).map fun c => (c, c))

/-- The set closed under simple case folding. -/
def CharSet.foldCase (s : CharSet) : CharSet := s.foldWith foldingGroups

/-- The set closed under the case of ASCII letters. -/
def CharSet.foldAsciiCase (s : CharSet) : CharSet := s.foldWith asciiFoldingGroups

end TopologyExporter.Unicode
