/-!
# Blank text

White space in the sense of the Unicode property `White_Space`, and the trimming of settings by
it. `entries` is what every list-valued setting is reduced to before it means anything.
-/

namespace TopologyExporter.Text

/-- Whether `c` has the Unicode property `White_Space`. -/
def isBlank (c : Char) : Bool :=
  let n := c.toNat
  (0x9 ≤ n && n ≤ 0xD) || n == 0x20 || n == 0x85 || n == 0xA0 || n == 0x1680 ||
    (0x2000 ≤ n && n ≤ 0x200A) || n == 0x2028 || n == 0x2029 || n == 0x202F || n == 0x205F ||
    n == 0x3000

/-- The characters without the blank ones at either end. -/
def trimChars (cs : List Char) : List Char :=
  ((cs.dropWhile isBlank).reverse.dropWhile isBlank).reverse

/-- The text without blanks at either end. -/
def trim (s : String) : String := String.ofList (trimChars s.toList)

/-- The trimmed entries that are not blank, in order. -/
def entries (items : List String) : List String :=
  (items.map trim).filter (· ≠ "")

/-- Cuts characters at every occurrence of `sep`; there is always a piece after the last one. -/
def splitChars (sep : Char) : List Char → List (List Char)
  | [] => [[]]
  | c :: rest =>
    match splitChars sep rest with
    | [] => [[c]]
    | piece :: pieces => if c = sep then [] :: piece :: pieces else (c :: piece) :: pieces

/-- Cuts a text at every occurrence of `sep`. -/
def split (sep : Char) (s : String) : List String :=
  (splitChars sep s.toList).map String.ofList

/-- The entries of a comma separated setting. -/
def listSetting (s : String) : List String := entries (split ',' s)

end TopologyExporter.Text
