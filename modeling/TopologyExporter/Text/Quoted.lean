import TopologyExporter.Unicode.Letter

/-!
# Quoted text

Texts in messages stand between double quotes. Quotes, backslashes and the common controls get a
backslash; whatever cannot be seen by itself is given by its code point.
-/

namespace TopologyExporter.Text

/-- A number in hexadecimal, in at least `width` digits. -/
def hexDigits (width n : Nat) : List Char :=
  let digits := (Nat.toDigits 16 n)
  List.replicate (width - digits.length) '0' ++ digits

/-- Whether a character can be seen by itself: marks that extend the character before them and
whatever is not printable cannot. -/
def isVisible (c : Char) : Bool :=
  if c.toNat < 0x7F then 0x20 ≤ c.toNat
  else Unicode.printable.contains c.toNat && !Unicode.graphemeExtending.contains c.toNat

/-- A character as it stands between quotes. -/
def quoteChar (c : Char) : List Char :=
  match c with
  | '\x00' => ['\\', '0']
  | '\t' => ['\\', 't']
  | '\r' => ['\\', 'r']
  | '\n' => ['\\', 'n']
  | '"' => ['\\', '"']
  | '\\' => ['\\', '\\']
  | c => if isVisible c then [c] else ['\\', 'u', '\x7b'] ++ hexDigits 1 c.toNat ++ ['\x7d']

/-- A text between quotes. -/
def quoted (s : String) : String :=
  String.ofList ('"' :: (s.toList.flatMap quoteChar ++ ['"']))

/-- A list of texts between brackets, each quoted. -/
def quotedList (items : List String) : String :=
  "[" ++ ", ".intercalate (items.map quoted) ++ "]"

end TopologyExporter.Text
