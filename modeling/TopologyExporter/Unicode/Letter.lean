import TopologyExporter.Unicode.Category
import TopologyExporter.Unicode.Trait

/-!
# Letters, digits and printable characters

The classes of characters that names and quoted texts are made of.
-/

namespace TopologyExporter.Unicode

/-- The characters with the property `Alphabetic`. -/
def alphabetic : CharSet := (lookUp traits "alphabetic").getD .empty

/-- The decimal digits of all scripts. -/
def decimalDigits : CharSet := lookUpAll categories ["nd"]

/-- The characters that stand for numbers. -/
def numeric : CharSet := lookUpAll categories ["nd", "nl", "no"]

/-- The characters that words are made of. -/
def wordCharacters : CharSet := CharSet.ofText wordText

/-- The characters with the property `White_Space`. -/
def whiteSpace : CharSet := (lookUp traits "whitespace").getD .empty

/-- Letters, marks, numbers, punctuation, symbols and the space. Controls, format characters,
other blanks, private use and unassigned code points are left out. -/
def printable : CharSet :=
  (lookUpAll categories
    ["lu", "ll", "lt", "lm", "lo", "mn", "mc", "me", "nd", "nl", "no", "pc", "pd", "ps", "pe",
      "pi", "pf", "po", "sm", "sc", "sk", "so"]).union (.single 0x20)

/-- The marks that extend the character before them. -/
def graphemeExtending : CharSet := (lookUp traits "graphemeextend").getD .empty

end TopologyExporter.Unicode
