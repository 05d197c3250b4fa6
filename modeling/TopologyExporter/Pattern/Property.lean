import TopologyExporter.Pattern.Fault
import TopologyExporter.Unicode.Age
import TopologyExporter.Unicode.Category
import TopologyExporter.Unicode.GraphemeBreak
import TopologyExporter.Unicode.Script
import TopologyExporter.Unicode.ScriptExtension
import TopologyExporter.Unicode.SentenceBreak
import TopologyExporter.Unicode.Trait
import TopologyExporter.Unicode.WordBreak

/-!
# Unicode properties in patterns

The characters that a question about a Unicode property asks for. Names are compared loosely: case,
blanks, hyphens, underscores and a leading `is` make no difference.
-/

namespace TopologyExporter.Pattern

open Unicode

/-- A name with everything dropped that makes no difference. The category `C` keeps its `is`, which
with it alone is also the abbreviation of another property. -/
def looseName (name : String) : String :=
  let cs := name.toList
  let startsWithIs :=
    match cs with
    | a :: b :: _ => a.toLower = 'i' && b.toLower = 's'
    | _ => false
  let kept := (if startsWithIs then cs.drop 2 else cs).filterMap fun c =>
    if c = ' ' || c = '_' || c = '-' || 0x7F < c.toNat then none else some c.toLower
  if startsWithIs && kept = ['c'] then "isc" else String.ofList kept

/-- The groups of categories with the names of the group. -/
def categoryGroups : List (List String × List String) :=
  [(["c", "other"], ["cc", "cf", "cs", "co"]),
    (["l", "letter"], ["lu", "ll", "lt", "lm", "lo"]),
    (["lc", "casedletter"], ["lu", "ll", "lt"]),
    (["m", "mark", "combiningmark"], ["mn", "mc", "me"]),
    (["n", "number"], ["nd", "nl", "no"]),
    (["p", "punctuation", "punct"], ["pc", "pd", "ps", "pe", "pi", "pf", "po"]),
    (["s", "symbol"], ["sm", "sc", "sk", "so"]),
    (["z", "separator"], ["zs", "zl", "zp"])]

/-- The code points of any category. -/
def assigned : CharSet :=
  CharSet.ofRanges (categories.flatMap fun row => (CharSet.ofText row.text).ranges)

/-- The characters of a general category, a group of them, or one of the sets named like one. -/
def category? (name : String) : Option CharSet :=
  if name = "any" then some (.range 0 maxCodePoint)
  else if name = "ascii" then some (.range 0 0x7F)
  else if name = "assigned" then some assigned
  else if name = "cn" || name = "unassigned" then some assigned.complement
  else
    match categoryGroups.find? fun row => row.1.contains name with
    | some (names, members) =>
      let set := lookUpAll categories members
      some (if names.contains "c" then set.union assigned.complement else set)
    | none => if name = "cs" || name = "surrogate" then none else lookUp categories name

/-- The characters of a script. -/
def script? (name : String) : Option CharSet := lookUp scripts name

/-- The characters that are used with a script. -/
def scriptExtension? (name : String) : Option CharSet :=
  lookUp scriptExtensions name <|> script? name

/-- The characters that came with a version of the standard or with one before it. -/
def age? (version : String) : Option CharSet :=
  let earlier := ages.takeWhile fun row => !row.names.contains version
  (ages[earlier.length]?).map fun row =>
    CharSet.ofRanges ((earlier ++ [row]).flatMap fun row => (CharSet.ofText row.text).ranges)

/-- The categories and scripts that no character has: half of a pair is no character, and neither
those without a script nor those of two at once make up one. -/
def emptyValues : List String :=
  ["cs", "surrogate", "zzzz", "unknown", "hrkt", "katakanaorhiragana"]

/-- The names of the properties that have values but whose values cannot be asked for. -/
def closedProperties : List String :=
  ["blk", "block", "bc", "bidiclass", "bmg", "bidimirroringglyph", "bpb", "bidipairedbracket",
    "bpt", "bidipairedbrackettype", "ccc", "canonicalcombiningclass", "ce",
    "compositionexclusion", "compex", "fullcompositionexclusion", "cwkcf",
    "changeswhennfkccasefolded", "dm", "decompositionmapping", "dt", "decompositiontype", "ea",
    "eastasianwidth", "fcnfkc", "fcnfkcclosure", "hst", "hangulsyllabletype", "inpc",
    "indicpositionalcategory", "insc", "indicsyllabiccategory", "jg", "joininggroup", "jsn",
    "jamoshortname", "jt", "joiningtype", "lb", "linebreak", "na", "name", "na1", "unicode1name",
    "namealias", "nfcqc", "nfcquickcheck", "nfdqc", "nfdquickcheck", "nfkccf", "nfkccasefold",
    "nfkcqc", "nfkcquickcheck", "nfkdqc", "nfkdquickcheck", "nt", "numerictype", "nv",
    "numericvalue", "vo", "verticalorientation", "cf", "casefolding", "lc", "lowercasemapping",
    "tc", "titlecasemapping", "uc", "uppercasemapping", "scf", "simplecasefolding", "slc",
    "simplelowercasemapping", "stc", "simpletitlecasemapping", "suc", "simpleuppercasemapping"]

/-- How the values of a property are looked up, if they can be asked for. -/
def valuesOf? (name : String) : Option (String → Option CharSet) :=
  if name = "gc" || name = "generalcategory" then some category?
  else if name = "sc" || name = "script" then some script?
  else if name = "scx" || name = "scriptextensions" then some scriptExtension?
  else if name = "age" then some age?
  else if name = "gcb" || name = "graphemeclusterbreak" then some (lookUp graphemeBreaks)
  else if name = "wb" || name = "wordbreak" then some (lookUp wordBreaks)
  else if name = "sb" || name = "sentencebreak" then some (lookUp sentenceBreaks)
  else none

/-- The characters that a question asks for, or why there is no such question. -/
def PropertyQuery.resolve : PropertyQuery → Except Cause CharSet
  | .named name =>
    let name := looseName name
    let isCategoryFirst := name = "cf" || name = "sc" || name = "lc"
    let found :=
      (if isCategoryFirst then none else lookUp traits name) <|> category? name <|> script? name
    match found with
    | some set => .ok set
    | none =>
      if emptyValues.contains name then .error .propertyValueNotFound
      else .error .propertyNotFound
  | .valued name value =>
    let name := looseName name
    match valuesOf? name with
    | some values =>
      match values (looseName value) with
      | some set => .ok set
      | none => .error .propertyValueNotFound
    | none =>
      if closedProperties.contains name || (lookUp traits name).isSome then
        .error .propertyValueNotFound
      else .error .propertyNotFound

end TopologyExporter.Pattern
