import TopologyExporter.Unicode.CharSet

/-!
# Named sets of characters

The rows of the property tables: a set of characters with the names it goes by.
-/

namespace TopologyExporter.Unicode

/-- A set of characters with its names; `text` lists its ranges as `CharSet.ofText` reads them. -/
structure NamedRanges where
  names : List String
  text : String

/-- The set that goes by `name`, if the table has one. -/
def lookUp (table : List NamedRanges) (name : String) : Option CharSet :=
  (table.find? fun row => row.names.contains name).map fun row => CharSet.ofText row.text

/-- The union of the sets that go by the given names. -/
def lookUpAll (table : List NamedRanges) (names : List String) : CharSet :=
  CharSet.ofRanges ((names.filterMap (lookUp table)).flatMap CharSet.ranges)

end TopologyExporter.Unicode
