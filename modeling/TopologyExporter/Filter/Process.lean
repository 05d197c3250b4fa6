import TopologyExporter.Filter.Error
import TopologyExporter.Text.Blank

/-!
# The process filter

Admits processes whose name matches one of some patterns.
-/

namespace TopologyExporter

/-- Admits the names that one of its patterns matches, or every name when it has no pattern. -/
structure ProcessFilter where
  patterns : List Pattern
deriving Inhabited

namespace ProcessFilter

/-- Compiles an entry. -/
def compile [PatternCompiler] (entry : String) : Except FilterError Pattern :=
  (PatternCompiler.compile entry).mapError (FilterError.invalidPattern entry)

/-- The filter of some entries; those that are blank do not count, and the first that is no
pattern is the error. -/
def ofEntries [PatternCompiler] (items : List String) : Except FilterError ProcessFilter :=
  ProcessFilter.mk <$> (Text.entries items).mapM compile

/-- Whether processes of this name are admitted. -/
def admits (f : ProcessFilter) (name : String) : Bool :=
  f.patterns.isEmpty || f.patterns.any (·.isMatch name)

end ProcessFilter

end TopologyExporter
