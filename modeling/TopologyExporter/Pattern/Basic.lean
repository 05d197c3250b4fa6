/-!
# Patterns

What the exporter relies on when it filters processes: texts are compiled to patterns, a pattern
answers whether it matches a name, and a text that is no pattern is refused with a reason. How this
is done is left to a `PatternCompiler`. Nothing is asked of it, so all that is said of filters and
of settings holds for any compiler.
-/

namespace TopologyExporter

/-- A compiled pattern: whether it matches somewhere in a text. -/
structure Pattern where
  isMatch : String → Bool
deriving Inhabited

namespace Pattern

/-- Why a text is refused as a pattern: a fault in it, as it is reported, or the size of what it
compiles to. -/
inductive Refusal
  | faulty (report : String)
  | tooLarge (limit : Nat)
deriving Repr, DecidableEq, Inhabited

/-- The text of a refusal. -/
def Refusal.message : Refusal → String
  | faulty report => report
  | tooLarge limit => "Compiled regex exceeds size limit of " ++ toString limit ++ " bytes."

end Pattern

/-- A way to compile texts to patterns. -/
class PatternCompiler where
  compile : String → Except Pattern.Refusal Pattern

end TopologyExporter
