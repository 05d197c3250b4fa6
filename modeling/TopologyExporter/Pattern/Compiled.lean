import TopologyExporter.Pattern.Basic
import TopologyExporter.Pattern.Parser
import TopologyExporter.Pattern.Diagnostic
import TopologyExporter.Pattern.Matching
import TopologyExporter.Pattern.Size

/-!
# Compiled patterns

The compiler of patterns that the program runs with, which refuses texts that are no patterns and
patterns that take too many bytes. What is said of filters and of settings does not depend on it.
-/

namespace TopologyExporter

namespace Pattern

/-- The greatest size that a program may have, in bytes. -/
def sizeLimit : Nat := 10 * Nat.pow 2 20

/-- The pattern that a program decides. -/
def ofProgram (program : Program) : Pattern := ⟨fun text => program.isMatch text.toList⟩

/-- Compiles a pattern. -/
def compile (text : String) : Except Refusal Pattern :=
  match parse text >>= Ast.meaning with
  | .error fault => .error (.faulty (fault.render text))
  | .ok expr =>
    if sizeLimit < expr.size then .error (.tooLarge sizeLimit)
    else .ok (.ofProgram (.ofExpr expr))

end Pattern

/-- The program compiles its patterns so. -/
instance : PatternCompiler where
  compile := Pattern.compile

end TopologyExporter
