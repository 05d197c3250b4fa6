import TopologyExporter.Pattern.Expr

/-!
# Programs

Expressions as instructions of an automaton. Every instruction names those that may come next;
`Program.ofExpr` lays them out from the end of the expression to its start.
-/

namespace TopologyExporter.Pattern

open Unicode (CharSet)

/-- One instruction: to read a character of a set, to check the place, to go on in several ways,
or to accept. -/
inductive Instruction
  | read (set : CharSet) (next : Nat)
  | check (place : Place) (next : Nat)
  | branch (targets : List Nat)
  | accept
deriving Repr, Inhabited

/-- How many instructions may come next. -/
def Instruction.degree : Instruction → Nat
  | read _ _ => 1
  | check _ _ => 1
  | branch targets => targets.length
  | accept => 0

/-- Instructions by number, and the number of the first to run. -/
structure Program where
  code : Array Instruction
  start : Nat
deriving Repr, Inhabited

namespace Program

/-- Laying out instructions. -/
abbrev Builder := StateM (Array Instruction)

/-- Adds an instruction and gives its number. -/
def emit (i : Instruction) : Builder Nat := fun code => (code.size, code.push i)

/-- Applies a step `n` times. -/
def times (step : Nat → Builder Nat) : Nat → Nat → Builder Nat
  | 0, next => pure next
  | n + 1, next => do times step n (← step next)

/-- Lays out an expression before the instruction `next`; gives the number of its first one. -/
def layOut : Expr → Nat → Builder Nat
  | .empty, next => pure next
  | .read set, next => emit (.read set next)
  | .check place, next => emit (.check place next)
  | .capture body, next => layOut body next
  | .repetition least most body, next => do
    let rest ←
      match most with
      | none => do
        -- the branch is filled in once the body that leads back to it has its number
        let loop ← emit (.branch [])
        let first ← layOut body loop
        modify (·.setIfInBounds loop (.branch [first, next]))
        pure loop
      | some most =>
        times (fun following => do emit (.branch [← layOut body following, next])) (most - least)
          next
    times (layOut body) least rest
  | .seq a b, next => do layOut a (← layOut b next)
  | .either a b, next => do
    let second ← layOut b next
    let first ← layOut a next
    emit (.branch [first, second])

/-- The program of an expression. -/
def ofExpr (e : Expr) : Program :=
  let (start, code) := (layOut e 0).run #[.accept]
  ⟨code, start⟩

/-- How often instructions name others, and how many there are: no more steps than these are
needed to follow all that can be reached without reading. -/
def weight (p : Program) : Nat :=
  p.code.foldl (fun n i => n + i.degree + 1) 0

end Program

end TopologyExporter.Pattern
