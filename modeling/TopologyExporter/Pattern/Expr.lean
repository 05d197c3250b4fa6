import TopologyExporter.Unicode.CharSet

/-!
# Expressions

What a pattern means, with its options worked in: sets of characters to read, places to check, and
the ways to put them together.
-/

namespace TopologyExporter.Pattern

open Unicode (CharSet)

/-- What has to be true of the word characters on either side of a place. -/
inductive WordEdge
  | boundary
  | inside
  | start
  | stop
  | startHalf
  | stopHalf
deriving Repr, DecidableEq, Inhabited

/-- A place in a text. Ends of lines can be those of line feeds alone, or of line feeds, carriage
returns and the two together; words can be made of ASCII characters alone. -/
inductive Place
  | textStart
  | textEnd
  | lineStart (carriageReturn : Bool)
  | lineEnd (carriageReturn : Bool)
  | word (unicode : Bool) (edge : WordEdge)
deriving Repr, DecidableEq, Inhabited

/-- A pattern by its meaning. -/
inductive Expr
  | empty
  | read (set : CharSet)
  | check (place : Place)
  | capture (body : Expr)
  | repetition (least : Nat) (most : Option Nat) (body : Expr)
  | seq (first second : Expr)
  | either (first second : Expr)
deriving Repr, Inhabited

namespace Expr

/-- Whether only the empty stretch of text can match. -/
def isWidthless : Expr → Bool
  | empty => true
  | read _ => false
  | check _ => true
  | capture body => body.isWidthless
  | repetition _ _ body => body.isWidthless
  | seq a b => a.isWidthless && b.isWidthless
  | either a b => a.isWidthless && b.isWidthless

/-- A repetition. What only matches the empty stretch need not be repeated more than once. -/
def repeated (least : Nat) (most : Option Nat) (body : Expr) : Expr :=
  let (least, most) :=
    if body.isWidthless then (min least 1, some (min (most.getD 1) 1)) else (least, most)
  -- no times is nothing at all, and once is no more than the body itself
  if most = some 0 then .empty
  else if least = 1 ∧ most = some 1 then body
  else .repetition least most body

/-- Expressions one after the other. -/
def ofParts : List Expr → Expr
  | [] => .empty
  | [e] => e
  | e :: rest => .seq e (ofParts rest)

/-- A choice between expressions. -/
def ofBranches : List Expr → Expr
  | [] => .read .empty
  | [e] => e
  | e :: rest => .either e (ofBranches rest)

end Expr

end TopologyExporter.Pattern
