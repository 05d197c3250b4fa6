/-!
# The syntax of patterns

Patterns as they are written: every node keeps the stretch of text it came from, so that a fault
found later can point at it. `Ast.span` gives the stretch of a node.
-/

namespace TopologyExporter.Pattern

/-- A stretch of the pattern text, as character positions; `stop` is not part of it. -/
structure Span where
  start : Nat
  stop : Nat
deriving Repr, DecidableEq, Inhabited

/-- The options that can be switched inside a pattern. -/
inductive Flag
  | caseInsensitive
  | multiLine
  | dotMatchesNewLine
  | swapGreed
  | unicode
  | carriageReturn
  | ignoreBlank
deriving Repr, DecidableEq, Inhabited

/-- One sign of a group of flags: a flag, or the hyphen that switches off what follows it. -/
inductive FlagItem
  | negation
  | flag (f : Flag)
deriving Repr, DecidableEq, Inhabited

/-- What a group of flags says about one flag: the last word on it, if it is mentioned. -/
def flagState (f : Flag) (items : List FlagItem) : Option Bool :=
  go true none items
where
  go (enable : Bool) (state : Option Bool) : List FlagItem → Option Bool
    | [] => state
    | .negation :: rest => go false state rest
    | .flag g :: rest => go enable (if g = f then some enable else state) rest

/-- A single character. `byte` marks one written as a two-digit hexadecimal escape, which stands
for a byte where Unicode is switched off. -/
structure Literal where
  span : Span
  char : Char
  byte : Bool
deriving Repr, DecidableEq, Inhabited

/-- The escapes for digits, blanks and word characters. -/
inductive Shorthand
  | digit
  | space
  | word
deriving Repr, DecidableEq, Inhabited

/-- The named classes of ASCII characters. -/
inductive AsciiClass
  | alnum | alpha | ascii | blank | cntrl | digit | graph | lower | print | punct | space | upper
  | word | xdigit
deriving Repr, DecidableEq, Inhabited

/-- A question about Unicode properties: a yes-or-no property, category or script by its name,
or a property with one of its values. -/
inductive PropertyQuery
  | named (name : String)
  | valued (name value : String)
deriving Repr, DecidableEq, Inhabited

/-- The operators between character classes. -/
inductive SetOperator
  | intersection
  | difference
  | symmetricDifference
deriving Repr, DecidableEq, Inhabited

/-- What stands inside the brackets of a character class. -/
inductive ClassSet
  | empty (span : Span)
  | literal (l : Literal)
  | range (span : Span) (first last : Literal)
  | ascii (span : Span) (negated : Bool) (kind : AsciiClass)
  | property (span : Span) (negated : Bool) (query : PropertyQuery)
  | shorthand (span : Span) (negated : Bool) (kind : Shorthand)
  | bracketed (span : Span) (negated : Bool) (set : ClassSet)
  | union (span : Span) (items : List ClassSet)
  | binary (span : Span) (op : SetOperator) (lhs rhs : ClassSet)
deriving Repr, Inhabited

namespace ClassSet

/-- The stretch of text that a class item came from. -/
def span : ClassSet → Span
  | empty s => s
  | literal l => l.span
  | range s _ _ => s
  | ascii s _ _ => s
  | property s _ _ => s
  | shorthand s _ _ => s
  | bracketed s _ _ => s
  | union s _ => s
  | binary s _ _ _ => s

end ClassSet

/-- The places in a text that a pattern can ask for without consuming anything. -/
inductive Assertion
  | startLine
  | endLine
  | startText
  | endText
  | wordBoundary
  | notWordBoundary
  | wordStart
  | wordEnd
  | wordStartHalf
  | wordEndHalf
deriving Repr, DecidableEq, Inhabited

/-- How a group was opened: numbered, named, or only to hold things together under some flags. -/
inductive GroupKind
  | numbered
  | named (name : String)
  | plain (flags : List FlagItem)
deriving Repr, DecidableEq, Inhabited

/-- A pattern as it is written. Whether a repetition prefers the shorter match is not kept: it
makes no difference to whether there is one. -/
inductive Ast
  | empty (span : Span)
  | flags (span : Span) (items : List FlagItem)
  | literal (l : Literal)
  | dot (span : Span)
  | assertion (span : Span) (kind : Assertion)
  | property (span : Span) (negated : Bool) (query : PropertyQuery)
  | shorthand (span : Span) (negated : Bool) (kind : Shorthand)
  | bracketed (span : Span) (negated : Bool) (set : ClassSet)
  | repetition (span : Span) (least : Nat) (most : Option Nat) (body : Ast)
  | group (span : Span) (kind : GroupKind) (body : Ast)
  | alternation (span : Span) (branches : List Ast)
  | concat (span : Span) (parts : List Ast)
deriving Repr, Inhabited

namespace Ast

/-- The stretch of text that a node came from. -/
def span : Ast → Span
  | empty s => s
  | flags s _ => s
  | literal l => l.span
  | dot s => s
  | assertion s _ => s
  | property s _ _ => s
  | shorthand s _ _ => s
  | bracketed s _ _ => s
  | repetition s _ _ _ => s
  | group s _ _ => s
  | alternation s _ => s
  | concat s _ => s

/-- Whether a repetition sign after this node has something to repeat. -/
def isRepeatable : Ast → Bool
  | empty _ => false
  | flags _ _ => false
  | _ => true

/-- Parts in a row; one part alone stands for itself, and none is the empty pattern. -/
def ofParts (span : Span) : List Ast → Ast
  | [] => .empty span
  | [part] => part
  | parts => .concat span parts

/-- Alternatives; one alone stands for itself. -/
def ofBranches (span : Span) : List Ast → Ast
  | [] => .empty span
  | [branch] => branch
  | branches => .alternation span branches

end Ast

end TopologyExporter.Pattern
