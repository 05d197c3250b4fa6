import TopologyExporter.Pattern.Expr
import TopologyExporter.Pattern.Property
import TopologyExporter.Unicode.CaseFold
import TopologyExporter.Unicode.Letter

/-!
# The meaning of patterns

`Ast.meaning` works the options of a pattern into it. Options set inside a group hold up to its
end. Where Unicode is switched off only ASCII can be asked for, apart from single characters.
-/

namespace TopologyExporter.Pattern

open Unicode

/-- The options in force at some point of a pattern. -/
structure Options where
  caseInsensitive : Bool
  multiLine : Bool
  dotMatchesNewLine : Bool
  unicode : Bool
  carriageReturn : Bool
deriving Repr, DecidableEq, Inhabited

namespace Options

/-- The options at the start of a pattern. -/
def initial : Options := ⟨false, false, false, true, false⟩

/-- The options after a group of flags. -/
def apply (items : List FlagItem) (o : Options) : Options where
  caseInsensitive := (flagState .caseInsensitive items).getD o.caseInsensitive
  multiLine := (flagState .multiLine items).getD o.multiLine
  dotMatchesNewLine := (flagState .dotMatchesNewLine items).getD o.dotMatchesNewLine
  unicode := (flagState .unicode items).getD o.unicode
  carriageReturn := (flagState .carriageReturn items).getD o.carriageReturn

/-- Closes a set under case if case makes no difference. -/
def fold (o : Options) (set : CharSet) : CharSet :=
  if !o.caseInsensitive then set
  else if o.unicode then set.foldCase
  else set.foldAsciiCase

/-- Refuses a set at `span` that could read part of a character. -/
def guard (o : Options) (span : Span) (set : CharSet) : Except Fault CharSet :=
  if o.unicode || set.isAscii then .ok set else .error ⟨.invalidUtf8, span, none⟩

/-- Closes a set under case, then negates it. -/
def finish (o : Options) (span : Span) (negated : Bool) (set : CharSet) : Except Fault CharSet :=
  let set := o.fold set
  o.guard span (if negated then set.complement else set)

end Options

/-! ## Classes -/

/-- The characters of a named ASCII class. -/
def AsciiClass.set : AsciiClass → CharSet
  | alnum => ⟨[(0x30, 0x39), (0x41, 0x5A), (0x61, 0x7A)]⟩
  | alpha => ⟨[(0x41, 0x5A), (0x61, 0x7A)]⟩
  | ascii => ⟨[(0x00, 0x7F)]⟩
  | blank => ⟨[(0x09, 0x09), (0x20, 0x20)]⟩
  | cntrl => ⟨[(0x00, 0x1F), (0x7F, 0x7F)]⟩
  | digit => ⟨[(0x30, 0x39)]⟩
  | graph => ⟨[(0x21, 0x7E)]⟩
  | lower => ⟨[(0x61, 0x7A)]⟩
  | print => ⟨[(0x20, 0x7E)]⟩
  | punct => ⟨[(0x21, 0x2F), (0x3A, 0x40), (0x5B, 0x60), (0x7B, 0x7E)]⟩
  | space => ⟨[(0x09, 0x0D), (0x20, 0x20)]⟩
  | upper => ⟨[(0x41, 0x5A)]⟩
  | word => ⟨[(0x30, 0x39), (0x41, 0x5A), (0x5F, 0x5F), (0x61, 0x7A)]⟩
  | xdigit => ⟨[(0x30, 0x39), (0x41, 0x46), (0x61, 0x66)]⟩

/-- The characters of a shorthand, before negation. -/
def Shorthand.set (unicode : Bool) : Shorthand → CharSet
  | digit => if unicode then decimalDigits else AsciiClass.digit.set
  | space => if unicode then whiteSpace else AsciiClass.space.set
  | word => if unicode then wordCharacters else AsciiClass.word.set

/-- The characters of a shorthand. -/
def Options.shorthand (o : Options) (span : Span) (negated : Bool) (kind : Shorthand) :
    Except Fault CharSet :=
  let set := kind.set o.unicode
  o.guard span (if negated then set.complement else set)

/-- The characters of a property. -/
def Options.property (o : Options) (span : Span) (negated : Bool) (query : PropertyQuery) :
    Except Fault CharSet :=
  if !o.unicode then .error ⟨.unicodeNotAllowed, span, none⟩
  else
    match query.resolve with
    | .ok set => o.finish span negated set
    | .error cause => .error ⟨cause, span, none⟩

/-- The character of a literal. A byte beyond ASCII is part of a character only. -/
def Options.char (o : Options) (l : Literal) : Except Fault Nat :=
  if !o.unicode && l.byte && 0x7F < l.char.toNat then .error ⟨.invalidUtf8, l.span, none⟩
  else .ok l.char.toNat

/-- The character of a literal inside a class. -/
def Options.classChar (o : Options) (l : Literal) : Except Fault Nat := do
  let c ← o.char l
  if !o.unicode && 0x7F < c then .error ⟨.unicodeNotAllowed, l.span, none⟩ else .ok c

/-- Two sets under an operator. -/
def SetOperator.apply (a b : CharSet) : SetOperator → CharSet
  | intersection => a.inter b
  | difference => a.diff b
  | symmetricDifference => a.symmDiff b

mutual

/-- The characters of a class. -/
def ClassSet.meaning (o : Options) : ClassSet → Except Fault CharSet
  | .empty _ => .ok .empty
  | .literal l => CharSet.single <$> o.classChar l
  | .range _ first last => do
    let lo ← o.classChar first
    let hi ← o.classChar last
    pure (.range lo hi)
  | .ascii span negated kind => o.finish span negated kind.set
  | .property span negated query => o.property span negated query
  | .shorthand span negated kind => o.shorthand span negated kind
  | .bracketed span negated set => do o.finish span negated (← set.meaning o)
  | .union _ items => ClassSet.unionMeaning o items
  | .binary _ op lhs rhs => do
    let a ← lhs.meaning o
    let b ← rhs.meaning o
    pure (op.apply (o.fold a) (o.fold b))

/-- The characters of all classes together. -/
def ClassSet.unionMeaning (o : Options) : List ClassSet → Except Fault CharSet
  | [] => .ok .empty
  | item :: rest => do
    let a ← item.meaning o
    let b ← ClassSet.unionMeaning o rest
    pure (a.union b)

end

/-! ## Patterns -/

/-- The place that an assertion asks for. -/
def Options.place (o : Options) : Assertion → Place
  | .startLine => if o.multiLine then .lineStart o.carriageReturn else .textStart
  | .endLine => if o.multiLine then .lineEnd o.carriageReturn else .textEnd
  | .startText => .textStart
  | .endText => .textEnd
  | .wordBoundary => .word o.unicode .boundary
  | .notWordBoundary => .word o.unicode .inside
  | .wordStart => .word o.unicode .start
  | .wordEnd => .word o.unicode .stop
  | .wordStartHalf => .word o.unicode .startHalf
  | .wordEndHalf => .word o.unicode .stopHalf

/-- The characters that a dot stands for. -/
def Options.dot (o : Options) (span : Span) : Except Fault CharSet :=
  if !o.unicode then .error ⟨.invalidUtf8, span, none⟩
  else if o.dotMatchesNewLine then .ok (.range 0 maxCodePoint)
  else if o.carriageReturn then .ok (CharSet.complement ⟨[(0x0A, 0x0A), (0x0D, 0x0D)]⟩)
  else .ok (CharSet.complement (.single 0x0A))

mutual

/-- The meaning of a pattern under the options in force, and the options after it. -/
def Ast.meaningUnder : Ast → StateT Options (Except Fault) Expr
  | .empty _ => pure .empty
  | .flags _ items => do
    modify (Options.apply items)
    pure .empty
  | .literal l => do
    let o ← get
    let c ← o.char l
    pure (.read (o.fold (.single c)))
  | .dot span => do pure (.read (← (← get).dot span))
  | .assertion _ kind => do pure (.check ((← get).place kind))
  | .property span negated query => do pure (.read (← (← get).property span negated query))
  | .shorthand span negated kind => do pure (.read (← (← get).shorthand span negated kind))
  | .bracketed span negated set => do
    let o ← get
    let inside ← set.meaning o
    pure (.read (← o.finish span negated inside))
  | .repetition _ least most body => do pure (.repeated least most (← body.meaningUnder))
  | .group _ kind body => do
    let outside ← get
    match kind with
    | .plain items => modify (Options.apply items)
    | _ => pure ()
    let inside ← body.meaningUnder
    -- options end with the group they were set in
    set outside
    match kind with
    | .plain _ => pure inside
    | _ => pure (.capture inside)
  | .alternation _ branches => Expr.ofBranches <$> Ast.meaningsUnder branches
  | .concat _ parts => Expr.ofParts <$> Ast.meaningsUnder parts

/-- The meanings of patterns that share their options. -/
def Ast.meaningsUnder : List Ast → StateT Options (Except Fault) (List Expr)
  | [] => pure []
  | ast :: rest => do
    let e ← ast.meaningUnder
    pure (e :: (← Ast.meaningsUnder rest))

end

/-- The meaning of a whole pattern. -/
def Ast.meaning (ast : Ast) : Except Fault Expr := ast.meaningUnder.run' .initial

end TopologyExporter.Pattern
