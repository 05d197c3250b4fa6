import TopologyExporter.Pattern.Escape

/-!
# Character classes

Reading what stands between brackets: characters, ranges, classes within classes, and the
operators between them. The reader keeps one `ClassLevel` for each bracket that is still open.
-/

namespace TopologyExporter.Pattern

open Scanner

/-- Class items read one after the other, newest first, with the text they cover. -/
structure ClassItems where
  span : Span
  items : List ClassSet
deriving Inhabited

namespace ClassItems

/-- Adds an item at the end. -/
def push (u : ClassItems) (item : ClassSet) : ClassItems :=
  ⟨⟨if u.items.isEmpty then item.span.start else u.span.start, item.span.stop⟩,
    item :: u.items⟩

/-- The class of all items together; an item alone stands for itself. -/
def toSet (u : ClassItems) : ClassSet :=
  match u.items with
  | [] => .empty u.span
  | [item] => item
  | items => .union u.span items.reverse

end ClassItems

/-- An open bracket: where it is, whether it is negated, the items of the class around it, and an
operator inside it that waits for its right side. -/
structure ClassLevel where
  span : Span
  negated : Bool
  around : ClassItems
  pending : Option (SetOperator × ClassSet)
deriving Inhabited

/-- The set read so far on a level, with `items` as the right side of the waiting operator. -/
def ClassLevel.combine (level : ClassLevel) (items : ClassItems) : ClassSet :=
  let rhs := items.toSet
  match level.pending with
  | none => rhs
  | some (op, lhs) => .binary ⟨lhs.span.start, rhs.span.stop⟩ op lhs rhs

/-- The named ASCII classes. -/
def AsciiClass.ofName? (name : List Char) : Option AsciiClass :=
  match String.ofList name with
  | "alnum" => some .alnum
  | "alpha" => some .alpha
  | "ascii" => some .ascii
  | "blank" => some .blank
  | "cntrl" => some .cntrl
  | "digit" => some .digit
  | "graph" => some .graph
  | "lower" => some .lower
  | "print" => some .print
  | "punct" => some .punct
  | "space" => some .space
  | "upper" => some .upper
  | "word" => some .word
  | "xdigit" => some .xdigit
  | _ => none

/-- Reads a named ASCII class such as `[:alpha:]`, if one stands here. -/
def asciiClass? (s : Scanner) : Option (ClassSet × Scanner) := do
  let inside ← s.accept? "[:"
  let (negated, inside) :=
    match inside.accept? "^" with
    | some inside => (true, inside)
    | none => (false, inside)
  let name := inside.rest.takeWhile (· ≠ ':')
  let after ← (inside.skip name.length).accept? ":]"
  let kind ← AsciiClass.ofName? name
  pure (.ascii (after.spanFrom s.pos) negated kind, after)

/-- Takes the hyphens at the start of a class, which stand for themselves. -/
def leadingHyphens (start : Nat) : Nat → ClassItems → Scan ClassItems
  | 0, items => pure items
  | fuel + 1, items => do
    let s ← get
    if s.current? = some '-' then do
      let items := items.push (.literal ⟨s.charSpan, '-', false⟩)
      set s.bumpSpaced
      if s.bumpSpaced.atEnd then fault .classUnclosed ⟨start, start⟩
      else leadingHyphens start fuel items
    else pure items

/-- Reads the opening of a class: the bracket, a sign of negation, hyphens, and a closing bracket
in first place, which stands for itself. -/
def openClass (around : ClassItems) : Scan (ClassLevel × ClassItems) := do
  let start := (← get).pos
  let step : Scan Unit := do
    let s := (← get).bumpSpaced
    set s
    if s.atEnd then fault .classUnclosed (s.spanFrom start)
  step
  let negated := (← get).current? = some '^'
  if negated then step
  let s ← get
  let items ← leadingHyphens start s.rest.length ⟨s.here, []⟩
  let s ← get
  let items ←
    if items.items.isEmpty && s.current? = some ']' then do
      step
      pure (items.push (.literal ⟨s.charSpan, ']', false⟩))
    else pure items
  pure (⟨(← get).spanFrom start, negated, around, none⟩, items)

/-- A part of a class as a class item: places in the text cannot be one. -/
def classItem : Ast → Scan ClassSet
  | .literal l => pure (.literal l)
  | .property span negated query => pure (.property span negated query)
  | .shorthand span negated kind => pure (.shorthand span negated kind)
  | other => fault .classEscapeInvalid other.span

/-- A part of a class as an end of a range. -/
def classBound : Ast → Scan Literal
  | .literal l => pure l
  | other => fault .classRangeLiteral other.span

/-- Reads one character or escape inside a class. -/
def classSingle : Scan Ast := do
  let s ← get
  match s.current? with
  | some '\\' => escape
  | some c => do
    set s.bump
    pure (.literal ⟨s.charSpan, c, false⟩)
  | none => fault .classUnclosed s.here

/-- Reads a class item or a range; `level` is the innermost open class. -/
def classRange (level : ClassLevel) : Scan ClassSet := do
  let first ← classSingle
  let s := (← get).skipBlank
  set s
  if s.atEnd then fault .classUnclosed level.span
  -- a hyphen at the end of a class stands for itself, and two of them are an operator
  else if s.current? ≠ some '-' || s.peekSpaced? = some ']' || s.peekSpaced? = some '-' then
    classItem first
  else do
    set s.bumpSpaced
    if s.bumpSpaced.atEnd then fault .classUnclosed level.span
    else do
      let last ← classSingle
      let span : Span := ⟨first.span.start, last.span.stop⟩
      let lo ← classBound first
      let hi ← classBound last
      if lo.char ≤ hi.char then pure (.range span lo hi) else fault .classRangeInvalid span

/-- The operator between classes that stands at the reader. -/
def setOperator? (s : Scanner) : Option SetOperator :=
  match s.current?, s.peek? with
  | some '&', some '&' => some .intersection
  | some '-', some '-' => some .difference
  | some '~', some '~' => some .symmetricDifference
  | _, _ => none

/-- Reads the inside of a class up to its last closing bracket. Every round takes a character. -/
def classBody : Nat → ClassLevel → List ClassLevel → ClassItems → Scan Ast
  | 0, level, _, _ => fault .classUnclosed level.span
  | fuel + 1, level, outer, items => do
    let s := (← get).skipBlank
    set s
    match s.current? with
    | none => fault .classUnclosed level.span
    | some '[' =>
      -- what only looks like a named class is read as a class within the class
      match asciiClass? s with
      | some (item, s) => do
        set s
        classBody fuel level outer (items.push item)
      | none => do
        let (inner, innerItems) ← openClass items
        classBody fuel inner (level :: outer) innerItems
    | some ']' => do
      set s.bump
      let span := s.bump.spanFrom level.span.start
      let content := level.combine items
      match outer with
      | [] => pure (.bracketed span level.negated content)
      | around :: outer =>
        classBody fuel around outer (level.around.push (.bracketed span level.negated content))
    | some _ =>
      match setOperator? s with
      | some op => do
        let s := s.skip 2
        -- operators are of one rank and taken from left to right
        set s
        classBody fuel { level with pending := some (op, level.combine items) } outer
          ⟨s.here, []⟩
      | none => do
        let item ← classRange level
        classBody fuel level outer (items.push item)

/-- Reads a character class, from its opening bracket on. -/
def bracketed : Scan Ast := do
  let s ← get
  let (level, items) ← openClass ⟨s.here, []⟩
  classBody s.rest.length level [] items

end TopologyExporter.Pattern
