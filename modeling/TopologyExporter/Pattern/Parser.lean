import TopologyExporter.Pattern.Bracket
import TopologyExporter.Unicode.Letter

/-!
# Parsing patterns

`parse` turns the text of a pattern into its syntax, or finds the first fault in it. The reader
keeps one `Level` for the whole pattern and one more for each group that is still open.
-/

namespace TopologyExporter.Pattern

open Scanner

/-! ## Repetitions -/

/-- The greatest count that a repetition can have. -/
def maxCount : Nat := Nat.pow 2 32 - 1

/-- Reads a decimal number. A fault is handed back as a value: another one may come first. -/
def decimal (s : Scanner) : Except Fault Nat × Scanner :=
  let s := s.skip (s.rest.takeWhile Text.isBlank).length
  let (digits, after) := s.takeAllSpaced Char.isDigit
  let span := after.spanFrom s.pos
  let value := digits.foldl (fun n c => n * 10 + (c.toNat - '0'.toNat)) 0
  let result :=
    if digits.isEmpty then .error ⟨.repetitionCountEmpty, span, none⟩
    else if maxCount < value then .error ⟨.decimalInvalid, span, none⟩
    else .ok value
  (result, (after.takeAllSpaced Text.isBlank).2)

/-- Steps over a sign that makes the repetition before it prefer few. -/
def skipLazySign : Scan Unit := modify fun s => if s.current? = some '?' then s.bump else s

/-- The node to repeat and the nodes before it. -/
def repeatable (parts : List Ast) : Scan (Ast × List Ast) := do
  match parts with
  | [] => fault .repetitionMissing (← get).here
  | body :: before =>
    if body.isRepeatable then pure (body, before) else fault .repetitionMissing (← get).here

/-- Reads one of the signs `?`, `*` and `+` after the given parts, newest first. -/
def plainRepetition (least : Nat) (most : Option Nat) (parts : List Ast) : Scan (List Ast) := do
  let (body, before) ← repeatable parts
  modify bump
  skipLazySign
  pure (.repetition ((← get).spanFrom body.span.start) least most body :: before)

/-- Reads a repetition with counts, from its opening brace on. -/
def countedRepetition (parts : List Ast) : Scan (List Ast) := do
  let (body, before) ← repeatable parts
  let start := (← get).pos
  let unlessEnd : Scan Unit := do
    if (← get).atEnd then fault .repetitionCountUnclosed ((← get).spanFrom start)
  modify bumpSpaced
  unlessEnd
  let least ← modifyGet decimal
  unlessEnd
  let (least, most) ←
    if (← get).current? = some ',' then do
      modify bumpSpaced
      unlessEnd
      -- a count that is no number is at fault only if the text has not ended before
      let least ← least
      if (← get).current? = some '}' then pure (least, none)
      else do
        let most ← modifyGet decimal
        pure (least, some (← most))
    else do
      let least ← least
      pure (least, some least)
  if (← get).current? ≠ some '}' then fault .repetitionCountUnclosed ((← get).spanFrom start)
  modify bumpSpaced
  skipLazySign
  let s ← get
  if most.any (· < least) then fault .repetitionCountInvalid (s.spanFrom start)
  else pure (.repetition (s.spanFrom body.span.start) least most body :: before)

/-! ## Groups -/

/-- The letters of the flags. -/
def Flag.ofLetter? : Char → Option Flag
  | 'i' => some .caseInsensitive
  | 'm' => some .multiLine
  | 's' => some .dotMatchesNewLine
  | 'U' => some .swapGreed
  | 'u' => some .unicode
  | 'R' => some .carriageReturn
  | 'x' => some .ignoreBlank
  | _ => none

/-- Reads flags up to the sign that ends them. `seen` holds the items so far, newest first, and
`dangling` the stretch of a hyphen that nothing follows yet. -/
def flagItems : Nat → List (Span × FlagItem) → Option Span → Scan (List FlagItem)
  | 0, _, _ => do fault .flagUnexpectedEnd (← get).here
  | fuel + 1, seen, dangling => do
    let s ← get
    match s.current? with
    | none => fault .flagUnexpectedEnd s.here
    | some c =>
      if c = ':' || c = ')' then
        match dangling with
        | some span => fault .flagDanglingNegation span
        | none => pure (seen.reverse.map Prod.snd)
      else do
        let (item, cause, dangling) ←
          if c = '-' then
            pure (FlagItem.negation, Cause.flagRepeatedNegation, some s.charSpan)
          else
            match Flag.ofLetter? c with
            | some f => pure (FlagItem.flag f, Cause.flagDuplicate, none)
            | none => fault .flagUnrecognized s.charSpan
        -- no sign comes twice, on whichever side of the hyphen
        match seen.find? (·.2 = item) with
        | some (earlier, _) => clash cause s.charSpan earlier
        | none => do
          set s.bump
          if s.bump.atEnd then fault .flagUnexpectedEnd s.bump.here
          else flagItems fuel ((s.charSpan, item) :: seen) dangling

/-- The characters that group names are made of. -/
def isNameChar (isFirst : Bool) (c : Char) : Bool :=
  c = '_' || Unicode.alphabetic.contains c.toNat ||
    (!isFirst && (c = '.' || c = '[' || c = ']' || Unicode.numeric.contains c.toNat))

/-- Reads the signs of a group's name up to the angle bracket that closes it. -/
def nameSigns (isFirst : Bool) : Nat → Scan (List Char)
  | 0 => do fault .groupNameUnclosed (← get).here
  | fuel + 1 => do
    let s ← get
    match s.current? with
    | none => fault .groupNameUnclosed s.here
    | some '>' => pure []
    | some c =>
      if isNameChar isFirst c then do
        set s.bump
        pure (c :: (← nameSigns false fuel))
      else fault .groupNameInvalid s.charSpan

/-- Reads the name of a group and the angle bracket that closes it. No two groups share a name. -/
def groupName : Scan String := do
  let s ← get
  let name ← String.ofList <$> nameSigns true (s.rest.length + 1)
  let after ← get
  let span := after.spanFrom s.pos
  if name = "" then fault .groupNameEmpty s.here
  else
    match after.names.find? (·.1 = name) with
    | some (_, earlier) => clash .groupNameDuplicate span earlier
    | none => do
      set { after.bump with names := (name, span) :: after.names }
      pure name

/-- What an opening parenthesis starts: a group, or flags for the rest of the group around it. -/
inductive Opening
  | flags (span : Span) (items : List FlagItem)
  | group (span : Span) (kind : GroupKind)

/-- Reads the opening of a group, from its parenthesis on. -/
def opening : Scan Opening := do
  let start ← get
  let s := start.bump.skipBlank
  match s.accept? "?=" <|> s.accept? "?!" <|> s.accept? "?<=" <|> s.accept? "?<!" with
  | some after => fault .lookAround (after.spanFrom start.pos)
  | none =>
    match s.accept? "?P<" <|> s.accept? "?<" with
    | some after => do
      set after
      pure (.group start.charSpan (.named (← groupName)))
    | none =>
      match s.accept? "?" with
      | none => do
        set s
        pure (.group start.charSpan .numbered)
      | some after => do
        set after
        if after.atEnd then fault .groupUnclosed start.charSpan
        else do
          let items ← flagItems after.rest.length [] none
          let closing := (← get).current?
          modify bump
          if closing = some ')' then
            -- a question mark with nothing before it to repeat
            if items.isEmpty then fault .repetitionMissing s.here
            else pure (.flags ((← get).spanFrom start.pos) items)
          else pure (.group start.charSpan (.plain items))

/-- The opening parenthesis of a group, and whether blanks were ignored before it. -/
structure OpenGroup where
  span : Span
  kind : GroupKind
  ignoreBlank : Bool

/-- A group that is still open, or the whole pattern (`opened` is `none`): the alternatives before
the last one and the parts of that one, newest first, and where these start. -/
structure Level where
  opened : Option OpenGroup
  start : Nat
  branches : List Ast
  partsStart : Nat
  parts : List Ast

namespace Level

/-- A level without parts. -/
def begin (opened : Option OpenGroup) (start : Nat) : Level := ⟨opened, start, [], start, []⟩

/-- The last alternative, which ends at `stop`. -/
def lastBranch (l : Level) (stop : Nat) : Ast := .ofParts ⟨l.partsStart, stop⟩ l.parts.reverse

/-- Everything read on the level, which ends at `stop`. -/
def toAst (l : Level) (stop : Nat) : Ast :=
  .ofBranches ⟨l.start, stop⟩ (l.lastBranch stop :: l.branches).reverse

/-- Ends an alternative at `stop`; the next one starts after the bar. -/
def nextBranch (l : Level) (stop : Nat) : Level :=
  { l with branches := l.lastBranch stop :: l.branches, partsStart := stop + 1, parts := [] }

/-- Adds a part at the end. -/
def push (l : Level) (part : Ast) : Level := { l with parts := part :: l.parts }

end Level

/-! ## Patterns -/

/-- Reads the parts of a pattern up to its end. Every round takes a character. -/
def body : Nat → Level → List Level → Scan Ast
  | 0, level, _ => do pure (level.toAst (← get).pos)
  | fuel + 1, level, outer => do
    let s := (← get).skipBlank
    set s
    match s.current? with
    | none =>
      match level.opened with
      | some group => fault .groupUnclosed group.span
      | none => pure (level.toAst s.pos)
    | some '(' => do
      match ← opening with
      | .flags span items => do
        modify fun s => { s with
          ignoreBlank := (flagState .ignoreBlank items).getD s.ignoreBlank }
        body fuel (level.push (.flags span items)) outer
      | .group span kind => do
        let s ← get
        let ignoreBlank :=
          match kind with
          | .plain items => (flagState .ignoreBlank items).getD s.ignoreBlank
          | _ => s.ignoreBlank
        -- what held outside is kept for the closing parenthesis
        set { s with ignoreBlank }
        body fuel (.begin (some ⟨span, kind, s.ignoreBlank⟩) s.pos) (level :: outer)
    | some ')' =>
      match level.opened, outer with
      | some group, around :: outer => do
        set { s.bump with ignoreBlank := group.ignoreBlank }
        body fuel
          (around.push (.group (s.bump.spanFrom group.span.start) group.kind (level.toAst s.pos)))
          outer
      | _, _ => fault .groupUnopened s.charSpan
    | some '|' => do
      set s.bump
      body fuel (level.nextBranch s.pos) outer
    | some '[' => do
      let part ← bracketed
      body fuel (level.push part) outer
    | some '?' => do
      let parts ← plainRepetition 0 (some 1) level.parts
      body fuel { level with parts } outer
    | some '*' => do
      let parts ← plainRepetition 0 none level.parts
      body fuel { level with parts } outer
    | some '+' => do
      let parts ← plainRepetition 1 none level.parts
      body fuel { level with parts } outer
    | some '{' => do
      let parts ← countedRepetition level.parts
      body fuel { level with parts } outer
    | some c => do
      let part ← single c
      body fuel (level.push part) outer

/-! ## Depth -/

/-- How deep groups, classes, repetitions and the like may lie in one another. -/
def depthLimit : Nat := 250

/-- Refuses a node at `span` that lies inside `depth` others if that is too deep. -/
def checkDepth (depth : Nat) (span : Span) : Except Fault Unit :=
  if depth < depthLimit then .ok () else .error ⟨.nestedTooDeep depthLimit, span, none⟩

mutual

/-- Refuses a class set in which something lies too deep. -/
def ClassSet.checkDepth (depth : Nat) : ClassSet → Except Fault Unit
  | .bracketed span _ set => do
    Pattern.checkDepth depth span
    set.checkDepth (depth + 1)
  | .union span items => do
    Pattern.checkDepth depth span
    ClassSet.checkDepthAll (depth + 1) items
  | .binary span _ lhs rhs => do
    Pattern.checkDepth depth span
    lhs.checkDepth (depth + 1)
    rhs.checkDepth (depth + 1)
  | _ => .ok ()

/-- Refuses class sets if something in one of them lies too deep. -/
def ClassSet.checkDepthAll (depth : Nat) : List ClassSet → Except Fault Unit
  | [] => .ok ()
  | set :: rest => do
    set.checkDepth depth
    ClassSet.checkDepthAll depth rest

end

mutual

/-- Refuses a pattern in which something lies too deep. -/
def Ast.checkDepth (depth : Nat) : Ast → Except Fault Unit
  | .bracketed span _ set => do
    Pattern.checkDepth depth span
    set.checkDepth (depth + 1)
  | .repetition span _ _ body => do
    Pattern.checkDepth depth span
    body.checkDepth (depth + 1)
  | .group span _ body => do
    Pattern.checkDepth depth span
    body.checkDepth (depth + 1)
  | .alternation span branches => do
    Pattern.checkDepth depth span
    Ast.checkDepthAll (depth + 1) branches
  | .concat span parts => do
    Pattern.checkDepth depth span
    Ast.checkDepthAll (depth + 1) parts
  | _ => .ok ()

/-- Refuses patterns if something in one of them lies too deep. -/
def Ast.checkDepthAll (depth : Nat) : List Ast → Except Fault Unit
  | [] => .ok ()
  | ast :: rest => do
    ast.checkDepth depth
    Ast.checkDepthAll depth rest

end

/-- The syntax of a pattern, or the first fault in its text. -/
def parse (pattern : String) : Except Fault Ast := do
  let s := Scanner.ofString pattern
  let ast ← (body (s.rest.length + 1) (.begin none 0) []).run' s
  ast.checkDepth 0
  pure ast

end TopologyExporter.Pattern
