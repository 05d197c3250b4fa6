import TopologyExporter.Pattern.Scanner
import TopologyExporter.Unicode.CharSet

/-!
# Escapes and single signs

The parts of a pattern that stand for one character, one class or one place in the text. Each
reader starts at the first sign of its part and stops after the last one.
-/

namespace TopologyExporter.Pattern

open Scanner

/-- The signs that mean something unless they are escaped. -/
def isMeta (c : Char) : Bool :=
  c ∈ ['\\', '.', '+', '*', '?', '(', ')', '|', '[', ']', '{', '}', '^', '$', '#', '&', '-', '~']

/-- The characters that stand for themselves after a backslash: every ASCII character but letters,
digits and the two angle brackets. -/
def isEscapable (c : Char) : Bool :=
  isMeta c || (c.toNat ≤ 0x7F && !c.isAlphanum && c ≠ '<' && c ≠ '>')

/-- Whether `c` is a hexadecimal digit. -/
def isHexDigit (c : Char) : Bool := (Unicode.CharSet.hexDigit? c).isSome

/-- The number that hexadecimal digits stand for. -/
def hexValue (digits : List Char) : Nat :=
  digits.foldl (fun n c => n * 16 + (Unicode.CharSet.hexDigit? c).getD 0) 0

/-- The character with a code point, unless there is none. -/
def charOfNat? (n : Nat) : Option Char := if n.isValidChar then some (Char.ofNat n) else none

/-- Reads exactly `n` more hexadecimal digits. -/
def fixedHexDigits : Nat → Nat → Scan Nat
  | 0, value => pure value
  | n + 1, value => do
    let s ← get
    match s.current? with
    | none => fault .escapeUnexpectedEnd s.here
    | some c =>
      match Unicode.CharSet.hexDigit? c with
      | none => fault .escapeHexInvalidDigit s.charSpan
      | some d => do
        set s.bumpSpaced
        fixedHexDigits n (value * 16 + d)

/-- Reads the digits of an escape that has a fixed number of them. -/
def fixedHexEscape (start digits : Nat) : Scan Ast := do
  let first := (← get).pos
  let value ← fixedHexDigits digits 0
  let s ← get
  match charOfNat? value with
  | none => fault .escapeHexInvalid (s.spanFrom first)
  | some c => pure (.literal ⟨s.spanFrom start, c, digits = 2⟩)

/-- Reads the digits of an escape between braces. -/
def bracedHexEscape (start : Nat) : Scan Ast := do
  let brace := (← get).pos
  let (digits, s) := (← get).bumpSpaced.takeAllSpaced isHexDigit
  match s.current? with
  | none => fault .escapeUnexpectedEnd (s.spanFrom brace)
  | some '}' =>
    let after := s.bumpSpaced
    if digits.isEmpty then fault .escapeHexEmpty (after.spanFrom brace)
    else
      match charOfNat? (hexValue digits) with
      | none => fault .escapeHexInvalid (s.spanFrom (brace + 1))
      | some c => do
        set after
        pure (.literal ⟨after.spanFrom start, c, false⟩)
  | some _ => fault .escapeHexInvalidDigit s.charSpan

/-- Reads an escape with the hexadecimal code of a character, from its letter on. -/
def hexEscape (start digits : Nat) : Scan Ast := do
  let s := (← get).bumpSpaced
  set s
  match s.current? with
  | none => fault .escapeUnexpectedEnd s.here
  | some '{' => bracedHexEscape start
  | some _ => fixedHexEscape start digits

/-- The parts of a text before and after the first `sign`. -/
def cutAt? (sign : List Char) : List Char → Option (List Char × List Char)
  | [] => none
  | c :: rest =>
    if sign.isPrefixOf (c :: rest) then some ([], (c :: rest).drop sign.length)
    else (cutAt? sign rest).map fun (before, after) => (c :: before, after)

/-- What the text between the braces of a property escape asks for. -/
def PropertyQuery.ofText (text : List Char) : PropertyQuery :=
  match cutAt? ['!', '='] text <|> cutAt? [':'] text <|> cutAt? ['='] text with
  | some (name, value) => .valued (String.ofList name) (String.ofList value)
  | none => .named (String.ofList text)

/-- Reads an escape that names a Unicode property, from its letter on. -/
def propertyEscape (start : Nat) (negated : Bool) : Scan Ast := do
  let s := (← get).bumpSpaced
  match s.current? with
  | none => fault .escapeUnexpectedEnd s.here
  | some '{' =>
    let (text, s) := s.bumpSpaced.takeAllSpaced (· ≠ '}')
    if s.atEnd then fault .escapeUnexpectedEnd s.here
    else do
      set s.bump
      pure (.property (s.bump.spanFrom start) negated (.ofText text))
  | some '\\' => fault .propertyInvalid s.charSpan
  | some c => do
    set s.bumpSpaced
    pure (.property (s.bumpSpaced.spanFrom start) negated (.named (String.singleton c)))

/-- The places that can be named between braces after the escape for a word boundary. -/
def Assertion.ofWordName? (name : List Char) : Option Assertion :=
  if name = "start".toList then some .wordStart
  else if name = "end".toList then some .wordEnd
  else if name = "start-half".toList then some .wordStartHalf
  else if name = "end-half".toList then some .wordEndHalf
  else none

/-- Reads what follows the escape for a word boundary. A brace may name one side of a word; one
that does not start like a name is left to be read as a repetition. -/
def wordBoundary (start : Nat) : Scan Ast := do
  let s ← get
  if s.current? ≠ some '{' then pure (.assertion (s.spanFrom start) .wordBoundary)
  else
    let inside := s.bumpSpaced
    match inside.current? with
    | none => fault .wordBoundaryOrRepetitionUnclosed (inside.spanFrom start)
    | some c =>
      -- the reader stays at the brace, so that it can open a repetition
      if !isNameSign c then pure (.assertion (s.spanFrom start) .wordBoundary)
      else
        let (name, after) := inside.takeAllSpaced isNameSign
        if after.current? ≠ some '}' then fault .wordBoundaryUnclosed (after.spanFrom s.pos)
        else
          match Assertion.ofWordName? name with
          | none => fault .wordBoundaryUnrecognized (after.spanFrom inside.pos)
          | some kind => do
            set after.bump
            pure (.assertion (after.bump.spanFrom start) kind)
where
  isNameSign (c : Char) : Bool := c.isAlpha || c = '-'

/-- The characters that have an escape of their own. -/
def controlEscape? : Char → Option Char
  | 'a' => some '\x07'
  | 'f' => some '\x0C'
  | 't' => some '\t'
  | 'n' => some '\n'
  | 'r' => some '\r'
  | 'v' => some '\x0B'
  | _ => none

/-- The places that have an escape of their own. -/
def assertionEscape? : Char → Option Assertion
  | 'A' => some .startText
  | 'z' => some .endText
  | 'B' => some .notWordBoundary
  | '<' => some .wordStart
  | '>' => some .wordEnd
  | _ => none

/-- The classes that have an escape of their own; the capital letter is the complement. -/
def shorthandEscape? : Char → Option (Bool × Shorthand)
  | 'd' => some (false, .digit)
  | 's' => some (false, .space)
  | 'w' => some (false, .word)
  | 'D' => some (true, .digit)
  | 'S' => some (true, .space)
  | 'W' => some (true, .word)
  | _ => none

/-- Reads an escape, from the backslash on. -/
def escape : Scan Ast := do
  let start := (← get).pos
  let s := (← get).bump
  set s
  match s.current? with
  | none => fault .escapeUnexpectedEnd (s.spanFrom start)
  | some c =>
    -- digits would refer to a group, which no pattern can
    if c.isDigit then fault .backreference ⟨start, s.pos + 1⟩
    else
      match c with
      | 'x' => hexEscape start 2
      | 'u' => hexEscape start 4
      | 'U' => hexEscape start 8
      | 'p' => propertyEscape start false
      | 'P' => propertyEscape start true
      | _ => do
        let s := s.bump
        set s
        let span := s.spanFrom start
        match shorthandEscape? c with
        | some (negated, kind) => pure (.shorthand span negated kind)
        | none =>
          if isEscapable c then pure (.literal ⟨span, c, false⟩)
          else if c = 'b' then wordBoundary start
          else
            match controlEscape? c, assertionEscape? c with
            | some control, _ => pure (.literal ⟨span, control, false⟩)
            | none, some kind => pure (.assertion span kind)
            | none, none => fault .escapeUnrecognized span

/-- Reads one character or escape outside a character class; `c` is the sign that comes next. -/
def single (c : Char) : Scan Ast := do
  let s ← get
  if c = '\\' then escape
  else do
    set s.bump
    match c with
    | '.' => pure (.dot s.charSpan)
    | '^' => pure (.assertion s.charSpan .startLine)
    | '$' => pure (.assertion s.charSpan .endLine)
    | _ => pure (.literal ⟨s.charSpan, c, false⟩)

end TopologyExporter.Pattern
