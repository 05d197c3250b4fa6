import TopologyExporter.Pattern.Fault
import TopologyExporter.Text.Blank

/-!
# Reading a pattern

The state of a reader of patterns: what is left of the text, where it stands, and the names of the
groups seen so far. In the spaced form of patterns (`ignoreBlank`) blanks and comments from `#` to
the end of the line mean nothing; `bumpSpaced` steps over them.
-/

namespace TopologyExporter.Pattern

/-- A reader standing before `rest`, `pos` characters into the pattern. -/
structure Scanner where
  rest : List Char
  pos : Nat
  ignoreBlank : Bool
  names : List (String × Span)
deriving Inhabited

namespace Scanner

/-- A reader at the start of a pattern. -/
def ofString (pattern : String) : Scanner := ⟨pattern.toList, 0, false, []⟩

/-- The next character. -/
def current? (s : Scanner) : Option Char := s.rest.head?

/-- Whether the pattern has been read to its end. -/
def atEnd (s : Scanner) : Bool := s.rest.isEmpty

/-- Steps over at most `n` characters. -/
def skip (n : Nat) (s : Scanner) : Scanner :=
  { s with rest := s.rest.drop n, pos := s.pos + min n s.rest.length }

/-- Steps over one character. -/
def bump (s : Scanner) : Scanner := s.skip 1

/-- How many characters at the front are blanks or belong to comments. -/
def blankLength (inComment : Bool) : List Char → Nat
  | [] => 0
  | c :: rest =>
    if inComment then blankLength (c ≠ '\n') rest + 1
    else if Text.isBlank c then blankLength false rest + 1
    else if c = '#' then blankLength true rest + 1
    else 0

/-- In the spaced form, steps over blanks and comments. -/
def skipBlank (s : Scanner) : Scanner :=
  if s.ignoreBlank then s.skip (blankLength false s.rest) else s

/-- Steps over one character and what means nothing after it. -/
def bumpSpaced (s : Scanner) : Scanner := s.bump.skipBlank

/-- The character after the next one. -/
def peek? (s : Scanner) : Option Char := s.rest.tail.head?

/-- The first character that is neither blank nor the sign that starts a comment. -/
def firstMark (inComment : Bool) : List Char → Option Char
  | [] => none
  | c :: rest =>
    if Text.isBlank c then firstMark inComment rest
    else if !inComment && c = '#' then firstMark true rest
    else some c

/-- The character after the next one; in the spaced form the first that counts, if there is any. -/
def peekSpaced? (s : Scanner) : Option Char :=
  if s.ignoreBlank then firstMark false s.rest.tail <|> s.peek? else s.peek?

/-- The empty stretch at the reader. -/
def here (s : Scanner) : Span := ⟨s.pos, s.pos⟩

/-- The stretch of the next character. -/
def charSpan (s : Scanner) : Span := ⟨s.pos, s.pos + 1⟩

/-- The stretch from `start` to the reader. -/
def spanFrom (start : Nat) (s : Scanner) : Span := ⟨start, s.pos⟩

/-- Steps over `sign` if it comes next. -/
def accept? (sign : String) (s : Scanner) : Option Scanner :=
  if sign.toList.isPrefixOf s.rest then some (s.skip sign.length) else none

/-- Takes characters as long as they satisfy `p`, stepping over what means nothing between them.
At most `fuel` are taken. -/
def takeSpaced (p : Char → Bool) : Nat → Scanner → List Char × Scanner
  | 0, s => ([], s)
  | fuel + 1, s =>
    match s.current? with
    | some c =>
      if p c then
        let (cs, s) := takeSpaced p fuel s.bumpSpaced
        (c :: cs, s)
      else ([], s)
    | none => ([], s)

/-- Takes all characters from here on that satisfy `p`. -/
def takeAllSpaced (p : Char → Bool) (s : Scanner) : List Char × Scanner :=
  takeSpaced p s.rest.length s

end Scanner

/-- Reading that may find a fault. -/
abbrev Scan := StateT Scanner (Except Fault)

/-- Refuses the pattern for a cause at a stretch of its text. -/
def fault {α : Type} (cause : Cause) (span : Span) : Scan α := throw ⟨cause, span, none⟩

/-- Refuses the pattern for a cause that involves an earlier stretch of its text. -/
def clash {α : Type} (cause : Cause) (span earlier : Span) : Scan α :=
  throw ⟨cause, span, some earlier⟩

end TopologyExporter.Pattern
