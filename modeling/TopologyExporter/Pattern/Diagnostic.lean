import TopologyExporter.Pattern.Fault
import TopologyExporter.Text.Blank

/-!
# Diagnostics

How a fault in a pattern is shown: the pattern with carets under the text at fault, then the
sentence for the cause. A pattern of one line is indented by four blanks; one of several lines
stands between rulers, each line after its number.
-/

namespace TopologyExporter.Pattern

/-- A place in a text by line and column, both from 1. -/
structure Position where
  line : Nat
  column : Nat
deriving Repr, DecidableEq, Inhabited

/-- The place of the character with number `offset`. -/
def Position.ofOffset (text : List Char) (offset : Nat) : Position :=
  let before := text.take offset
  let lineStart := (before.reverse.takeWhile (· ≠ '\n')).length
  ⟨(before.filter (· = '\n')).length + 1, lineStart + 1⟩

/-- A stretch of text by the places of its ends. -/
structure Stretch where
  start : Position
  stop : Position
deriving Repr, DecidableEq, Inhabited

namespace Stretch

/-- The places of the ends of a span. -/
def ofSpan (text : List Char) (span : Span) : Stretch :=
  ⟨.ofOffset text span.start, .ofOffset text span.stop⟩

/-- Whether both ends are on one line. -/
def isOneLine (s : Stretch) : Bool := s.start.line = s.stop.line

/-- The carets for stretches of one line, given in order; `column` of them is already written. -/
def carets (column : Nat) : List Stretch → List Char
  | [] => []
  | s :: rest =>
    let blanks := s.start.column - 1 - column
    let width := max 1 (s.stop.column - s.start.column)
    List.replicate blanks ' ' ++ List.replicate width '^' ++
      carets (column + blanks + width) rest

/-- The note on a stretch of several lines. -/
def note (s : Stretch) : String :=
  "on line " ++ toString s.start.line ++ " (column " ++ toString s.start.column ++
    ") through line " ++ toString s.stop.line ++ " (column " ++ toString (s.stop.column - 1) ++ ")"

end Stretch

/-- The lines of a pattern, without the carriage returns that end some of them. -/
def patternLines (text : List Char) : List (List Char) :=
  match (Text.splitChars '\n' text).reverse with
  | [] => []
  | last :: before =>
    let before := before.map fun line =>
      if line.getLast? = some '\r' then line.dropLast else line
    -- a line feed at the very end starts no line
    if last.isEmpty then before.reverse else (last :: before).reverse

/-- The spans of a fault, in the order of the text. -/
def Fault.spans (f : Fault) : List Span :=
  match f.earlier with
  | none => [f.span]
  | some earlier =>
    if earlier.start < f.span.start ∨
        (earlier.start = f.span.start ∧ earlier.stop < f.span.stop) then [earlier, f.span]
    else [f.span, earlier]

/-- The lines of the pattern, each below `label number`, with the carets that belong to it. -/
def notatedLines (padding : Nat) (label : Nat → List Char) (stretches : List Stretch) :
    Nat → List (List Char) → List Char
  | _, [] => []
  | number, line :: rest =>
    let here := stretches.filter fun s => s.isOneLine && s.start.line == number
    let notes :=
      if here.isEmpty then []
      else List.replicate padding ' ' ++ Stretch.carets 0 here ++ ['\n']
    label number ++ line ++ '\n' ::
      (notes ++ notatedLines padding label stretches (number + 1) rest)

/-- A number with blanks before it up to a width. -/
def paddedNumber (width n : Nat) : List Char :=
  let digits := (toString n).toList
  List.replicate (width - digits.length) ' ' ++ digits

/-- The text that shows a fault in a pattern. -/
def Fault.render (pattern : String) (f : Fault) : String :=
  let text := pattern.toList
  let stretches := f.spans.map (Stretch.ofSpan text)
  let width := (toString (Text.splitChars '\n' text).length).length
  let body :=
    if text.contains '\n' then
      let ruler := List.replicate 79 '~' ++ ['\n']
      let notes := (stretches.filter (!·.isOneLine)).map Stretch.note
      let noted := if notes.isEmpty then "" else "\n".intercalate notes ++ "\n"
      ruler ++
        notatedLines (width + 2) (fun n => paddedNumber width n ++ [':', ' ']) stretches 1
          (patternLines text) ++
        ruler ++ noted.toList
    else notatedLines 4 (fun _ => List.replicate 4 ' ') stretches 1 (patternLines text)
  "regex parse error:\n" ++ String.ofList body ++ "error: " ++ f.cause.message

end TopologyExporter.Pattern
