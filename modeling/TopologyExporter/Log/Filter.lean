import TopologyExporter.Log.Event
import TopologyExporter.Number.Reading
import TopologyExporter.Text.Blank
import TopologyExporter.Unicode.Letter

/-!
# Log filters

Which events are shown: directives give the greatest verbosity for the parts of the program that
events come from. Of the directives for a part the one that names it most closely counts.

* `LogFilter.parse?` reads directives with commas between them;
* `LogFilter.shows` says whether an event is shown.
-/

namespace TopologyExporter

/-- A directive: the part of the program it is for, or all of it, and the greatest verbosity, where
errors have one, warnings two and information three. A directive for spans alone shows nothing. -/
structure LogDirective where
  target : Option String
  verbosity : Nat
  spansOnly : Bool
deriving Repr, DecidableEq, Inhabited

/-- The verbosity of a level. -/
def LogLevel.verbosity : LogLevel → Nat
  | .warn => 2
  | .info => 3

namespace LogDirective

/-- The names of verbosities. -/
def names : List (String × Nat) :=
  [("off", 0), ("error", 1), ("warn", 2), ("info", 3), ("debug", 4), ("trace", 5)]

/-- The greatest verbosity. -/
def everything : Nat := 5

/-- The verbosity of a text: its name in any case or its number; the empty text stands for
errors. -/
def verbosity? (text : List Char) : Option Nat :=
  let digits :=
    match text with
    | '+' :: rest => rest
    | cs => cs
  match (decimal? digits).filter (· ≤ everything) with
  | some n => some n
  | none =>
    if text.isEmpty then some 1
    else (names.find? (·.1 = String.ofList (text.map Char.toLower))).map Prod.snd

/-- The verbosity after an equals sign; nothing there stands for everything. -/
def levelPart? (text : List Char) : Option Nat :=
  if text.isEmpty then some everything else verbosity? text

/-- What may follow a span: an end, or a verbosity. -/
def afterSpan? (target : Option String) : List Char → Option LogDirective
  | [] => some ⟨target, everything, true⟩
  | '=' :: rest => (levelPart? rest).map fun n => ⟨target, n, true⟩
  | _ => none

/-- A span between brackets, and what follows it. -/
def span? (target : Option String) (text : List Char) : Option LogDirective :=
  match text.dropWhile (· ≠ ']') with
  | [] => none
  | _ :: rest => afterSpan? target rest

/-- Whether a directive can begin with a character, if it does not begin with a span. -/
def canBegin (c : Char) : Bool :=
  c = '-' || c = ':' || c = '_' || c.isAlphanum ||
    (0x80 ≤ c.toNat &&
      (Unicode.alphabetic.contains c.toNat || Unicode.numeric.contains c.toNat))

/-- Reads a directive: a verbosity, a part of the program, or both with an equals sign. -/
def parse? (text : List Char) : Option LogDirective :=
  match text with
  | [] => none
  | '[' :: rest => span? none rest
  | c :: _ =>
    if !canBegin c then none
    else
      let front := text.takeWhile fun c => c ≠ '=' && c ≠ '['
      match text.drop front.length with
      | [] =>
        -- a word alone is a verbosity if it can be one, and else a part of the program
        match verbosity? front with
        | some n => some ⟨none, n, false⟩
        | none => some ⟨some (String.ofList front), everything, false⟩
      | '=' :: rest => (levelPart? rest).map fun n => ⟨some (String.ofList front), n, false⟩
      | _ :: rest => span? (some (String.ofList front)) rest

/-- Whether the directive is for a part of the program. -/
def covers (d : LogDirective) (part : String) : Bool :=
  !d.spansOnly && d.target.all fun target => target.toList.isPrefixOf part.toList

/-- How closely the directive names a part. -/
def closeness (d : LogDirective) : Nat := d.target.elim 0 fun target => target.utf8ByteSize + 1

end LogDirective

/-- The directives that decide which events are shown. -/
structure LogFilter where
  directives : List LogDirective
deriving Repr, DecidableEq, Inhabited

namespace LogFilter

/-- The environment variable with the directives. -/
def variableName : String := "RUST_LOG"

/-- Shows everything of a verbosity. -/
def upTo (verbosity : Nat) : LogFilter := ⟨[⟨none, verbosity, false⟩]⟩

/-- Reads directives with commas between them. Without any, only errors are shown. -/
def parse? (text : String) : Option LogFilter := do
  let pieces := (Text.splitChars ',' text.toList).filter (!·.isEmpty)
  let directives ← pieces.mapM fun piece => LogDirective.parse? (Text.trimChars piece)
  pure (if directives.isEmpty then upTo 1 else ⟨directives⟩)

/-- The filter of an environment. Directives that cannot be read count as none. -/
def ofEnvironment (environment : List (String × String)) : LogFilter :=
  (((environment.find? (·.1 = variableName)).map Prod.snd).bind parse?).getD (upTo 3)

/-- The directive that counts for a part of the program: the closest, and of several the last. -/
def directive? (f : LogFilter) (part : String) : Option LogDirective :=
  (f.directives.filter (·.covers part)).foldl
    (fun best d =>
      match best with
      | none => some d
      | some b => if b.closeness ≤ d.closeness then some d else some b)
    none

/-- Whether an event of a part of the program is shown. -/
def shows (f : LogFilter) (part : String) (event : LogEvent) : Bool :=
  (f.directive? part).any fun d => event.level.verbosity ≤ d.verbosity

end LogFilter

end TopologyExporter
