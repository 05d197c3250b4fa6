import TopologyExporter.Metric.Error
import TopologyExporter.Metric.Fingerprint
import TopologyExporter.Metric.Name
import TopologyExporter.Text.Labels

/-!
# Descriptors

What is fixed about a metric before it has values: its name, its help text, the labels that are the
same for all its samples, and the names of those that differ.
-/

namespace TopologyExporter

/-- The description of a metric. -/
structure Descriptor where
  name : String
  help : String
  constLabels : Labels
  variableLabels : List String
deriving Repr, DecidableEq, Inhabited

namespace Descriptor

/-- Refuses names of constant labels that are none. -/
def checkConstLabels : List (String × String) → Except MetricError Unit
  | [] => .ok ()
  | (name, _) :: rest =>
    if isLabelName name then checkConstLabels rest else .error (.invalidLabel name)

/-- Refuses names of variable labels that are none. -/
def checkVariableLabels : List String → Except MetricError Unit
  | [] => .ok ()
  | name :: rest =>
    if isLabelName name then checkVariableLabels rest else .error (.invalidLabel name)

/-- The description of a metric, if there can be such a metric. -/
def make (name help : String) (constLabels : Labels) (variableLabels : List String) :
    Except MetricError Descriptor :=
  if help = "" then .error .emptyHelp
  else if !isMetricName name then .error (.invalidName name)
  else do
    checkConstLabels constLabels.entries
    checkVariableLabels variableLabels
    pure ⟨name, help, constLabels, variableLabels⟩

/-- What no two descriptors of a registry share: the name with the values of the constant labels. -/
def identity (d : Descriptor) : List String := d.name :: d.constLabels.entries.map Prod.snd

/-- The names of all labels in order; those that vary are marked. -/
def labelNames (d : Descriptor) : List String :=
  -- the mark is no letter, so a varying name never equals a constant one
  ((d.constLabels.entries.map Prod.fst) ++ d.variableLabels.map ("$" ++ ·)).mergeSort (· ≤ ·)

/-- What all descriptors of one name share: the help text and the names of the labels. -/
def shape (d : Descriptor) : List String := d.help :: d.labelNames

end Descriptor

/-! ## In messages -/

/-- A byte of a text in the notation of messages. -/
def showByte (b : UInt8) : List Char :=
  match Text.byteChar b with
  | '\n' => ['\\', 'n']
  | '\r' => ['\\', 'r']
  | '\t' => ['\\', 't']
  | '"' => ['\\', '"']
  | '\\' => ['\\', '\\']
  | c =>
    if 0x20 ≤ b ∧ b ≤ 0x7E then [c]
    else
      let digit (n : Nat) : Char := Char.ofNat ('0'.toNat + n % 8)
      ['\\', digit (b.toNat / 64), digit (b.toNat / 8), digit b.toNat]

/-- A text in the notation of messages: between quotes, bytes beyond ASCII in octal. -/
def showText (s : String) : String :=
  String.ofList ('"' :: ((Text.utf8 s).flatMap showByte ++ ['"']))

/-- A label in the notation of messages. -/
def showLabel (label : String × String) : String :=
  "name: " ++ showText label.1 ++ " value: " ++ showText label.2

namespace Descriptor

/-- A descriptor in the notation of messages. -/
def render (d : Descriptor) : String :=
  "Desc \x7b fq_name: " ++ Text.quoted d.name ++ ", help: " ++ Text.quoted d.help ++
    ", const_label_pairs: [" ++ ", ".intercalate (d.constLabels.entries.map showLabel) ++
    "], variable_labels: " ++ Text.quotedList d.variableLabels ++
    ", id: " ++ toString (fingerprint d.identity) ++
    ", dim_hash: " ++ toString (fingerprint d.shape) ++ " \x7d"

end Descriptor

end TopologyExporter
