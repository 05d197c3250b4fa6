import TopologyExporter.Metric.Identity
import TopologyExporter.Number.Reading
import TopologyExporter.Settings.Error
import TopologyExporter.Settings.Variable
import TopologyExporter.Time.Duration

/-!
# Settings

How the exporter is set up, read from environment variables.

* `Settings.load` reads the settings, of which every one has a default;
* `Settings.number` says which texts are numbers.
-/

namespace TopologyExporter

/-- The settings of the exporter. Times are in seconds; lists are texts with commas. -/
structure Settings where
  space : String
  environment : String
  directorName : String
  directorUuid : String
  port : Nat
  targetsFile : String
  zones : String
  processes : String
  collectors : String
  interval : Nat
  limit : Nat
  topologyFile : String
deriving Repr, DecidableEq, Inhabited

namespace Settings

/-- The value of a text as a number of 64 bits: decimal digits, perhaps after a plus sign, or a word
for yes, which is one, or for no, which is zero. -/
def number? (value : String) : Option Nat :=
  let cs := value.toList
  let word := String.ofList (cs.map Char.toLower)
  -- words first: they count as numbers too
  if ["true", "on", "yes"].contains word then some 1
  else if ["false", "off", "no"].contains word then some 0
  else
    let digits :=
      match cs with
      | '+' :: rest => rest
      | cs => cs
    (decimal? digits).filter (· < Nat.pow 2 64)

/-- The text of a setting. -/
def text (found : Keyed String Entry) (key default : String) : Except SettingsError String :=
  match found.get? key with
  | none => .ok default
  | some (.text value) => .ok value
  | some .map => .error (.map key "a string")
  | some .list => .error (.list key "a string")

/-- The number of a setting. -/
def number (found : Keyed String Entry) (key : String) (default : Nat) :
    Except SettingsError Nat :=
  match found.get? key with
  | none => .ok default
  | some (.text value) =>
    match number? value with
    | some n => .ok n
    | none => .error (.notNumber key value)
  | some .map => .error (.map key "an integer")
  | some .list => .error (.list key "an integer")

/-- The number of a setting that fits into 16 bits. -/
def portNumber (found : Keyed String Entry) (key : String) (default : Nat) :
    Except SettingsError Nat := do
  let n ← number found key default
  if n < Nat.pow 2 16 then .ok n else .error (.tooGreat key n)

/-- The settings of some entries, not yet checked. -/
def ofEntries (found : Keyed String Entry) : Except SettingsError Settings := do
  pure {
    space := ← text found "metrics_namespace" "bosh"
    environment := ← text found "metrics_environment" ""
    directorName := ← text found "bosh_name" ""
    directorUuid := ← text found "bosh_uuid" ""
    port := ← portNumber found "listen_port" 9190
    targetsFile := ← text found "sd_filename" "bosh_target_groups.json"
    zones := ← text found "filter_azs" ""
    processes := ← text found "filter_processes" ""
    collectors := ← text found "filter_collectors" ""
    interval := ← number found "scrape_interval_secs" 30
    limit := ← number found "collector_timeout_secs" 10
    topologyFile := ← text found "topology_file" "topology.json" }

/-- The settings of an environment. -/
def load (environment : Environment) : Except SettingsError Settings := do
  let s ← ofEntries (entries environment)
  -- of two zeros the interval is the one that is told
  if s.interval = 0 then .error (.zero "scrape_interval_secs")
  else if s.limit = 0 then .error (.zero "collector_timeout_secs")
  else .ok s

/-- The director that the metrics are about. -/
def identity (s : Settings) : DirectorIdentity :=
  ⟨s.environment, s.directorName, s.directorUuid⟩

/-- The time between two cycles. -/
def scrapeInterval (s : Settings) : Duration := .ofSeconds s.interval

/-- The time limit of each call of a collector. -/
def collectorLimit (s : Settings) : Duration := .ofSeconds s.limit

end Settings

end TopologyExporter
