import TopologyExporter.Collector.Basic
import TopologyExporter.Collector.Call
import TopologyExporter.Collector.Deployments
import TopologyExporter.Collector.Error
import TopologyExporter.Collector.Gauges
import TopologyExporter.Collector.ServiceDiscovery
import TopologyExporter.Fetch.Error
import TopologyExporter.Fetch.File
import TopologyExporter.Files.Error
import TopologyExporter.Files.Path
import TopologyExporter.Files.Staged
import TopologyExporter.Files.Tree
import TopologyExporter.Filter.Collector
import TopologyExporter.Filter.Error
import TopologyExporter.Filter.Process
import TopologyExporter.Filter.Target
import TopologyExporter.Filter.Zone
import TopologyExporter.Health.Answer
import TopologyExporter.Health.Registry
import TopologyExporter.Health.Status
import TopologyExporter.Json.Decoder
import TopologyExporter.Json.Fault
import TopologyExporter.Json.Lexis
import TopologyExporter.Json.Skip
import TopologyExporter.Json.Value
import TopologyExporter.Log.Event
import TopologyExporter.Log.Filter
import TopologyExporter.Loop.Cycle
import TopologyExporter.Loop.Fetcher
import TopologyExporter.Loop.Session
import TopologyExporter.Loop.Timetable
import TopologyExporter.Main
import TopologyExporter.Metric.Descriptor
import TopologyExporter.Metric.Error
import TopologyExporter.Metric.Exporter
import TopologyExporter.Metric.Exposition
import TopologyExporter.Metric.Family
import TopologyExporter.Metric.Fingerprint
import TopologyExporter.Metric.Identity
import TopologyExporter.Metric.Name
import TopologyExporter.Metric.Registry
import TopologyExporter.Number.Binary64
import TopologyExporter.Number.Reading
import TopologyExporter.Number.Shortest
import TopologyExporter.Pattern.Basic
import TopologyExporter.Pattern.Bracket
import TopologyExporter.Pattern.Compiled
import TopologyExporter.Pattern.Diagnostic
import TopologyExporter.Pattern.Escape
import TopologyExporter.Pattern.Expr
import TopologyExporter.Pattern.Fault
import TopologyExporter.Pattern.Matching
import TopologyExporter.Pattern.Meaning
import TopologyExporter.Pattern.Parser
import TopologyExporter.Pattern.Program
import TopologyExporter.Pattern.Property
import TopologyExporter.Pattern.Scanner
import TopologyExporter.Pattern.Size
import TopologyExporter.Pattern.Syntax
import TopologyExporter.Proofs.Collector.Abandonment
import TopologyExporter.Proofs.Collector.Backing
import TopologyExporter.Proofs.Collector.ServiceDiscovery
import TopologyExporter.Proofs.Files.Matching
import TopologyExporter.Proofs.Files.Outside
import TopologyExporter.Proofs.Files.Staged
import TopologyExporter.Proofs.Files.Tree
import TopologyExporter.Proofs.Files.Way
import TopologyExporter.Proofs.Files.Workshop
import TopologyExporter.Proofs.Scrape.Account
import TopologyExporter.Proofs.Scrape.Chronicle
import TopologyExporter.Proofs.Scrape.History
import TopologyExporter.Proofs.Scrape.Jobs
import TopologyExporter.Proofs.Scrape.Order
import TopologyExporter.Proofs.Scrape.Publication
import TopologyExporter.Proofs.Scrape.Task
import TopologyExporter.Proofs.Scrape.Turns
import TopologyExporter.Proofs.Settings.Collectors
import TopologyExporter.Proofs.Text.Keyed
import TopologyExporter.Scrape.Latest
import TopologyExporter.Scrape.Orchestrator
import TopologyExporter.Scrape.Report
import TopologyExporter.Scrape.Run
import TopologyExporter.Scrape.Task
import TopologyExporter.Service.Endpoint
import TopologyExporter.Service.Exporter
import TopologyExporter.Service.Launch
import TopologyExporter.Settings.Basic
import TopologyExporter.Settings.Collectors
import TopologyExporter.Settings.Error
import TopologyExporter.Settings.Variable
import TopologyExporter.Sink.Channel
import TopologyExporter.Target.Group
import TopologyExporter.Text.Blank
import TopologyExporter.Text.Keyed
import TopologyExporter.Text.Labels
import TopologyExporter.Text.Quoted
import TopologyExporter.Text.Utf8
import TopologyExporter.Time.Duration
import TopologyExporter.Topology.Coding
import TopologyExporter.Topology.Model
import TopologyExporter.Unicode.Age
import TopologyExporter.Unicode.CaseFold
import TopologyExporter.Unicode.Category
import TopologyExporter.Unicode.CharSet
import TopologyExporter.Unicode.Folding
import TopologyExporter.Unicode.GraphemeBreak
import TopologyExporter.Unicode.Letter
import TopologyExporter.Unicode.NamedRanges
import TopologyExporter.Unicode.Script
import TopologyExporter.Unicode.ScriptExtension
import TopologyExporter.Unicode.SentenceBreak
import TopologyExporter.Unicode.Trait
import TopologyExporter.Unicode.WordBreak
import TopologyExporter.Proofs.Outcome
import TopologyExporter.Proofs.Health.Registry
import TopologyExporter.Proofs.Scrape.Progress
import TopologyExporter.Proofs.Health.Probes
import TopologyExporter.Proofs.Health.Interleaving
import TopologyExporter.Proofs.Loop.Records
import TopologyExporter.Proofs.Files.Waypoints
import TopologyExporter.Proofs.Scrape.Custody
import TopologyExporter.Proofs.Scrape.Solo
import TopologyExporter.Proofs.Scrape.Course
import TopologyExporter.Proofs.Scrape.Isolation
import TopologyExporter.Proofs.Scrape.Deadline
import TopologyExporter.Proofs.Loop.Cycle
import TopologyExporter.Proofs.Loop.Schedule
import TopologyExporter.Proofs.Files.Reading
import TopologyExporter.Proofs.Loop.Skipping
import TopologyExporter.Proofs.Scrape.Landing
import TopologyExporter.Proofs.Loop.Targets
import TopologyExporter.Proofs.Text.Utf8
import TopologyExporter.Proofs.Json.Text
import TopologyExporter.Proofs.Json.Number
import TopologyExporter.Proofs.Json.Reading
import TopologyExporter.Proofs.Text.Labels
import TopologyExporter.Proofs.Json.Coding
import TopologyExporter.Proofs.Collector.Replacement
import TopologyExporter.Proofs.Metric.Descriptor
import TopologyExporter.Proofs.Metric.Counters
import TopologyExporter.Proofs.Metric.Gathering
import TopologyExporter.Proofs.Metric.Registration
import TopologyExporter.Proofs.Metric.Labelled
import TopologyExporter.Proofs.Collector.Described
import TopologyExporter.Proofs.Scrape.Described
import TopologyExporter.Proofs.Service.Exposition
import TopologyExporter.Proofs.Sink.Session
import TopologyExporter.Proofs.Filter.Entries
import TopologyExporter.Proofs.Target.Positions
import TopologyExporter.Proofs.Target.Splitting
import TopologyExporter.Proofs.Scrape.Namesakes
import TopologyExporter.Proofs.Settings.Numbers
import TopologyExporter.Proofs.Text.Blank
import TopologyExporter.Proofs.Metric.Construction
import TopologyExporter.Proofs.Filter.Construction
import TopologyExporter.Proofs.Settings.SetUp
import TopologyExporter.Proofs.Number.Exact
import TopologyExporter.Proofs.Collector.Deployments
import TopologyExporter.Proofs.Json.Escapes
import TopologyExporter.Proofs.Json.Skipping
import TopologyExporter.Proofs.Json.Following
import TopologyExporter.Proofs.Topology.Spelling
