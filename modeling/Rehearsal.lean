import Rehearsal.Agent
import Rehearsal.Agent.Json
import Rehearsal.Case.Agent
import Rehearsal.Case.Class
import Rehearsal.Case.Crew
import Rehearsal.Case.Metrics
import Rehearsal.Command.Desk
import Rehearsal.Command.Options
import Rehearsal.Command.Run
import Rehearsal.Config
import Rehearsal.Config.File
import Rehearsal.Config.Json
import Rehearsal.Crew
import Rehearsal.Decimal.Notation
import Rehearsal.Decimal.Shortest
import Rehearsal.Discovery.Discoverer
import Rehearsal.Discovery.Registry
import Rehearsal.Discovery.Source
import Rehearsal.Error
import Rehearsal.Evaluator
import Rehearsal.Expect.Content
import Rehearsal.Expect.Crew
import Rehearsal.Expect.Format
import Rehearsal.Expect.Quality
import Rehearsal.Expect.Tools
import Rehearsal.Fault
import Rehearsal.Files.Glob
import Rehearsal.Files.Path
import Rehearsal.Files.Tree
import Rehearsal.Fixture.Basic
import Rehearsal.Fixture.Instance
import Rehearsal.Fixture.Json
import Rehearsal.Fixture.Loader
import Rehearsal.Json.Codec
import Rehearsal.Json.Decoder
import Rehearsal.Json.Fault
import Rehearsal.Json.Printer
import Rehearsal.Json.Reader
import Rehearsal.Json.Record
import Rehearsal.Json.Skip
import Rehearsal.Json.Tagged
import Rehearsal.Json.Value
import Rehearsal.Log
import Rehearsal.Main
import Rehearsal.Regex.Basic
import Rehearsal.Regex.CharSet
import Rehearsal.Regex.Matching
import Rehearsal.Regex.Parser
import Rehearsal.Report.Console
import Rehearsal.Report.Html
import Rehearsal.Result.Json
import Rehearsal.Result.Outcome
import Rehearsal.Result.Summary
import Rehearsal.Runner
import Rehearsal.SortedMap
import Rehearsal.Suite
import Rehearsal.Task
import Rehearsal.Task.Json
import Rehearsal.Text.Lines
import Rehearsal.Text.Lowercase
import Rehearsal.Text.Parts
import Rehearsal.Text.Quoted
import Rehearsal.Text.Search
import Rehearsal.Time.Timestamp
import Rehearsal.Toml.Reader
import Rehearsal.Toml.Scalar
import Rehearsal.Toml.Value
import Rehearsal.Toml.Writer
import Rehearsal.Tool
import Rehearsal.Tool.Json
import Rehearsal.Unicode.CaseContext
import Rehearsal.Unicode.CaseMap
import Rehearsal.Unicode.Category
import Rehearsal.Unicode.Property
import Rehearsal.Unicode.RangeTable
import Rehearsal.Unicode.Script
import Rehearsal.Violation
import Rehearsal.Proofs.Crew.Kickoffs
import Rehearsal.Proofs.Runner.Lifecycle
import Rehearsal.Proofs.Fixture.Performing
import Rehearsal.Proofs.Fixture.History
import Rehearsal.Proofs.Fixture.Replay
import Rehearsal.Proofs.Runner.Classification
import Rehearsal.Proofs.Runner.BrokenSetUp
import Rehearsal.Proofs.Files.Leaves
import Rehearsal.Proofs.Fixture.Declared
import Rehearsal.Proofs.Discovery.Visits
import Rehearsal.Proofs.Discovery.Registered
import Rehearsal.Proofs.Fixture.Reuse
import Rehearsal.Proofs.Agent.Company
import Rehearsal.Proofs.Agent.Records
import Rehearsal.Proofs.Report.Markup
import Rehearsal.Proofs.Report.WebPage
import Rehearsal.Proofs.Report.Decoding
import Rehearsal.Proofs.Agent.Responses
import Rehearsal.Proofs.Text.Placeholders
import Rehearsal.Proofs.Crew.Interpolation
import Rehearsal.Proofs.Command.ExitCode
import Rehearsal.Proofs.Json.Layout
import Rehearsal.Proofs.Json.Tokens
import Rehearsal.Proofs.Json.ReadingBack
import Rehearsal.Proofs.Json.Decoded
import Rehearsal.Proofs.Json.Faithful
import Rehearsal.Proofs.Json.Outputs
import Rehearsal.Proofs.Fixture.Steps
import Rehearsal.Proofs.Fixture.RoundTrip
import Rehearsal.Proofs.Agent.Appending
import Rehearsal.Proofs.Text.FinalSigma
import Rehearsal.Proofs.Expect.IgnoringCase
import Rehearsal.Proofs.Crew.Completion
import Rehearsal.Proofs.Crew.Collaboration
import Rehearsal.Proofs.Expect.Messages
import Rehearsal.Proofs.Fixture.Complete
import Rehearsal.Proofs.Fixture.LatestOutput
import Rehearsal.Proofs.Fixture.Reached
import Rehearsal.Proofs.Fixture.FaultKinds
import Rehearsal.Proofs.Fixture.Staffed
import Rehearsal.Proofs.Case.Filling
import Rehearsal.Proofs.Case.Interleaving
import Rehearsal.Proofs.Case.Scenario
import Rehearsal.Proofs.SortedMap
import Rehearsal.Proofs.Case.InPlace
import Rehearsal.Proofs.Case.Operations
import Rehearsal.Proofs.Case.Failing
import Rehearsal.Proofs.Case.Rebuilding
import Rehearsal.Proofs.Case.Measures
import Rehearsal.Proofs.Result.Totals
import Rehearsal.Proofs.Text.LineEnds
import Rehearsal.Proofs.Decimal.Numerals
import Rehearsal.Proofs.Report.Verdicts
import Rehearsal.Proofs.Expect.LineByLine
import Rehearsal.Proofs.Files.Writing
