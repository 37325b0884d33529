import Provision.Action.Absence
import Provision.Action.Administration
import Provision.Action.Context
import Provision.Action.Draft
import Provision.Action.Name
import Provision.Action.Run
import Provision.Command
import Provision.Command.Line
import Provision.Command.Output
import Provision.Decimal.Fixed
import Provision.Decimal.Reader
import Provision.Decimal.Shortest
import Provision.Fault
import Provision.Files
import Provision.Files.Naming
import Provision.Files.Path
import Provision.Installation
import Provision.Interview.Console
import Provision.Interview.Question
import Provision.Interview.Scripted
import Provision.Interview.Selection
import Provision.Interview.Target
import Provision.Journal
import Provision.Journal.Settings
import Provision.Journal.Writing
import Provision.Json.Fault
import Provision.Json.Reader
import Provision.Json.Writer
import Provision.Main
import Provision.Moment
import Provision.Objection
import Provision.Outcome
import Provision.Outcome.Board
import Provision.Outcome.Report
import Provision.Plan.Build
import Provision.Plan.Choices
import Provision.Plan.Demo
import Provision.Plan.Engine
import Provision.Plan.Run
import Provision.Plan.Setting
import Provision.Plan.Tree
import Provision.Preview
import Provision.Program.Arguments
import Provision.Program.Invocation
import Provision.Program.Page
import Provision.Program.Run
import Provision.Program.Sight
import Provision.Progress
import Provision.Progress.Terminal
import Provision.Project
import Provision.Project.Config
import Provision.Project.File
import Provision.Proofs.Action.AbsenceLaws
import Provision.Proofs.Action.AdminUser
import Provision.Proofs.Action.AdministrationLaws
import Provision.Proofs.Action.Bubbling
import Provision.Proofs.Action.Calls
import Provision.Proofs.Action.Chains
import Provision.Proofs.Action.Contract
import Provision.Proofs.Action.Decided
import Provision.Proofs.Action.Honest
import Provision.Proofs.Action.MessageLaws
import Provision.Proofs.Action.Rehearsed
import Provision.Proofs.Action.Twins
import Provision.Proofs.Command.LineLaws
import Provision.Proofs.Command.OutputLaws
import Provision.Proofs.Consent
import Provision.Proofs.Contained
import Provision.Proofs.DryRun
import Provision.Proofs.FailureMessage
import Provision.Proofs.Files.LookupLaws
import Provision.Proofs.Files.NamingLaws
import Provision.Proofs.Foretold
import Provision.Proofs.InstallationLaws
import Provision.Proofs.Interview.Checklists
import Provision.Proofs.Interview.Defaults
import Provision.Proofs.Interview.Exchange
import Provision.Proofs.Interview.Queue
import Provision.Proofs.Interview.Rounds
import Provision.Proofs.Interview.SelectionLaws
import Provision.Proofs.Journal.SettingsLaws
import Provision.Proofs.JournalLaws
import Provision.Proofs.Json.Ascii
import Provision.Proofs.Json.Complete
import Provision.Proofs.Json.Lexemes
import Provision.Proofs.Json.ReaderLaws
import Provision.Proofs.Json.Spelling
import Provision.Proofs.Outcome.Aggregation
import Provision.Proofs.Outcome.Akin
import Provision.Proofs.Outcome.Change
import Provision.Proofs.Outcome.Honest
import Provision.Proofs.Outcome.Lifecycle
import Provision.Proofs.Outcome.MessageLaws
import Provision.Proofs.Outcome.Pending
import Provision.Proofs.Outcome.WalkLaws
import Provision.Proofs.OutcomeLaws
import Provision.Proofs.Plan.Announcements
import Provision.Proofs.Plan.Asking
import Provision.Proofs.Plan.Attempts
import Provision.Proofs.Plan.Bracketed
import Provision.Proofs.Plan.Calls
import Provision.Proofs.Plan.Checklist
import Provision.Proofs.Plan.Compiled
import Provision.Proofs.Plan.Course
import Provision.Proofs.Plan.DemoLaws
import Provision.Proofs.Plan.Execution
import Provision.Proofs.Plan.History
import Provision.Proofs.Plan.Honest
import Provision.Proofs.Plan.HookCourse
import Provision.Proofs.Plan.HookLaws
import Provision.Proofs.Plan.MessageLaws
import Provision.Proofs.Plan.TreeLaws
import Provision.Proofs.Plan.Verdict
import Provision.Proofs.Program.Ending
import Provision.Proofs.Project.Discovery
import Provision.Proofs.Recipe.Accepted
import Provision.Proofs.Recipe.Compiling
import Provision.Proofs.Recipe.Execution
import Provision.Proofs.Recipe.Grammar
import Provision.Proofs.Recipe.History
import Provision.Proofs.Recipe.Legible
import Provision.Proofs.Recipe.LoadingLaws
import Provision.Proofs.Recipe.Missing
import Provision.Proofs.Recipe.RecordLaws
import Provision.Proofs.Recipe.RepeatOrder
import Provision.Proofs.Recipe.Repeated
import Provision.Proofs.Recipe.ReportLaws
import Provision.Proofs.Recipe.RoundTrip
import Provision.Proofs.Recipe.UnknownSkips
import Provision.Proofs.RegistryLaws
import Provision.Proofs.RunLaws
import Provision.Proofs.Runner.OwnRecord
import Provision.Proofs.Runner.Rehearsed
import Provision.Proofs.Runner.ToolLaws
import Provision.Proofs.Runner.Verdict
import Provision.Proofs.Schema.ReaderLaws
import Provision.Proofs.Schema.ReportLaws
import Provision.Proofs.SchemaLaws
import Provision.Proofs.Shell.Words
import Provision.Proofs.StageLaws
import Provision.Proofs.Terminal.ScalarLaws
import Provision.Proofs.Text.Ascii
import Provision.Proofs.Text.BlankLaws
import Provision.Proofs.Text.CaseLaws
import Provision.Proofs.Text.Infix
import Provision.Proofs.Text.Utf8Laws
import Provision.Proofs.Text.WholeLaws
import Provision.Proofs.User.DefinitionLaws
import Provision.Proofs.User.RecordTexts
import Provision.Proofs.Value.DisplayLaws
import Provision.Proofs.Value.EntriesLaws
import Provision.Recipe.Document
import Provision.Recipe.Duplicates
import Provision.Recipe.File
import Provision.Recipe.Lifecycle
import Provision.Recipe.Loading
import Provision.Recipe.Record
import Provision.Registry
import Provision.Rehearsal.Fault
import Provision.Rehearsal.Processes
import Provision.Rehearsal.Runner
import Provision.Rehearsal.Script
import Provision.Runner
import Provision.Runner.Tool
import Provision.Schema
import Provision.Schema.Problem
import Provision.Shell.Quote
import Provision.Terminal.Screen
import Provision.Terminal.Style
import Provision.Text.Blank
import Provision.Text.Bounds
import Provision.Text.Case
import Provision.Text.CaseContext
import Provision.Text.Digit
import Provision.Text.Hex
import Provision.Text.Joined
import Provision.Text.Occurs
import Provision.Text.Points
import Provision.Text.Printable
import Provision.Text.Quoted
import Provision.Text.Real
import Provision.Text.Utf8
import Provision.Text.Whole
import Provision.User.Definition
import Provision.Validation
import Provision.Value
import Provision.Value.Display
import Provision.Value.Loose
import Provision.Yaml.Atom
import Provision.Yaml.Construct
import Provision.Yaml.Datum
import Provision.Yaml.Implicit
import Provision.Yaml.Node
import Provision.Yaml.Scan
import Provision.Yaml.Tag
import Provision.Yaml.Token
