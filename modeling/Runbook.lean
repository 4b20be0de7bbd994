import Runbook.Bindings
import Runbook.Capture
import Runbook.Console.Application
import Runbook.Console.CommandLine
import Runbook.Console.Failure
import Runbook.Console.Interaction
import Runbook.Console.Narration
import Runbook.Console.Running
import Runbook.Console.ScheduleCommands
import Runbook.Console.Settings
import Runbook.Console.Terminal
import Runbook.Console.Usage
import Runbook.Cron.Basic
import Runbook.Cron.Field
import Runbook.Cron.Reader
import Runbook.Cron.Scan
import Runbook.Daemon
import Runbook.Decimal.Reading
import Runbook.Decimal.Shortest
import Runbook.Document
import Runbook.Duration
import Runbook.FilePath
import Runbook.History.Basic
import Runbook.History.Codec
import Runbook.History.Store
import Runbook.Inspection.Basic
import Runbook.Inspection.Console
import Runbook.Inspection.Mask
import Runbook.Inspection.Rehearsal
import Runbook.Inspection.Run
import Runbook.Inspection.Scheduler
import Runbook.Inspection.Workflow
import Runbook.Json.Number
import Runbook.Json.Reader
import Runbook.Json.Token
import Runbook.Json.Writer
import Runbook.Main
import Runbook.Pattern.Basic
import Runbook.Pattern.Meaning
import Runbook.Pattern.Property
import Runbook.Pattern.Reader
import Runbook.Pattern.Search
import Runbook.Pattern.Size
import Runbook.Pattern.Syntax
import Runbook.Program
import Runbook.Proofs.Acceptance
import Runbook.Proofs.Contract
import Runbook.Proofs.DecimalText
import Runbook.Proofs.FlatFiles
import Runbook.Proofs.GuardReading
import Runbook.Proofs.HistoryGrammar
import Runbook.Proofs.HistoryText
import Runbook.Proofs.JsonText
import Runbook.Proofs.JsonPlaces
import Runbook.Proofs.YamlStepLines
import Runbook.Proofs.JsonTokens
import Runbook.Proofs.ParallelMerge
import Runbook.Proofs.ParallelTrace
import Runbook.Proofs.RecordText
import Runbook.Proofs.Refusal
import Runbook.Proofs.RepairFrame
import Runbook.Proofs.RepairLaws
import Runbook.Proofs.StoreFiles
import Runbook.Proofs.ScheduleText
import Runbook.Proofs.StepTrace
import Runbook.Proofs.StoreContract
import Runbook.Proofs.StoreRefinement
import Runbook.Proofs.StoreThreads
import Runbook.Proofs.TimestampText
import Runbook.Proofs.Trace
import Runbook.Proofs.Weaving
import Runbook.Query.Basic
import Runbook.Query.Evaluation
import Runbook.Query.Reader
import Runbook.Record
import Runbook.Run.Backoff
import Runbook.Run.Command
import Runbook.Run.Execution
import Runbook.Run.LineBuffer
import Runbook.Run.Rehearsal
import Runbook.Run.Step
import Runbook.Run.Task
import Runbook.Run.Workflow
import Runbook.Schedule.Adding
import Runbook.Schedule.Basic
import Runbook.Schedule.Definition
import Runbook.Schedule.Error
import Runbook.Schedule.Store
import Runbook.Scheduler.Basic
import Runbook.Scheduler.Rehearsal
import Runbook.Shell.Arguments
import Runbook.Shell.Arithmetic
import Runbook.Shell.Builtin
import Runbook.Shell.Call
import Runbook.Shell.Evaluation
import Runbook.Shell.Expansion
import Runbook.Shell.Format
import Runbook.Shell.Glob
import Runbook.Shell.Job
import Runbook.Shell.Launch
import Runbook.Shell.Lexicon
import Runbook.Shell.Lookup
import Runbook.Shell.OctetMap
import Runbook.Shell.Octets
import Runbook.Shell.Reader
import Runbook.Shell.Redirection
import Runbook.Shell.Script
import Runbook.Shell.Session
import Runbook.Shell.Test
import Runbook.Shell.Utility
import Runbook.StatePaths
import Runbook.System.Call
import Runbook.System.FileTree
import Runbook.System.Machine
import Runbook.Template
import Runbook.Text.Age
import Runbook.Text.Blank
import Runbook.Text.Boundary
import Runbook.Text.Category
import Runbook.Text.CodeSet
import Runbook.Text.Folding
import Runbook.Text.Line
import Runbook.Text.Property
import Runbook.Text.Script
import Runbook.Text.Utf8
import Runbook.Time.Civil
import Runbook.Time.Reading
import Runbook.Time.Timestamp
import Runbook.Time.Zone
import Runbook.Time.ZoneTable
import Runbook.Toml.Reader
import Runbook.Toml.Scalar
import Runbook.Toml.Table
import Runbook.Word
import Runbook.Workflow.Basic
import Runbook.Workflow.Checked
import Runbook.Workflow.ConditionCheck
import Runbook.Workflow.Error
import Runbook.Workflow.Evaluation
import Runbook.Workflow.Reader
import Runbook.Workflow.Repair
import Runbook.Workflow.StepCheck
import Runbook.Workflow.StepLines
import Runbook.Workspace
import Runbook.Yaml.Cursor
import Runbook.Yaml.Node
import Runbook.Yaml.Reader
import Runbook.Yaml.Scalar
import Runbook.Yaml.Scheme
import Runbook.Yaml.Token
import Runbook.Proofs.Soundness
import Runbook.Proofs.Compositionality
import Runbook.Proofs.BranchIsolation
import Runbook.Proofs.OutcomeAccount
import Runbook.Proofs.FailFast
import Runbook.Proofs.Relocation
import Runbook.Proofs.SkippedSteps
import Runbook.Proofs.Unattended
import Runbook.Proofs.CommandLedger
import Runbook.Proofs.BindingGrowth
import Runbook.Proofs.FileMoves
import Runbook.Proofs.FileNames
import Runbook.Proofs.FilePlaces
import Runbook.Proofs.SchedulingRules
import Runbook.Proofs.DaemonFiles
import Runbook.Proofs.StartOutcome
import Runbook.Proofs.ShutdownCourse
import Runbook.Proofs.DaemonView
import Runbook.Proofs.DaemonProcesses
import Runbook.Proofs.OneDaemon
import Runbook.Proofs.StoreReadiness
import Runbook.Proofs.Preparation
import Runbook.Proofs.Adding
import Runbook.Proofs.AddedInTurn
import Runbook.Proofs.Registration
import Runbook.Proofs.TryLevels
import Runbook.Proofs.CapturedOnSuccess
import Runbook.Proofs.Utf8Text
import Runbook.Proofs.StreamedLines
import Runbook.Proofs.CronFields
import Runbook.Proofs.WeekdayNumbers
import Runbook.Proofs.CapturedText
import Runbook.Proofs.TemplatePieces
import Runbook.Proofs.ConditionLogic
import Runbook.Proofs.TextCuts
import Runbook.Proofs.BoundValues
import Runbook.Proofs.MarkedText
import Runbook.Proofs.RetryDelays
import Runbook.Proofs.OffsetZones
import Runbook.Proofs.WeekdayArithmetic
import Runbook.Proofs.DaemonTrust
import Runbook.Proofs.ScheduledRun
import Runbook.Proofs.PickedOptions
import Runbook.Proofs.ProperTrees
import Runbook.Proofs.HistoryFiles
import Runbook.Proofs.NewestFirst
