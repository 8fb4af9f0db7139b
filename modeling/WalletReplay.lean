import WalletReplay.Calendar.Moment
import WalletReplay.Chain.Client
import WalletReplay.Checkpoint.Collection
import WalletReplay.Checkpoint.File
import WalletReplay.Checkpoint.Resolve
import WalletReplay.CommandLine.Help
import WalletReplay.CommandLine.Outcome
import WalletReplay.CommandLine.Reader
import WalletReplay.CommandLine.Run
import WalletReplay.Disk.Folder
import WalletReplay.Failure
import WalletReplay.Main
import WalletReplay.Number.Binary64
import WalletReplay.Number.Reader
import WalletReplay.Number.Shortest
import WalletReplay.Path
import WalletReplay.Queue
import WalletReplay.Scheduler.Action
import WalletReplay.Scheduler.Call
import WalletReplay.Scheduler.Download
import WalletReplay.Scheduler.Driver
import WalletReplay.Scheduler.Release
import WalletReplay.Scheduler.Setup
import WalletReplay.Settings.Basic
import WalletReplay.Settings.Decode
import WalletReplay.Settings.Example
import WalletReplay.Settings.Load
import WalletReplay.Proofs.Queue.Diagram
import WalletReplay.Proofs.Scheduler.Move
import WalletReplay.Proofs.Scheduler.Line
import WalletReplay.Proofs.Scheduler.Attempt
import WalletReplay.Proofs.Scheduler.Touch
import WalletReplay.Proofs.Scheduler.Traffic
import WalletReplay.Proofs.Scheduler.Flight
import WalletReplay.Proofs.Scheduler.Shutdown
import WalletReplay.Proofs.Scheduler.Claims
import WalletReplay.Proofs.Scheduler.Acceptance
import WalletReplay.Proofs.Scheduler.Live
import WalletReplay.Proofs.Scheduler.Resume
import WalletReplay.Proofs.Scheduler.Hearing
import WalletReplay.Proofs.Scheduler.Labels
import WalletReplay.Proofs.Scheduler.Completion
import WalletReplay.Proofs.Text.Fields
import WalletReplay.Proofs.Text.Fronts
import WalletReplay.Proofs.Text.Lines
import WalletReplay.Proofs.Text.Notation
import WalletReplay.Proofs.Checkpoint.Grammar
import WalletReplay.Proofs.Checkpoint.Printing
import WalletReplay.Proofs.Checkpoint.Resolution
import WalletReplay.Proofs.Checkpoint.Stopping
import WalletReplay.Proofs.Checkpoint.Descent
import WalletReplay.Proofs.Checkpoint.Choice
import WalletReplay.Proofs.CommandLine.Start
import WalletReplay.Proofs.Scheduler.Refusal
import WalletReplay.Proofs.Scheduler.Inventory
import WalletReplay.Proofs.Scheduler.Lifecycle
import WalletReplay.Proofs.Scheduler.Teardown
import WalletReplay.Proofs.Scheduler.Report
import WalletReplay.Proofs.Scheduler.Trial
import WalletReplay.Proofs.Scheduler.Retry
import WalletReplay.Proofs.Scheduler.Waking
import WalletReplay.Proofs.Scheduler.Remaining
import WalletReplay.Proofs.Scheduler.Round
import WalletReplay.Proofs.Scheduler.Ending
import WalletReplay.Proofs.Scheduler.Shift
import WalletReplay.Proofs.Scheduler.Plan
import WalletReplay.Proofs.Scheduler.Execution
import WalletReplay.Proofs.Scheduler.Regular
import WalletReplay.Proofs.Scheduler.Floor
import WalletReplay.Proofs.Scheduler.Percent
import WalletReplay.Proofs.Scheduler.Gauge
import WalletReplay.Proofs.Scheduler.Saving
import WalletReplay.Proofs.Settings.Tree
import WalletReplay.Proofs.Toml.Names
import WalletReplay.Proofs.Settings.Fields
import WalletReplay.Proofs.Settings.Variables
import WalletReplay.Proofs.Settings.Layers
import WalletReplay.Proofs.Settings.Spelling
