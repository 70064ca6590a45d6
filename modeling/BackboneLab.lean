import BackboneLab.Backbone.Abilene
import BackboneLab.Backbone.AddressPlan
import BackboneLab.Backbone.Topology
import BackboneLab.CommandLine.Arguments
import BackboneLab.CommandLine.Execution
import BackboneLab.CommandLine.Invocation
import BackboneLab.Configuration.Controller
import BackboneLab.Configuration.Display
import BackboneLab.Configuration.FileSet
import BackboneLab.Configuration.Session
import BackboneLab.Controller.Client
import BackboneLab.Controller.Message
import BackboneLab.Decimal.Layout
import BackboneLab.Decimal.Natural
import BackboneLab.Decimal.Numeral
import BackboneLab.Decimal.Reading
import BackboneLab.Decimal.Shortest
import BackboneLab.Document.Datum
import BackboneLab.Document.Json.Reader
import BackboneLab.Document.Json.Writer
import BackboneLab.Document.Toml.Lexeme
import BackboneLab.Document.Toml.Number
import BackboneLab.Document.Toml.Sections
import BackboneLab.Document.Toml.Value
import BackboneLab.Document.Wire
import BackboneLab.Emulation.Daemon
import BackboneLab.Emulation.HostEntry
import BackboneLab.Emulation.Launcher
import BackboneLab.Emulation.Network
import BackboneLab.Emulation.Receivers
import BackboneLab.Emulation.Tutorial
import BackboneLab.Experiment.Bundle
import BackboneLab.Experiment.Fault
import BackboneLab.Experiment.IntentWait
import BackboneLab.Experiment.Nap
import BackboneLab.Experiment.Playback
import BackboneLab.Experiment.Preparation
import BackboneLab.Experiment.Report
import BackboneLab.Experiment.Run
import BackboneLab.Experiment.StopFlag
import BackboneLab.Experiment.Surroundings
import BackboneLab.Experiment.Testbed
import BackboneLab.Experiment.Transfer
import BackboneLab.Experiment.Trigger
import BackboneLab.Fault
import BackboneLab.Files.Documents
import BackboneLab.Files.Store
import BackboneLab.HostCommand
import BackboneLab.Intent.Expectation
import BackboneLab.Ip.Address
import BackboneLab.Ip.Subnet
import BackboneLab.Machine.Local
import BackboneLab.Machine.Process
import BackboneLab.Machine.ShellText
import BackboneLab.Main
import BackboneLab.Ordered.Map
import BackboneLab.Ordered.Set
import BackboneLab.Path
import BackboneLab.Proofs.Backbone.AddressPlan
import BackboneLab.Proofs.Backbone.HardwareAddress
import BackboneLab.Proofs.Backbone.Topology
import BackboneLab.Proofs.Configuration.Announcements
import BackboneLab.Proofs.Configuration.Controller
import BackboneLab.Proofs.Configuration.Display
import BackboneLab.Proofs.Configuration.FileSet
import BackboneLab.Proofs.Configuration.Sessions
import BackboneLab.Proofs.Configuration.Statements
import BackboneLab.Proofs.Decimal.Numeral
import BackboneLab.Proofs.Document.Json
import BackboneLab.Proofs.Document.Literal
import BackboneLab.Proofs.Document.Wire
import BackboneLab.Proofs.Emulation.Addresses
import BackboneLab.Proofs.Emulation.Agreement
import BackboneLab.Proofs.Emulation.Connectivity
import BackboneLab.Proofs.Emulation.Daemons
import BackboneLab.Proofs.Emulation.Hosts
import BackboneLab.Proofs.Emulation.Links
import BackboneLab.Proofs.Emulation.Ports
import BackboneLab.Proofs.Experiment.Calls
import BackboneLab.Proofs.Experiment.Course
import BackboneLab.Proofs.Experiment.Gating
import BackboneLab.Proofs.Experiment.Playback
import BackboneLab.Proofs.Experiment.Patience
import BackboneLab.Proofs.Experiment.Preparation
import BackboneLab.Proofs.Experiment.Receivers
import BackboneLab.Proofs.Experiment.Rehearsal
import BackboneLab.Proofs.Experiment.Servers
import BackboneLab.Proofs.Experiment.Teardown
import BackboneLab.Proofs.Experiment.Waiting
import BackboneLab.Proofs.Files.Actions
import BackboneLab.Proofs.Intent.Expectation
import BackboneLab.Proofs.Ordered.Map
import BackboneLab.Proofs.Ordered.Set
import BackboneLab.Proofs.Text.Hex
import BackboneLab.Proofs.Traffic.Generator
import BackboneLab.Proofs.Traffic.Schedule
import BackboneLab.Rehearsal.Desk
import BackboneLab.Rehearsal.Playing
import BackboneLab.Rehearsal.Polls
import BackboneLab.Rehearsal.Script
import BackboneLab.Settings.Deployment
import BackboneLab.Settings.File
import BackboneLab.Text.Base64
import BackboneLab.Text.Blank
import BackboneLab.Text.Hex
import BackboneLab.Text.Split
import BackboneLab.Time.Span
import BackboneLab.Traffic.Generator
import BackboneLab.Traffic.Matrix
import BackboneLab.Traffic.Schedule
import BackboneLab.Proofs.Experiment.Success
import BackboneLab.Proofs.Traffic.Matrix
import BackboneLab.Proofs.Controller.Message
import BackboneLab.Proofs.Emulation.Documents
import BackboneLab.Proofs.Document.Exchange
import BackboneLab.Proofs.Document.Truncation
import BackboneLab.Proofs.Experiment.Transfer
import BackboneLab.Proofs.Experiment.Cancellation
import BackboneLab.Proofs.Backbone.AddressIndex
import BackboneLab.Proofs.Time.Span
import BackboneLab.Proofs.Traffic.Feasibility
import BackboneLab.Proofs.Traffic.Grouping
import BackboneLab.Proofs.Traffic.RunTime
import BackboneLab.Proofs.Experiment.Doubling
import BackboneLab.Proofs.Experiment.WaitOutcome
import BackboneLab.Proofs.Backbone.Construction
import BackboneLab.Proofs.Emulation.LinkOrder
import BackboneLab.Proofs.Configuration.Password
import BackboneLab.Proofs.Experiment.Truthfulness
import BackboneLab.Proofs.Backbone.Cables
import BackboneLab.Proofs.Intent.Counting
import BackboneLab.Proofs.Configuration.NetworkLines
import BackboneLab.Proofs.Text.Split
import BackboneLab.Proofs.Emulation.DaemonFiles
import BackboneLab.Proofs.Controller.Sample
import BackboneLab.Proofs.Traffic.Changes
import BackboneLab.Proofs.Settings.Partial
import BackboneLab.Proofs.CommandLine.Compilation
import BackboneLab.Proofs.Experiment.FlagFamilies
import BackboneLab.Proofs.Experiment.Nap
