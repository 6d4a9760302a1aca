import DriverHub.Clock.Calendar
import DriverHub.Clock.Zone
import DriverHub.Command.Arguments
import DriverHub.Command.Run
import DriverHub.Config.Import
import DriverHub.Config.Merge
import DriverHub.Config.Problem
import DriverHub.Config.Reading
import DriverHub.Config.Sections
import DriverHub.Config.Settings
import DriverHub.Dict
import DriverHub.Dispatch.Annotations
import DriverHub.Dispatch.Delivery
import DriverHub.Dispatch.Event
import DriverHub.Dispatch.Register
import DriverHub.Dispatch.Registration
import DriverHub.Dispatch.State
import DriverHub.Dispatch.Table
import DriverHub.Dispatch.Trigger
import DriverHub.Driver.Action
import DriverHub.Driver.Capability
import DriverHub.Driver.Conformance
import DriverHub.Driver.Contract
import DriverHub.Driver.Extraction
import DriverHub.Driver.Identity
import DriverHub.Driver.Singletons
import DriverHub.Driver.Version
import DriverHub.FileTree
import DriverHub.Flow
import DriverHub.Hub.Actions
import DriverHub.Hub.Catalog
import DriverHub.Hub.Error
import DriverHub.Hub.Hub
import DriverHub.Hub.Invocation
import DriverHub.Hub.Loading
import DriverHub.Hub.Management
import DriverHub.Hub.Overview
import DriverHub.Hub.Service
import DriverHub.Json.Access
import DriverHub.Json.Basic
import DriverHub.Json.Parser
import DriverHub.Json.Printer
import DriverHub.Json.Record
import DriverHub.Log
import DriverHub.Main
import DriverHub.Number.Binary64
import DriverHub.Number.Digits
import DriverHub.Number.Reading
import DriverHub.Number.Shortest
import DriverHub.Proofs.Clock.Calendar
import DriverHub.Proofs.Clock.Eastern
import DriverHub.Proofs.Config.Cycles
import DriverHub.Proofs.Config.Fields
import DriverHub.Proofs.Config.Imports
import DriverHub.Proofs.Config.Loading
import DriverHub.Proofs.Config.Merging
import DriverHub.Proofs.Dict
import DriverHub.Proofs.Dispatch.Adaptive
import DriverHub.Proofs.Dispatch.Attempts
import DriverHub.Proofs.Dispatch.Callbacks
import DriverHub.Proofs.Dispatch.Ending
import DriverHub.Proofs.Dispatch.Entries
import DriverHub.Proofs.Dispatch.Hand
import DriverHub.Proofs.Dispatch.Indices
import DriverHub.Proofs.Dispatch.Intake
import DriverHub.Proofs.Dispatch.Kills
import DriverHub.Proofs.Dispatch.Ledger
import DriverHub.Proofs.Dispatch.NextShowing
import DriverHub.Proofs.Dispatch.OneShot
import DriverHub.Proofs.Dispatch.Retrying
import DriverHub.Proofs.Dispatch.Rivals
import DriverHub.Proofs.Dispatch.Rollback
import DriverHub.Proofs.Dispatch.Sequence
import DriverHub.Proofs.Dispatch.Stage
import DriverHub.Proofs.Dispatch.Subscription
import DriverHub.Proofs.Dispatch.Table
import DriverHub.Proofs.Dispatch.Turnover
import DriverHub.Proofs.Dispatch.Unregistering
import DriverHub.Proofs.Driver.Conformance
import DriverHub.Proofs.Driver.Contract
import DriverHub.Proofs.Driver.Extraction
import DriverHub.Proofs.Driver.Identity
import DriverHub.Proofs.Driver.Version
import DriverHub.Proofs.FileTree
import DriverHub.Proofs.Flow.Ends
import DriverHub.Proofs.Flow.History
import DriverHub.Proofs.Flow.Interleaving
import DriverHub.Proofs.Flow.Matter
import DriverHub.Proofs.Flow.Moments
import DriverHub.Proofs.Flow.Order
import DriverHub.Proofs.Flow.Protocol
import DriverHub.Proofs.Flow.Questions
import DriverHub.Proofs.Flow.Session
import DriverHub.Proofs.Hub.Acts
import DriverHub.Proofs.Hub.Annotations
import DriverHub.Proofs.Hub.Calls
import DriverHub.Proofs.Hub.Change
import DriverHub.Proofs.Hub.Changing
import DriverHub.Proofs.Hub.Courses
import DriverHub.Proofs.Hub.Deeds
import DriverHub.Proofs.Hub.Engine
import DriverHub.Proofs.Hub.Fitting
import DriverHub.Proofs.Hub.Gating
import DriverHub.Proofs.Hub.Holding
import DriverHub.Proofs.Hub.Host
import DriverHub.Proofs.Hub.Interleaving
import DriverHub.Proofs.Hub.Interrupted
import DriverHub.Proofs.Hub.InvalidPeriod
import DriverHub.Proofs.Hub.Invocation
import DriverHub.Proofs.Hub.Isolation
import DriverHub.Proofs.Hub.Loading
import DriverHub.Proofs.Hub.Lookups
import DriverHub.Proofs.Hub.Management
import DriverHub.Proofs.Hub.NewCode
import DriverHub.Proofs.Hub.Operation
import DriverHub.Proofs.Hub.Overtaken
import DriverHub.Proofs.Hub.Overviews
import DriverHub.Proofs.Hub.Presence
import DriverHub.Proofs.Hub.Quotas
import DriverHub.Proofs.Hub.Reloading
import DriverHub.Proofs.Hub.Replies
import DriverHub.Proofs.Hub.Reports
import DriverHub.Proofs.Hub.Restart
import DriverHub.Proofs.Hub.Rollout
import DriverHub.Proofs.Hub.Upgrading
import DriverHub.Proofs.Hub.Watch
import DriverHub.Proofs.Number.Binary64
import DriverHub.Proofs.Number.Digits
import DriverHub.Proofs.Number.Rational
import DriverHub.Proofs.Records
import DriverHub.Proofs.Records.Document
import DriverHub.Proofs.Records.Persistence
import DriverHub.Proofs.Records.Reopening
import DriverHub.Proofs.Records.Store
import DriverHub.Proofs.Schema.CarryOver
import DriverHub.Proofs.Schema.Conforms
import DriverHub.Proofs.Schema.Decode
import DriverHub.Proofs.Schema.Faults
import DriverHub.Proofs.Schema.Grammar
import DriverHub.Proofs.Schema.Inverse
import DriverHub.Proofs.Schema.Lower
import DriverHub.Proofs.Schema.Migration
import DriverHub.Proofs.Schema.Restoring
import DriverHub.Proofs.Schema.Settled
import DriverHub.Proofs.Schema.Uniform
import DriverHub.Proofs.Text.Split
import DriverHub.Proofs.Toml.Ordered
import DriverHub.Proofs.Value.Range
import DriverHub.Records.Basic
import DriverHub.Records.Document
import DriverHub.Records.Store
import DriverHub.Rehearsal.Reading
import DriverHub.Rehearsal.Schedule
import DriverHub.Rehearsal.Script
import DriverHub.Rehearsal.World
import DriverHub.Rehearsal.Writing
import DriverHub.Report.Basic
import DriverHub.Report.Layout
import DriverHub.Schema.Basic
import DriverHub.Schema.Decode
import DriverHub.Schema.Json
import DriverHub.Schema.Lower
import DriverHub.Schema.Migrate
import DriverHub.Schema.Restore
import DriverHub.Script.Call
import DriverHub.Script.Diagnostic
import DriverHub.Script.DiagnosticJson
import DriverHub.Script.DiagnosticReport
import DriverHub.Script.Program
import DriverHub.Script.Type
import DriverHub.Script.UnitCache
import DriverHub.Text.Lines
import DriverHub.Text.Split
import DriverHub.Toml.Basic
import DriverHub.Toml.Parser
import DriverHub.Toml.Quoted
import DriverHub.Toml.Scalar
import DriverHub.Value.Basic
import DriverHub.Value.Marshal
import DriverHub.Value.Range
import DriverHub.Value.Text
