import StoreMigration.CommandLine.Command
import StoreMigration.CommandLine.Grammar
import StoreMigration.CommandLine.Outcome
import StoreMigration.CommandLine.Perform
import StoreMigration.Disk.Basic
import StoreMigration.Disk.Opening
import StoreMigration.Disk.Path
import StoreMigration.Disk.Site
import StoreMigration.Disk.Vicinity
import StoreMigration.Edition
import StoreMigration.Installation.Backup
import StoreMigration.Installation.Basic
import StoreMigration.Installation.Failure
import StoreMigration.Installation.Report
import StoreMigration.InstanceId
import StoreMigration.Json.Basic
import StoreMigration.Json.Decode
import StoreMigration.Json.Double
import StoreMigration.Json.Printer
import StoreMigration.Json.Reader
import StoreMigration.Main
import StoreMigration.Migration.Bookkeeping
import StoreMigration.Migration.Error
import StoreMigration.Migration.FieldEdit
import StoreMigration.Migration.Legacy
import StoreMigration.Migration.Migrator
import StoreMigration.Migration.Plan
import StoreMigration.Migration.Registry
import StoreMigration.Migration.Releases
import StoreMigration.Migration.Run
import StoreMigration.Migration.Step
import StoreMigration.Proofs.Store.Database
import StoreMigration.Proofs.Store.Running
import StoreMigration.Proofs.Store.Sparing
import StoreMigration.Proofs.Store.Storage
import StoreMigration.Service.Basic
import StoreMigration.Service.Launch
import StoreMigration.Service.Query
import StoreMigration.Store.Address
import StoreMigration.Store.Buckets
import StoreMigration.Store.Call
import StoreMigration.Store.Database
import StoreMigration.Store.Disturbance
import StoreMigration.Store.EngineError
import StoreMigration.Store.Image
import StoreMigration.Store.Memory
import StoreMigration.Store.OrderedMap
import StoreMigration.Store.Program
import StoreMigration.Text.Blank
import StoreMigration.Text.Decimal
import StoreMigration.Text.Hexadecimal
import StoreMigration.Text.Quoted
import StoreMigration.Text.Split
import StoreMigration.Text.Truth
import StoreMigration.Text.Utf8
import StoreMigration.Version.Basic
import StoreMigration.Version.Printer
import StoreMigration.Version.Reader
import StoreMigration.VersionRecord
import StoreMigration.Proofs.Migration.Bookkeeping
import StoreMigration.Proofs.Migration.Course
import StoreMigration.Proofs.Migration.Steps
import StoreMigration.Proofs.Migration.Atomicity
import StoreMigration.Proofs.Migration.Execution
import StoreMigration.Proofs.Json.RoundTrip
import StoreMigration.Proofs.Text.Scanning
import StoreMigration.Proofs.Version.RoundTrip
import StoreMigration.Proofs.Migration.Rerun
import StoreMigration.Proofs.Migration.Growth
import StoreMigration.Proofs.Migration.Startup
import StoreMigration.Proofs.Migration.Targets
import StoreMigration.Proofs.Json.Fields
import StoreMigration.Proofs.Migration.Edits
import StoreMigration.Proofs.Store.Faithful
import StoreMigration.Proofs.Migration.StoredEdits
import StoreMigration.Proofs.Migration.EditedBuckets
import StoreMigration.Proofs.Migration.EditRuns
import StoreMigration.Proofs.Migration.FaultFree
import StoreMigration.Proofs.Migration.Shipped
import StoreMigration.Proofs.Migration.Settling
import StoreMigration.Proofs.Migration.Replaying
import StoreMigration.Proofs.Migration.Resuming
import StoreMigration.Proofs.Migration.Updates
import StoreMigration.Proofs.Migration.Preservation
import StoreMigration.Proofs.Migration.Retry
import StoreMigration.Proofs.Json.CompactText
import StoreMigration.Proofs.Store.Tables
import StoreMigration.Proofs.Migration.Bootstrap
import StoreMigration.Proofs.Installation.Flag
import StoreMigration.Proofs.Migration.Floor
import StoreMigration.Proofs.Migration.Bridge
import StoreMigration.Proofs.Migration.Import
import StoreMigration.Proofs.Migration.DryRun
import StoreMigration.Proofs.Migration.Operations
import StoreMigration.Proofs.Installation.Agreement
import StoreMigration.Proofs.Text.ByteOrder
import StoreMigration.Proofs.Store.Interchange
import StoreMigration.Proofs.Migration.LegacyStores
import StoreMigration.Proofs.Store.Overlooking
import StoreMigration.Proofs.Migration.FailFast
import StoreMigration.Proofs.Migration.FaultPatterns
import StoreMigration.Proofs.Disk.Nodes
import StoreMigration.Proofs.Disk.Handling
import StoreMigration.Proofs.Disk.Stored
import StoreMigration.Proofs.Installation.Visits
import StoreMigration.Proofs.Migration.Recording
import StoreMigration.Proofs.Installation.Calls
import StoreMigration.Proofs.Installation.Identity
import StoreMigration.Proofs.Migration.Stability
import StoreMigration.Proofs.Migration.FreshInstall
import StoreMigration.Proofs.Json.NestingLimit
import StoreMigration.Proofs.Store.DeepValues
import StoreMigration.Proofs.Migration.Residue
import StoreMigration.Proofs.Migration.Support
import StoreMigration.Proofs.Migration.Stamping
import StoreMigration.Proofs.Disk.Configuring
import StoreMigration.Proofs.Installation.Queries
import StoreMigration.Proofs.Disk.Reopening
import StoreMigration.Proofs.Installation.Answering
import StoreMigration.Proofs.Service.Started
import StoreMigration.Proofs.Migration.Decisions
import StoreMigration.Proofs.Migration.UpToDate
import StoreMigration.Proofs.Version.Grammar
import StoreMigration.Proofs.Version.Order
import StoreMigration.Proofs.Migration.StoredRecords
import StoreMigration.Proofs.Migration.ReadBack
import StoreMigration.Proofs.Migration.RecordCodec
import StoreMigration.Proofs.Installation.Layouts
import StoreMigration.Proofs.Migration.Plannable
import StoreMigration.Proofs.Installation.Surveying
import StoreMigration.Proofs.Service.StatusCodes
