import TaskEngine.Access
import TaskEngine.Audit
import TaskEngine.Catalog.CloneUrl
import TaskEngine.Catalog.Record
import TaskEngine.Catalog.Runner
import TaskEngine.Catalog.Secret
import TaskEngine.Catalog.Task
import TaskEngine.Cluster.Client
import TaskEngine.Cluster.Deployment
import TaskEngine.Cluster.Job
import TaskEngine.Cluster.Meta
import TaskEngine.Cluster.Pod
import TaskEngine.Cluster.Relay
import TaskEngine.Cluster.Selector
import TaskEngine.Cluster.Storage
import TaskEngine.Cluster.Stores
import TaskEngine.Config
import TaskEngine.Console.Arguments
import TaskEngine.Console.Execution
import TaskEngine.Console.Invocation
import TaskEngine.Console.Listing
import TaskEngine.Console.Report
import TaskEngine.Console.Table
import TaskEngine.Dialogue
import TaskEngine.Dict
import TaskEngine.Engine.Call
import TaskEngine.Engine.Launch
import TaskEngine.Engine.Metric
import TaskEngine.Engine.Output
import TaskEngine.Engine.Procedure
import TaskEngine.Engine.Runners
import TaskEngine.Engine.Secrets
import TaskEngine.Engine.Service
import TaskEngine.Engine.Tasks
import TaskEngine.Engine.Wait
import TaskEngine.Engine.Workloads
import TaskEngine.Error
import TaskEngine.Json.Basic
import TaskEngine.Json.Decode
import TaskEngine.Json.Number
import TaskEngine.Json.Printer
import TaskEngine.Json.Reader
import TaskEngine.Main
import TaskEngine.Memory.RecordStore
import TaskEngine.Memory.Script
import TaskEngine.Memory.Session
import TaskEngine.Memory.Simulator
import TaskEngine.Memory.World
import TaskEngine.Name
import TaskEngine.Number.Binary64
import TaskEngine.Number.Shortest
import TaskEngine.Proofs.AppliedUpdates
import TaskEngine.Proofs.AuditTrail
import TaskEngine.Proofs.CloneCommand
import TaskEngine.Proofs.Cluster.Bytes
import TaskEngine.Proofs.Cluster.Depot
import TaskEngine.Proofs.Cluster.Refinement
import TaskEngine.Proofs.Dict
import TaskEngine.Proofs.Engine.Changes
import TaskEngine.Proofs.Engine.Definitions
import TaskEngine.Proofs.Engine.Edits
import TaskEngine.Proofs.Engine.Loads
import TaskEngine.Proofs.Engine.Origins
import TaskEngine.Proofs.Engine.Reads
import TaskEngine.Proofs.Engine.Steps
import TaskEngine.Proofs.Engine.Unreliable
import TaskEngine.Proofs.Engine.Writes
import TaskEngine.Proofs.Inheritance
import TaskEngine.Proofs.InputGate
import TaskEngine.Proofs.Integrity
import TaskEngine.Proofs.Interleaving.Bystanders
import TaskEngine.Proofs.Interleaving.Creations
import TaskEngine.Proofs.Interleaving.Footprints
import TaskEngine.Proofs.Interleaving.Mutations
import TaskEngine.Proofs.Interleaving.Races
import TaskEngine.Proofs.Interleaving.Rivals
import TaskEngine.Proofs.Json.Depth
import TaskEngine.Proofs.Json.Literal
import TaskEngine.Proofs.Json.Number
import TaskEngine.Proofs.Json.RoundTrip
import TaskEngine.Proofs.Json.Text
import TaskEngine.Proofs.Listing
import TaskEngine.Proofs.Locality
import TaskEngine.Proofs.LogSections
import TaskEngine.Proofs.ManifestRoundTrip
import TaskEngine.Proofs.MountedSecrets
import TaskEngine.Proofs.Number.Rounding
import TaskEngine.Proofs.Number.Shortest
import TaskEngine.Proofs.Outcome
import TaskEngine.Proofs.OwnerSelection
import TaskEngine.Proofs.Ownership
import TaskEngine.Proofs.PodSelection
import TaskEngine.Proofs.Polling
import TaskEngine.Proofs.PrintedListings
import TaskEngine.Proofs.Progress
import TaskEngine.Proofs.ReadWrite
import TaskEngine.Proofs.Redaction
import TaskEngine.Proofs.ResultGrammar
import TaskEngine.Proofs.ResultProtocol
import TaskEngine.Proofs.Run
import TaskEngine.Proofs.Schedule.Fields
import TaskEngine.Proofs.SchemaDocuments
import TaskEngine.Proofs.ScriptedRuns
import TaskEngine.Proofs.Secrecy.Objects
import TaskEngine.Proofs.Secrecy.Runs
import TaskEngine.Proofs.Secrecy.Sessions
import TaskEngine.Proofs.Secrecy.Simulator
import TaskEngine.Proofs.SecretStore
import TaskEngine.Proofs.Selector
import TaskEngine.Proofs.Serializability
import TaskEngine.Proofs.Simulator
import TaskEngine.Proofs.StoredSchemas
import TaskEngine.Proofs.SynchronousLaunch
import TaskEngine.Schedule.Basic
import TaskEngine.Schedule.Field
import TaskEngine.Schema.Coverage
import TaskEngine.Schema.Dialect
import TaskEngine.Schema.Evaluate
import TaskEngine.Schema.Format
import TaskEngine.Schema.Input
import TaskEngine.Schema.Links
import TaskEngine.Schema.Pattern
import TaskEngine.Schema.Reference
import TaskEngine.Schema.Violation
import TaskEngine.Text.Base64
import TaskEngine.Text.Blank
import TaskEngine.Text.Columns
import TaskEngine.Text.Hexadecimal
import TaskEngine.Text.Split
import TaskEngine.Time
import TaskEngine.Workload.CronJob
import TaskEngine.Workload.Deployment
import TaskEngine.Workload.ExtraVars
import TaskEngine.Workload.Extraction
import TaskEngine.Workload.Job
import TaskEngine.Workload.Label
import TaskEngine.Workload.Manifest
import TaskEngine.Workload.PodReport
import TaskEngine.Proofs.CommandLineSettings
import TaskEngine.Proofs.ContainerNames
import TaskEngine.Proofs.Time.Calendar
import TaskEngine.Proofs.Time.Text
import TaskEngine.Proofs.Json.RecordForms
import TaskEngine.Proofs.DefinitionForms
import TaskEngine.Proofs.JobEnvelope
import TaskEngine.Proofs.ContainerFaults
import TaskEngine.Proofs.NameGrammar
import TaskEngine.Proofs.Simulation.Agreement
import TaskEngine.Proofs.Simulation.InitFailures
