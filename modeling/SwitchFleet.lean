import SwitchFleet.Agent.Config
import SwitchFleet.Agent.Link
import SwitchFleet.Agent.Manifest
import SwitchFleet.Agent.Netlink
import SwitchFleet.Agent.Operations
import SwitchFleet.Agent.Query
import SwitchFleet.Agent.Router
import SwitchFleet.Agent.Schedule
import SwitchFleet.Agent.Start
import SwitchFleet.Agent.Testbed
import SwitchFleet.Binary64
import SwitchFleet.Client.Call
import SwitchFleet.Client.Channel
import SwitchFleet.Client.Error
import SwitchFleet.Client.Mock
import SwitchFleet.CommandLine.Arguments
import SwitchFleet.CommandLine.Commands
import SwitchFleet.CommandLine.Execute
import SwitchFleet.CommandLine.Level
import SwitchFleet.CommandLine.Option
import SwitchFleet.CommandLine.Sheet
import SwitchFleet.CommandLine.Table
import SwitchFleet.CommandLine.Terminal
import SwitchFleet.CommandLine.Usage
import SwitchFleet.Controller.ClusterApi
import SwitchFleet.Controller.Collection
import SwitchFleet.Controller.Config
import SwitchFleet.Controller.Error
import SwitchFleet.Controller.Health
import SwitchFleet.Controller.Interfaces
import SwitchFleet.Controller.ObjectStore
import SwitchFleet.Controller.Query
import SwitchFleet.Controller.Reconcile
import SwitchFleet.Controller.Remote
import SwitchFleet.Controller.Switches
import SwitchFleet.Controller.Testbed
import SwitchFleet.Controller.Verb
import SwitchFleet.Device.Basic
import SwitchFleet.Device.LineStatus
import SwitchFleet.Device.Operation
import SwitchFleet.Http.Basic
import SwitchFleet.Http.Exchange
import SwitchFleet.Http.MediaType
import SwitchFleet.Http.Reason
import SwitchFleet.Instant
import SwitchFleet.Json.Basic
import SwitchFleet.Json.Codec
import SwitchFleet.Json.Document
import SwitchFleet.Json.MergePatch
import SwitchFleet.Json.Pointer
import SwitchFleet.Json.Reader
import SwitchFleet.Json.Token
import SwitchFleet.Json.Writer
import SwitchFleet.Keyed
import SwitchFleet.Main
import SwitchFleet.Program
import SwitchFleet.Proofs.Agent.AdminStatus
import SwitchFleet.Proofs.Agent.Agreement
import SwitchFleet.Proofs.Agent.Atomicity
import SwitchFleet.Proofs.Agent.Datagrams
import SwitchFleet.Proofs.Agent.Host
import SwitchFleet.Proofs.Agent.Identity
import SwitchFleet.Proofs.Agent.Keys
import SwitchFleet.Proofs.Agent.Layout
import SwitchFleet.Proofs.Agent.Listing
import SwitchFleet.Proofs.Agent.Manifest
import SwitchFleet.Proofs.Agent.Names
import SwitchFleet.Proofs.Agent.Overlap
import SwitchFleet.Proofs.Agent.Ports
import SwitchFleet.Proofs.Agent.Reading
import SwitchFleet.Proofs.Agent.Register
import SwitchFleet.Proofs.Agent.Reports
import SwitchFleet.Proofs.Agent.Rollback
import SwitchFleet.Proofs.Agent.Scheduling
import SwitchFleet.Proofs.Agent.Steady
import SwitchFleet.Proofs.Client.Responses
import SwitchFleet.Proofs.Client.Transparency
import SwitchFleet.Proofs.CommandLine.Columns
import SwitchFleet.Proofs.CommandLine.Tables
import SwitchFleet.Proofs.Controller.Adoption
import SwitchFleet.Proofs.Controller.Attempt
import SwitchFleet.Proofs.Controller.Children
import SwitchFleet.Proofs.Controller.Convergence
import SwitchFleet.Proofs.Controller.Deletion
import SwitchFleet.Proofs.Controller.Desired
import SwitchFleet.Proofs.Controller.Finalizers
import SwitchFleet.Proofs.Controller.Fleet
import SwitchFleet.Proofs.Controller.Flush
import SwitchFleet.Proofs.Controller.Interfaces
import SwitchFleet.Proofs.Controller.Inventory
import SwitchFleet.Proofs.Controller.Keeping
import SwitchFleet.Proofs.Controller.Lifecycle
import SwitchFleet.Proofs.Controller.Naming
import SwitchFleet.Proofs.Controller.Observation
import SwitchFleet.Proofs.Controller.Patching
import SwitchFleet.Proofs.Controller.Persistence
import SwitchFleet.Proofs.Controller.Recording
import SwitchFleet.Proofs.Controller.Repetition
import SwitchFleet.Proofs.Controller.Settling
import SwitchFleet.Proofs.Controller.Sighting
import SwitchFleet.Proofs.Controller.Switches
import SwitchFleet.Proofs.Controller.Uniform
import SwitchFleet.Proofs.Device.Codecs
import SwitchFleet.Proofs.Instant.Calendar
import SwitchFleet.Proofs.Instant.Text
import SwitchFleet.Proofs.Json.Lawful
import SwitchFleet.Proofs.Json.Merge
import SwitchFleet.Proofs.Json.Plain
import SwitchFleet.Proofs.Json.Rebase
import SwitchFleet.Proofs.Json.Reproduction
import SwitchFleet.Proofs.Json.Same
import SwitchFleet.Proofs.Json.Text
import SwitchFleet.Proofs.Json.Tokens
import SwitchFleet.Proofs.Keyed
import SwitchFleet.Proofs.Program.Concurrent
import SwitchFleet.Proofs.Program.Trace
import SwitchFleet.Proofs.Resource.Codecs
import SwitchFleet.Proofs.Resource.History
import SwitchFleet.Proofs.Resource.Objects
import SwitchFleet.Proofs.Resource.RoundTrip
import SwitchFleet.Proofs.Store.Fields
import SwitchFleet.Proofs.Store.Pool
import SwitchFleet.Proofs.Store.Safety
import SwitchFleet.Proofs.Store.Sharing
import SwitchFleet.Proofs.Store.Stages
import SwitchFleet.Proofs.Text.ByteOrder
import SwitchFleet.Proofs.Text.Cutting
import SwitchFleet.Proofs.Text.Trimming
import SwitchFleet.Resource.Condition
import SwitchFleet.Resource.Conversion
import SwitchFleet.Resource.Definition
import SwitchFleet.Resource.Metadata
import SwitchFleet.Resource.Object
import SwitchFleet.Resource.Shape
import SwitchFleet.Resource.Switch
import SwitchFleet.Resource.SwitchInterface
import SwitchFleet.Status
import SwitchFleet.Store.Command
import SwitchFleet.Store.Content
import SwitchFleet.Store.Database
import SwitchFleet.Store.Error
import SwitchFleet.Store.Memory
import SwitchFleet.Store.Pool
import SwitchFleet.Text.Blank
import SwitchFleet.Text.Casing
import SwitchFleet.Text.Casing.Table
import SwitchFleet.Text.Casing.UpperTable
import SwitchFleet.Text.Cut
import SwitchFleet.Text.Decimal
import SwitchFleet.Text.Quoted
import SwitchFleet.Text.Ranges
import SwitchFleet.Text.Visible
