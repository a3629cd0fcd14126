import DriverRegistration.Binary64
import DriverRegistration.Binary64.Decimal
import DriverRegistration.Binary64.Shortest
import DriverRegistration.Cluster.Access
import DriverRegistration.Cluster.Connection
import DriverRegistration.Cluster.Credentials
import DriverRegistration.Cluster.Kubeconfig
import DriverRegistration.Cluster.Material
import DriverRegistration.Cluster.NodeObject
import DriverRegistration.Cluster.Refusal
import DriverRegistration.Cluster.Request
import DriverRegistration.Cluster.ServiceAccount
import DriverRegistration.Cluster.Store
import DriverRegistration.CommandLine
import DriverRegistration.Config
import DriverRegistration.DriverEdit
import DriverRegistration.DriverMap
import DriverRegistration.Duration
import DriverRegistration.Error
import DriverRegistration.Event
import DriverRegistration.Files.Path
import DriverRegistration.Files.SystemError
import DriverRegistration.Files.Tree
import DriverRegistration.Identity.Connect
import DriverRegistration.Identity.Error
import DriverRegistration.Identity.Fetch
import DriverRegistration.Json.Fault
import DriverRegistration.Json.Members
import DriverRegistration.Json.Number
import DriverRegistration.Json.Shape
import DriverRegistration.Json.Structure
import DriverRegistration.Json.Token
import DriverRegistration.Json.Value
import DriverRegistration.Json.Writer
import DriverRegistration.Log.Filter
import DriverRegistration.Log.Pattern
import DriverRegistration.Log.Record
import DriverRegistration.Main
import DriverRegistration.Node.MemoryStore
import DriverRegistration.Node.Record
import DriverRegistration.Node.Store
import DriverRegistration.Proofs.Backoff
import DriverRegistration.Proofs.Binary64
import DriverRegistration.Proofs.Cluster.Agreement
import DriverRegistration.Proofs.Cluster.Patch
import DriverRegistration.Proofs.Cluster.Server
import DriverRegistration.Proofs.CommandLine.Assignment
import DriverRegistration.Proofs.CommandLine.Configuration
import DriverRegistration.Proofs.CommandLine.Values
import DriverRegistration.Proofs.Contention.Budget
import DriverRegistration.Proofs.Contention.Contest
import DriverRegistration.Proofs.Contention.NoLostUpdate
import DriverRegistration.Proofs.Contention.QueuedWrites
import DriverRegistration.Proofs.DriverMap.Codec
import DriverRegistration.Proofs.DriverMap.Edits
import DriverRegistration.Proofs.DriverMap.Grammar
import DriverRegistration.Proofs.DriverMap.LastEdit
import DriverRegistration.Proofs.Duration
import DriverRegistration.Proofs.Files.Calls
import DriverRegistration.Proofs.Files.Path
import DriverRegistration.Proofs.Files.Walk
import DriverRegistration.Proofs.Identity.Connect
import DriverRegistration.Proofs.Identity.Fetch
import DriverRegistration.Proofs.Json.Accepting
import DriverRegistration.Proofs.Json.Documents
import DriverRegistration.Proofs.Json.Grammar
import DriverRegistration.Proofs.Json.Members
import DriverRegistration.Proofs.Json.MergePatch
import DriverRegistration.Proofs.Json.Reading
import DriverRegistration.Proofs.Json.Skipping
import DriverRegistration.Proofs.Json.Values
import DriverRegistration.Proofs.Json.Writing
import DriverRegistration.Proofs.Node.History
import DriverRegistration.Proofs.Node.Versions
import DriverRegistration.Proofs.Reconcile.Pacing
import DriverRegistration.Proofs.Reconcile.Proposal
import DriverRegistration.Proofs.Reconcile.Protocol
import DriverRegistration.Proofs.Reconcile.Turn
import DriverRegistration.Proofs.Registration.Failures
import DriverRegistration.Proofs.Registration.Layout
import DriverRegistration.Proofs.Socket.Path
import DriverRegistration.Proofs.Socket.Prepare
import DriverRegistration.Proofs.TextMap
import DriverRegistration.Proofs.Timeline.CleanUp
import DriverRegistration.Proofs.Timeline.Lone
import DriverRegistration.Proofs.Timeline.Orders
import DriverRegistration.Proofs.Timeline.Removal
import DriverRegistration.Proofs.Timeline.Rivals
import DriverRegistration.Proofs.Timeline.Rounds
import DriverRegistration.Proofs.Timeline.Steps
import DriverRegistration.Proofs.Wire.Field
import DriverRegistration.Proofs.Wire.Message
import DriverRegistration.Proofs.Wire.Varint
import DriverRegistration.Reconcile.Error
import DriverRegistration.Reconcile.Run
import DriverRegistration.Reconcile.Sync
import DriverRegistration.Reconcile.Task
import DriverRegistration.Registrar
import DriverRegistration.Registration.Handshake
import DriverRegistration.Registration.Info
import DriverRegistration.Registration.Service
import DriverRegistration.RetryPolicy
import DriverRegistration.Rpc
import DriverRegistration.Socket.Error
import DriverRegistration.Socket.Path
import DriverRegistration.Socket.Prepare
import DriverRegistration.Text.Base64
import DriverRegistration.Text.Blank
import DriverRegistration.Text.Changes
import DriverRegistration.Text.HostName
import DriverRegistration.Text.Integer
import DriverRegistration.Text.Letter
import DriverRegistration.Text.Plain
import DriverRegistration.Text.Quoted
import DriverRegistration.Text.Sections
import DriverRegistration.Text.Unprintable
import DriverRegistration.Text.Utf8
import DriverRegistration.TextMap
import DriverRegistration.Timeline.Actor
import DriverRegistration.Timeline.Run
import DriverRegistration.Timestamp
import DriverRegistration.Uri
import DriverRegistration.Wire.Field
import DriverRegistration.Wire.Message
import DriverRegistration.Wire.Varint
import DriverRegistration.Yaml.Block
import DriverRegistration.Yaml.Composition
import DriverRegistration.Yaml.Cursor
import DriverRegistration.Yaml.Document
import DriverRegistration.Yaml.Event
import DriverRegistration.Yaml.Fault
import DriverRegistration.Yaml.Plain
import DriverRegistration.Yaml.Quoted
import DriverRegistration.Yaml.Record
import DriverRegistration.Yaml.Scalar
import DriverRegistration.Yaml.Tag
import DriverRegistration.Yaml.Token
import DriverRegistration.Yaml.Tokens
import DriverRegistration.Yaml.Value
