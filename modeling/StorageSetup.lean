import StorageSetup.Answers
import StorageSetup.Bucket.Cors
import StorageSetup.Bucket.Policy
import StorageSetup.Bucket.Store
import StorageSetup.Bucket.Template
import StorageSetup.Certificate.Der
import StorageSetup.Certificate.Pem
import StorageSetup.Certificate.Time
import StorageSetup.Certificate.X509
import StorageSetup.Choice
import StorageSetup.Cluster.Client
import StorageSetup.Cluster.Inventory
import StorageSetup.Cluster.Object
import StorageSetup.Cluster.Server
import StorageSetup.Cluster.Snapshot
import StorageSetup.Cluster.Taint
import StorageSetup.Cluster.Timestamp
import StorageSetup.CommandLine.Arguments
import StorageSetup.CommandLine.Invocation
import StorageSetup.CommandLine.Run
import StorageSetup.Config
import StorageSetup.Config.File
import StorageSetup.Data.Dict
import StorageSetup.Data.NameSet
import StorageSetup.Decimal.Binary
import StorageSetup.Decimal.Fixed
import StorageSetup.Decimal.Read
import StorageSetup.Decimal.Shortest
import StorageSetup.Form.BackingStorage
import StorageSetup.Form.Nodes
import StorageSetup.Form.Row
import StorageSetup.Form.Rows
import StorageSetup.Form.Security
import StorageSetup.Json.Basic
import StorageSetup.Json.Decode
import StorageSetup.Json.Number
import StorageSetup.Json.Parser
import StorageSetup.Json.Patch
import StorageSetup.Json.Printer
import StorageSetup.Loadable
import StorageSetup.Main
import StorageSetup.Node
import StorageSetup.Proofs.ActionRuns
import StorageSetup.Proofs.Answered
import StorageSetup.Proofs.Base64
import StorageSetup.Proofs.Canonical
import StorageSetup.Proofs.Certificates
import StorageSetup.Proofs.ClusterSettings
import StorageSetup.Proofs.Codec
import StorageSetup.Proofs.ConnectionUrl
import StorageSetup.Proofs.Consistency
import StorageSetup.Proofs.DeviceSet
import StorageSetup.Proofs.DiskCounts
import StorageSetup.Proofs.Disks
import StorageSetup.Proofs.Documents
import StorageSetup.Proofs.EditTransaction
import StorageSetup.Proofs.Editor
import StorageSetup.Proofs.Execution
import StorageSetup.Proofs.Flow
import StorageSetup.Proofs.Forward
import StorageSetup.Proofs.Gate
import StorageSetup.Proofs.Histories
import StorageSetup.Proofs.Inclusion
import StorageSetup.Proofs.Jump
import StorageSetup.Proofs.KeyManagement
import StorageSetup.Proofs.KeyResources
import StorageSetup.Proofs.LabelledNodes
import StorageSetup.Proofs.LeftOn
import StorageSetup.Proofs.LeftOver
import StorageSetup.Proofs.ModeChange
import StorageSetup.Proofs.NodeTaints
import StorageSetup.Proofs.NodeToggle
import StorageSetup.Proofs.Normalization
import StorageSetup.Proofs.ObjectServer
import StorageSetup.Proofs.OfferedClasses
import StorageSetup.Proofs.OneSubmission
import StorageSetup.Proofs.Patches
import StorageSetup.Proofs.Placement
import StorageSetup.Proofs.Plan
import StorageSetup.Proofs.PlanParts
import StorageSetup.Proofs.PlanSteps
import StorageSetup.Proofs.PolicyForm
import StorageSetup.Proofs.Preparation
import StorageSetup.Proofs.Press
import StorageSetup.Proofs.PublicAccess
import StorageSetup.Proofs.Reachable
import StorageSetup.Proofs.References
import StorageSetup.Proofs.Registrations
import StorageSetup.Proofs.Replay
import StorageSetup.Proofs.Resources
import StorageSetup.Proofs.Review
import StorageSetup.Proofs.RowPlaces
import StorageSetup.Proofs.Rows
import StorageSetup.Proofs.SavedAction
import StorageSetup.Proofs.SavedDocuments
import StorageSetup.Proofs.Secrecy
import StorageSetup.Proofs.Selector
import StorageSetup.Proofs.ServiceAddress
import StorageSetup.Proofs.Session
import StorageSetup.Proofs.Settings
import StorageSetup.Proofs.SharedNode
import StorageSetup.Proofs.Slice
import StorageSetup.Proofs.Stray
import StorageSetup.Proofs.Submit
import StorageSetup.Proofs.SwitchedClass
import StorageSetup.Proofs.Templates
import StorageSetup.Proofs.Timestamps
import StorageSetup.Proofs.VerbatimSecrets
import StorageSetup.Proofs.VersionedServer
import StorageSetup.Proofs.VolumeClass
import StorageSetup.Proofs.WellFormed
import StorageSetup.Quantity
import StorageSetup.Replay
import StorageSetup.Resource.Kms
import StorageSetup.Resource.LocalVolumeSet
import StorageSetup.Resource.Model
import StorageSetup.Resource.Payload
import StorageSetup.Resource.Postgres
import StorageSetup.Resource.StorageCluster
import StorageSetup.Resource.StorageSystem
import StorageSetup.Screen.Basic
import StorageSetup.Screen.Canvas
import StorageSetup.Screen.Draw
import StorageSetup.Screen.Event
import StorageSetup.Submission.Execute
import StorageSetup.Submission.Plan
import StorageSetup.Text.Base64
import StorageSetup.Text.Blank
import StorageSetup.Text.Digits
import StorageSetup.Text.Mark
import StorageSetup.Text.Search
import StorageSetup.Text.Width
import StorageSetup.Vendor.Basic
import StorageSetup.Vendor.ExternalCeph
import StorageSetup.Vendor.FlashSystem
import StorageSetup.Vendor.Registry
import StorageSetup.Wizard.Action
import StorageSetup.Wizard.Gate
import StorageSetup.Wizard.Reduce
import StorageSetup.Wizard.Session
import StorageSetup.Wizard.State
import StorageSetup.Wizard.Step
import StorageSetup.Yaml.Cursor
import StorageSetup.Yaml.Decode
import StorageSetup.Yaml.Node
import StorageSetup.Yaml.Printer
import StorageSetup.Yaml.Scalar
import StorageSetup.Yaml.Style
import StorageSetup.Yaml.Token
import StorageSetup.Yaml.Token.Scalar
import StorageSetup.Yaml.Token.Stream
import StorageSetup.Yaml.Token.Tag
