import Riscdom.Machine
import Riscdom.HashChain
import Riscdom.Fallible
import Riscdom.KeyedTable
import Riscdom.Json
import Riscdom.JsonText
import Riscdom.AuditEvent
import Riscdom.AuditHash
import Riscdom.RunRecords
import Riscdom.RunDerivation
import Riscdom.SegmentRecords
import Riscdom.AuditStore
import Riscdom.Connections
import Riscdom.Segments
import Riscdom.SegmentSteps
import Riscdom.AppendOnly
import Riscdom.MergeSteps
import Riscdom.Merge
import Riscdom.SegmentRows
import Riscdom.PartialMerge
import Riscdom.SegmentLife
import Riscdom.RunIndex
import Riscdom.RunAgreement
import Riscdom.Processes
import Riscdom.Text
import Riscdom.AgentLoop
import Riscdom.Policy
import Riscdom.AuditHook
import Riscdom.Tools
import Riscdom.Sessions
import Riscdom.Requests
import Riscdom.Fingerprint
import Riscdom.Replay
import Riscdom.Signing
import Riscdom.Local
import Riscdom.Route
import Riscdom.Relaying
import Riscdom.SessionTable
import Riscdom.Serving
import Riscdom.Liveness
import Riscdom.Online
import Riscdom.Judgements
import Riscdom.Suppression
import Riscdom.Deliveries
import Riscdom.SandboxQueue
import Riscdom.Receiving
import Riscdom.DeliverySteps
import Riscdom.DeliveryRuns
import Riscdom.SegmentStream
import Riscdom.Steering
import Riscdom.HandOver
import Riscdom.Asking
import Riscdom.AskRecords
import Riscdom.AskRuns
import Riscdom.AskIds
import Riscdom.PeerDecisions
import Riscdom.QueueDeliveries
import Riscdom.Dispatching
import Riscdom.ProbeThreads
import Riscdom.StandIn
import Riscdom.LocalWins
import Riscdom.HandDowns
import Riscdom.Vocabulary
import Riscdom.BufferedRead
import Riscdom.Framing
import Riscdom.Settings
import Riscdom.SettingsFile
import Riscdom.WorkspaceFiles
import Riscdom.Executors
import Riscdom.ModelConfigs
import Riscdom.Answers
import Riscdom.SessionOwners
import Riscdom.PortLeases
import Riscdom.Qmp
import Riscdom.Streams
import Riscdom.Bridges
import Riscdom.RunSpec
import Riscdom.RunRebuild
import Riscdom.JsonReading
import Riscdom.RunExport
import Riscdom.Undelivered
import Riscdom.RecentLog
import Riscdom.KeyEvents
import Riscdom.Witnesses
import Riscdom.Probing
import Riscdom.PeerTable
import Riscdom.Announcements
import Riscdom.FixedWindow
import Riscdom.RoomRates
import Riscdom.StreamChecks
import Riscdom.StandDowns
import Riscdom.VmStarts
import Riscdom.Instances
import Riscdom.SandboxSwitch
import Riscdom.LexicalPaths
import Riscdom.Containment
import Riscdom.SnapshotNames
import Riscdom.AuditAlerts
import Riscdom.JsonRecords
import Riscdom.SettingsVersions
import Riscdom.RunDiff
import Riscdom.QmpVerdicts
import Riscdom.SnapshotSaves
import Riscdom.VmRows
import Riscdom.ChildCleanup
import Riscdom.BackupSeal
import Riscdom.BackupManifest
import Riscdom.RunClosing
import Riscdom.EventReaders
import Riscdom.FileTree
import Riscdom.ToolchainArchives
import Riscdom.KeyForgetting
import Riscdom.ChatEvents
import Riscdom.StreamedReplies
import Riscdom.Utf8
import Riscdom.SerialText
import Riscdom.SegmentIds
import Riscdom.CanonicalJson
import Riscdom.EventPages
import Riscdom.OpenedSegments
import Riscdom.NodeKeys
import Riscdom.FileMoves
import Riscdom.ToolchainInstalls
import Riscdom.WorkspaceImports
import Riscdom.ImportCeilings
import Riscdom.WorkspacePacks
import Riscdom.ProjectRoundTrip
