import JwSwarm.FleetManager.DeadTunnels
import JwSwarm.FleetManager.DeliveryCredit
import JwSwarm.FleetManager.Isolation
import JwSwarm.FleetManager.Ownership
import JwSwarm.FleetManager.Sessions
import JwSwarm.FleetManager.CapacityCredit
import JwSwarm.FleetManager.Enrollment
import JwSwarm.FleetManager.EnrollmentTokens
import JwSwarm.MacNode.Backend
import JwSwarm.MacNode.Tunnel
import JwSwarm.Data.KeySet
import JwSwarm.FleetManager.Peer
import JwSwarm.LinuxNode.Node
import JwSwarm.LinuxNode.ReadyModels
import JwSwarm.MacNode.Coordinator
import JwSwarm.MacNode.ReadyModels
import JwSwarm.FleetManager.EnrollmentIdentity
import JwSwarm.FleetManager.PendingTable
import JwSwarm.FleetManager.Streaming
import JwSwarm.FleetManager.DispatchTarget
import JwSwarm.FleetManager.ModelList
import JwSwarm.FleetManager.Balances
import JwSwarm.FleetManager.Reconciliation
import JwSwarm.LinuxNode.CatalogModels
import JwSwarm.MacNode.Generate
import JwSwarm.MacNode.Stateless
import JwSwarm.LinuxNode.TerminalFrames
import JwSwarm.LinuxNode.Downloads
import JwSwarm.FleetManager.DeliveryPoints
import JwSwarm.LinuxNode.Connections
import JwSwarm.Data.Utf8
import JwSwarm.WindowsNode.TunnelClient
import JwSwarm.MacNode.TokenPieces
import JwSwarm.Data.Calendar
import JwSwarm.FleetManager.TokenExpiry
import JwSwarm.LinuxNode.ServedArtifact
import JwSwarm.LinuxNode.DownloadSteps
import JwSwarm.LinuxNode.MarkerTruth
import JwSwarm.Proto.Derive
import JwSwarm.Proto.Wire
import JwSwarm.Proto.RoundTrip
import JwSwarm.Proto.Conforms
import JwSwarm.Proto.Schema
import JwSwarm.Proto.SchemaConformance
import JwSwarm.LinuxNode.Reregistration
import JwSwarm.Data.Lru
import JwSwarm.LinuxNode.Outbound
import JwSwarm.LinuxNode.Residency
import JwSwarm.WindowsNode.Residency
import JwSwarm.MacNode.Extraction
import JwSwarm.MacNode.ReadyLimit
import JwSwarm.FleetManager.DeliveryWrites
import JwSwarm.FleetManager.Selection
import JwSwarm.WindowsNode.Extraction
import JwSwarm.FleetManager.Earnings
import JwSwarm.Data.FileStore
import JwSwarm.LinuxNode.Enroll
import JwSwarm.LinuxNode.EnrollFailures
import JwSwarm.Data.NumberText
import JwSwarm.FleetManager.TokenLifetime
import JwSwarm.LinuxNode.ResolvedCatalog
import JwSwarm.WindowsNode.DiskSpace
import JwSwarm.LinuxNode.Metrics
import JwSwarm.WindowsNode.Metrics
import JwSwarm.LinuxNode.InFlight
import JwSwarm.MacNode.TrimBudget
import JwSwarm.FleetManager.Channels
import JwSwarm.Swarm.Network
import JwSwarm.Swarm.Relay
import JwSwarm.Swarm.Delivery
import JwSwarm.Swarm.Answers
import JwSwarm.Data.Interleaved
import JwSwarm.Transition.Simulation
import JwSwarm.WindowsNode.Backend
import JwSwarm.WindowsNode.Serving
import JwSwarm.Swarm.WindowsAnswers
import JwSwarm.LinuxNode.Schedule
import JwSwarm.LinuxNode.ScheduleAgreement
import JwSwarm.Proto.OtherWriters
import JwSwarm.MacNode.Wire
import JwSwarm.WindowsNode.Inbound
import JwSwarm.WindowsNode.Wire
import JwSwarm.WindowsNode.Coordinator
import JwSwarm.WindowsNode.Downloads
import JwSwarm.FleetManager.Leaderboard
import JwSwarm.WindowsNode.ResidentMemory
import JwSwarm.Data.Thinned
import JwSwarm.WindowsNode.Sessions
import JwSwarm.Swarm.WindowsSessions
import JwSwarm.Swarm.WindowsDelivery
import JwSwarm.MacNode.Sends
