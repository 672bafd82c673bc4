import MindChat.Table
import MindChat.Interned
import MindChat.Transition
import MindChat.Text
import MindChat.Domain
import MindChat.Core
import MindChat.Edits
import MindChat.Integrity
import MindChat.Restart
import MindChat.Mutators
import MindChat.Runs
import MindChat.Reached
import MindChat.OneConversation
import MindChat.StableIds
import MindChat.Json
import MindChat.StateJson
import MindChat.Persistence
import MindChat.Recovery
import MindChat.Connectivity
import MindChat.Stanzas
import MindChat.Peers
import MindChat.ReceiptOrder
import MindChat.Receipts
import MindChat.Worker
import MindChat.AccountScope
import MindChat.Coordinator
import MindChat.Sessions
import MindChat.Reconnect
import MindChat.SessionIsolation
import MindChat.Outbox
import MindChat.OutboxFlush
import MindChat.Handover
import MindChat.Gateway
import MindChat.GatewayOutbox
import MindChat.FailureReasons
import MindChat.SlotAgreement
import MindChat.ServerRoster
import MindChat.Wire
import MindChat.IpLiteral
import MindChat.Numeral
import MindChat.Delimited
import MindChat.ProxyProtocol
import MindChat.SocksHandshake
import MindChat.ProxyLibrary
import MindChat.ProxyRoundTrip
import MindChat.Grouping
import MindChat.UiMapping
import MindChat.UiRefresh
import MindChat.PersistenceTracker
import MindChat.SaveSnapshot
import MindChat.Service
import MindChat.GatewayCalls
import MindChat.Durable
import MindChat.DirtyMarks
import MindChat.Registration
import MindChat.GatewayService
import MindChat.MarkedChanges
import MindChat.Interference
import MindChat.MainThread
import MindChat.FreshAccounts
import MindChat.NewAccounts
import MindChat.ProxyMirror
import MindChat.Staging
import MindChat.FailedCalls
import MindChat.Trace
import MindChat.Deletion
import MindChat.Announcements
import MindChat.UnreadBadge
import MindChat.RestoredIds
import MindChat.SenderAccount
import MindChat.Candidates
import MindChat.RaceGroup
import MindChat.RegistrationExchange
import MindChat.PollBatch
import MindChat.DrainCycle
import MindChat.RegistrationGate
import MindChat.ServerField
import MindChat.ConnectRequest
import MindChat.Resolution
import MindChat.Ipv6Field
import MindChat.HttpConnect
import MindChat.ConnectAuthority
import MindChat.SocksCredentials
import MindChat.SocksReply
import MindChat.BufReader
import MindChat.HttpHeaders
import MindChat.HeaderBuffering
import MindChat.MessageIndex
import MindChat.StallDetection
import MindChat.StateCipher
import MindChat.Loaders
import MindChat.AppLock
import MindChat.HttpStatusLine
import MindChat.DiagnosticsTrack
import MindChat.ProxyProbes
import MindChat.Preferences
import MindChat.ReceiptIds
import MindChat.DiagnosticsJson
import MindChat.Deque
import MindChat.Polling
import MindChat.ReliableLink
import MindChat.Alternation
import MindChat.StanzaQueue
import MindChat.StreamManagement
import MindChat.StreamWrites
import MindChat.StreamNegotiation
import MindChat.StreamWorker
import MindChat.StanzaPipeline
import MindChat.StreamSystem
import MindChat.StreamClient
import MindChat.StreamEvents
import MindChat.StreamRuns
import MindChat.StreamWires
import MindChat.StreamSafety
import MindChat.StreamPeer
import MindChat.StreamAlive
import MindChat.StreamDelivery
import MindChat.StreamLimits
import MindChat.StreamContract
import MindChat.ClientWorker
import MindChat.IqTracking
import MindChat.SessionReports
import MindChat.Backoff
import MindChat.Login
import MindChat.Reconnector
import MindChat.DisconnectCauses
