import Hislip.Program
import Hislip.ByteStream
import Hislip.Discipline
import Hislip.Transition
import Hislip.Rounds
import Hislip.Simulation
import Hislip.SharedLock
import Hislip.Threads
import Hislip.Chronicle
import Hislip.Protocol.Errors
import Hislip.Search
import Hislip.Protocol.Constants
import Hislip.Protocol.Codec
import Hislip.Protocol.Payload
import Hislip.Protocol.MessageID
import Hislip.Protocol.Version
import Hislip.Server.Reader
import Hislip.Server.ReadAhead
import Hislip.Server.Writer
import Hislip.Server.Transaction
import Hislip.Server.Status
import Hislip.Server.Policy
import Hislip.Server.Locks
import Hislip.Server.Config
import Hislip.Server.Session
import Hislip.Server.Operations
import Hislip.Server.Execution
import Hislip.Server.Data
import Hislip.Server.Async
import Hislip.Server.Serve
import Hislip.Server.Registry
import Hislip.Server.Channels
import Hislip.Listener
import Hislip.Proofs.LockTable
import Hislip.Proofs.LockWakeup
import Hislip.Proofs.Codec
import Hislip.Proofs.Payload
import Hislip.Proofs.ReaderSync
import Hislip.Proofs.MessageIDs
import Hislip.Proofs.Framing
import Hislip.Proofs.Overtaken
import Hislip.Proofs.Answering
import Hislip.Proofs.Responses
import Hislip.Proofs.SyncChannel
import Hislip.Proofs.SyncRuns
import Hislip.Proofs.Footprint
import Hislip.Proofs.Reporting
import Hislip.Proofs.DeviceClear
import Hislip.Proofs.Teardown
import Hislip.Proofs.LockLifetime
import Hislip.Proofs.Lifecycle
import Hislip.Proofs.Allocation
import Hislip.Proofs.Pairing
import Hislip.Proofs.Shutdown
import Hislip.Proofs.Ledger
import Hislip.Proofs.LoopPhases
import Hislip.Proofs.Dialogue
import Hislip.Proofs.Agreement
import Hislip.Proofs.LoopSteps
import Hislip.Proofs.ConformingClient
import Hislip.Proofs.Handshake
import Hislip.Proofs.DeviceAccess
import Hislip.Proofs.Readiness
import Hislip.Proofs.AbandonedCalls
import Hislip.Proofs.FatalErrors
import Hislip.Proofs.Refusals
import Hislip.Proofs.ClearStart
import Hislip.Proofs.Connections
import Hislip.Proofs.Removal
import Hislip.Proofs.Registration
import Hislip.Proofs.Notes
import Hislip.Proofs.Verdicts
import Hislip.Proofs.ServiceRequests
import Hislip.Proofs.ProgramText
import Hislip.Proofs.LexicalScan
import Hislip.Proofs.Classification
import Hislip.Proofs.Resizing
import Hislip.Proofs.TransmitLimit
import Hislip.Proofs.MessageAvailable
import Hislip.Proofs.ReadAhead
import Hislip.Proofs.Interruption
import Hislip.Proofs.Serving
import Hislip.Proofs.LastWord
import Hislip.Proofs.Exclusion
import Hislip.Proofs.Occupancy
import Hislip.Proofs.Grammar
import Hislip.Proofs.Conversation
import Hislip.Proofs.Exchange
import Hislip.Proofs.Contexts
import Hislip.Proofs.Streams
import Hislip.Proofs.SessionEnd
import Hislip.Proofs.Isolation
