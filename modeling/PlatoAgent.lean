import PlatoAgent.CoreEvents
import PlatoAgent.HistoryReplay
import PlatoAgent.RunStateMachine
import PlatoAgent.RunStateTransition
import PlatoAgent.RunHistory
import PlatoAgent.RunToolAuthorization
import PlatoAgent.RunTurnDiscipline
import PlatoAgent.RunCompactionGate
import PlatoAgent.RunReadback
import PlatoAgent.AtomicProgram
import PlatoAgent.LedgerTypes
import PlatoAgent.LedgerWorkspace
import PlatoAgent.LedgerJsonl
import PlatoAgent.LedgerSqlite
import PlatoAgent.LedgerRecorders
import PlatoAgent.LedgerRecovery
import PlatoAgent.LedgerSessions
import PlatoAgent.LedgerLogs
import PlatoAgent.LedgerRecording
import PlatoAgent.LedgerTornTail
import PlatoAgent.LedgerBackends
import PlatoAgent.LedgerRunRecovery
import PlatoAgent.LedgerCrashRecovery
import PlatoAgent.LedgerLifecycle
import PlatoAgent.LedgerStuckRuns
import PlatoAgent.JsonText
import PlatoAgent.LedgerText
import PlatoAgent.StoreSchema
import PlatoAgent.ThreadAuthority
import PlatoAgent.StoreThreads
import PlatoAgent.StoreThreadSemantics
import PlatoAgent.Utf8Prefixes
import PlatoAgent.StoreMessages
import PlatoAgent.StoreRuns
import PlatoAgent.StoreDelivery
import PlatoAgent.StoreReturns
import PlatoAgent.StoreLineage
import PlatoAgent.StoreHomes
import PlatoAgent.OffsetBuffer
import PlatoAgent.FiniteMap
import PlatoAgent.LiveThread
import PlatoAgent.DaemonRuntime
import PlatoAgent.ActionRuns
import PlatoAgent.ThreadEventCursor
import PlatoAgent.ThreadTurns
import PlatoAgent.ThreadStops
import PlatoAgent.ThreadSteering
import PlatoAgent.RunEventStream
import PlatoAgent.FramedBytes
import PlatoAgent.IdempotencyStore
import PlatoAgent.HttpMutations
import PlatoAgent.HttpIdempotency
import PlatoAgent.RunSupervisor
import PlatoAgent.RunSupervision
import PlatoAgent.RunEndings
import PlatoAgent.HostShutdown
import PlatoAgent.ApprovalGate
import PlatoAgent.ApprovalDecisions
import PlatoAgent.RequestAuthority
import PlatoAgent.HistoryPages
import PlatoAgent.HistorySizes
import PlatoAgent.HistoryWalk
import PlatoAgent.SerdeStructs
import PlatoAgent.ProtocolMethods
import PlatoAgent.ProtocolMessages
import PlatoAgent.ProtocolEnvelope
import PlatoAgent.ProviderResponses
import PlatoAgent.ProviderStream
import PlatoAgent.ProviderAssembly
import PlatoAgent.ProviderEvents
import PlatoAgent.ProviderDelivery
import PlatoAgent.ProviderAgreement
import PlatoAgent.VoiceStreams
import PlatoAgent.ProviderReads
import PlatoAgent.ProviderLines
import PlatoAgent.ProviderStreamLimits
import PlatoAgent.CanonicalJson
import PlatoAgent.HttpWire
import PlatoAgent.ContextPacks
import PlatoAgent.SessionHydration
import PlatoAgent.RunScope
import PlatoAgent.SentenceCutter
import PlatoAgent.InterruptionLatch
import PlatoAgent.TextLines
import PlatoAgent.ApprovalDiff
import PlatoAgent.TextClosers
import PlatoAgent.JsonClosers
import PlatoAgent.SpawnEdgeContext
import PlatoAgent.ToolOutput
import PlatoAgent.NeuralVad
import PlatoAgent.MarkdownWrap
import PlatoAgent.StreamingBuffer
import PlatoAgent.WhisperRecognizer
import PlatoAgent.FallibleCalls
import PlatoAgent.ProcessTable
import PlatoAgent.ChildProcess
import PlatoAgent.ComputerReplies
import PlatoAgent.ComputerHandler
import PlatoAgent.ComputerApprovals
import PlatoAgent.SymlinkWalk
import PlatoAgent.Utf8Decoding
import PlatoAgent.FileTools
import PlatoAgent.BoundedSort
import PlatoAgent.FileListing
import PlatoAgent.FileReads
