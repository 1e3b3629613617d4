import Pipewave.LengthPrefix
import Pipewave.WireFrame
import Pipewave.WireParse
import Pipewave.WireGrammar
import Pipewave.WireRoundTrip
import Pipewave.MessageType
import Pipewave.Auth
import Pipewave.ClientMsgHandler
import Pipewave.Transition
import Pipewave.Pool
import Pipewave.PendingMessage
import Pipewave.Separator
import Pipewave.SessionBuffers
import Pipewave.GoMap
import Pipewave.GoTime
import Pipewave.MsgHub
import Pipewave.HubExpiry
import Pipewave.ActiveConn
import Pipewave.ConnectionManager
import Pipewave.SendOrSave
import Pipewave.AckManager
import Pipewave.Cluster
import Pipewave.Routing
import Pipewave.RoutingEffects
import Pipewave.BatchSend
import Pipewave.ClusterFrame
import Pipewave.Registration
import Pipewave.Takeover
import Pipewave.ClusterWork
import Pipewave.Admission
import Pipewave.AdmissionOrder
import Pipewave.HubTimers
import Pipewave.SessionTimeline
import Pipewave.SessionCallbacks
import Pipewave.ReconnectExpiry
import Pipewave.ConnLimit
import Pipewave.OneShotRead
import Pipewave.Shutdown
import Pipewave.ShutdownSend
import Pipewave.SubscribeLoop
import Pipewave.AdminSend
import Pipewave.KeyedTable
import Pipewave.PendingBackends
import Pipewave.Mealy
import Pipewave.ConnBackends
import Pipewave.DrainOrder
import Pipewave.CloseHook
import Pipewave.WorkerPool
import Pipewave.HubPhase
import Pipewave.TimerPool
import Pipewave.LiveTimers
import Pipewave.Health
import Pipewave.SessionThrottle
import Pipewave.CircuitBreaker
import Pipewave.SyncCaller
import Pipewave.Migration
import Pipewave.PoolClose
import Pipewave.PoolDrain
import Pipewave.RemoteAcks
import Pipewave.FrameLoop
import Pipewave.CloseHookFrames
import Pipewave.ClientResponses
import Pipewave.PushFrames
import Pipewave.RemoteSend
import Pipewave.NewConnection
import Pipewave.History
import Pipewave.PingProbe
import Pipewave.QueuePressure
import Pipewave.RateLimiter
import Pipewave.LimiterEntries
import Pipewave.AckChannels
import Pipewave.AckContainer
import Pipewave.AsyncDispatcher
import Pipewave.IdleTimer
import Pipewave.LongPollingSend
import Pipewave.ExpirySweep
import Pipewave.SweepMirror
import Pipewave.TokenBucket
import Pipewave.IPRateLimiter
import Pipewave.MessageRoundTrip
import Pipewave.MsgTypeLabel
import Pipewave.ControlReplies
import Pipewave.BufferLifetime
import Pipewave.Decimal
import Pipewave.AnonInstance
import Pipewave.Calls
import Pipewave.BatchWrite
import Pipewave.ConnCleanup
import Pipewave.TrackedQueue
import Pipewave.LongPollQueue
import Pipewave.LongPollReads
import Pipewave.CacheValues
import Pipewave.ExpiringStore
import Pipewave.ExchangeToken
import Pipewave.TokenRedemption
import Pipewave.PubsubTransport
import Pipewave.ServerFns
import Pipewave.FleetBroadcast
import Pipewave.PendingDrain
import Pipewave.PendingKept
import Pipewave.ChannelBus
import Pipewave.BroadcastBus
import Pipewave.BackendHealth
import Pipewave.Presence
import Pipewave.AdminApi
import Pipewave.AdminAnswers
import Pipewave.EnvConfig
import Pipewave.ServerConfig
import Pipewave.CleanupOrder
