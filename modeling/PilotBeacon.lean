import PilotBeacon.Lib.FiniteMap
import PilotBeacon.Lib.ShardedMap
import PilotBeacon.Lib.BigEndian
import PilotBeacon.Lib.Text
import PilotBeacon.Lib.Encoding
import PilotBeacon.Lib.FlatJson
import PilotBeacon.Lib.Transition
import PilotBeacon.Lib.Simulation
import PilotBeacon.Lib.Limiter
import PilotBeacon.Lib.LimiterCells
import PilotBeacon.Lib.WindowBudget
import PilotBeacon.Lib.Subsequence
import PilotBeacon.Lib.History
import PilotBeacon.Lib.Network
import PilotBeacon.Lib.Ranking
import PilotBeacon.Lib.Announce
import PilotBeacon.Lib.Tally
import PilotBeacon.Lib.Ownership
import PilotBeacon.Lib.CopyOnWrite
import PilotBeacon.Lib.Fifo
import PilotBeacon.Lib.Timer
import PilotBeacon.Lib.Checked
import PilotBeacon.Net.Addr
import PilotBeacon.Net.AddrText
import PilotBeacon.Server.NodeMap
import PilotBeacon.Server.NodeMapRefinement
import PilotBeacon.Server.RateLimit
import PilotBeacon.Server.LimiterRefinement
import PilotBeacon.Server.State
import PilotBeacon.Server.Discover
import PilotBeacon.Server.Punch
import PilotBeacon.Server.Gossip
import PilotBeacon.Server.Relay
import PilotBeacon.Server.Worker
import PilotBeacon.Server.Reap
import PilotBeacon.Server.Registry
import PilotBeacon.Server.Beacon
import PilotBeacon.Server.Process
import PilotBeacon.Server.ReadLoop
import PilotBeacon.Server.DiscoverLimiter
import PilotBeacon.Server.EndpointStability
import PilotBeacon.Server.PunchAuthorization
import PilotBeacon.Server.RelayOrder
import PilotBeacon.Server.WorkerOutcome
import PilotBeacon.Server.FlushTimer
import PilotBeacon.Server.Buffers
import PilotBeacon.Server.PanicFree
import PilotBeacon.Server.RelayAccounting
import PilotBeacon.Server.Amplification
import PilotBeacon.Server.BoundedWaiting
import PilotBeacon.Server.Teardown
import PilotBeacon.Server.Shutdown
import PilotBeacon.Server.SharedBuffers
import PilotBeacon.Server.Uninterrupted
import PilotBeacon.Server.BufferOwnership
import PilotBeacon.Server.BufferFidelity
import PilotBeacon.Server.TransportOrder
import PilotBeacon.Server.RelayBudget
import PilotBeacon.Server.KeyBinding
import PilotBeacon.Server.PunchCap
import PilotBeacon.Server.KeyNoninterference
import PilotBeacon.Server.BatchSend
import PilotBeacon.Server.ReapExactness
import PilotBeacon.Server.NotifySpacing
import PilotBeacon.Server.GossipSize
import PilotBeacon.Server.GossipCodec
import PilotBeacon.Server.GossipTables
import PilotBeacon.Server.GossipRoutes
import PilotBeacon.Server.PeerSet
import PilotBeacon.Server.RouteAge
import PilotBeacon.Server.Keepalive
import PilotBeacon.Server.DiscoverReply
import PilotBeacon.Server.RefusedDiscover
import PilotBeacon.Server.Provenance
import PilotBeacon.Server.StrictGossip
import PilotBeacon.Mesh.Basic
import PilotBeacon.Mesh.LoopFreedom
import PilotBeacon.Mesh.Convergence
import PilotBeacon.Mesh.FairShare
import PilotBeacon.Mesh.RelayChain
import PilotBeacon.Mesh.Accounting
import PilotBeacon.WSS.PeerMap
import PilotBeacon.WSS.Auth
import PilotBeacon.WSS.Preimages
import PilotBeacon.WSS.Listener
import PilotBeacon.WSS.Capacity
import PilotBeacon.WSS.StaleFrames
import PilotBeacon.WSS.Handshake
import PilotBeacon.WSS.Transport
import PilotBeacon.WSS.TransportClose
import PilotBeacon.WSS.TransportExact
import PilotBeacon.Server.CompatWSS
import PilotBeacon.Server.WriteFallback
