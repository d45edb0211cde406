import DistributedSmb.Library.Dict
import DistributedSmb.Library.Fallible
import DistributedSmb.Library.Clipping
import DistributedSmb.Library.Json
import DistributedSmb.Library.Motion
import DistributedSmb.Library.Gliding
import DistributedSmb.Library.Overwriting
import DistributedSmb.Library.Register
import DistributedSmb.Library.Sweep
import DistributedSmb.Library.Ticks
import DistributedSmb.Library.DelayQueue
import DistributedSmb.Shared.Config
import DistributedSmb.Shared.Roster
import DistributedSmb.Domain.Entity
import DistributedSmb.Domain.ShadowCopy
import DistributedSmb.Domain.Smoothing
import DistributedSmb.Domain.Collisions
import DistributedSmb.Domain.World
import DistributedSmb.Domain.WorldDict
import DistributedSmb.Domain.Engine
import DistributedSmb.Domain.Evolution
import DistributedSmb.Domain.Resuming
import DistributedSmb.Domain.Enemies
import DistributedSmb.Domain.Frames
import DistributedSmb.Domain.Gates
import DistributedSmb.Domain.Respawns
import DistributedSmb.Domain.Patrol
import DistributedSmb.Shared.Messages
import DistributedSmb.Reconciliation.Prediction
import DistributedSmb.Reconciliation.InputHistory
import DistributedSmb.Reconciliation.Replay
import DistributedSmb.Gameplay.RemoteEvents
import DistributedSmb.Reconciliation.EnvironmentSync
import DistributedSmb.Reconciliation.EventLog
import DistributedSmb.Reconciliation.CatchUp
import DistributedSmb.Election.Coordinator
import DistributedSmb.Node.Controller
import DistributedSmb.Election.Mixin
import DistributedSmb.Gameplay.Client
import DistributedSmb.Gameplay.Host
import DistributedSmb.Gameplay.NewHost
import DistributedSmb.Gameplay.PredictionLead
import DistributedSmb.Gameplay.ShadowCopies
import DistributedSmb.Gameplay.VisualState
import DistributedSmb.Gameplay.Corrections
import DistributedSmb.Gameplay.LocalView
import DistributedSmb.Gameplay.HostWorld
import DistributedSmb.Election.NoGhosts
import DistributedSmb.Election.Effects
import DistributedSmb.Gameplay.Adoption
import DistributedSmb.Election.ClaimOrder
import DistributedSmb.Election.Staggered
import DistributedSmb.Election.Follower
import DistributedSmb.Election.FailureDetector
import DistributedSmb.Election.Migration
import DistributedSmb.Election.Cluster
import DistributedSmb.Election.Isolation
import DistributedSmb.Election.Safety
import DistributedSmb.Election.AckQuorum
import DistributedSmb.Lobby.Messages
import DistributedSmb.Shared.Schemas
import DistributedSmb.Network.Serializer
import DistributedSmb.Network.RoundTrip
import DistributedSmb.Network.DecodeErrors
import DistributedSmb.Network.Broadcasts
import DistributedSmb.Network.Disconnections
import DistributedSmb.Network.Latency
import DistributedSmb.Election.RespawnIdentity
import DistributedSmb.Domain.Authority
import DistributedSmb.Domain.Objectives
import DistributedSmb.Domain.Consumption
import DistributedSmb.Domain.Conservation
import DistributedSmb.Domain.Predicting
import DistributedSmb.Domain.StarPower
import DistributedSmb.Domain.Seams
import DistributedSmb.Recovery.Prober
import DistributedSmb.Election.Deeds
import DistributedSmb.Election.Relaunch
import DistributedSmb.Election.RejoinSlots
import DistributedSmb.Gameplay.Datagrams
import DistributedSmb.Gameplay.InputCaches
import DistributedSmb.Gameplay.CachedPlayers
import DistributedSmb.Lobby.Manager
import DistributedSmb.Recovery.Metadata
import DistributedSmb.Lobby.Slots
import DistributedSmb.Lobby.Service
import DistributedSmb.Lobby.Turns
import DistributedSmb.Lobby.Separation
import DistributedSmb.Lobby.Admission
import DistributedSmb.Lobby.Reservations
import DistributedSmb.Lobby.Followers
import DistributedSmb.Lobby.NewRun
import DistributedSmb.Lobby.Leaving
import DistributedSmb.Gameplay.EventRelay
import DistributedSmb.Gameplay.Rejoining
import DistributedSmb.Gameplay.RestoredPlayers
import DistributedSmb.Election.PeerAddresses
import DistributedSmb.Gameplay.RestartedClients
import DistributedSmb.Lobby.Closing
import DistributedSmb.Lobby.Coordinator
import DistributedSmb.Lobby.GameStart
import DistributedSmb.Lobby.StateSync
import DistributedSmb.Gameplay.OwnEvents
import DistributedSmb.Gameplay.RejoinSession
import DistributedSmb.Gameplay.MidGameRejoin
import DistributedSmb.Gameplay.Naming
import DistributedSmb.Gameplay.Survival
import DistributedSmb.Gameplay.RunningSession
import DistributedSmb.Gameplay.Replaying
import DistributedSmb.Gameplay.Failover
import DistributedSmb.Gameplay.SilentPlayers
import DistributedSmb.Recovery.Restarts
import DistributedSmb.Agents.Integration
import DistributedSmb.Agents.Atomicity
import DistributedSmb.Agents.Selection
import DistributedSmb.Agents.Freshness
import DistributedSmb.Agents.Sight
import DistributedSmb.Agents.Bridge
