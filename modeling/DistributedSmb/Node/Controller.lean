import DistributedSmb.Election.Coordinator
import DistributedSmb.Gameplay.RemoteEvents
import DistributedSmb.Reconciliation.Prediction

/-!
# Node controller

The state of `application/node_controller.py` that frames read and write, and the operations that
hosts and clients share. What a node sends is collected in its outbox. Connections, threads and
diagnostics are left out; the shadow copies are kept beside the node.
-/

namespace DistributedSmb

open Library

inductive PlayerRole where
  | host | client
  deriving DecidableEq, Repr

/-- A datagram, a payload for everyone on the game event relay, or a message to the lobby. -/
inductive Outgoing where
  | udp (message : UdpMessage) (host : Ip) (port : ℕ)
  | relay (message : WsMessage)
  | lobby (message : WsMessage)
  deriving DecidableEq

/-- Failure detection and election. A deadline of `0` is unset; the pending acks are a set, kept in
roster order. -/
structure ElectionFields where
  coordinator : Option ElectionCoordinator := none
  timeoutWatcher : Option HostTimeoutWatcher := none
  electionTriggered : Bool := false
  reconnected : Bool := false
  pendingElectionAcks : List Ip := []
  electionClaimDeadline : ℚ := 0
  promotionDone : Bool := false
  followingHostIp : Option Ip := none
  followingSince : ℚ := 0
  hostVerifyDeadline : ℚ := 0
  hostVerifyNextProbe : ℚ := 0
  deriving DecidableEq

/-- The prediction engine shares the node's engine; its own state is the input history. -/
structure Node where
  engine : GameEngine
  roster : GlobalRoster
  sessionId : String
  localIp : Ip
  role : PlayerRole := .client
  localPlayerId : PlayerId
  remoteHost : Ip
  remotePort : ℕ := hostUdpPort
  joinIndex : ℕ := 0
  inputHistory : InputHistoryBuffer := .empty inputHistorySize
  inputSequenceNumber : ℤ := 0
  lastSnapshotSequence : ℤ := 0
  visualCorrectionOffset : ℚ × ℚ := (0, 0)
  predictionLeadBaseline : ℚ := 0
  predictionLeadCalibrationRemaining : ℕ := predictionLeadCalibrationFrames
  pendingTickAdjustment : ℤ := 0
  lastRemoteInputSequence : Dict PlayerId ℤ := ∅
  cachedRemoteInputs : Dict PlayerId InputState := ∅
  lastInputTime : Dict PlayerId ℚ := ∅
  sentSnapshots : ℕ := 0
  rejoinStates : Dict ℕ Player := ∅
  envStateBuffer : Option EnvironmentalStateBuffer := none
  election : ElectionFields := {}
  outbox : List Outgoing := []
  deriving DecidableEq

namespace Node

/-- The socket and the relay take what they are given. A send that raises leaves the frame and ends
the process, which is a step of the session (`SessionStep.sendRaises`). -/
def send (n : Node) (out : List Outgoing) : Node := { n with outbox := n.outbox ++ out }

/-- A new process before it enters a session: `bootstrap`, and the address that `main` gives it. -/
def bootstrap (level : Level) (role : PlayerRole) (localIp : Ip) : Node :=
  let pid := if role = .host then hostPlayerId else playerIdFor 1
  let engine := { GameEngine.ofLevel level with isAuthoritative := role = PlayerRole.host }
  { engine := engine.spawnPlayer pid (engine.spawnPositionFor 0) 0
    roster := {}
    sessionId := ""
    localIp := localIp
    role := role
    localPlayerId := pid
    remoteHost := defaultHost }

/-- The snapshot that a promotion or a reconnection falls back on. -/
def bufferedSnapshot (n : Node) : Option WorldStateSnapshot := n.envStateBuffer.bind (·.last)

/-- Everyone in the roster but this node, in join order. -/
def peers (n : Node) : List RosterEntry :=
  n.roster.getAllPlayers.filter fun e => e.playerId ≠ n.localPlayerId

/-- The IPs of the peers, without the flagged host. -/
def knownClientPeers (n : Node) : List Ip :=
  ((n.peers.filter fun e => !e.isHost).map RosterEntry.host).dedup

/-- `onlyHosts = none` addresses every peer. -/
def electionDatagrams (n : Node) (message : ElectionMessage) (onlyHosts : Option (List Ip)) :
    List Outgoing :=
  (n.peers.filter fun e => onlyHosts.all (e.host ∈ ·)).map fun e =>
    .udp (.election message) e.host e.udpPort

/-- Over the relay, and over UDP because the relay may have died with the host. -/
def broadcastElection (n : Node) (message : ElectionMessage)
    (onlyHosts : Option (List Ip)) : Node :=
  n.send (.relay (.election message) :: n.electionDatagrams message onlyHosts)

/-- The character is kept for a rejoin under its join index; respawn timers are not touched. -/
def evictPlayer (n : Node) (pid : PlayerId) : Node :=
  let rejoinStates :=
    match n.roster.getPlayer pid, n.engine.worldState.getPlayer pid with
    | some entry, some player => n.rejoinStates.set entry.joinIndex player
    | _, _ => n.rejoinStates
  { n with
    rejoinStates := rejoinStates
    engine := { n.engine with worldState := n.engine.worldState.removePlayer pid }
    roster := n.roster.removePlayer pid
    cachedRemoteInputs := n.cachedRemoteInputs.erase pid
    lastRemoteInputSequence := n.lastRemoteInputSequence.erase pid
    lastInputTime := n.lastInputTime.erase pid }

def prediction (n : Node) : PredictionEngine := ⟨n.engine, n.localPlayerId, n.inputHistory⟩

def withPrediction (n : Node) (p : PredictionEngine) : Node :=
  { n with engine := p.engine, inputHistory := p.buffer }

/-- Unknown join indices are added, except for one that carries the node's own id. -/
def mergeRoster (n : Node) (roster : GlobalRoster) : Except PyError Node := do
  let known := n.roster.players.map RosterEntry.joinIndex
  let learned := roster.getAllPlayers.filter fun e =>
    e.joinIndex ∉ known && e.playerId ≠ n.localPlayerId
  let merged ← learned.foldlM GlobalRoster.addPlayer n.roster
  .ok { n with roster := merged }

/-! ## Small facts -/

@[simp] theorem send_election (n : Node) (out : List Outgoing) :
    (n.send out).election = n.election :=
  rfl
@[simp] theorem send_engine (n : Node) (out : List Outgoing) : (n.send out).engine = n.engine := rfl
@[simp] theorem send_roster (n : Node) (out : List Outgoing) : (n.send out).roster = n.roster := rfl
@[simp] theorem send_role (n : Node) (out : List Outgoing) : (n.send out).role = n.role := rfl

@[simp] theorem evictPlayer_election (n : Node) (pid : PlayerId) :
    (n.evictPlayer pid).election = n.election := rfl
@[simp] theorem evictPlayer_roster (n : Node) (pid : PlayerId) :
    (n.evictPlayer pid).roster = n.roster.removePlayer pid := rfl
@[simp] theorem evictPlayer_localPlayerId (n : Node) (pid : PlayerId) :
    (n.evictPlayer pid).localPlayerId = n.localPlayerId := rfl

@[simp] theorem mem_peers {n : Node} {e : RosterEntry} :
    e ∈ n.peers ↔ e ∈ n.roster.players ∧ e.playerId ≠ n.localPlayerId := by simp [peers]

theorem mem_knownClientPeers {n : Node} {ip : Ip} :
    ip ∈ n.knownClientPeers ↔
      ∃ e ∈ n.roster.players, e.playerId ≠ n.localPlayerId ∧ e.isHost = false ∧ e.host = ip := by
  simp [knownClientPeers, and_assoc]

/-- Merging a roster only adds entries. -/
theorem mergeRoster_spec {n n' : Node} {roster : GlobalRoster} (h : n.mergeRoster roster = .ok n') :
    ∃ merged, n' = { n with roster := merged } ∧
      (∀ e ∈ n.roster.players, e ∈ merged.players) ∧
      ∀ e ∈ merged.players, e ∈ n.roster.players ∨
        (e ∈ roster.players ∧ e.playerId ≠ n.localPlayerId) := by
  obtain ⟨merged, hmerged, h⟩ := Fallible.bind_eq_ok.mp h
  cases h
  refine ⟨merged, rfl, ?_, ?_⟩
  · refine Fallible.foldlM_keeps
      (P := fun r : GlobalRoster => ∀ e ∈ n.roster.players, e ∈ r.players)
      (fun r entry r' _ hr hadd e he => ?_) hmerged (fun _ he => he)
    rw [GlobalRoster.addPlayer_eq_ok hadd]
    exact List.mem_append_left _ (hr e he)
  · refine Fallible.foldlM_keeps (P := fun r : GlobalRoster => ∀ e ∈ r.players,
      e ∈ n.roster.players ∨ (e ∈ roster.players ∧ e.playerId ≠ n.localPlayerId))
      (fun r entry r' hentry hr hadd e he => ?_) hmerged (fun _ he => .inl he)
    rw [GlobalRoster.addPlayer_eq_ok hadd, List.mem_append, List.mem_singleton] at he
    rcases he with he | rfl
    · exact hr e he
    · simp only [List.mem_filter, GlobalRoster.mem_getAllPlayers, Bool.and_eq_true,
        decide_eq_true_eq] at hentry
      exact .inr ⟨hentry.1, by simpa using hentry.2.2⟩

end Node

end DistributedSmb
