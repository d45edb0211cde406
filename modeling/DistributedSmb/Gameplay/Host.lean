import DistributedSmb.Gameplay.Client

/-!
# Host frames

`gameplay/host.py` with the evictions of `gameplay/events.py`, and the frames of both roles. A host
polls one lobby message a frame, and reads neither the relay nor the election messages among its
datagrams.
-/

namespace DistributedSmb

open Library

namespace Node

/-! ## Rejoining and leaving -/

/-- The entry takes the place of the existing one, or is new. -/
def replaceInRoster (roster : GlobalRoster) (existing : Option RosterEntry) (entry : RosterEntry) :
    Except PyError GlobalRoster :=
  match existing with
  | none => roster.addPlayer entry
  | some e => (roster.removePlayer e.playerId).addPlayer entry

/-- A player that left with a character gets it back; a new one is spawned. -/
def restorePlayer (g : GameEngine) (restored : Option Player) (known : Bool) (entry : RosterEntry) :
    GameEngine :=
  match restored with
  | some p =>
    { g with
      worldState :=
        g.worldState.addPlayer { p with playerId := entry.playerId, joinIndex := entry.joinIndex } }
  | none =>
    if known then g
    else g.spawnPlayer entry.playerId (g.spawnPositionFor entry.joinIndex) entry.joinIndex

/-- One entry of a lobby roster; `true` if the player re-entered the game. -/
def rejoin (n : Node) (entry : RosterEntry) (now : ℚ) : Except PyError (Node × Bool) :=
  if entry.playerId = n.localPlayerId then .ok (n, false)
  else
    let existing := n.roster.getAllPlayers.find? fun e => e.joinIndex = entry.joinIndex
    let restored := n.rejoinStates.get? entry.joinIndex
    if existing.any fun e => e.playerId ≠ entry.playerId then .ok (n, false)
    else if existing.any fun e =>
        e.host = entry.host && e.udpPort = entry.udpPort && restored.isNone then .ok (n, false)
    else do
      let roster ← replaceInRoster n.roster existing entry
      .ok ({ n with
        rejoinStates := n.rejoinStates.erase entry.joinIndex
        roster := roster
        engine := restorePlayer n.engine restored existing.isSome entry
        lastInputTime := n.lastInputTime.set entry.playerId now }, true)

def rejoinAll (n : Node) (entries : List RosterEntry) (now : ℚ) : Except PyError (Node × Bool) :=
  entries.foldlM
    (fun (state : Node × Bool) entry => do
      let (n, reentered) ← state.1.rejoin entry now
      .ok (n, state.2 || reentered)) (n, false)

def checkForRejoiningPlayers (n : Node) (message : Option WsMessage) (now : ℚ) :
    Except PyError Node :=
  match message with
  | some (.rosterUpdate roster) => do
    let (n, reentered) ← n.rejoinAll roster.getAllPlayers now
    .ok (if reentered then n.send [.lobby (.initialStateSync n.engine.worldState)] else n)
  | _ => .ok n

def evictAndAnnounce (n : Node) (pid : PlayerId) : Except PyError Node := do
  let message ← WsMessage.checked (.playerLeft pid)
  .ok ((n.evictPlayer pid).send [.relay message])

/-- The players whose last input is too old. -/
def silentPlayers (n : Node) (now : ℚ) : List PlayerId :=
  (n.lastInputTime.entries.filter fun e => now - e.2 > udpInputTimeout).map Prod.fst

def evictSilentPlayers (n : Node) (now : ℚ) : Except PyError Node :=
  (n.silentPlayers now).foldlM evictAndAnnounce n

/-! ## The authoritative tick -/

/-- One datagram: a probe for this session is answered, a newer input packet is cached. -/
def onRemoteInput (n : Node) (payload : Except PyError UdpMessage) (host : Ip)
    (port : ℕ) (now : ℚ) : Except PyError Node := do
  match ← payload with
  | .hostDiscoveryProbe probe =>
    if probe.sessionId ≠ n.sessionId then .ok n
    else do
      let response ← HostIdentityResponse.checked ⟨n.sessionId, n.localIp⟩
      .ok (n.send [.udp (.hostIdentityResponse response) host port])
  | .playerInput packet =>
    if packet.sequenceNumber ≤ n.lastRemoteInputSequence.getD packet.playerId (-1) then .ok n
    else
      .ok { n with
        lastRemoteInputSequence :=
          n.lastRemoteInputSequence.set packet.playerId packet.sequenceNumber
        cachedRemoteInputs := n.cachedRemoteInputs.set packet.playerId packet.inputState
        lastInputTime := n.lastInputTime.set packet.playerId now }
  | _ => .ok n

def buildHostInputs (n : Node) (localInput : InputState) : Dict PlayerId InputState :=
  n.peers.foldl
    (fun inputs e => inputs.set e.playerId (n.cachedRemoteInputs.getD e.playerId {}))
    (Dict.ofList [(n.localPlayerId, localInput)])

def advance (n : Node) (localInput : InputState)
    (enemyCommands : Option (Dict EnemyId EnemyMovementCommand)) (now : ℚ) :
    Except PyError Node := do
  let engine ← n.engine.tick ⟨tickInterval, n.buildHostInputs localInput, enemyCommands, now⟩
  .ok { n with engine := engine }

def sendGameEvents (n : Node) : Except PyError Node := do
  let messages ← n.engine.events.mapM eventToMessage
  .ok { n.send (messages.map Outgoing.relay) with engine := { n.engine with events := [] } }

def sendWorldStateSnapshot (n : Node) : Node :=
  let snapshot : WorldStateSnapshot := ⟨n.engine.worldState.sequenceNumber, n.engine.worldState⟩
  { n.send (n.peers.map fun e => .udp (.worldState snapshot) e.host e.udpPort) with
    sentSnapshots := n.sentSnapshots + 1 }

def maybeBroadcastRoster (n : Node) : Except PyError Node :=
  if n.sentSnapshots % hostRosterBroadcastInterval ≠ 0 then .ok n
  else do
    let message ← WsMessage.checked (.rosterUpdate n.roster)
    .ok (n.send [.relay message])

end Node

/-! ## Frames -/

/-- The calls of `_process_host_frame`, with what each reads from outside. -/
inductive HostCall where
  | checkForRejoiningPlayers (message : Option WsMessage)
  | playerDisconnected (pid : PlayerId)
  | evictSilentPlayers
  | remoteInput (payload : Except PyError UdpMessage) (host : Ip) (port : ℕ)
  | advance (localInput : InputState) (enemyCommands : Option (Dict EnemyId EnemyMovementCommand))
  | sendGameEvents
  | sendWorldStateSnapshot
  | maybeBroadcastRoster

inductive Call where
  | client (call : ClientCall)
  | host (call : HostCall)

/-- A call and the clock it reads. -/
structure TimedCall where
  now : ℚ
  call : Call

/-- What one frame finds: the clocks, the local input, the queues and the prober's reply. -/
structure FrameInput where
  now : ℚ
  sentAt : ℚ := 0
  localInput : InputState := {}
  lobby : List WsMessage := []
  datagrams : List (Except PyError UdpMessage × Ip × ℕ) := []
  gameEvents : List WsMessage := []
  foundIp : Option Ip := none
  disconnected : List PlayerId := []
  enemyCommands : Option (Dict EnemyId EnemyMovementCommand) := none

namespace FrameInput

/-- The order of `_process_client_frame`. -/
def clientCalls (f : FrameInput) : List ClientCall :=
  [.ensureElectionComponents] ++ f.lobby.map .lobbyMessage ++
    [.sendInputPacket f.localInput, .runPredictedTicks f.localInput f.sentAt, .clearEvents] ++
    f.datagrams.map (fun d => .datagram d.1) ++ f.gameEvents.map .gameEvent ++
    [.tickElectionState f.foundIp, .adjustPredictionLead]

/-- The order of `_process_host_frame`. -/
def hostCalls (f : FrameInput) : List HostCall :=
  [.checkForRejoiningPlayers f.lobby.head?] ++ f.disconnected.map .playerDisconnected ++
    [.evictSilentPlayers] ++ f.datagrams.map (fun d => .remoteInput d.1 d.2.1 d.2.2) ++
    [.advance f.localInput f.enemyCommands, .sendGameEvents, .sendWorldStateSnapshot,
      .maybeBroadcastRoster]

def calls (f : FrameInput) : PlayerRole → List TimedCall
  | .host => f.hostCalls.map fun c => ⟨f.now, .host c⟩
  | .client => f.clientCalls.map fun c => ⟨f.now, .client c⟩

end FrameInput

namespace Node

def hostCall (n : Node) (now : ℚ) : HostCall → Except PyError Node
  | .checkForRejoiningPlayers message => n.checkForRejoiningPlayers message now
  | .playerDisconnected pid => n.evictAndAnnounce pid
  | .evictSilentPlayers => n.evictSilentPlayers now
  | .remoteInput payload host port => n.onRemoteInput payload host port now
  | .advance localInput enemyCommands => n.advance localInput enemyCommands now
  | .sendGameEvents => n.sendGameEvents
  | .sendWorldStateSnapshot => .ok n.sendWorldStateSnapshot
  | .maybeBroadcastRoster => n.maybeBroadcastRoster

def step (n : Node) (c : TimedCall) : Except PyError Node :=
  match c.call with
  | .client call => n.clientCall c.now call
  | .host call => n.hostCall c.now call

def run (n : Node) (calls : List TimedCall) : Except PyError Node := calls.foldlM step n

/-- The role at the start of the frame decides, also for a frame in which the node promotes. -/
def processFrame (n : Node) (f : FrameInput) : Except PyError Node := n.run (f.calls n.role)

/-- The client behind a roster entry, before its first frame in an empty level. -/
def clientOf (roster : GlobalRoster) (entry : RosterEntry) (remoteHost : Ip) : Node where
  engine := { isAuthoritative := false }
  roster := roster
  sessionId := "session"
  localIp := entry.host
  localPlayerId := entry.playerId
  remoteHost := remoteHost
  joinIndex := entry.joinIndex

end Node

end DistributedSmb
