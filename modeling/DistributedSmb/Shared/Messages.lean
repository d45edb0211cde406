import DistributedSmb.Shared.Roster
import DistributedSmb.Domain.World

/-!
# Messages

The messages nodes exchange over UDP and over the WebSocket relay and lobby. `checked` is a
message's `__post_init__`: the sender builds every message through it.
-/

namespace DistributedSmb

/-- The check shared by all messages: an empty text is refused. -/
def requireText (field value : String) : Except PyError Unit :=
  if value = "" then .error (.messageValidationError s!"Invalid {field}: {value}") else .ok ()

theorem requireText_succeeds (field : String) {value : String} (h : value ≠ "") :
    requireText field value = .ok () := if_neg h

def requirePort (message : String) (port : ℕ) : Except PyError Unit :=
  if 1024 ≤ port ∧ port ≤ 65535 then .ok () else .error (.messageValidationError message)

/-! ## Election -/

structure NewHostClaim where
  claimerIp : Ip
  claimerJoinIndex : ℕ
  sessionId : String
  deriving DecidableEq, Repr

/-- It names who acknowledges, not whose claim. -/
structure ElectionAck where
  fromIp : Ip
  sessionId : String
  deriving DecidableEq, Repr

structure ReconnectionAck where
  newHostIp : Ip
  udpPort : ℕ
  gameEventsPort : ℕ
  sessionId : String
  deriving DecidableEq, Repr

def NewHostClaim.checked (m : NewHostClaim) : Except PyError NewHostClaim := do
  requireText "claimer_ip" m.claimerIp
  requireText "session_id" m.sessionId
  .ok m

def ElectionAck.checked (m : ElectionAck) : Except PyError ElectionAck := do
  requireText "from_ip" m.fromIp
  requireText "session_id" m.sessionId
  .ok m

def ReconnectionAck.checked (m : ReconnectionAck) : Except PyError ReconnectionAck := do
  requireText "new_host_ip" m.newHostIp
  requirePort s!"udp_port out of range: {m.udpPort}" m.udpPort
  requirePort s!"game_events_port out of range: {m.gameEventsPort}" m.gameEventsPort
  requireText "session_id" m.sessionId
  .ok m

inductive ElectionMessage where
  | newHostClaim (claim : NewHostClaim)
  | electionAck (ack : ElectionAck)
  | reconnectionAck (ack : ReconnectionAck)
  deriving DecidableEq, Repr

/-! ## Recovery, gameplay and synchronisation -/

structure HostDiscoveryProbe where
  sessionId : String
  requesterIp : Ip
  deriving DecidableEq, Repr

structure HostIdentityResponse where
  sessionId : String
  hostIp : Ip
  deriving DecidableEq, Repr

structure PlayerInputPacket where
  playerId : PlayerId
  sequenceNumber : ℤ
  inputState : InputState
  deriving DecidableEq, Repr

structure WorldStateSnapshot where
  sequenceNumber : ℤ
  worldState : WorldState
  deriving DecidableEq

def HostDiscoveryProbe.checked (m : HostDiscoveryProbe) : Except PyError HostDiscoveryProbe := do
  requireText "session_id" m.sessionId
  requireText "requester_ip" m.requesterIp
  .ok m

def HostIdentityResponse.checked (m : HostIdentityResponse) :
    Except PyError HostIdentityResponse := do
  requireText "session_id" m.sessionId
  requireText "host_ip" m.hostIp
  .ok m

def PlayerInputPacket.checked (m : PlayerInputPacket) : Except PyError PlayerInputPacket := do
  requireText "player_id" m.playerId
  .ok m

/-- What `decode_message` can return for a datagram. -/
inductive UdpMessage where
  | playerInput (packet : PlayerInputPacket)
  | worldState (snapshot : WorldStateSnapshot)
  | hostDiscoveryProbe (probe : HostDiscoveryProbe)
  | hostIdentityResponse (response : HostIdentityResponse)
  | election (message : ElectionMessage)
  deriving DecidableEq

/-- The messages of the game event relay and of the lobby. The lobby's own coordination messages
are one case: no frame handler reads them. -/
inductive WsMessage where
  | session (messageType : String)
  | rosterUpdate (roster : GlobalRoster)
  | initialStateSync (worldState : WorldState)
  | blockDestroyed (position : ℤ × ℤ)
  | powerUpCollected (powerupId : PowerUpId) (playerId : PlayerId)
  | gateStateChanged (gateId : GateId) (newState : String)
  | playerLeft (playerId : PlayerId)
  | playerDeath (playerId : PlayerId) (enemyId : EnemyId)
  | playerDisconnected (playerId : PlayerId)
  | levelReset
  | election (message : ElectionMessage)
  deriving DecidableEq

def WsMessage.validate : WsMessage → Except PyError Unit
  | rosterUpdate roster =>
    if (roster.players.map RosterEntry.joinIndex).Nodup then .ok ()
    else .error (.messageValidationError "Roster has duplicate join_index values")
  | powerUpCollected powerupId playerId => do
    requireText "powerup_id" powerupId
    requireText "player_id" playerId
  | gateStateChanged gateId newState => do
    requireText "gate_id" gateId
    requireText "new_state" newState
  | playerLeft playerId => requireText "player_id" playerId
  | playerDeath playerId enemyId => do
    requireText "player_id" playerId
    requireText "enemy_id" enemyId
  | playerDisconnected playerId => requireText "player_id" playerId
  | _ => .ok ()

def WsMessage.checked (m : WsMessage) : Except PyError WsMessage := do
  m.validate
  .ok m

/-- `event_to_message`, with the check of the message it builds. -/
def eventToMessage : GameEvent → Except PyError WsMessage
  | .blockDestroyed position => WsMessage.checked (.blockDestroyed position)
  | .powerUpCollected powerupId playerId => WsMessage.checked (.powerUpCollected powerupId playerId)
  | .gateStateChanged gateId newState => WsMessage.checked (.gateStateChanged gateId newState)
  | .playerDeath playerId enemyId => WsMessage.checked (.playerDeath playerId enemyId)
  | .levelReset => WsMessage.checked .levelReset

end DistributedSmb
