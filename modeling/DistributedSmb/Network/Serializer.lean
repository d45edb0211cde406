import DistributedSmb.Shared.Schemas

/-!
# Serializer

`encode_ws_message`, `encode_message` and their decoders. A decoder builds a message out of the
validated members by hand, kind by kind. It returns `none` for a world state whose objects hold
values of other types than their attributes declare: Python builds such a message all the same.
-/

namespace DistributedSmb

open Library

/-! ## Messages -/

/-- The union type `WsMessage` of `network/serializer.py`, with every kind of coordination message
of its own. -/
inductive WsPayload where
  | sessionCreate (message : SessionCreate)
  | sessionCreated (sessionId : String) (joinIndex : ℤ)
  | sessionJoin (message : SessionJoin)
  | sessionJoined (joinIndex : ℤ)
  | sessionRecreate (message : SessionRecreate)
  | sessionClosed (sessionId : String)
  | sessionLeave (message : SessionLeave)
  | sessionJoinRejected (sessionId : String) (reason : String)
  | rosterUpdate (roster : GlobalRoster)
  | gameStart (sessionId : String)
  | initialStateSync (worldState : WorldState)
  | blockDestroyed (position : ℤ × ℤ)
  | powerUpCollected (powerupId : PowerUpId) (playerId : PlayerId)
  | gateStateChanged (gateId : GateId) (newState : String)
  | playerLeft (playerId : PlayerId)
  | playerDeath (playerId : PlayerId) (enemyId : EnemyId)
  | playerDisconnected (playerId : PlayerId)
  | levelReset
  | newHostClaim (claim : NewHostClaim)
  | electionAck (ack : ElectionAck)
  | reconnectionAck (ack : ReconnectionAck)
  deriving DecidableEq

/-- The `__post_init__` of each kind, where it has one. -/
def WsPayload.postInit : WsPayload → Except PyError Unit
  | sessionCreate m => do let _ ← m.checked
  | sessionCreated sessionId joinIndex =>
    (ServerMessage.sessionCreated sessionId joinIndex).validate
  | sessionJoin m => do let _ ← m.checked
  | sessionJoined joinIndex => (ServerMessage.sessionJoined joinIndex).validate
  | sessionRecreate m => do let _ ← m.checked
  | rosterUpdate roster => (WsMessage.rosterUpdate roster).validate
  | gameStart sessionId => (ServerMessage.gameStart sessionId).validate
  | powerUpCollected powerupId playerId => (WsMessage.powerUpCollected powerupId playerId).validate
  | gateStateChanged gateId newState => (WsMessage.gateStateChanged gateId newState).validate
  | playerLeft playerId => (WsMessage.playerLeft playerId).validate
  | playerDeath playerId enemyId => (WsMessage.playerDeath playerId enemyId).validate
  | playerDisconnected playerId => (WsMessage.playerDisconnected playerId).validate
  | newHostClaim m => do let _ ← m.checked
  | electionAck m => do let _ ← m.checked
  | reconnectionAck m => do let _ ← m.checked
  | sessionClosed _ | sessionLeave _ | sessionJoinRejected _ _ | initialStateSync _ |
    blockDestroyed _ | levelReset => .ok ()

def UdpMessage.postInit : UdpMessage → Except PyError Unit
  | playerInput m => do let _ ← m.checked
  | worldState _ => .ok ()
  | hostDiscoveryProbe m => do let _ ← m.checked
  | hostIdentityResponse m => do let _ ← m.checked
  | election (.newHostClaim m) => do let _ ← m.checked
  | election (.electionAck m) => do let _ ← m.checked
  | election (.reconnectionAck m) => do let _ ← m.checked

/-- `RosterEntry.__post_init__` -/
def RosterEntry.postInit (e : RosterEntry) : Except PyError Unit :=
  if e.playerId = "" then .error (.rosterValidationError s!"Invalid player_id: {e.playerId}")
  else if e.host = "" then .error (.rosterValidationError s!"Invalid host: {e.host}")
  else if ¬(1024 ≤ e.udpPort ∧ e.udpPort ≤ 65535) then
    .error (.rosterValidationError s!"udp_port out of range: {e.udpPort}")
  else .ok ()

/-! ## Encoding -/

def ConnectionStatus.value : ConnectionStatus → String
  | connected => "connected"
  | disconnected => "disconnected"

/-- `ConnectionStatus(value)` -/
def connectionStatusOf (value : String) : Except PyError ConnectionStatus :=
  if value = "connected" then .ok .connected
  else if value = "disconnected" then .ok .disconnected
  else .error (.valueError s!"'{value}' is not a valid ConnectionStatus")

def RosterEntry.asdict (e : RosterEntry) : Json :=
  .obj
    [("player_id", .str e.playerId), ("host", .str e.host), ("udp_port", .num e.udpPort),
      ("join_index", .num e.joinIndex), ("status", .str e.status.value),
      ("is_host", .bool e.isHost)]

def GlobalRoster.asdict (r : GlobalRoster) : Json :=
  .obj [("players", .arr (r.players.map RosterEntry.asdict))]

def NewHostClaim.asdict (m : NewHostClaim) : Json :=
  .obj
    [("claimer_ip", .str m.claimerIp), ("claimer_join_index", .num m.claimerJoinIndex),
      ("session_id", .str m.sessionId), ("message_type", .str MessageType.newHostClaim.value)]

def ElectionAck.asdict (m : ElectionAck) : Json :=
  .obj
    [("from_ip", .str m.fromIp), ("session_id", .str m.sessionId),
      ("message_type", .str MessageType.electionAck.value)]

def ReconnectionAck.asdict (m : ReconnectionAck) : Json :=
  .obj
    [("new_host_ip", .str m.newHostIp), ("udp_port", .num m.udpPort),
      ("game_events_port", .num m.gameEventsPort), ("session_id", .str m.sessionId),
      ("message_type", .str MessageType.reconnectionAck.value)]

def InputState.asdict (i : InputState) : Json :=
  .obj
    [("left", .bool i.left), ("right", .bool i.right), ("jump", .bool i.jump),
      ("down", .bool i.down)]

def encodeWsMessage (order : SetOrder) : WsPayload → Json
  | .sessionCreate m =>
    .obj
      [("player_id", .str m.playerId), ("ip", .str m.ip), ("udp_port", .num m.udpPort),
        ("message_type", .str MessageType.sessionCreate.value)]
  | .sessionCreated sessionId joinIndex =>
    .obj
      [("session_id", .str sessionId), ("join_index", .num joinIndex),
        ("message_type", .str MessageType.sessionCreated.value)]
  | .sessionJoin m =>
    .obj
      [("session_id", .str m.sessionId), ("player_id", .str m.playerId), ("ip", .str m.ip),
        ("port", .num m.port),
        ("rejoin_join_index", Json.ofOption (fun z : ℤ => .num z) m.rejoinJoinIndex),
        ("message_type", .str MessageType.sessionJoin.value)]
  | .sessionJoined joinIndex =>
    .obj
      [("join_index", .num joinIndex), ("message_type", .str MessageType.sessionJoined.value)]
  | .sessionRecreate m =>
    .obj
      [("session_id", .str m.sessionId), ("next_join_index", .num m.nextJoinIndex),
        ("host_ip", .str m.hostIp), ("host_udp_port", .num m.hostUdpPort),
        ("host_join_index", .num m.hostJoinIndex),
        ("reserved_join_indices", .arr (m.reservedJoinIndices.map fun z : ℤ => .num z)),
        ("message_type", .str MessageType.sessionRecreate.value)]
  | .sessionClosed sessionId =>
    .obj [("session_id", .str sessionId), ("message_type", .str MessageType.sessionClosed.value)]
  | .sessionLeave m =>
    .obj
      [("session_id", .str m.sessionId), ("join_index", .num m.joinIndex),
        ("message_type", .str MessageType.sessionLeave.value)]
  | .sessionJoinRejected sessionId reason =>
    .obj
      [("session_id", .str sessionId), ("reason", .str reason),
        ("message_type", .str MessageType.sessionJoinRejected.value)]
  | .rosterUpdate roster =>
    .obj [("roster", roster.asdict), ("message_type", .str MessageType.rosterUpdate.value)]
  | .gameStart sessionId =>
    .obj [("session_id", .str sessionId), ("message_type", .str MessageType.gameStart.value)]
  | .initialStateSync w =>
    .obj
      [("world_state", .ofDict (w.toDict order)),
        ("message_type", .str MessageType.initialStateSync.value)]
  | .blockDestroyed position =>
    .obj
      [("position", .arr [.num position.1, .num position.2]),
        ("message_type", .str MessageType.blockDestroyedMessage.value)]
  | .powerUpCollected powerupId playerId =>
    .obj
      [("powerup_id", .str powerupId), ("player_id", .str playerId),
        ("message_type", .str MessageType.powerupCollectedMessage.value)]
  | .gateStateChanged gateId newState =>
    .obj
      [("gate_id", .str gateId), ("new_state", .str newState),
        ("message_type", .str MessageType.gateStateChangedMessage.value)]
  | .playerLeft playerId =>
    .obj [("player_id", .str playerId), ("message_type", .str MessageType.playerLeft.value)]
  | .playerDeath playerId enemyId =>
    .obj
      [("player_id", .str playerId), ("enemy_id", .str enemyId),
        ("message_type", .str MessageType.playerDeathMessage.value)]
  | .playerDisconnected playerId =>
    .obj
      [("player_id", .str playerId), ("message_type", .str MessageType.playerDisconnected.value)]
  | .levelReset => .obj [("message_type", .str MessageType.levelResetMessage.value)]
  | .newHostClaim m => m.asdict
  | .electionAck m => m.asdict
  | .reconnectionAck m => m.asdict

/-- The document that `encode_message` writes. -/
def encodeMessage (order : SetOrder) : UdpMessage → Json
  | .playerInput m =>
    .obj
      [("player_id", .str m.playerId), ("sequence_number", .num m.sequenceNumber),
        ("input_state", m.inputState.asdict),
        ("message_type", .str MessageType.playerInput.value)]
  | .worldState m =>
    .obj
      [("sequence_number", .num m.sequenceNumber),
        ("world_state", .ofDict (m.worldState.toDict order)),
        ("message_type", .str MessageType.worldState.value)]
  | .hostDiscoveryProbe m =>
    .obj
      [("session_id", .str m.sessionId), ("requester_ip", .str m.requesterIp),
        ("message_type", .str MessageType.hostDiscoveryProbe.value)]
  | .hostIdentityResponse m =>
    .obj
      [("session_id", .str m.sessionId), ("host_ip", .str m.hostIp),
        ("message_type", .str MessageType.hostIdentityResponse.value)]
  | .election (.newHostClaim m) => m.asdict
  | .election (.electionAck m) => m.asdict
  | .election (.reconnectionAck m) => m.asdict

/-! ## Decoding -/

/-- The branch `except ValidationError`. -/
def validated {α : Type} (invalid : String) : Option α → Except PyError α
  | some fields => .ok fields
  | none => .error (.deserializationError invalid)

def InputState.signature : Signature where
  required := []
  optional := ["left", "right", "jump", "down"]

/-- The attributes of an input are only ever tested. -/
def InputState.typed (a : Attributes) : InputState where
  left := (a.getD "left" (.bool false)).truthy
  right := (a.getD "right" (.bool false)).truthy
  jump := (a.getD "jump" (.bool false)).truthy
  down := (a.getD "down" (.bool false)).truthy

def normalizedEnvironment (destructibleBlocks powerUps cooperativeGates enemies : Json) :
    Dict String Json where
  entries :=
    [("destructible_blocks", destructibleBlocks), ("power_ups", powerUps),
      ("cooperative_gates", cooperativeGates), ("enemies", enemies)]
  nodup := by simp

/-- A missing part of the environment is an empty one. -/
def decodeWorldState (data : Dict String Json) : Except PyError RawWorld := do
  let environment := data.getD "environment" (.obj [])
  let destructibleBlocks ← dictGet environment "destructible_blocks" (.arr [])
  let powerUps ← dictGet environment "power_ups" (.obj [])
  let cooperativeGates ← dictGet environment "cooperative_gates" (.obj [])
  let enemies ← dictGet environment "enemies" (.obj [])
  let normalized := normalizedEnvironment destructibleBlocks powerUps cooperativeGates enemies
  WorldState.fromDict (data.set "environment" (.ofDict normalized))

def addEntry (roster : GlobalRoster) :
    String × Ip × ℕ × ℕ × String × Bool → Except PyError GlobalRoster
  | (playerId, host, udpPort, joinIndex, status, isHost) => do
    let status ← connectionStatusOf status
    let entry : RosterEntry :=
      { playerId := playerId
        host := host
        udpPort := udpPort
        joinIndex := joinIndex
        status := status
        isHost := isHost }
    entry.postInit
    roster.addPlayer entry

section
variable (py : Runtime)

def builtUdp (m : UdpMessage) : Except PyError (Option UdpMessage) := do
  m.postInit
  .ok (some m)

def decodeUdp (data : Dict String Json) : Except PyError (Option UdpMessage) :=
  let messageType := py.format (data.getD "message_type" .null)
  let invalid := s!"Invalid UDP message format: {py.errors data}"
  match MessageType.of data with
  | some .playerInput => do
    let (playerId, sequenceNumber, inputState) ← validated invalid (playerInputSchema py data)
    let inputState ← InputState.signature.call (.ofDict inputState)
    builtUdp (.playerInput ⟨playerId, sequenceNumber, InputState.typed inputState⟩)
  | some .worldState => do
    let (sequenceNumber, worldState) ← validated invalid (worldStateSchema py data)
    let worldState ← decodeWorldState worldState
    .ok (worldState.typed.map fun w => .worldState ⟨sequenceNumber, w⟩)
  | some .hostDiscoveryProbe => do
    let (sessionId, requesterIp) ← validated invalid (hostDiscoveryProbeSchema data)
    builtUdp (.hostDiscoveryProbe ⟨sessionId, requesterIp⟩)
  | some .hostIdentityResponse => do
    let (sessionId, hostIp) ← validated invalid (hostIdentityResponseSchema data)
    builtUdp (.hostIdentityResponse ⟨sessionId, hostIp⟩)
  | some .newHostClaim => do
    let (claimerIp, claimerJoinIndex, sessionId) ← validated invalid (newHostClaimSchema py data)
    builtUdp (.election (.newHostClaim ⟨claimerIp, claimerJoinIndex, sessionId⟩))
  | some .electionAck => do
    let (fromIp, sessionId) ← validated invalid (electionAckSchema data)
    builtUdp (.election (.electionAck ⟨fromIp, sessionId⟩))
  | some .reconnectionAck => do
    let (newHostIp, udpPort, gameEventsPort, sessionId) ←
      validated invalid (reconnectionAckSchema py data)
    builtUdp (.election (.reconnectionAck ⟨newHostIp, udpPort, gameEventsPort, sessionId⟩))
  | _ => .error (.deserializationError s!"Unsupported UDP message type: {messageType}")

/-- `decode_message` of a payload whose text is this document. -/
def decodeMessage (document : Json) : Except PyError (Option UdpMessage) :=
  match document.dict? with
  | some data => decodeUdp py data
  | none => .error (.attributeError "get")

def built (m : WsPayload) : Except PyError (Option WsPayload) := do
  m.postInit
  .ok (some m)

/-- `BlockDestroyedMessage(position=tuple(position))`: its check asks for two coordinates. -/
def blockDestroyedAt : List ℤ → Except PyError (Option WsPayload)
  | [x, y] => built (.blockDestroyed (x, y))
  | position => .error (.messageValidationError s!"Invalid position: {position}")

def decodeWs (data : Dict String Json) : Except PyError (Option WsPayload) :=
  let messageType := py.format (data.getD "message_type" .null)
  let invalid :=
    s!"Invalid WebSocket message format (type: {messageType}): {py.errors data}"
  match MessageType.of data with
  | some .sessionCreate => do
    let (playerId, ip, udpPort) ← validated invalid (sessionCreateSchema py data)
    built (.sessionCreate ⟨playerId, ip, udpPort⟩)
  | some .sessionCreated => do
    let (sessionId, joinIndex) ← validated invalid (sessionCreatedSchema py data)
    built (.sessionCreated sessionId joinIndex)
  | some .sessionJoin => do
    let (sessionId, playerId, ip, port, rejoinJoinIndex) ←
      validated invalid (sessionJoinSchema py data)
    built (.sessionJoin ⟨sessionId, playerId, ip, port, rejoinJoinIndex⟩)
  | some .sessionRecreate => do
    let (sessionId, nextJoinIndex, hostIp, hostUdpPort, hostJoinIndex, reservedJoinIndices) ←
      validated invalid (sessionRecreateSchema py data)
    built (.sessionRecreate
      ⟨sessionId, nextJoinIndex, hostIp, hostUdpPort, hostJoinIndex, reservedJoinIndices⟩)
  | some .sessionLeave => do
    let (sessionId, joinIndex) ← validated invalid (sessionLeaveSchema py data)
    built (.sessionLeave ⟨sessionId, joinIndex⟩)
  | some .sessionClosed => do
    let sessionId ← validated invalid (sessionClosedSchema data)
    built (.sessionClosed sessionId)
  | some .sessionJoinRejected => do
    let (sessionId, reason) ← validated invalid (sessionJoinRejectedSchema data)
    built (.sessionJoinRejected sessionId reason)
  | some .sessionJoined => do
    let joinIndex ← validated invalid (sessionJoinedSchema py data)
    built (.sessionJoined joinIndex)
  | some .rosterUpdate => do
    let entries ← validated invalid (rosterUpdateSchema py data)
    let roster ← entries.foldlM addEntry {}
    built (.rosterUpdate roster)
  | some .gameStart => do
    let sessionId ← validated invalid (gameStartSchema data)
    built (.gameStart sessionId)
  | some .initialStateSync => do
    let worldState ← validated invalid (initialStateSyncSchema data)
    let worldState ← decodeWorldState worldState
    .ok (worldState.typed.map .initialStateSync)
  | some .blockDestroyedMessage => do
    let position ← validated invalid (blockDestroyedMessageSchema py data)
    blockDestroyedAt position
  | some .powerupCollectedMessage => do
    let (powerupId, playerId) ← validated invalid (powerUpCollectedMessageSchema data)
    built (.powerUpCollected powerupId playerId)
  | some .playerDeathMessage => do
    let (playerId, enemyId) ← validated invalid (playerDeathMessageSchema data)
    built (.playerDeath playerId enemyId)
  | some .gateStateChangedMessage => do
    let (gateId, newState) ← validated invalid (gateStateChangedMessageSchema data)
    built (.gateStateChanged gateId newState)
  | some .levelResetMessage => do
    let _ ← validated invalid (levelResetMessageSchema data)
    built .levelReset
  | some .playerLeft => do
    let playerId ← validated invalid (playerLeftSchema data)
    built (.playerLeft playerId)
  | some .playerDisconnected => do
    let playerId ← validated invalid (playerDisconnectedSchema data)
    built (.playerDisconnected playerId)
  | some .newHostClaim => do
    let (claimerIp, claimerJoinIndex, sessionId) ← validated invalid (newHostClaimSchema py data)
    built (.newHostClaim ⟨claimerIp, claimerJoinIndex, sessionId⟩)
  | some .electionAck => do
    let (fromIp, sessionId) ← validated invalid (electionAckSchema data)
    built (.electionAck ⟨fromIp, sessionId⟩)
  | some .reconnectionAck => do
    let (newHostIp, udpPort, gameEventsPort, sessionId) ←
      validated invalid (reconnectionAckSchema py data)
    built (.reconnectionAck ⟨newHostIp, udpPort, gameEventsPort, sessionId⟩)
  | _ => .error (.deserializationError s!"Unsupported WebSocket message type: {messageType}")

def decodeWsMessage (document : Json) : Except PyError (Option WsPayload) :=
  match document.dict? with
  | some data => decodeWs py data
  | none => .error (.attributeError "get")

end

/-! ## Texts -/

/-- The functions of the `json` module. What is no document is refused with a `JSONDecodeError`,
a `ValueError`. -/
structure JsonText where
  dumps : Json → String
  loads : String → Except PyError Json
  loads_error : ∀ text e, loads text = .error e → e.isValueError

namespace JsonText

variable (text : JsonText) (py : Runtime) (order : SetOrder)

/-- `dumps` loses nothing of this document. -/
def Lossless (document : Json) : Prop := text.loads (text.dumps document) = .ok document

/-- A payload is decoded as UTF-8 first, which fails with a `ValueError` too. -/
def decode (payload : ByteArray) : Except PyError Json :=
  match String.fromUTF8? payload with
  | some string => text.loads string
  | none => .error (.valueError "'utf-8' codec can't decode")

def encodeMessage (m : UdpMessage) : ByteArray :=
  (text.dumps (DistributedSmb.encodeMessage order m)).toUTF8

def decodeMessage (payload : ByteArray) : Except PyError (Option UdpMessage) := do
  let document ← text.decode payload
  DistributedSmb.decodeMessage py document

/-- `WsHandler.send`. -/
def sendWs (m : WsPayload) : String := text.dumps (encodeWsMessage order m)

/-- `WsHandler` hands this to its inbox. -/
def receiveWs (raw : String) : Except PyError (Option WsPayload) := do
  let document ← text.loads raw
  decodeWsMessage py document

end JsonText

/-- A text that was encoded as UTF-8 is decoded again. -/
theorem JsonText.decode_toUTF8 (text : JsonText) (string : String) :
    text.decode string.toUTF8 = text.loads string := by
  have hread : String.fromUTF8? string.toUTF8 = some string := by
    rw [String.fromUTF8?, dif_pos (show string.toUTF8.IsValidUTF8 from string.isValidUTF8)]
    rfl
  rw [decode, hread]

/-- The texts of one document. -/
def textOf (string : String) (document : Json) : JsonText where
  dumps _ := string
  loads _ := .ok document
  loads_error _ _ h := nomatch h

end DistributedSmb
