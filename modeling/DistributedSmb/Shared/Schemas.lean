import DistributedSmb.Domain.WorldDict
import DistributedSmb.Lobby.Messages

/-!
# Message schemas

The message types and the pydantic schemas of `shared/messages/schemas.py`. A schema reads the
members of a document; `none` is a `ValidationError`. Members that it does not declare are ignored.
-/

namespace DistributedSmb

open Library

inductive MessageType where
  | playerInput
  | worldState
  | hostDiscoveryProbe
  | hostIdentityResponse
  | sessionCreate
  | sessionJoin
  | sessionRecreate
  | sessionLeave
  | gameStart
  | initialStateSync
  | sessionCreated
  | sessionJoined
  | rosterUpdate
  | sessionClosed
  | sessionJoinRejected
  | newHostClaim
  | electionAck
  | reconnectionAck
  | blockDestroyedMessage
  | powerupCollectedMessage
  | gateStateChangedMessage
  | playerLeft
  | playerDisconnected
  | playerDeathMessage
  | levelResetMessage
  deriving DecidableEq, Repr

namespace MessageType

def value : MessageType → String
  | playerInput => "player_input"
  | worldState => "world_state"
  | hostDiscoveryProbe => "host_discovery_probe"
  | hostIdentityResponse => "host_identity_response"
  | sessionCreate => "session_create"
  | sessionJoin => "session_join"
  | sessionRecreate => "session_recreate"
  | sessionLeave => "session_leave"
  | gameStart => "game_start"
  | initialStateSync => "initial_state_sync"
  | sessionCreated => "session_created"
  | sessionJoined => "session_joined"
  | rosterUpdate => "roster_update"
  | sessionClosed => "session_closed"
  | sessionJoinRejected => "session_join_rejected"
  | newHostClaim => "new_host_claim"
  | electionAck => "election_ack"
  | reconnectionAck => "reconnection_ack"
  | blockDestroyedMessage => "block_destroyed_message"
  | powerupCollectedMessage => "powerup_collected_message"
  | gateStateChangedMessage => "gate_state_changed_message"
  | playerLeft => "player_left"
  | playerDisconnected => "player_disconnected"
  | playerDeathMessage => "player_death_message"
  | levelResetMessage => "level_reset_message"

def all : List MessageType :=
  [playerInput, worldState, hostDiscoveryProbe, hostIdentityResponse, sessionCreate, sessionJoin,
    sessionRecreate, sessionLeave, gameStart, initialStateSync, sessionCreated, sessionJoined,
    rosterUpdate, sessionClosed, sessionJoinRejected, newHostClaim, electionAck, reconnectionAck,
    blockDestroyedMessage, powerupCollectedMessage, gateStateChangedMessage, playerLeft,
    playerDisconnected, playerDeathMessage, levelResetMessage]

/-- The type that the document names, if it is one of ours. -/
def of (data : Dict String Json) : Option MessageType :=
  (data.field "message_type" Json.str?).bind fun name => all.find? fun t => t.value = name

@[simp] theorem find?_value (t : MessageType) :
    all.find? (fun t' => t'.value = t.value) = some t := by
  cases t <;> decide

theorem of_eq {data : Dict String Json} {t : MessageType}
    (h : data.get? "message_type" = some (.str t.value)) : of data = some t := by
  simp [of, Dict.field, h, Json.str?, find?_value]

end MessageType

/-- What the decoder leaves to pydantic and to the interpreter: which values pydantic takes for an
`int` or a `bool` (besides these, texts of numbers and the like), and the texts of its findings
and of a formatted value. -/
structure Runtime where
  int : Json → Option ℤ
  bool : Json → Option Bool
  errors : Dict String Json → String
  format : Json → String
  int_num : ∀ z : ℤ, int (.num z) = some z
  bool_bool : ∀ b, bool (.bool b) = some b

attribute [simp] Runtime.int_num Runtime.bool_bool

/-- Without lenient conversions. -/
def strictRuntime : Runtime where
  int := Json.int?
  bool := Json.bool?
  errors _ := "[]"
  format _ := "None"
  int_num := Json.int?_num
  bool_bool _ := rfl

/-! ## Constrained types -/

/-- `str` with `min_length=1` -/
def nonEmpty (j : Json) : Option String := j.str?.bind fun s => if s = "" then none else some s

namespace Runtime

variable (py : Runtime)

/-- `int` with bounds -/
def intWhere (p : ℤ → Prop) [DecidablePred p] (j : Json) : Option ℤ :=
  (py.int j).bind fun z => if p z then some z else none

def atLeastZero : Json → Option ℤ := py.intWhere (0 ≤ ·)
def slot : Json → Option ℤ := py.intWhere IsSlot

def port (j : Json) : Option ℕ :=
  (py.intWhere (fun z => 1024 ≤ z ∧ z ≤ 65535) j).map Int.toNat

/-- `int | None` -/
def optionalSlot : Json → Option (Option ℤ) := Json.orNull? py.slot

/-- A list with bounds on its length. -/
def intList (p : ℕ → Prop) [DecidablePred p] (j : Json) : Option (List ℤ) :=
  (j.list? py.int).bind fun l => if p l.length then some l else none

end Runtime

@[simp] theorem nonEmpty_str {s : String} (h : s ≠ "") : nonEmpty (.str s) = some s := by
  simp [nonEmpty, Json.str?, h]

@[simp] theorem Runtime.atLeastZero_num (py : Runtime) {z : ℤ} (h : 0 ≤ z) :
    py.atLeastZero (.num z) = some z := by simp [atLeastZero, intWhere, h]

@[simp] theorem Runtime.atLeastZero_natCast (py : Runtime) (n : ℕ) :
    py.atLeastZero (.num n) = some (n : ℤ) := by
  have := py.atLeastZero_num (Int.natCast_nonneg n)
  simpa using this

@[simp] theorem Runtime.slot_num (py : Runtime) {z : ℤ} (h : IsSlot z) :
    py.slot (.num z) = some z := by simp [slot, intWhere, h]

@[simp] theorem Runtime.port_num (py : Runtime) {n : ℕ} (h : 1024 ≤ n ∧ n ≤ 65535) :
    py.port (.num n) = some n := by
  have hint : py.int (.num n) = some (n : ℤ) := by simpa using py.int_num n
  have hbounds : (1024 : ℤ) ≤ n ∧ (n : ℤ) ≤ 65535 := by omega
  simp [port, intWhere, hint, hbounds]

theorem Runtime.optionalSlot_ofOption (py : Runtime) {index : Option ℤ}
    (h : ∀ i ∈ index, IsSlot i) :
    py.optionalSlot (Json.ofOption (fun z : ℤ => .num z) index) = some index := by
  cases index with
  | none => rfl
  | some i => simp [optionalSlot, Json.orNull?, Json.ofOption, py.slot_num (h i rfl)]

theorem Runtime.intList_map (py : Runtime) {p : ℕ → Prop} [DecidablePred p] {l : List ℤ}
    (h : p l.length) : py.intList p (.arr (l.map fun z : ℤ => .num z)) = some l := by
  have hlist : Json.list? py.int (.arr (l.map fun z : ℤ => .num z)) = some (l.map id) :=
    Json.list?_arr_map fun z _ => py.int_num z
  rw [List.map_id] at hlist
  rw [intList, hlist, Option.bind_some, if_pos h]

theorem Runtime.intList_pair (py : Runtime) (x y : ℤ) :
    py.intList (fun n => 2 ≤ n ∧ n ≤ 2) (.arr [.num x, .num y]) = some [x, y] :=
  py.intList_map (l := [x, y]) ⟨le_rfl, le_rfl⟩

/-! ## Schemas -/

section
variable (py : Runtime) (data : Dict String Json)

/-- Every schema declares `message_type` as a text with a default. -/
def withType (t : MessageType) {α : Type} (fields : Option α) : Option α := do
  let _ ← data.fieldD "message_type" Json.str? t.value
  fields

def playerInputSchema : Option (String × ℤ × Dict String Json) :=
  withType data .playerInput do
    let playerId ← data.field "player_id" nonEmpty
    let sequenceNumber ← data.field "sequence_number" py.int
    let inputState ← data.fieldD "input_state" Json.dict? ∅
    some (playerId, sequenceNumber, inputState)

def worldStateSchema : Option (ℤ × Dict String Json) :=
  withType data .worldState do
    let sequenceNumber ← data.field "sequence_number" py.int
    let worldState ← data.field "world_state" Json.dict?
    some (sequenceNumber, worldState)

def sessionCreateSchema : Option (String × Ip × ℕ) :=
  withType data .sessionCreate do
    let playerId ← data.field "player_id" nonEmpty
    let ip ← data.field "ip" nonEmpty
    let udpPort ← data.field "udp_port" py.port
    some (playerId, ip, udpPort)

def sessionJoinSchema : Option (String × String × Ip × ℕ × Option ℤ) :=
  withType data .sessionJoin do
    let sessionId ← data.field "session_id" nonEmpty
    let playerId ← data.field "player_id" nonEmpty
    let ip ← data.field "ip" nonEmpty
    let port ← data.field "port" py.port
    let rejoinJoinIndex ← data.fieldD "rejoin_join_index" py.optionalSlot none
    some (sessionId, playerId, ip, port, rejoinJoinIndex)

def sessionRecreateSchema : Option (String × ℤ × Ip × ℕ × ℤ × List ℤ) :=
  withType data .sessionRecreate do
    let sessionId ← data.field "session_id" nonEmpty
    let nextJoinIndex ← data.field "next_join_index" py.atLeastZero
    let hostIp ← data.field "host_ip" nonEmpty
    let hostUdpPort ← data.field "host_udp_port" py.port
    let hostJoinIndex ← data.field "host_join_index" py.slot
    let reservedJoinIndices ← data.fieldD "reserved_join_indices" (py.intList (· ≤ maxPlayers)) []
    some (sessionId, nextJoinIndex, hostIp, hostUdpPort, hostJoinIndex, reservedJoinIndices)

def sessionCreatedSchema : Option (String × ℤ) :=
  withType data .sessionCreated do
    let sessionId ← data.field "session_id" nonEmpty
    let joinIndex ← data.field "join_index" py.atLeastZero
    some (sessionId, joinIndex)

def sessionLeaveSchema : Option (String × ℤ) :=
  withType data .sessionLeave do
    let sessionId ← data.field "session_id" nonEmpty
    let joinIndex ← data.field "join_index" py.atLeastZero
    some (sessionId, joinIndex)

def sessionClosedSchema : Option String :=
  withType data .sessionClosed (data.field "session_id" nonEmpty)

def sessionJoinRejectedSchema : Option (String × String) :=
  withType data .sessionJoinRejected do
    let sessionId ← data.field "session_id" nonEmpty
    let reason ← data.field "reason" nonEmpty
    some (sessionId, reason)

def sessionJoinedSchema : Option ℤ :=
  withType data .sessionJoined (data.field "join_index" py.atLeastZero)

/-- The fields of an entry, with the status still a text. -/
def rosterEntrySchema : Option (String × Ip × ℕ × ℕ × String × Bool) := do
  let playerId ← data.field "player_id" nonEmpty
  let host ← data.field "host" nonEmpty
  let udpPort ← data.field "udp_port" py.port
  let joinIndex ← data.field "join_index" fun j => (py.atLeastZero j).map Int.toNat
  let status ← data.field "status" Json.str?
  let isHost ← data.field "is_host" py.bool
  some (playerId, host, udpPort, joinIndex, status, isHost)

def rosterSchema : Option (List (String × Ip × ℕ × ℕ × String × Bool)) :=
  data.field "players" (Json.list? fun entry => entry.dict?.bind (rosterEntrySchema py))

def rosterUpdateSchema : Option (List (String × Ip × ℕ × ℕ × String × Bool)) :=
  withType data .rosterUpdate
    (data.field "roster" fun roster => roster.dict?.bind (rosterSchema py))

def gameStartSchema : Option String :=
  withType data .gameStart (data.field "session_id" nonEmpty)

def initialStateSyncSchema : Option (Dict String Json) :=
  withType data .initialStateSync (data.field "world_state" Json.dict?)

def blockDestroyedMessageSchema : Option (List ℤ) :=
  withType data .blockDestroyedMessage
    (data.field "position" (py.intList fun n => 2 ≤ n ∧ n ≤ 2))

def powerUpCollectedMessageSchema : Option (PowerUpId × PlayerId) :=
  withType data .powerupCollectedMessage do
    let powerupId ← data.field "powerup_id" nonEmpty
    let playerId ← data.field "player_id" nonEmpty
    some (powerupId, playerId)

def gateStateChangedMessageSchema : Option (GateId × String) :=
  withType data .gateStateChangedMessage do
    let gateId ← data.field "gate_id" nonEmpty
    let newState ← data.field "new_state" nonEmpty
    some (gateId, newState)

def playerLeftSchema : Option PlayerId :=
  withType data .playerLeft (data.field "player_id" nonEmpty)

def playerDisconnectedSchema : Option PlayerId :=
  withType data .playerDisconnected (data.field "player_id" nonEmpty)

def playerDeathMessageSchema : Option (PlayerId × EnemyId) :=
  withType data .playerDeathMessage do
    let playerId ← data.field "player_id" nonEmpty
    let enemyId ← data.field "enemy_id" nonEmpty
    some (playerId, enemyId)

def levelResetMessageSchema : Option Unit := withType data .levelResetMessage (some ())

def newHostClaimSchema : Option (Ip × ℕ × String) :=
  withType data .newHostClaim do
    let claimerIp ← data.field "claimer_ip" nonEmpty
    let claimerJoinIndex ← data.field "claimer_join_index" fun j =>
      (py.atLeastZero j).map Int.toNat
    let sessionId ← data.field "session_id" nonEmpty
    some (claimerIp, claimerJoinIndex, sessionId)

def electionAckSchema : Option (Ip × String) :=
  withType data .electionAck do
    let fromIp ← data.field "from_ip" nonEmpty
    let sessionId ← data.field "session_id" nonEmpty
    some (fromIp, sessionId)

def reconnectionAckSchema : Option (Ip × ℕ × ℕ × String) :=
  withType data .reconnectionAck do
    let newHostIp ← data.field "new_host_ip" nonEmpty
    let udpPort ← data.field "udp_port" py.port
    let gameEventsPort ← data.field "game_events_port" py.port
    let sessionId ← data.field "session_id" nonEmpty
    some (newHostIp, udpPort, gameEventsPort, sessionId)

def hostDiscoveryProbeSchema : Option (String × Ip) :=
  withType data .hostDiscoveryProbe do
    let sessionId ← data.field "session_id" nonEmpty
    let requesterIp ← data.field "requester_ip" nonEmpty
    some (sessionId, requesterIp)

def hostIdentityResponseSchema : Option (String × Ip) :=
  withType data .hostIdentityResponse do
    let sessionId ← data.field "session_id" nonEmpty
    let hostIp ← data.field "host_ip" nonEmpty
    some (sessionId, hostIp)

end

end DistributedSmb
