import DistributedSmb.Library.Dict
import DistributedSmb.Lobby.Messages
import Mathlib.Data.Finset.Card
import Mathlib.Data.Finset.Lattice.Basic

/-!
# Lobby sessions

`LobbyManager` of `network/lobby/service.py`, over any type of connections. A slot of a session is
taken by an entry, reserved for a player that may come back, or free. Every operation keeps the
slots in order, so a roster can be built from them at any time.
-/

namespace DistributedSmb

open Library

structure SlotEntry where
  playerId : PlayerId
  host : Ip
  udpPort : ℕ
  joinIndex : ℤ
  status : ConnectionStatus := .connected
  isHost : Bool := false
  deriving DecidableEq, Repr

structure SessionRecord (κ : Type) where
  entries : List SlotEntry := []
  connections : List κ := []
  isActive : Bool := false
  nextJoinIndex : ℤ := 0
  reservedJoinIndices : Finset ℤ := ∅

structure LobbyManager (κ : Type) where
  sessions : Dict String (SessionRecord κ) := ∅

variable {κ : Type}

/-! ## Slots -/

namespace SlotEntry

/-- `RosterEntry(...)` with its `__post_init__`. -/
def toRosterEntry (e : SlotEntry) : Except PyError RosterEntry :=
  if e.playerId = "" then .error (.rosterValidationError s!"Invalid player_id: {e.playerId}")
  else if e.host = "" then .error (.rosterValidationError s!"Invalid host: {e.host}")
  else if ¬ (1024 ≤ e.udpPort ∧ e.udpPort ≤ 65535) then
    .error (.rosterValidationError s!"udp_port out of range: {e.udpPort}")
  else if e.joinIndex < 0 then
    .error (.rosterValidationError s!"join_index must be >= 0: {e.joinIndex}")
  else .ok ⟨e.playerId, e.host, e.udpPort, e.joinIndex.toNat, e.status, e.isHost⟩

def ofRosterEntry (e : RosterEntry) : SlotEntry :=
  ⟨e.playerId, e.host, e.udpPort, e.joinIndex, e.status, e.isHost⟩

/-- The entry of a player that comes back from another address. -/
def movedTo (host : Ip) (udpPort : ℕ) (e : SlotEntry) : SlotEntry :=
  { e with host := host, udpPort := udpPort }

end SlotEntry

/-- Rewrite the first entry at a join index. -/
def reclaimSlot (joinIndex : ℤ) (host : Ip) (udpPort : ℕ) : List SlotEntry → List SlotEntry
  | [] => []
  | e :: rest =>
    if e.joinIndex = joinIndex then e.movedTo host udpPort :: rest
    else e :: reclaimSlot joinIndex host udpPort rest

namespace SessionRecord

def existing (r : SessionRecord κ) (joinIndex : ℤ) : Option SlotEntry :=
  r.entries.find? fun e => e.joinIndex = joinIndex

def occupiedIndices (r : SessionRecord κ) : Finset ℤ :=
  (r.entries.map SlotEntry.joinIndex).toFinset ∪ r.reservedJoinIndices

/-- `range(MAX_PLAYERS)`. -/
def allSlots : List ℤ := (List.range maxPlayers).map Int.ofNat

/-- A new entry that is not the host's. -/
def seat (r : SessionRecord κ) (joinIndex : ℤ) (host : Ip) (udpPort : ℕ) : SessionRecord κ :=
  { r with
    entries := r.entries ++ [⟨playerIdFor joinIndex, host, udpPort, joinIndex, .connected, false⟩]
    nextJoinIndex := max r.nextJoinIndex (joinIndex + 1) }

def free (r : SessionRecord κ) (joinIndex : ℤ) : SessionRecord κ :=
  { r with reservedJoinIndices := r.reservedJoinIndices.erase joinIndex }

/-- A listed slot is reclaimed by its own player, a reserved one by whoever asks for it. -/
def join (r : SessionRecord κ) (playerId : PlayerId) (host : Ip) (udpPort : ℕ)
    (rejoinJoinIndex : Option ℤ) : Option (SessionRecord κ × ℤ) :=
  match rejoinJoinIndex with
  | some joinIndex =>
    match r.existing joinIndex with
    | some e =>
      if e.playerId ≠ playerId then none
      else
        some ({ r.free joinIndex with
          entries := reclaimSlot joinIndex host udpPort r.entries }, joinIndex)
    | none =>
      if joinIndex ∉ r.reservedJoinIndices then none
      else some ((r.free joinIndex).seat joinIndex host udpPort, joinIndex)
  | none =>
    if maxPlayers ≤ r.occupiedIndices.card then none
    else
      match allSlots.find? (· ∉ r.occupiedIndices) with
      | none => none
      | some joinIndex => some (r.seat joinIndex host udpPort, joinIndex)

/-- A rejoin is refused if its slot is not reserved and no entry there has another player's id. -/
def isFull (r : SessionRecord κ) : Option ℤ → Bool
  | some joinIndex =>
    decide (joinIndex ∉ r.reservedJoinIndices) &&
      !r.entries.any fun e => e.joinIndex = joinIndex && e.playerId ≠ playerIdFor joinIndex
  | none => maxPlayers ≤ r.occupiedIndices.card

def leave (r : SessionRecord κ) (joinIndex : ℤ) : SessionRecord κ × Bool :=
  match r.existing joinIndex with
  | none => (r, false)
  | some leaving =>
    ({ r with entries := r.entries.filter fun e => e.joinIndex ≠ joinIndex }, leaving.isHost)

def getRoster (r : SessionRecord κ) : Except PyError GlobalRoster :=
  r.entries.foldlM
    (fun roster e => do
      let entry ← e.toRosterEntry
      roster.addPlayer entry) {}

end SessionRecord

/-! ## The manager -/

namespace LobbyManager

/-- `self._sessions[session_id]`. -/
def session (m : LobbyManager κ) (sessionId : String) : Except PyError (SessionRecord κ) :=
  match m.sessions.get? sessionId with
  | some r => .ok r
  | none => .error (.keyError sessionId)

def put (m : LobbyManager κ) (sessionId : String) (r : SessionRecord κ) : LobbyManager κ :=
  ⟨m.sessions.set sessionId r⟩

/-- The session id is the part of a fresh uuid that the source keeps. -/
def createSession (m : LobbyManager κ) (sessionId : String) (host : Ip) (udpPort : ℕ) :
    LobbyManager κ × ℤ :=
  (m.put sessionId
    { entries := [⟨playerIdFor 0, host, udpPort, 0, .connected, true⟩], nextJoinIndex := 1 }, 0)

def joinSession (m : LobbyManager κ) (sessionId : String) (playerId : PlayerId) (host : Ip)
    (udpPort : ℕ) (rejoinJoinIndex : Option ℤ) : Option (LobbyManager κ × ℤ) := do
  let r ← m.sessions.get? sessionId
  let (r, joinIndex) ← r.join playerId host udpPort rejoinJoinIndex
  some (m.put sessionId r, joinIndex)

def addConnection (m : LobbyManager κ) (sessionId : String) (ws : κ) :
    Except PyError (LobbyManager κ) := do
  let r ← m.session sessionId
  .ok (m.put sessionId { r with connections := r.connections ++ [ws] })

def removeConnection [DecidableEq κ] (m : LobbyManager κ) (sessionId : String) (ws : κ) :
    LobbyManager κ :=
  match m.sessions.get? sessionId with
  | none => m
  | some r => m.put sessionId { r with connections := r.connections.filter (· ≠ ws) }

def connections (m : LobbyManager κ) (sessionId : String) : List κ :=
  match m.sessions.get? sessionId with
  | none => []
  | some r => r.connections

def leaveSession (m : LobbyManager κ) (sessionId : String) (joinIndex : ℤ) :
    LobbyManager κ × Bool :=
  match m.sessions.get? sessionId with
  | none => (m, false)
  | some r => (m.put sessionId (r.leave joinIndex).1, (r.leave joinIndex).2)

def isFull (m : LobbyManager κ) (sessionId : String) (rejoinJoinIndex : Option ℤ) : Bool :=
  match m.sessions.get? sessionId with
  | none => false
  | some r => r.isFull rejoinJoinIndex

def hasSession (m : LobbyManager κ) (sessionId : String) : Bool := sessionId ∈ m.sessions

def dropSession (m : LobbyManager κ) (sessionId : String) : LobbyManager κ :=
  ⟨m.sessions.erase sessionId⟩

def getRoster (m : LobbyManager κ) (sessionId : String) : Except PyError GlobalRoster := do
  let r ← m.session sessionId
  r.getRoster

theorem getRoster_eq_ok {m : LobbyManager κ} {sessionId : String} {roster : GlobalRoster}
    (h : m.getRoster sessionId = .ok roster) :
    ∃ r, m.sessions.get? sessionId = some r ∧ r.getRoster = .ok roster := by
  obtain ⟨r, hsession, hroster⟩ := Fallible.bind_eq_ok.mp h
  refine ⟨r, ?_, hroster⟩
  unfold session at hsession
  split at hsession
  case h_1 hfound => exact hfound.trans (congrArg some (Except.ok.inj hsession))
  case h_2 => cases hsession

def rosterUpdate (m : LobbyManager κ) (sessionId : String) : Except PyError ServerMessage := do
  let roster ← m.getRoster sessionId
  ServerMessage.checked (.rosterUpdate roster)

def markActive (m : LobbyManager κ) (sessionId : String) : Except PyError (LobbyManager κ) := do
  let r ← m.session sessionId
  .ok (m.put sessionId { r with isActive := true })

def isActive (m : LobbyManager κ) (sessionId : String) : Bool :=
  match m.sessions.get? sessionId with
  | none => false
  | some r => r.isActive

/-- A record that is there already is replaced, with its connections. -/
def registerActiveSession (m : LobbyManager κ) (sessionId : String) (roster : GlobalRoster)
    (nextJoinIndex : ℤ) (reservedJoinIndices : Finset ℤ) : LobbyManager κ :=
  m.put sessionId
    { entries := roster.getAllPlayers.map .ofRosterEntry
      isActive := true
      nextJoinIndex := nextJoinIndex
      reservedJoinIndices := reservedJoinIndices }

end LobbyManager

end DistributedSmb
