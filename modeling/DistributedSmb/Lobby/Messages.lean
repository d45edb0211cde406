import DistributedSmb.Library.Fallible
import DistributedSmb.Shared.Messages
import Mathlib.Data.List.Nodup

/-!
# Lobby messages

The messages of `shared/messages/session.py`. `checked` is a message's `__post_init__`, which runs
when a message is decoded as well as when it is built.
-/

namespace DistributedSmb

open Library

structure SessionCreate where
  playerId : PlayerId
  ip : Ip
  udpPort : ℕ
  deriving DecidableEq, Repr

structure SessionJoin where
  sessionId : String
  playerId : PlayerId
  ip : Ip
  port : ℕ
  rejoinJoinIndex : Option ℤ := none
  deriving DecidableEq, Repr

/-- Sent by a promoted host to its own new lobby. -/
structure SessionRecreate where
  sessionId : String
  nextJoinIndex : ℤ
  hostIp : Ip
  hostUdpPort : ℕ
  hostJoinIndex : ℤ
  reservedJoinIndices : List ℤ := []
  deriving DecidableEq, Repr

structure SessionLeave where
  sessionId : String
  joinIndex : ℤ
  deriving DecidableEq, Repr

def require (condition : Prop) [Decidable condition] (message : String) : Except PyError Unit :=
  if condition then .ok () else .error (.messageValidationError message)

def requireLobbyPort (port : ℕ) : Except PyError Unit :=
  requirePort s!"Port out of range: {port}" port

def requireJoinIndex (joinIndex : ℤ) : Except PyError Unit :=
  require (0 ≤ joinIndex) s!"join_index must be >= 0, got {joinIndex}"

/-- A join index of a full session. -/
def IsSlot (joinIndex : ℤ) : Prop := 0 ≤ joinIndex ∧ joinIndex < maxPlayers

instance : DecidablePred IsSlot := fun _ => inferInstanceAs (Decidable (_ ∧ _))

def requireSlot (field : String) (joinIndex : ℤ) : Except PyError Unit :=
  require (IsSlot joinIndex) s!"Invalid {field}: {joinIndex}"

def SessionCreate.checked (m : SessionCreate) : Except PyError SessionCreate := do
  requireText "player_id" m.playerId
  requireLobbyPort m.udpPort
  requireText "ip" m.ip
  .ok m

/-- A rejoin names the player that the slot belongs to. -/
def SessionJoin.checked (m : SessionJoin) : Except PyError SessionJoin := do
  requireText "player_id" m.playerId
  requireLobbyPort m.port
  requireText "session_id" m.sessionId
  requireText "ip" m.ip
  match m.rejoinJoinIndex with
  | none => .ok m
  | some joinIndex => do
    requireSlot "rejoin_join_index" joinIndex
    require (m.playerId = playerIdFor joinIndex)
      "player_id must match rejoin_join_index when requesting a rejoin"
    .ok m

def requireReserved (joinIndex : ℤ) : Except PyError Unit := do
  requireJoinIndex joinIndex
  require (joinIndex < maxPlayers) s!"Invalid reserved join_index: {joinIndex}"

def SessionRecreate.checked (m : SessionRecreate) : Except PyError SessionRecreate := do
  requireText "session_id" m.sessionId
  require (0 ≤ m.nextJoinIndex) s!"Invalid next_join_index: {m.nextJoinIndex}"
  requireText "host_ip" m.hostIp
  requireLobbyPort m.hostUdpPort
  requireSlot "host_join_index" m.hostJoinIndex
  require m.reservedJoinIndices.Nodup "reserved_join_indices must be unique"
  m.reservedJoinIndices.forM requireReserved
  require (m.hostJoinIndex ∉ m.reservedJoinIndices) "host_join_index cannot be reserved"
  .ok m

/-- Only the schema checks this message. -/
def SessionLeave.checked (m : SessionLeave) : Except PyError SessionLeave := do
  requireText "session_id" m.sessionId
  requireJoinIndex m.joinIndex
  .ok m

/-- What arrives at the lobby. A type that the endpoint does not know is `unknown`; a text that is
no JSON object is `malformed`. -/
inductive ClientMessage where
  | sessionCreate (message : SessionCreate)
  | sessionJoin (message : SessionJoin)
  | sessionRecreate (message : SessionRecreate)
  | sessionLeave (message : SessionLeave)
  | initialStateSync (worldState : WorldState)
  | gameStart (sessionId : String)
  | unknown
  | malformed
  deriving DecidableEq

/-- Decoding builds the message. What is only passed on is not decoded. -/
def ClientMessage.checked : ClientMessage → Except PyError ClientMessage
  | sessionCreate m => do
    let m ← m.checked
    .ok (sessionCreate m)
  | sessionJoin m => do
    let m ← m.checked
    .ok (sessionJoin m)
  | sessionRecreate m => do
    let m ← m.checked
    .ok (sessionRecreate m)
  | sessionLeave m => do
    let m ← m.checked
    .ok (sessionLeave m)
  | gameStart sessionId => do
    requireText "session_id" sessionId
    .ok (gameStart sessionId)
  | malformed => .error (.valueError "Expecting value")
  | m => .ok m

/-- What the lobby sends. -/
inductive ServerMessage where
  | sessionCreated (sessionId : String) (joinIndex : ℤ)
  | sessionJoined (joinIndex : ℤ)
  | sessionJoinRejected (sessionId : String) (reason : String)
  | rosterUpdate (roster : GlobalRoster)
  | sessionClosed (sessionId : String)
  | gameStart (sessionId : String)
  | initialStateSync (worldState : WorldState)
  deriving DecidableEq

def ServerMessage.validate : ServerMessage → Except PyError Unit
  | sessionCreated sessionId joinIndex => do
    requireText "session_id" sessionId
    requireJoinIndex joinIndex
  | sessionJoined joinIndex => requireJoinIndex joinIndex
  | rosterUpdate roster => WsMessage.validate (.rosterUpdate roster)
  | gameStart sessionId => requireText "session_id" sessionId
  | sessionJoinRejected _ _ | sessionClosed _ | initialStateSync _ => .ok ()

def ServerMessage.checked (m : ServerMessage) : Except PyError ServerMessage := do
  m.validate
  .ok m

/-! ## What a check ensures -/

/-- An address and a port that a roster entry accepts. -/
def ValidAddress (host : Ip) (port : ℕ) : Prop := host ≠ "" ∧ 1024 ≤ port ∧ port ≤ 65535

theorem require_eq_ok {condition : Prop} [Decidable condition] {message : String} {u : Unit}
    (h : require condition message = .ok u) : condition := by
  by_contra hnot
  rw [require, if_neg hnot] at h
  cases h

theorem requireText_eq_ok {field value : String} {u : Unit} (h : requireText field value = .ok u) :
    value ≠ "" := by
  rintro rfl
  cases h

theorem requireLobbyPort_eq_ok {port : ℕ} {u : Unit} (h : requireLobbyPort port = .ok u) :
    1024 ≤ port ∧ port ≤ 65535 := by
  by_contra hnot
  rw [requireLobbyPort, requirePort, if_neg hnot] at h
  cases h

theorem requireReserved_eq_ok {joinIndex : ℤ} {u : Unit} (h : requireReserved joinIndex = .ok u) :
    IsSlot joinIndex := by
  obtain ⟨_, hnonneg, h⟩ := Fallible.bind_eq_ok.mp h
  exact ⟨require_eq_ok hnonneg, require_eq_ok h⟩

theorem forM_eq_ok {α : Type} {f : α → Except PyError Unit} {l : List α} {u : Unit}
    (h : l.forM f = .ok u) : ∀ a ∈ l, ∃ v, f a = .ok v := by
  induction l with
  | nil => simp
  | cons a l ih =>
    change f a >>= (fun _ => l.forM f) = .ok u at h
    obtain ⟨v, hv, h⟩ := Fallible.bind_eq_ok.mp h
    exact List.forall_mem_cons.mpr ⟨⟨v, hv⟩, ih h⟩

theorem SessionCreate.checked_spec {m m' : SessionCreate} (h : m.checked = .ok m') :
    m' = m ∧ ValidAddress m.ip m.udpPort := by
  obtain ⟨-, -, h⟩ := Fallible.bind_eq_ok.mp h
  obtain ⟨_, hport, h⟩ := Fallible.bind_eq_ok.mp h
  obtain ⟨_, hip, h⟩ := Fallible.bind_eq_ok.mp h
  cases h
  exact ⟨rfl, requireText_eq_ok hip, requireLobbyPort_eq_ok hport⟩

theorem SessionJoin.checked_spec {m m' : SessionJoin} (h : m.checked = .ok m') :
    m' = m ∧ ValidAddress m.ip m.port ∧ m.sessionId ≠ "" ∧
      ∀ i ∈ m.rejoinJoinIndex, IsSlot i ∧ m.playerId = playerIdFor i := by
  obtain ⟨-, -, h⟩ := Fallible.bind_eq_ok.mp h
  obtain ⟨_, hport, h⟩ := Fallible.bind_eq_ok.mp h
  obtain ⟨_, hsession, h⟩ := Fallible.bind_eq_ok.mp h
  obtain ⟨_, hip, h⟩ := Fallible.bind_eq_ok.mp h
  have haddress : ValidAddress m.ip m.port := ⟨requireText_eq_ok hip, requireLobbyPort_eq_ok hport⟩
  split at h
  case h_1 hnone =>
    cases h
    exact ⟨rfl, haddress, requireText_eq_ok hsession, by simp [hnone]⟩
  case h_2 i hsome =>
    obtain ⟨_, hslot, h⟩ := Fallible.bind_eq_ok.mp h
    obtain ⟨_, hplayer, h⟩ := Fallible.bind_eq_ok.mp h
    cases h
    refine ⟨rfl, haddress, requireText_eq_ok hsession, ?_⟩
    intro k hk
    obtain rfl : k = i := Option.mem_unique hk hsome
    exact ⟨require_eq_ok hslot, require_eq_ok hplayer⟩

theorem SessionRecreate.checked_spec {m m' : SessionRecreate} (h : m.checked = .ok m') :
    m' = m ∧ ValidAddress m.hostIp m.hostUdpPort ∧ m.sessionId ≠ "" ∧ IsSlot m.hostJoinIndex ∧
      (∀ i ∈ m.reservedJoinIndices, IsSlot i) ∧ m.hostJoinIndex ∉ m.reservedJoinIndices := by
  obtain ⟨_, hsession, h⟩ := Fallible.bind_eq_ok.mp h
  obtain ⟨-, -, h⟩ := Fallible.bind_eq_ok.mp h
  obtain ⟨_, hip, h⟩ := Fallible.bind_eq_ok.mp h
  obtain ⟨_, hport, h⟩ := Fallible.bind_eq_ok.mp h
  obtain ⟨_, hslot, h⟩ := Fallible.bind_eq_ok.mp h
  obtain ⟨-, -, h⟩ := Fallible.bind_eq_ok.mp h
  obtain ⟨_, hreserved, h⟩ := Fallible.bind_eq_ok.mp h
  obtain ⟨_, hfree, h⟩ := Fallible.bind_eq_ok.mp h
  cases h
  refine ⟨rfl, ⟨requireText_eq_ok hip, requireLobbyPort_eq_ok hport⟩, requireText_eq_ok hsession,
    require_eq_ok hslot, ?_, require_eq_ok hfree⟩
  intro i hi
  obtain ⟨v, hv⟩ := forM_eq_ok hreserved i hi
  exact requireReserved_eq_ok hv

theorem requireReserved_succeeds {joinIndex : ℤ} (h : IsSlot joinIndex) :
    requireReserved joinIndex = .ok () := by
  rw [requireReserved, requireJoinIndex, require, if_pos h.1, Fallible.ok_bind, require, if_pos h.2]

theorem forM_succeeds {α : Type} {f : α → Except PyError Unit} {l : List α}
    (h : ∀ a ∈ l, f a = .ok ()) : l.forM f = .ok () := by
  induction l with
  | nil => rfl
  | cons a l ih =>
    rw [List.forall_mem_cons] at h
    change f a >>= (fun _ => l.forM f) = .ok ()
    rw [h.1, Fallible.ok_bind]
    exact ih h.2

theorem SessionRecreate.checked_succeeds {m : SessionRecreate} (session : m.sessionId ≠ "")
    (next : 0 ≤ m.nextJoinIndex) (address : ValidAddress m.hostIp m.hostUdpPort)
    (slot : IsSlot m.hostJoinIndex) (distinct : m.reservedJoinIndices.Nodup)
    (reserved : ∀ i ∈ m.reservedJoinIndices, IsSlot i)
    (unreserved : m.hostJoinIndex ∉ m.reservedJoinIndices) : m.checked = .ok m := by
  have hport : requireLobbyPort m.hostUdpPort = .ok () := by
    rw [requireLobbyPort, requirePort, if_pos address.2]
  rw [SessionRecreate.checked, requireText, if_neg session, Fallible.ok_bind, require, if_pos next,
    Fallible.ok_bind, requireText, if_neg address.1, Fallible.ok_bind, hport, Fallible.ok_bind,
    requireSlot, require, if_pos slot, Fallible.ok_bind, require, if_pos distinct, Fallible.ok_bind,
    forM_succeeds fun i hi => requireReserved_succeeds (reserved i hi), Fallible.ok_bind, require,
    if_pos unreserved, Fallible.ok_bind]

theorem SessionLeave.checked_spec {m m' : SessionLeave} (h : m.checked = .ok m') : m' = m := by
  obtain ⟨-, -, h⟩ := Fallible.bind_eq_ok.mp h
  obtain ⟨-, -, h⟩ := Fallible.bind_eq_ok.mp h
  cases h
  rfl

/-- A check does not change what it passes. -/
theorem ClientMessage.checked_same {message message' : ClientMessage}
    (h : message.checked = .ok message') : message' = message := by
  cases message with
  | sessionCreate m =>
    obtain ⟨m', hm, hok⟩ := Fallible.bind_eq_ok.mp h
    obtain rfl := (SessionCreate.checked_spec hm).1
    exact (Except.ok.inj hok).symm
  | sessionJoin m =>
    obtain ⟨m', hm, hok⟩ := Fallible.bind_eq_ok.mp h
    obtain rfl := (SessionJoin.checked_spec hm).1
    exact (Except.ok.inj hok).symm
  | sessionRecreate m =>
    obtain ⟨m', hm, hok⟩ := Fallible.bind_eq_ok.mp h
    obtain rfl := (SessionRecreate.checked_spec hm).1
    exact (Except.ok.inj hok).symm
  | sessionLeave m =>
    obtain ⟨m', hm, hok⟩ := Fallible.bind_eq_ok.mp h
    obtain rfl := SessionLeave.checked_spec hm
    exact (Except.ok.inj hok).symm
  | gameStart sessionId =>
    obtain ⟨-, -, h⟩ := Fallible.bind_eq_ok.mp h
    exact (Except.ok.inj h).symm
  | initialStateSync worldState | unknown => exact (Except.ok.inj h).symm
  | malformed => cases h

end DistributedSmb
