import DistributedSmb.Lobby.Manager
import Mathlib.Logic.Function.Basic

/-!
# The lobby service

`lobby_endpoint` of `network/lobby/service.py`: one handler for each connection, all in one event
loop. A handler runs undisturbed until it awaits a send, and what is left of the branch it is in is
a list of tasks. While it waits, any other handler can take its turn.
-/

namespace DistributedSmb

open Library

/-- A reply is built and sent on the handler's own connection. A broadcast copies the connections
of the session and then makes one delivery after another. -/
inductive LobbyTask (κ : Type) where
  | reply (message : ServerMessage)
  | deliver (ws : κ) (message : ServerMessage)
  | broadcast (sessionId : String) (message : ServerMessage)
  | broadcastRoster (sessionId : String)
  | startIfActive (sessionId : String)
  | forgetSession
  | dropSession (sessionId : String)
  deriving DecidableEq

/-- An exception of the awaited send ends the handler, unless it is a delivery. -/
inductive HandlerStatus (κ : Type) where
  | receiving
  | sending (isDelivery : Bool) (rest : List (LobbyTask κ))
  | ended
  deriving DecidableEq

/-- The local variable `session_id`, and where the handler stands. -/
structure LobbyHandler (κ : Type) where
  sessionId : Option String := none
  status : HandlerStatus κ := .receiving
  deriving DecidableEq

/-- What the lobby has done, as far as a client can tell. -/
inductive LobbyEvent (κ : Type) where
  | accepted (ws : κ) (sessionId : String) (joinIndex : ℤ)
  | sent (ws : κ) (message : ServerMessage)
  | dropped (sessionId : String)
  | ended (ws : κ)
  deriving DecidableEq

structure Lobby (κ : Type) where
  manager : LobbyManager κ := {}
  handlers : κ → LobbyHandler κ := fun _ => {}
  log : List (LobbyEvent κ) := []

/-- A message arrives, together with the uuid that is drawn should it create a session; the send
that a handler waits for returns or raises; a connection is lost between two messages. -/
inductive LobbyStep (κ : Type) where
  | receive (ws : κ) (message : ClientMessage) (uuid : String)
  | resume (ws : κ) (raises : Bool)
  | disconnect (ws : κ)

variable {κ : Type} [DecidableEq κ]

namespace Lobby

def setStatus (s : Lobby κ) (ws : κ) (status : HandlerStatus κ) : Lobby κ :=
  { s with handlers := Function.update s.handlers ws { s.handlers ws with status := status } }

def setSession (s : Lobby κ) (ws : κ) (sessionId : Option String) : Lobby κ :=
  { s with
    handlers := Function.update s.handlers ws { s.handlers ws with sessionId := sessionId } }

def record (s : Lobby κ) (e : LobbyEvent κ) : Lobby κ := { s with log := s.log ++ [e] }

/-- Both `except` clauses take the connection out of the session that the handler is in. -/
def finish (s : Lobby κ) (ws : κ) : Lobby κ :=
  let manager :=
    match (s.handlers ws).sessionId with
    | some sessionId => s.manager.removeConnection sessionId ws
    | none => s.manager
  (({ s with manager := manager } : Lobby κ).setStatus ws .ended).record (.ended ws)

/-- A message goes out on `target`, and the handler of `ws` waits. -/
def send (s : Lobby κ) (ws target : κ) (message : ServerMessage) (isDelivery : Bool)
    (rest : List (LobbyTask κ)) : Lobby κ :=
  (s.record (.sent target message)).setStatus ws (.sending isDelivery rest)

def reply (s : Lobby κ) (ws : κ) (message : ServerMessage) (rest : List (LobbyTask κ)) : Lobby κ :=
  match message.checked with
  | .error _ => s.finish ws
  | .ok message => s.send ws ws message false rest

/-- Everything up to the next send. A broadcast to nobody awaits nothing. -/
def runTasks (ws : κ) : List (LobbyTask κ) → Lobby κ → Lobby κ
  | [], s => s.setStatus ws .receiving
  | .reply message :: rest, s => s.reply ws message rest
  | .deliver target message :: rest, s => s.send ws target message true rest
  | .broadcast sessionId message :: rest, s =>
    match s.manager.connections sessionId with
    | [] => runTasks ws rest s
    | target :: targets =>
      s.send ws target message true (targets.map (.deliver · message) ++ rest)
  | .broadcastRoster sessionId :: rest, s =>
    match s.manager.rosterUpdate sessionId with
    | .error _ => s.finish ws
    | .ok message =>
      match s.manager.connections sessionId with
      | [] => runTasks ws rest s
      | target :: targets =>
        s.send ws target message true (targets.map (.deliver · message) ++ rest)
  | .startIfActive sessionId :: rest, s =>
    if s.manager.isActive sessionId then s.reply ws (.gameStart sessionId) rest
    else runTasks ws rest s
  | .forgetSession :: rest, s => runTasks ws rest (s.setSession ws none)
  | .dropSession sessionId :: rest, s =>
    runTasks ws rest
      (({ s with manager := s.manager.dropSession sessionId } : Lobby κ).record
        (.dropped sessionId))

/-- A manager operation that can raise, and the tasks that follow it. -/
def attempt (s : Lobby κ) (ws : κ) (manager : Except PyError (LobbyManager κ))
    (tasks : List (LobbyTask κ)) : Lobby κ :=
  match manager with
  | .error _ => s.finish ws
  | .ok manager => ({ s with manager := manager } : Lobby κ).runTasks ws tasks

/-! ## The branches of the endpoint -/

def onSessionCreate (s : Lobby κ) (ws : κ) (m : SessionCreate) (uuid : String) : Lobby κ :=
  let (manager, joinIndex) := s.manager.createSession uuid m.ip m.udpPort
  let s := ({ s with manager := manager } : Lobby κ).setSession ws uuid
  s.attempt ws (manager.addConnection uuid ws)
    [.reply (.sessionCreated uuid joinIndex), .broadcastRoster uuid]

def sessionFull (sessionId : String) : ServerMessage :=
  .sessionJoinRejected sessionId s!"The session already has {maxPlayers} players"

def slotUnavailable (sessionId : String) : ServerMessage :=
  .sessionJoinRejected sessionId "The requested player slot is unavailable"

def onSessionJoin (s : Lobby κ) (ws : κ) (m : SessionJoin) : Lobby κ :=
  let s := s.setSession ws m.sessionId
  if s.manager.isFull m.sessionId m.rejoinJoinIndex then
    s.runTasks ws [.reply (sessionFull m.sessionId), .forgetSession]
  else
    match s.manager.joinSession m.sessionId m.playerId m.ip m.port m.rejoinJoinIndex with
    | none => s.runTasks ws [.reply (slotUnavailable m.sessionId), .forgetSession]
    | some (manager, joinIndex) =>
      (({ s with manager := manager } : Lobby κ).record
          (.accepted ws m.sessionId joinIndex)).attempt ws
        (manager.addConnection m.sessionId ws)
        [.reply (.sessionJoined joinIndex), .broadcastRoster m.sessionId,
          .startIfActive m.sessionId]

/-- The roster of a recreated session lists the new host only. -/
def hostRoster (m : SessionRecreate) : Except PyError GlobalRoster := do
  let entry ← SlotEntry.toRosterEntry
    ⟨playerIdFor m.hostJoinIndex, m.hostIp, m.hostUdpPort, m.hostJoinIndex, .connected, true⟩
  GlobalRoster.addPlayer {} entry

def onSessionRecreate (s : Lobby κ) (ws : κ) (m : SessionRecreate) : Lobby κ :=
  let s := s.setSession ws m.sessionId
  match hostRoster m with
  | .error _ => s.finish ws
  | .ok roster =>
    let manager := s.manager.registerActiveSession m.sessionId roster m.nextJoinIndex
      m.reservedJoinIndices.toFinset
    ({ s with manager := manager } : Lobby κ).attempt ws (manager.addConnection m.sessionId ws)
      [.reply (.sessionCreated m.sessionId 0)]

/-- `_handle_leave`: a host that leaves closes the room. -/
def onSessionLeave (s : Lobby κ) (ws : κ) (m : SessionLeave) : Lobby κ :=
  if s.manager.hasSession m.sessionId then
    let (manager, wasHost) := s.manager.leaveSession m.sessionId m.joinIndex
    ({ s with manager := manager } : Lobby κ).runTasks ws
      (if wasHost then
        [.broadcast m.sessionId (.sessionClosed m.sessionId), .dropSession m.sessionId]
      else [.broadcastRoster m.sessionId])
  else s.runTasks ws []

def onInitialStateSync (s : Lobby κ) (ws : κ) (worldState : WorldState) : Lobby κ :=
  match (s.handlers ws).sessionId with
  | some sessionId => s.runTasks ws [.broadcast sessionId (.initialStateSync worldState)]
  | none => s.runTasks ws []

def onGameStart (s : Lobby κ) (ws : κ) (sessionId : String) : Lobby κ :=
  s.attempt ws (s.manager.markActive sessionId) [.broadcast sessionId (.gameStart sessionId)]

def onMessage (s : Lobby κ) (ws : κ) (message : ClientMessage) (uuid : String) : Lobby κ :=
  match message.checked with
  | .error _ => s.finish ws
  | .ok message =>
    match message with
    | .sessionCreate m => s.onSessionCreate ws m uuid
    | .sessionJoin m => s.onSessionJoin ws m
    | .sessionRecreate m => s.onSessionRecreate ws m
    | .sessionLeave m => s.onSessionLeave ws m
    | .initialStateSync worldState => s.onInitialStateSync ws worldState
    | .gameStart sessionId => s.onGameStart ws sessionId
    | .unknown | .malformed => s.runTasks ws []

/-- A step that the handler is not ready for changes nothing. -/
def step (s : Lobby κ) : LobbyStep κ → Lobby κ
  | .receive ws message uuid =>
    match (s.handlers ws).status with
    | .receiving => s.onMessage ws message uuid
    | _ => s
  | .resume ws raises =>
    match (s.handlers ws).status with
    | .sending isDelivery rest =>
      if raises && !isDelivery then s.finish ws else s.runTasks ws rest
    | _ => s
  | .disconnect ws =>
    match (s.handlers ws).status with
    | .receiving => s.finish ws
    | _ => s

def run (s : Lobby κ) (steps : List (LobbyStep κ)) : Lobby κ := steps.foldl step s

end Lobby

end DistributedSmb
