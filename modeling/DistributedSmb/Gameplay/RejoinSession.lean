import DistributedSmb.Gameplay.OwnEvents
import DistributedSmb.Lobby.StateSync

/-!
# A client in a running session

The host of a running session, its lobby and its relay, and a client that joins the session. The
host's world goes to the client through the lobby, its events go over the relay, to which the client
connects when its lobby phase has returned. Every connection delivers in order.
-/

namespace DistributedSmb

open Library

variable {κ : Type}

/-- What the event stream says about a world. -/
def WorldState.log (w : WorldState) : EnvLog :=
  ⟨⟨w.environment.destructibleBlocks, w.environment.powerUps⟩, w.environment.cooperativeGates⟩

/-! ## The session -/

namespace ServerMessage

def roster : ServerMessage → Option GlobalRoster
  | rosterUpdate roster => some roster
  | _ => none

def world : ServerMessage → Option WorldState
  | initialStateSync worldState => some worldState
  | _ => none

/-- The message as the frames of a node read it, which tell only two kinds apart. -/
def toWs : ServerMessage → WsMessage
  | rosterUpdate roster => .rosterUpdate roster
  | initialStateSync worldState => .initialStateSync worldState
  | sessionCreated _ _ => .session "SessionCreated"
  | sessionJoined _ => .session "SessionJoined"
  | sessionJoinRejected _ _ => .session "SessionJoinRejected"
  | sessionClosed _ => .session "SessionClosed"
  | gameStart _ => .session "GameStart"

end ServerMessage

/-- The connections of the host and of the client to the lobby, the client's join, and the address
of the lobby. -/
structure RejoinPeers (κ : Type) where
  host : κ
  client : κ
  join : SessionJoin
  lobbyHost : Ip

/-- The host's world goes over its connection to the lobby, its events go over the relay, to which
the client connects when its lobby phase has returned. Each world is noted with the length of what
the host had told the relay before the frame that sent it. -/
structure RejoinSession (κ : Type) where
  host : Node
  lobby : Lobby κ
  client : LobbyClient
  toLobby : List WorldState := []
  told : List WsMessage := []
  relayed : ℕ := 0
  heard : Option ℕ := none
  hostPolled : ℕ := 0
  clientPolled : ℕ := 0
  syncs : List (WorldState × ℕ) := []
  /-- The host has polled a roster with the client. -/
  announced : Bool := false
  /-- What the client's own ticks have done since its last sync and is not overwritten yet. -/
  own : List GameEvent := []

/-- The client's frames are single calls, in any order. -/
inductive RejoinStep (κ : Type) where
  | hostFrame (f : FrameInput) (polls : Bool)
  | syncArrives
  | lobby (x : LobbyStep κ)
  | relay
  | poll
  | connect (now : ℚ)
  | drainLobby
  | hear (now : ℚ)
  | client (now : ℚ) (call : ClientCall)

def LobbyEvent.isAcceptance [DecidableEq κ] (ws : κ) (sessionId : String) : LobbyEvent κ → Bool
  | accepted target session _ => target = ws && session = sessionId
  | sent _ _ | dropped _ | ended _ => false

namespace RejoinSession

variable [DecidableEq κ] (p : RejoinPeers κ)

def nextForHost (s : RejoinSession κ) : Option ServerMessage :=
  (inbox s.lobby.log p.host)[s.hostPolled]?

def nextForClient (s : RejoinSession κ) : Option ServerMessage :=
  (inbox s.lobby.log p.client)[s.clientPolled]?

/-- How many messages the host was sent before the client joined. -/
def hostJoinMark (s : RejoinSession κ) : ℕ :=
  (inbox (s.lobby.log.takeWhile fun e => !e.isAcceptance p.client p.join.sessionId) p.host).length

/-- The roster that the host polls next, if it was sent after the client's join and lists it. -/
def announcement (s : RejoinSession κ) : Option GlobalRoster :=
  ((s.nextForHost p).bind ServerMessage.roster).filter fun roster =>
    s.hostJoinMark p ≤ s.hostPolled &&
      roster.players.any fun e => e.host = p.join.ip && e.udpPort = p.join.port

/-- The host polls at most one message, and finds none while it is still on its way. -/
def hostFrame (s : RejoinSession κ) (f : FrameInput) (polls : Bool) :
    Except PyError (RejoinSession κ) := do
  let message := if polls then s.nextForHost p else none
  let host ← s.host.processFrame { f with lobby := (message.map ServerMessage.toWs).toList }
  .ok { s with
    host := { host with outbox := [] }
    toLobby := s.toLobby ++ host.syncWorlds
    told := s.told ++ host.outbox.filterMap Outgoing.relayed
    hostPolled := s.hostPolled + message.toList.length
    syncs := s.syncs ++ host.syncWorlds.map fun w => (w, s.told.length)
    announced := s.announced || polls && (s.announcement p).isSome }

/-- The lobby takes a world when the host's handler waits for a message. -/
def syncArrives (s : RejoinSession κ) : RejoinSession κ :=
  match s.toLobby, (s.lobby.handlers p.host).status with
  | w :: rest, .receiving =>
    { s with
      lobby := s.lobby.step (.receive p.host (.initialStateSync w) "")
      toLobby := rest }
  | _, _ => s

/-- One message in the loops of the lobby phase. -/
def poll (s : RejoinSession κ) : RejoinSession κ :=
  match s.client.progress, s.nextForClient p with
  | .joining, some message | .waiting, some message =>
    { s with
      client := s.client.poll p.join.sessionId message
      clientPolled := s.clientPolled + 1 }
  | _, _ => s

/-- The end of the lobby phase, and the connection to the relay. -/
def connect (s : RejoinSession κ) (now : ℚ) : RejoinSession κ :=
  match s.client.progress, s.heard with
  | .started, none =>
    { s with
      client := { s.client with node := s.client.node.rebuildWorldFromRoster now p.lobbyHost }
      heard := some s.relayed }
  | _, _ => s

/-- One message of the lobby in a frame. -/
def drainLobby (s : RejoinSession κ) : RejoinSession κ :=
  match s.heard, s.nextForClient p with
  | some _, some message =>
    { s with
      client := { s.client with node := s.client.node.onLobbyMessage message.toWs }
      clientPolled := s.clientPolled + 1
      own := if message.world.isSome then [] else s.own }
  | _, _ => s

/-- One message of the relay in a frame. -/
def hear (s : RejoinSession κ) (now : ℚ) : Except PyError (RejoinSession κ) :=
  match s.heard with
  | none => .ok s
  | some k =>
    match (s.told.take s.relayed)[k]? with
    | none => .ok s
    | some message => do
      let node ← s.client.node.onGameEvent now message
      .ok { s with
        client := { s.client with node := node }
        heard := some (k + 1)
        own := s.own.filter fun e => !message.event.any (·.Hides e) }

def clientCall (s : RejoinSession κ) (now : ℚ) (call : ClientCall) :
    Except PyError (RejoinSession κ) :=
  match s.heard with
  | none => .ok s
  | some _ => do
    let node ← s.client.node.clientCall now call
    .ok { s with
      client := { s.client with node := node }
      own := s.own ++ node.engine.events.drop s.client.node.engine.events.length }

def step (s : RejoinSession κ) : RejoinStep κ → Except PyError (RejoinSession κ)
  | .hostFrame f polls => s.hostFrame p f polls
  | .syncArrives => .ok (s.syncArrives p)
  | .lobby x => .ok { s with lobby := s.lobby.step x }
  | .relay => .ok { s with relayed := min (s.relayed + 1) s.told.length }
  | .poll => .ok (s.poll p)
  | .connect now => .ok (s.connect p now)
  | .drainLobby => .ok (s.drainLobby p)
  | .hear now => s.hear now
  | .client now call => s.clientCall now call

def run (s : RejoinSession κ) (steps : List (RejoinStep κ)) : Except PyError (RejoinSession κ) :=
  steps.foldlM (step p) s

/-! ## Conditions -/

/-- The events among the messages of the relay. -/
def events (messages : List WsMessage) : List GameEvent := messages.filterMap WsMessage.event

/-- The session goes on, and the client hears of no other host. -/
def Ordinary (s : RejoinSession κ) : RejoinStep κ → Prop
  | .lobby x => s.lobby.Continues p.host p.client p.join x
  | .client _ call => call.IsOwn
  | _ => True

/-- The world that the loops of the lobby phase would poll now, and drop. -/
def dropsWorld (s : RejoinSession κ) : Option WorldState :=
  match s.client.progress with
  | .joining | .waiting => (s.nextForClient p).bind ServerMessage.world
  | .started | .joinRejected _ | .sessionClosed => none

/-- What happened after the world was sent and before this message of the relay shows in the world,
or is overwritten by what the client is told next. -/
def MissesNothing (s : RejoinSession κ) (k : ℕ) (w : WorldState) : Prop :=
  ∃ q ∈ s.syncs, q.1 = w ∧
    w.log.Settled (events ((s.told.take k).drop q.2)) (events (s.told.drop k))

/-- The host answers the roster that announces the client with its world. From then on, the client
polls no world before it has connected to the relay, and misses nothing when it takes one. -/
def Timely (s : RejoinSession κ) : RejoinStep κ → Prop
  | .hostFrame _ polls => polls = true → s.announced = false →
    ∀ roster ∈ s.announcement p, ∃ e ∈ roster.players, s.host.Reenters e
  | .poll => s.announced = true → s.dropsWorld p = none
  | .drainLobby => s.announced = true → ∀ k ∈ s.heard,
    ∀ w ∈ (s.nextForClient p).bind ServerMessage.world, s.MissesNothing k w
  | _ => True

instance (s : RejoinSession κ) : ∀ x, Decidable (s.Ordinary p x)
  | .lobby x => inferInstanceAs (Decidable (s.lobby.Continues p.host p.client p.join x))
  | .client _ call => inferInstanceAs (Decidable call.IsOwn)
  | .hostFrame .. | .syncArrives | .relay | .poll | .connect _ | .drainLobby | .hear _ =>
    .isTrue trivial

instance (s : RejoinSession κ) (k : ℕ) (w : WorldState) : Decidable (s.MissesNothing k w) :=
  inferInstanceAs (Decidable (∃ q ∈ s.syncs, _))

instance (s : RejoinSession κ) : ∀ x, Decidable (s.Timely p x)
  | .hostFrame _ polls => inferInstanceAs (Decidable (polls = true → s.announced = false →
      ∀ roster ∈ s.announcement p, ∃ e ∈ roster.players, s.host.Reenters e))
  | .poll => inferInstanceAs (Decidable (s.announced = true → s.dropsWorld p = none))
  | .drainLobby => inferInstanceAs (Decidable (s.announced = true → ∀ k ∈ s.heard,
      ∀ w ∈ (s.nextForClient p).bind ServerMessage.world, s.MissesNothing k w))
  | .syncArrives | .lobby _ | .relay | .connect _ | .hear _ | .client .. => .isTrue trivial

/-- The session runs, nothing of the host's is under way, and the client has not joined yet. -/
structure Start (level : Level) (s : RejoinSession κ) : Prop where
  host : s.host.role = .host
  idle : s.host.outbox = [] ∧ s.host.engine.events = []
  levels : s.host.engine.level = level ∧ s.client.node.engine.level = level
  distinctBlocks : (level.blocks.map DestructibleBlock.position).Nodup
  hostIndexed : s.host.engine.worldState.environment.Indexed
  clientIndexed : s.client.node.engine.worldState.environment.Indexed
  serves : s.lobby.Serves p.host p.join.sessionId
  stranger : s.lobby.view.Stranger p.client
  unjoined : ∀ i, .accepted p.client p.join.sessionId i ∉ s.lobby.log
  tasks : ∀ handler, ∀ task ∈ s.lobby.view.pending handler,
    task.Forwards p.client p.join.sessionId fun _ => False
  nothingSent : s.toLobby = [] ∧ s.told = [] ∧ s.relayed = 0 ∧ s.syncs = []
  nothingReceived : s.heard = none ∧ s.clientPolled = 0 ∧ s.announced = false ∧ s.own = []

/-- The client plays, has been announced to the host, and has consumed all that was sent to it, over
connections that are still open. -/
structure Complete (s : RejoinSession κ) : Prop where
  client : s.client.node.role = .client
  announced : s.announced = true
  sent : s.toLobby = []
  delivered : ∀ handler message, .deliver p.client message ∉ s.lobby.view.pending handler
  polled : s.clientPolled = (inbox s.lobby.log p.client).length
  heard : s.heard = some s.told.length
  opened : .ended p.host ∉ s.lobby.log ∧ .ended p.client ∉ s.lobby.log

/-- The same flags, owners and states on both sides. -/
def SameEnvironment (s : RejoinSession κ) : Prop :=
  LogState.SameEnvironment ⟨s.host.engine, s.client.node.engine⟩

end RejoinSession

end DistributedSmb
