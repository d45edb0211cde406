import DistributedSmb.Gameplay.Survival
import DistributedSmb.Lobby.Coordinator
import DistributedSmb.Network.Disconnections
import DistributedSmb.Recovery.Prober

/-!
# No frame of a session raises

The processes of a session, in any interleaving: they enter it through its lobby, take their frames,
play again, and crash. What a frame finds in its queues was sent by some process, comes from a lobby
or a relay, or is a message of anybody else that passed its check and is no roster and no world. On
a level whose entities have ids, every frame of every such run ends without an exception but that of
a send, which ends the process that sends.
-/

namespace DistributedSmb

open Library Fallible

/-! ## Entering a run -/

namespace Node

/-- `_poll_lobby(SessionCreated)`, and the messages that it leaves. -/
def awaitSessionCreated (n : Node) : List ServerMessage → Option (Node × List ServerMessage)
  | [] => none
  | .sessionJoinRejected _ _ :: _ => none
  | .sessionCreated sessionId joinIndex :: rest =>
    some ({ n with
      sessionId := sessionId
      joinIndex := joinIndex.toNat }, rest)
  | message :: rest => (n.adoptRoster message).awaitSessionCreated rest

/-- `_host_lobby_phase`, after which the world is rebuilt. The second list is polled from the
request to start on. -/
def hostLobbyPhase (n : Node) (waiting starting : List ServerMessage) (now : ℚ) (lobbyHost : Ip) :
    Option Node :=
  (n.awaitSessionCreated waiting).bind fun (created, waiting) =>
    let waited := waiting.foldl adoptRoster created
    if waited.roster.players = [] then none
    else (waited.awaitGameStart starting).map fun (started, drained) =>
      (drained.foldl adoptRoster started).rebuildWorldFromRoster now lobbyHost

/-- `_wait_for_game_start`, of a client that is in the session already. -/
def awaitRestart (n : Node) : List ServerMessage → Option Node
  | [] => none
  | .gameStart _ :: _ => some n
  | .sessionClosed _ :: _ => none
  | message :: rest => (n.adoptRoster message).awaitRestart rest

def clientReplayPhase (n : Node) (waiting : List ServerMessage) (now : ℚ) (lobbyHost : Ip) :
    Option Node :=
  (n.awaitRestart waiting).map fun started =>
    { started with engine := started.engine.resetForNewRun }.rebuildWorldFromRoster now lobbyHost

/-- `lobby_phase` -/
def lobbyPhase (n : Node) (sessionId : String) (waiting starting : List ServerMessage) (now : ℚ)
    (lobbyHost : Ip) : Option Node :=
  match n.role with
  | .host => n.hostLobbyPhase waiting starting now lobbyHost
  | .client => n.clientLobbyPhase sessionId waiting now lobbyHost

/-- `replay_lobby_phase`, for the role that the node has by then. -/
def replayPhase (n : Node) (waiting starting : List ServerMessage) (now : ℚ) (lobbyHost : Ip) :
    Option Node :=
  match n.role with
  | .host => n.replayLobbyPhase waiting starting now lobbyHost
  | .client => n.clientReplayPhase waiting now lobbyHost

end Node

/-! ## What a lobby phase returns with -/

/-- The message passes its check, and a roster is named. -/
structure ServerMessage.Named (m : ServerMessage) : Prop where
  checked : m.validate = .ok ()
  roster : ∀ roster, m = .rosterUpdate roster → roster.Named

theorem foldl_spawnPlayer_named {entries : List RosterEntry} {g : GameEngine} (hg : g.Named)
    (ids : ∀ e ∈ entries, e.playerId ≠ "") :
    (entries.foldl (fun g e =>
      g.spawnPlayer e.playerId (g.spawnPositionFor e.joinIndex) e.joinIndex) g).Named :=
  foldl_keeps (P := GameEngine.Named)
    (fun _ e he hg => GameEngine.spawnPlayer_named hg (ids e he) _ _) hg

namespace Node

theorem Sound.rebuildWorldFromRoster {n : Node} (h : n.Sound) (now : ℚ) (lobbyHost : Ip) :
    (n.rebuildWorldFromRoster now lobbyHost).Sound := by
  have hids : ∀ e ∈ n.roster.getAllPlayers, e.playerId ≠ "" := fun e he =>
    h.roster.ids (GlobalRoster.mem_getAllPlayers.mp he)
  have hemptied : ({ n.engine with
      worldState := { n.engine.worldState with characters := ∅ } } : GameEngine).Named :=
    ⟨h.engine.level, ⟨fun _ he => absurd (Dict.mem_keys_of_mem he) (Dict.not_mem_empty _),
      fun pid hpid => absurd hpid (Dict.not_mem_empty pid), h.engine.world.timers,
      h.engine.world.environment⟩, h.engine.events⟩
  exact { h with
    engine := foldl_spawnPlayer_named hemptied hids
    inputTimes := by
      intro pid hpid
      obtain ⟨entry, hentry, rfl⟩ := List.mem_map.mp hpid
      obtain ⟨e, he, rfl⟩ := List.mem_map.mp (Dict.mem_of_mem_ofList hentry)
      exact hids e (List.mem_filter.mp he).1 }

/-- Only the session may still lack its name. -/
def Waits (n : Node) : Prop :=
  ∀ sessionId, sessionId ≠ "" → ({ n with sessionId := sessionId } : Node).Sound

theorem Sound.waits {n : Node} (h : n.Sound) : n.Waits := fun _ hsession =>
  { h with session := hsession }

theorem Waits.sound {n : Node} (h : n.Waits) (session : n.sessionId ≠ "") : n.Sound := h _ session

theorem bootstrap_waits {level : Level} (named : level.Named) {localIp : Ip}
    (address : localIp ≠ "") (role : PlayerRole) : (bootstrap level role localIp).Waits := by
  intro sessionId hsession
  have hpid : (if role = .host then hostPlayerId else playerIdFor 1) ≠ "" := by
    cases role <;> decide
  exact {
    session := hsession
    address := address
    player := hpid
    engine := by
      have hworld : ((WorldState.loadLevel {} level)).Named :=
        ⟨fun _ he => absurd (Dict.mem_keys_of_mem he) (Dict.not_mem_empty _),
          fun pid hpid => absurd hpid (Dict.not_mem_empty pid),
          fun pid hpid => absurd hpid (Dict.not_mem_empty pid), named.environment _⟩
      exact GameEngine.spawnPlayer_named
        ⟨named, hworld, fun _ hnone => absurd hnone List.not_mem_nil⟩ hpid _ _
    roster := ⟨List.nodup_nil, fun _ hnone => nomatch hnone⟩
    inputTimes := fun pid hpid => absurd hpid (Dict.not_mem_empty pid)
    buffered := fun _ hnone => nomatch hnone
    timer := fun _ hnone => nomatch hnone
    outbox := fun _ hnone => nomatch hnone }

theorem Waits.adoptRoster {n : Node} (h : n.Waits) {m : ServerMessage} (named : m.Named) :
    (n.adoptRoster m).Waits := by
  cases m with
  | rosterUpdate roster => exact fun _ hsession => (h _ hsession).withRoster (named.roster _ rfl)
  | _ => exact h

theorem Sound.adoptRoster {n : Node} (h : n.Sound) {m : ServerMessage} (named : m.Named) :
    (n.adoptRoster m).Sound := by
  cases m with
  | rosterUpdate roster => exact h.withRoster (named.roster _ rfl)
  | _ => exact h

theorem Sound.foldl_adoptRoster {n : Node} (h : n.Sound) {messages : List ServerMessage}
    (named : ∀ m ∈ messages, m.Named) : (messages.foldl Node.adoptRoster n).Sound :=
  foldl_keeps (P := Node.Sound) (fun _ m hm hn => hn.adoptRoster (named m hm)) h

theorem Sound.awaitGameStart {n started : Node} {messages drained : List ServerMessage}
    (h : n.Sound) (named : ∀ m ∈ messages, m.Named)
    (returns : n.awaitGameStart messages = some (started, drained)) :
    started.Sound ∧ ∀ m ∈ drained, m.Named := by
  induction messages generalizing n with
  | nil => cases returns
  | cons message rest ih =>
    rw [List.forall_mem_cons] at named
    cases message with
    | sessionJoinRejected => cases returns
    | gameStart => cases returns; exact ⟨h, named.2⟩
    | sessionCreated | sessionJoined | rosterUpdate | sessionClosed | initialStateSync =>
      exact ih (h.adoptRoster named.1) named.2 returns

theorem Waits.awaitSessionCreated {n created : Node} {messages rest : List ServerMessage}
    (h : n.Waits) (named : ∀ m ∈ messages, m.Named)
    (returns : n.awaitSessionCreated messages = some (created, rest)) :
    created.Sound ∧ ∀ m ∈ rest, m.Named := by
  induction messages generalizing n with
  | nil => cases returns
  | cons message rest' ih =>
    rw [List.forall_mem_cons] at named
    cases message with
    | sessionJoinRejected => cases returns
    | sessionCreated sessionId joinIndex =>
      cases returns
      obtain ⟨_, htext, -⟩ := bind_eq_ok.mp named.1.checked
      exact ⟨{ h sessionId (requireText_eq_ok htext) with }, named.2⟩
    | gameStart | sessionJoined | rosterUpdate | sessionClosed | initialStateSync =>
      exact ih (h.adoptRoster named.1) named.2 returns

theorem Waits.hostLobbyPhase {n n' : Node} (h : n.Waits) {waiting starting : List ServerMessage}
    (named : ∀ m ∈ waiting ++ starting, m.Named) {now : ℚ} {lobbyHost : Ip}
    (returns : n.hostLobbyPhase waiting starting now lobbyHost = some n') : n'.Sound := by
  rw [List.forall_mem_append] at named
  obtain ⟨⟨created, rest⟩, hcreated, hrest⟩ := Option.bind_eq_some_iff.mp returns
  obtain ⟨hsound, hnamed⟩ := h.awaitSessionCreated named.1 hcreated
  dsimp only at hrest
  split at hrest
  · cases hrest
  · obtain ⟨⟨started, drained⟩, hstarted, rfl⟩ := Option.map_eq_some_iff.mp hrest
    obtain ⟨hsound, hnamed⟩ := (hsound.foldl_adoptRoster hnamed).awaitGameStart named.2 hstarted
    exact (hsound.foldl_adoptRoster hnamed).rebuildWorldFromRoster now lobbyHost

/-- A client in the lobby. It has its session's name when its join is acknowledged. -/
structure LobbyClientWaits (c : LobbyClient) : Prop where
  waits : c.node.Waits
  session : c.progress = .waiting ∨ c.progress = .started → c.node.sessionId ≠ ""

theorem LobbyClientWaits.poll {c : LobbyClient} (h : LobbyClientWaits c) {sessionId : String}
    (hsession : sessionId ≠ "") {m : ServerMessage} (named : m.Named) :
    LobbyClientWaits (c.poll sessionId m) := by
  have hadopt (roster : GlobalRoster) (hroster : roster.Named) :
      LobbyClientWaits (c.adopt roster) :=
    ⟨fun sid hsid => (h.waits sid hsid).withRoster hroster, h.session⟩
  have hleft {progress : LobbyProgress} (ended : ¬ (progress = .waiting ∨ progress = .started)) :
      LobbyClientWaits { c with progress := progress } := ⟨h.waits, fun hin => absurd hin ended⟩
  cases hprogress : c.progress with
  | joining =>
    rw [LobbyClient.poll, hprogress]
    cases m with
    | rosterUpdate roster => exact hadopt roster (named.roster roster rfl)
    | sessionJoinRejected _ reason => exact hleft (by simp)
    | sessionJoined joinIndex =>
      exact ⟨fun sid hsid => { h.waits sid hsid with player := playerIdFor_ne_empty joinIndex },
        fun _ => hsession⟩
    | _ => exact h
  | waiting =>
    rw [LobbyClient.poll, hprogress]
    cases m with
    | rosterUpdate roster => exact hadopt roster (named.roster roster rfl)
    | gameStart started => exact ⟨h.waits, fun _ => requireText_eq_ok named.checked⟩
    | sessionClosed _ => exact hleft (by simp)
    | _ => exact h
  | _ =>
    rw [LobbyClient.poll, hprogress]
    exact h

theorem Waits.clientLobbyPhase {n n' : Node} (h : n.Waits) {sessionId : String}
    (hsession : sessionId ≠ "") {waiting : List ServerMessage} (named : ∀ m ∈ waiting, m.Named)
    {now : ℚ} {lobbyHost : Ip}
    (returns : n.clientLobbyPhase sessionId waiting now lobbyHost = some n') : n'.Sound := by
  have hpolled : LobbyClientWaits (waiting.foldl (LobbyClient.poll sessionId) { node := n }) :=
    foldl_keeps (P := LobbyClientWaits) (fun c m hm hc => hc.poll hsession (named m hm))
      ⟨h, fun hprogress => by rcases hprogress with h | h <;> cases h⟩
  simp only [Node.clientLobbyPhase] at returns
  split at returns
  case h_1 hstarted =>
    cases returns
    exact (hpolled.waits.sound (hpolled.session (.inr hstarted))).rebuildWorldFromRoster now
      lobbyHost
  case h_2 => cases returns

theorem Sound.awaitRestart {n started : Node} {messages : List ServerMessage} (h : n.Sound)
    (named : ∀ m ∈ messages, m.Named) (returns : n.awaitRestart messages = some started) :
    started.Sound := by
  induction messages generalizing n with
  | nil => cases returns
  | cons message rest ih =>
    rw [List.forall_mem_cons] at named
    cases message with
    | sessionClosed => cases returns
    | gameStart => cases returns; exact h
    | sessionCreated | sessionJoined | rosterUpdate | sessionJoinRejected | initialStateSync =>
      exact ih (h.adoptRoster named.1) named.2 returns

theorem Sound.restart {n : Node} (h : n.Sound) (now : ℚ) (lobbyHost : Ip) :
    ({ n with engine := n.engine.resetForNewRun }.rebuildWorldFromRoster now lobbyHost).Sound :=
  (h.withEngine (GameEngine.resetForNewRun_named h.engine)).rebuildWorldFromRoster now lobbyHost

theorem Sound.replayPhase {n n' : Node} (h : n.Sound) {waiting starting : List ServerMessage}
    (named : ∀ m ∈ waiting ++ starting, m.Named) {now : ℚ} {lobbyHost : Ip}
    (returns : n.replayPhase waiting starting now lobbyHost = some n') : n'.Sound := by
  rw [List.forall_mem_append] at named
  unfold Node.replayPhase at returns
  split at returns
  · simp only [Node.replayLobbyPhase] at returns
    split at returns
    · cases returns
    · obtain ⟨⟨started, drained⟩, hstarted, rfl⟩ := Option.map_eq_some_iff.mp returns
      obtain ⟨hsound, hnamed⟩ := (h.foldl_adoptRoster named.1).awaitGameStart named.2 hstarted
      exact (hsound.foldl_adoptRoster hnamed).restart now lobbyHost
  · obtain ⟨started, hstarted, rfl⟩ := Option.map_eq_some_iff.mp returns
    exact (h.awaitRestart named.1 hstarted).restart now lobbyHost

theorem Waits.lobbyPhase {n n' : Node} (h : n.Waits) {sessionId : String}
    (hsession : n.role = .client → sessionId ≠ "") {waiting starting : List ServerMessage}
    (named : ∀ m ∈ waiting ++ starting, m.Named) {now : ℚ} {lobbyHost : Ip}
    (returns : n.lobbyPhase sessionId waiting starting now lobbyHost = some n') : n'.Sound := by
  unfold Node.lobbyPhase at returns
  split at returns
  · exact h.hostLobbyPhase named returns
  case h_2 hrole =>
    rw [List.forall_mem_append] at named
    exact h.clientLobbyPhase (hsession hrole) named.1 returns

end Node

/-! ## The session -/

/-- The processes that are in the game, and everything that any process has sent. -/
structure RunningSession (ι : Type) where
  nodes : ι → Option Node := fun _ => none
  sent : List Outgoing := []

/-- A new process enters the game, through a lobby; one that played plays again, or takes a frame;
one crashes. A send, or the bind of its socket, can also raise in a frame, after `gone` sends:
nothing catches the exception, which ends the process. Of the two lists the second is polled from
the request to start on. -/
inductive SessionStep (ι : Type) where
  | enter (i : ι) (role : PlayerRole) (localIp : Ip) (sessionId : String)
    (waiting starting : List ServerMessage) (now : ℚ) (lobbyHost : Ip)
  | replay (i : ι) (waiting starting : List ServerMessage) (now : ℚ) (lobbyHost : Ip)
  | frame (i : ι) (found : FrameInput)
  | sendRaises (i : ι) (found : FrameInput) (gone : ℕ)
  | crash (i : ι)

namespace RunningSession

variable {ι : Type}

def withNode [DecidableEq ι] (s : RunningSession ι) (i : ι) (n : Option Node) : RunningSession ι :=
  { s with nodes := Function.update s.nodes i n }

def frame [DecidableEq ι] (s : RunningSession ι) (i : ι) (found : FrameInput) :
    Except PyError (RunningSession ι) :=
  match s.nodes i with
  | none => .ok s
  | some n => do
    let n' ← n.processFrame found
    .ok { s.withNode i (some n') with sent := s.sent ++ n'.outbox.drop n.outbox.length }

/-- A lobby phase that does not return leaves the process outside the game. -/
def step [DecidableEq ι] (level : Level) (s : RunningSession ι) :
    SessionStep ι → Except PyError (RunningSession ι)
  | .enter i role localIp sessionId waiting starting now lobbyHost =>
    .ok (s.withNode i
      ((Node.bootstrap level role localIp).lobbyPhase sessionId waiting starting now lobbyHost))
  | .replay i waiting starting now lobbyHost =>
    .ok (s.withNode i ((s.nodes i).bind fun n => n.replayPhase waiting starting now lobbyHost))
  | .frame i found => s.frame i found
  | .sendRaises i found gone => do
    let after ← s.frame i found
    .ok { after.withNode i none with sent := after.sent.take (s.sent.length + gone) }
  | .crash i => .ok (s.withNode i none)

def run [DecidableEq ι] (level : Level) (s : RunningSession ι) (steps : List (SessionStep ι)) :
    Except PyError (RunningSession ι) := steps.foldlM (step level) s

/-! ### Where messages come from -/

section
variable (κ : Type) [DecidableEq κ]

/-- Some lobby has sent this roster to somebody. -/
def FromLobby (roster : GlobalRoster) : Prop :=
  ∃ (steps : List (LobbyStep κ)) (ws : κ),
    .sent ws (.rosterUpdate roster) ∈ (Lobby.run {} steps).log

/-- What a lobby phase polls has passed its check, and its rosters are a lobby's. -/
def Polled (message : ServerMessage) : Prop :=
  message.validate = .ok () ∧ ∀ roster, message = .rosterUpdate roster → FromLobby κ roster

/-- Some relay has reported this player. -/
def Reported (pid : PlayerId) : Prop :=
  ∃ steps : List (GameEventStep κ), pid ∈ (GameEventServer.run {} steps).disconnectQueue

/-- Some reply to a prober names this host. -/
def Probed (text : JsonText) (py : Runtime) (ip : Ip) : Prop :=
  ∃ sessionId reply, hostNamed text py sessionId reply = some ip

/-- A datagram that was decoded is a process's, or passed its check and is no world. -/
def Received (s : RunningSession ι) (message : UdpMessage) : Prop :=
  (∃ host port, .udp message host port ∈ s.sent) ∨
    (message.postInit = .ok () ∧ ∀ snapshot, message ≠ .worldState snapshot)

/-- What a relay passes on is a process's, or is neither a roster nor a world. -/
def Relayed (s : RunningSession ι) (message : WsMessage) : Prop :=
  .relay message ∈ s.sent ∨
    ((∀ roster, message ≠ .rosterUpdate roster) ∧ ∀ w, message ≠ .initialStateSync w)

/-- What a lobby passes on is a process's, or it is a lobby's roster, or it is neither. -/
def PassedOn (s : RunningSession ι) (message : WsMessage) : Prop :=
  .lobby message ∈ s.sent ∨
    ((∀ roster, message = .rosterUpdate roster → FromLobby κ roster) ∧
      ∀ w, message ≠ .initialStateSync w)

structure Finds (text : JsonText) (py : Runtime) (s : RunningSession ι) (found : FrameInput) :
    Prop where
  lobby : ∀ message ∈ found.lobby, s.PassedOn κ message
  datagrams : ∀ d ∈ found.datagrams, ∃ message, d.1 = .ok message ∧ s.Received message
  gameEvents : ∀ message ∈ found.gameEvents, s.Relayed message
  foundIp : ∀ ip ∈ found.foundIp, Probed text py ip
  disconnected : ∀ pid ∈ found.disconnected, Reported κ pid

/-- A process has an address, and a client the name of the session it asks for: its join would not
pass its check without them. -/
def Possible (text : JsonText) (py : Runtime) (s : RunningSession ι) : SessionStep ι → Prop
  | .enter _ role localIp sessionId waiting starting _ _ =>
    localIp ≠ "" ∧ (role = .client → sessionId ≠ "") ∧ ∀ m ∈ waiting ++ starting, Polled κ m
  | .replay _ waiting starting _ _ => ∀ m ∈ waiting ++ starting, Polled κ m
  | .frame _ found | .sendRaises _ found _ => s.Finds κ text py found
  | .crash _ => True

end

/-! ### What arrives is named -/

section
variable {κ : Type} [DecidableEq κ]

/-- A socket without a player id is not registered, so it is never reported. -/
structure NamesPlayers (s : GameEventServer κ) : Prop where
  registered : ∀ ws pid, s.wsToPlayer.get? ws = some pid → pid ≠ ""
  reported : ∀ pid ∈ s.disconnectQueue, pid ≠ ""

theorem NamesPlayers.step {s : GameEventServer κ} (h : NamesPlayers s) (x : GameEventStep κ) :
    NamesPlayers (s.step x) := by
  cases x with
  | connect ws playerId =>
    simp only [GameEventServer.step, GameEventServer.connect]
    split
    · exact h
    · refine ⟨fun w pid hpid => ?_, h.reported⟩
      dsimp only at hpid
      split at hpid
      case isTrue => exact h.registered w pid hpid
      case isFalse hnamed =>
        by_cases hw : w = ws
        · subst hw
          rw [Dict.get?_set_self] at hpid
          exact Option.some.inj hpid ▸ hnamed
        · rw [Dict.get?_set_ne _ hw] at hpid
          exact h.registered w pid hpid
  | broadcast payload => exact ⟨h.registered, h.reported⟩
  | heartbeat => exact ⟨h.registered, h.reported⟩
  | sendReturns k raises =>
    simp only [GameEventServer.step, GameEventServer.sendReturns]
    split
    · exact h
    split
    · exact h
    · exact ⟨h.registered, h.reported⟩
  | endpointReturns ws cancelled =>
    simp only [GameEventServer.step]
    split
    · refine ⟨fun w pid hpid => ?_, fun pid hpid => ?_⟩
      · by_cases hw : w = ws
        · subst hw
          simp only [GameEventServer.finish, Dict.get?_erase_self] at hpid
          cases hpid
        · simp only [GameEventServer.finish, Dict.get?_erase_ne _ hw] at hpid
          exact h.registered w pid hpid
      · rcases List.mem_append.mp hpid with hold | hnew
        · exact h.reported pid hold
        · exact h.registered ws pid (Option.mem_toList.mp hnew)
    · exact h
  | poll => exact ⟨h.registered, fun pid hpid => h.reported pid (List.mem_of_mem_tail hpid)⟩

theorem Reported.ne_empty {pid : PlayerId} (h : Reported κ pid) : pid ≠ "" := by
  obtain ⟨steps, hpid⟩ := h
  have hnames : NamesPlayers (GameEventServer.run {} steps) :=
    foldl_keeps (P := NamesPlayers) (fun s x _ hs => hs.step x)
      ⟨fun _ _ hnone => (nomatch hnone), fun _ hnone => nomatch hnone⟩
  exact hnames.reported pid hpid

theorem FromLobby.named {roster : GlobalRoster} (h : FromLobby κ roster) : roster.Named := by
  obtain ⟨steps, ws, hsent⟩ := h
  exact Lobby.roster_named hsent

theorem Polled.named {m : ServerMessage} (h : Polled κ m) : m.Named :=
  ⟨h.1, fun roster hroster => (h.2 roster hroster).named⟩

/-- The response that names the host passed its check when it was decoded. -/
theorem Probed.ne_empty {text : JsonText} {py : Runtime} {ip : Ip} (h : Probed text py ip) :
    ip ≠ "" := by
  obtain ⟨sessionId, reply, hnamed⟩ := h
  unfold hostNamed at hnamed
  split at hnamed
  case h_1 response hdecoded =>
    split at hnamed
    · cases hnamed
      obtain ⟨payload, -, hdecode⟩ := Option.map_eq_some_iff.mp hdecoded
      have hpost := JsonText.decodeMessage_postInit hdecode
      obtain ⟨_, hchecked, -⟩ := bind_eq_ok.mp hpost
      obtain ⟨_, -, hchecked⟩ := bind_eq_ok.mp hchecked
      obtain ⟨_, hip, -⟩ := bind_eq_ok.mp hchecked
      exact requireText_eq_ok hip
    · cases hnamed
  case h_2 => cases hnamed

theorem postInit_named {message : UdpMessage} (checked : message.postInit = .ok ())
    (noWorld : ∀ snapshot, message ≠ .worldState snapshot) : message.Named := by
  cases message with
  | playerInput packet =>
    obtain ⟨_, hpacket, -⟩ := bind_eq_ok.mp checked
    obtain ⟨_, htext, -⟩ := bind_eq_ok.mp hpacket
    exact requireText_eq_ok htext
  | worldState snapshot => exact absurd rfl (noWorld snapshot)
  | _ => exact trivial

end

/-! ### Runs -/

/-- All processes are sound, and all that they have sent is named. -/
structure Sound (s : RunningSession ι) : Prop where
  nodes : ∀ i, ∀ n ∈ s.nodes i, n.Sound
  sent : ∀ o ∈ s.sent, o.Named

namespace Sound

variable {s : RunningSession ι} (h : s.Sound)
include h

theorem withNode [DecidableEq ι] (i : ι) {n : Option Node} (hn : ∀ m ∈ n, m.Sound) :
    (s.withNode i n).Sound where
  nodes := by
    intro j m hm
    by_cases hj : j = i
    · subst hj
      simp only [RunningSession.withNode, Function.update_self] at hm
      exact hn m hm
    · simp only [RunningSession.withNode, Function.update_of_ne hj] at hm
      exact h.nodes j m hm
  sent := h.sent

theorem received {message : UdpMessage} (hm : s.Received message) : message.Named := by
  rcases hm with ⟨host, port, hsent⟩ | ⟨hchecked, hworld⟩
  · exact h.sent _ hsent
  · exact postInit_named hchecked hworld

theorem relayed {message : WsMessage} (hm : s.Relayed message) : message.Named := by
  rcases hm with hsent | ⟨hroster, hworld⟩
  · exact h.sent _ hsent
  · cases message with
    | rosterUpdate roster => exact absurd rfl (hroster roster)
    | initialStateSync w => exact absurd rfl (hworld w)
    | _ => exact trivial

theorem passedOn {κ : Type} [DecidableEq κ] {message : WsMessage} (hm : s.PassedOn κ message) :
    message.Named := by
  rcases hm with hsent | ⟨hroster, hworld⟩
  · exact h.sent _ hsent
  · cases message with
    | rosterUpdate roster => exact (hroster roster rfl).named
    | initialStateSync w => exact absurd rfl (hworld w)
    | _ => exact trivial

theorem finds {κ : Type} [DecidableEq κ] {text : JsonText} {py : Runtime} {found : FrameInput}
    (hfound : s.Finds κ text py found) : found.Named where
  lobby := fun m hm => h.passedOn (hfound.lobby m hm)
  datagrams := by
    intro d hd
    obtain ⟨message, hok, hreceived⟩ := hfound.datagrams d hd
    exact ⟨message, hok, h.received hreceived⟩
  gameEvents := fun m hm => h.relayed (hfound.gameEvents m hm)
  foundIp := fun ip hip => (hfound.foundIp ip hip).ne_empty
  disconnected := fun pid hpid => (hfound.disconnected pid hpid).ne_empty

theorem frame [DecidableEq ι] {i : ι} {found : FrameInput} (named : found.Named) :
    Achieves Sound (s.frame i found) := by
  unfold RunningSession.frame
  split
  · exact achieves_ok h
  case h_2 n hn =>
    refine ((h.nodes i n hn).processFrame named).bind fun n' hn' => achieves_ok ?_
    have hnode := h.withNode i (n := some n') fun m hm => Option.some.inj hm ▸ hn'
    refine ⟨hnode.nodes, fun o ho => ?_⟩
    rcases List.mem_append.mp ho with hold | hnew
    · exact h.sent o hold
    · exact hn'.outbox o (List.mem_of_mem_drop hnew)

theorem step [DecidableEq ι] {κ : Type} [DecidableEq κ] {text : JsonText} {py : Runtime}
    {level : Level} (named : level.Named) {x : SessionStep ι} (possible : s.Possible κ text py x) :
    Achieves Sound (s.step level x) := by
  cases x with
  | enter i role localIp sessionId waiting starting now lobbyHost =>
    obtain ⟨haddress, hsession, hpolled⟩ := possible
    refine achieves_ok (h.withNode i fun n hn => ?_)
    exact (Node.bootstrap_waits named haddress role).lobbyPhase hsession
      (fun m hm => (hpolled m hm).named) hn
  | replay i waiting starting now lobbyHost =>
    refine achieves_ok (h.withNode i fun n hn => ?_)
    obtain ⟨before, hbefore, hn⟩ := Option.bind_eq_some_iff.mp hn
    exact (h.nodes i before hbefore).replayPhase (fun m hm => (possible m hm).named) hn
  | crash i => exact achieves_ok (h.withNode i fun _ hnone => nomatch hnone)
  | frame i found => exact h.frame (h.finds possible)
  | sendRaises i found gone =>
    refine (h.frame (h.finds possible)).bind fun after hafter => achieves_ok ?_
    have hended := hafter.withNode i (n := none) fun _ hnone => nomatch hnone
    exact ⟨hended.nodes, fun o ho => hafter.sent o (List.mem_of_mem_take ho)⟩

end Sound

def guestRoom : GlobalRoster where
  players :=
    [⟨"player1", "10.0.0.1", 50010, 0, .connected, true⟩,
      ⟨"player2", "10.0.0.2", 50011, 1, .connected, false⟩]

/-- A host and a guest enter the room and take a frame each, and the host crashes. -/
def hostCrashes : List (SessionStep ℕ) :=
  [.enter 0 .host "10.0.0.1" "" [.sessionCreated "room" 0, .rosterUpdate guestRoom]
      [.gameStart "room"] 0 "10.0.0.1",
    .enter 1 .client "10.0.0.2" "room"
      [.sessionJoined 1, .rosterUpdate guestRoom, .gameStart "room"] [] 0 "10.0.0.1",
    .frame 0 { now := 1 }, .frame 1 { now := 1 }, .crash 0]

end RunningSession

end DistributedSmb
