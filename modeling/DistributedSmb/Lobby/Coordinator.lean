import DistributedSmb.Lobby.Messages
import DistributedSmb.Node.Controller

/-!
# A client in the lobby

`_client_lobby_phase` of `application/lobby/coordinator.py`. The messages of the lobby are polled
one by one, first until the join is acknowledged, then until the game starts, and the world is
rebuilt from the roster that the client has by then. A phase that times out or is cancelled does not
return; the model leaves both out.
-/

namespace DistributedSmb

open Library

/-- The loop that polls, or how the loops were left. -/
inductive LobbyProgress where
  | joining | waiting | started
  | joinRejected (reason : String)
  | sessionClosed
  deriving DecidableEq

structure LobbyClient where
  node : Node
  progress : LobbyProgress := .joining

namespace LobbyClient

def adopt (c : LobbyClient) (roster : GlobalRoster) : LobbyClient :=
  { c with node := { c.node with roster := roster } }

/-- `_poll_lobby(SessionJoined)`. -/
def pollLobby (sessionId : String) (c : LobbyClient) : ServerMessage → LobbyClient
  | .rosterUpdate roster => c.adopt roster
  | .sessionJoinRejected _ reason => { c with progress := .joinRejected reason }
  | .sessionJoined joinIndex =>
    { node :=
        { c.node with
          sessionId := sessionId
          joinIndex := joinIndex.toNat
          localPlayerId := playerIdFor joinIndex }
      progress := .waiting }
  | _ => c

/-- `_wait_for_game_start`, adopting the session id. -/
def waitForGameStart (c : LobbyClient) : ServerMessage → LobbyClient
  | .rosterUpdate roster => c.adopt roster
  | .gameStart sessionId =>
    { node := { c.node with sessionId := sessionId }
      progress := .started }
  | .sessionClosed _ => { c with progress := .sessionClosed }
  | _ => c

/-- A client that has left the loops polls no more. -/
def poll (sessionId : String) (c : LobbyClient) (message : ServerMessage) : LobbyClient :=
  match c.progress with
  | .joining => c.pollLobby sessionId message
  | .waiting => c.waitForGameStart message
  | .started | .joinRejected _ | .sessionClosed => c

end LobbyClient

namespace Node

/-- A client without a host entry falls back on the lobby's address. -/
def rebuildWorldFromRoster (n : Node) (now : ℚ) (lobbyHost : Ip) : Node :=
  let entries := n.roster.getAllPlayers
  let others := entries.filter fun e => e.playerId ≠ n.localPlayerId
  let hostEntry := entries.find? fun e => e.isHost
  let emptied : GameEngine :=
    { n.engine with worldState := { n.engine.worldState with characters := ∅ } }
  { n with
    engine := entries.foldl
      (fun g e => g.spawnPlayer e.playerId (g.spawnPositionFor e.joinIndex) e.joinIndex) emptied
    lastInputTime := .ofList (others.map fun e => (e.playerId, now))
    remoteHost :=
      if n.role = .client then (hostEntry.map RosterEntry.host).getD lobbyHost else n.remoteHost
    remotePort :=
      if n.role = .client then (hostEntry.map RosterEntry.udpPort).getD hostUdpPort
      else n.remotePort }

/-- The node that the phase returns with, if the polled messages let it return. -/
def clientLobbyPhase (n : Node) (sessionId : String) (polled : List ServerMessage) (now : ℚ)
    (lobbyHost : Ip) : Option Node :=
  let c := polled.foldl (LobbyClient.poll sessionId) { node := n }
  match c.progress with
  | .started => some (c.node.rebuildWorldFromRoster now lobbyHost)
  | _ => none

/-- The node is in its roster, a host is, and the world has the node's player. -/
structure ReadyToPlay (n : Node) : Prop where
  listed : ∃ e ∈ n.roster.players, e.joinIndex = n.joinIndex ∧ e.playerId = n.localPlayerId
  hosted : ∃ e ∈ n.roster.players, e.isHost = true
  present : n.localPlayerId ∈ n.engine.worldState.characters

@[simp] theorem rebuildWorldFromRoster_roster (n : Node) (now : ℚ) (lobbyHost : Ip) :
    (n.rebuildWorldFromRoster now lobbyHost).roster = n.roster := rfl
@[simp] theorem rebuildWorldFromRoster_joinIndex (n : Node) (now : ℚ) (lobbyHost : Ip) :
    (n.rebuildWorldFromRoster now lobbyHost).joinIndex = n.joinIndex := rfl
@[simp] theorem rebuildWorldFromRoster_localPlayerId (n : Node) (now : ℚ) (lobbyHost : Ip) :
    (n.rebuildWorldFromRoster now lobbyHost).localPlayerId = n.localPlayerId := rfl

end Node

theorem mem_foldl_spawnPlayer {pid : PlayerId} (entries : List RosterEntry) (g : GameEngine) :
    pid ∈ (entries.foldl (fun g e =>
        g.spawnPlayer e.playerId (g.spawnPositionFor e.joinIndex) e.joinIndex)
        g).worldState.characters ↔
      (∃ e ∈ entries, e.playerId = pid) ∨ pid ∈ g.worldState.characters := by
  induction entries generalizing g with
  | nil => simp
  | cons e entries ih =>
    rw [List.foldl_cons, ih]
    simp only [GameEngine.spawnPlayer, WorldState.addPlayer, Player.clampToWorld, Dict.mem_set,
      List.exists_mem_cons_iff]
    grind

/-- The rebuilt world has exactly the players of the roster. -/
theorem Node.mem_rebuildWorldFromRoster {n : Node} {now : ℚ} {lobbyHost : Ip} {pid : PlayerId} :
    pid ∈ (n.rebuildWorldFromRoster now lobbyHost).engine.worldState.characters ↔
      ∃ e ∈ n.roster.players, e.playerId = pid := by
  simp [rebuildWorldFromRoster, mem_foldl_spawnPlayer]

/-! ## What a client has polled -/

/-- The roster is the last one polled, or still the first one. -/
def HasRoster (first : GlobalRoster) (polled : List ServerMessage) (roster : GlobalRoster) : Prop :=
  .rosterUpdate roster ∈ polled ∨ (∀ r, .rosterUpdate r ∉ polled) ∧ roster = first

theorem HasRoster.snoc {first roster : GlobalRoster} {polled : List ServerMessage}
    {message : ServerMessage} (h : HasRoster first polled roster)
    (other : ∀ r, message ≠ .rosterUpdate r) : HasRoster first (polled ++ [message]) roster := by
  obtain hpolled | ⟨hnone, hfirst⟩ := h
  · exact .inl (List.mem_append_left _ hpolled)
  · refine .inr ⟨?_, hfirst⟩
    intro r hmem
    obtain hold | hnew := List.mem_append.mp hmem
    · exact hnone r hold
    · exact other r (List.mem_singleton.mp hnew).symm

theorem hasRoster_update (first roster : GlobalRoster) (polled : List ServerMessage) :
    HasRoster first (polled ++ [.rosterUpdate roster]) roster :=
  .inl (List.mem_append_right _ List.mem_cons_self)

/-- What a lobby without departures sends to a player that was accepted at this index. -/
def Greets (joinIndex : ℤ) : ServerMessage → Prop
  | .sessionJoined i => i = joinIndex
  | .rosterUpdate roster =>
    (∃ e ∈ roster.players, e.joinIndex = joinIndex.toNat ∧ e.playerId = playerIdFor joinIndex) ∧
      ∃ e ∈ roster.players, e.isHost = true
  | .gameStart _ | .initialStateSync _ => True
  | .sessionCreated _ _ | .sessionJoinRejected _ _ | .sessionClosed _ => False

/-- A client that was accepted at this index. -/
def LobbyClient.Named (joinIndex : ℤ) (c : LobbyClient) : Prop :=
  c.node.joinIndex = joinIndex.toNat ∧ c.node.localPlayerId = playerIdFor joinIndex

/-- Where a client stands that has polled these messages. -/
def LobbyClient.HasPolled (first : GlobalRoster) (joinIndex : ℤ) (polled : List ServerMessage)
    (c : LobbyClient) : Prop :=
  match c.progress with
  | .joining => (∀ i, .sessionJoined i ∉ polled) ∧ HasRoster first polled c.node.roster
  | .waiting =>
    (∃ i, .sessionJoined i ∈ polled) ∧ HasRoster first polled c.node.roster ∧ c.Named joinIndex
  | .started =>
    ∃ before i middle sessionId after,
      polled = before ++ .sessionJoined i :: (middle ++ .gameStart sessionId :: after) ∧
        HasRoster first (before ++ middle) c.node.roster ∧ c.Named joinIndex
  | .joinRejected _ | .sessionClosed => False

theorem HasRoster.of_same {first roster : GlobalRoster} {polled polled' : List ServerMessage}
    (h : HasRoster first polled roster)
    (same : ∀ r, .rosterUpdate r ∈ polled ↔ .rosterUpdate r ∈ polled') :
    HasRoster first polled' roster := by
  obtain hpolled | ⟨hnone, hfirst⟩ := h
  · exact .inl ((same roster).mp hpolled)
  · exact .inr ⟨fun r hr => hnone r ((same r).mpr hr), hfirst⟩

namespace LobbyClient

variable {first : GlobalRoster} {joinIndex : ℤ} {polled : List ServerMessage} {c : LobbyClient}
  {message : ServerMessage}

theorem pollLobby_hasPolled (sessionId : String) (joining : c.progress = .joining)
    (h : c.HasPolled first joinIndex polled) (greets : Greets joinIndex message) :
    (c.pollLobby sessionId message).HasPolled first joinIndex (polled ++ [message]) := by
  simp only [HasPolled, joining] at h
  obtain ⟨hunjoined, hroster⟩ := h
  cases message with
  | rosterUpdate roster =>
    simp only [pollLobby, adopt, HasPolled, joining]
    exact ⟨by simpa using hunjoined, hasRoster_update first roster polled⟩
  | sessionJoined i =>
    obtain rfl : i = joinIndex := greets
    simp only [pollLobby, HasPolled]
    exact ⟨⟨i, by simp⟩, hroster.snoc nofun, rfl, rfl⟩
  | gameStart _ | initialStateSync _ =>
    simp only [pollLobby, HasPolled, joining]
    exact ⟨by simpa using hunjoined, hroster.snoc nofun⟩
  | sessionCreated | sessionJoinRejected | sessionClosed => exact greets.elim

theorem waitForGameStart_hasPolled (waiting : c.progress = .waiting)
    (h : c.HasPolled first joinIndex polled) (greets : Greets joinIndex message) :
    (c.waitForGameStart message).HasPolled first joinIndex (polled ++ [message]) := by
  simp only [HasPolled, waiting] at h
  obtain ⟨⟨i, hi⟩, hroster, hnamed⟩ := h
  have hjoined : ∃ i, .sessionJoined i ∈ polled ++ [message] := ⟨i, List.mem_append_left _ hi⟩
  cases message with
  | rosterUpdate roster =>
    simp only [waitForGameStart, adopt, HasPolled, waiting]
    exact ⟨hjoined, hasRoster_update first roster polled, hnamed⟩
  | gameStart sessionId =>
    simp only [waitForGameStart, HasPolled]
    obtain ⟨before, middle, rfl⟩ := List.append_of_mem hi
    refine ⟨before, i, middle, sessionId, [], by simp, ?_, hnamed⟩
    apply hroster.of_same
    intro r
    simp
  | sessionJoined _ | initialStateSync _ =>
    simp only [waitForGameStart, HasPolled, waiting]
    exact ⟨hjoined, hroster.snoc nofun, hnamed⟩
  | sessionCreated | sessionJoinRejected | sessionClosed => exact greets.elim

theorem poll_hasPolled (sessionId : String) (h : c.HasPolled first joinIndex polled)
    (greets : Greets joinIndex message) :
    (c.poll sessionId message).HasPolled first joinIndex (polled ++ [message]) := by
  cases hprogress : c.progress with
  | joining =>
    simp only [poll, hprogress]
    exact pollLobby_hasPolled sessionId hprogress h greets
  | waiting =>
    simp only [poll, hprogress]
    exact waitForGameStart_hasPolled hprogress h greets
  | started =>
    simp only [poll, hprogress]
    simp only [HasPolled, hprogress] at h ⊢
    obtain ⟨before, i, middle, started, after, rfl, hroster, hnamed⟩ := h
    exact ⟨before, i, middle, started, after ++ [message], by simp, hroster, hnamed⟩
  | joinRejected | sessionClosed =>
    simp only [HasPolled, hprogress] at h

/-- The client after polling any number of messages. -/
theorem foldl_hasPolled (n : Node) (sessionId : String)
    (greets : ∀ message ∈ polled, Greets joinIndex message) :
    (polled.foldl (poll sessionId) { node := n }).HasPolled n.roster joinIndex polled := by
  induction polled using List.reverseRecOn with
  | nil => exact ⟨by simp, .inr ⟨by simp, rfl⟩⟩
  | append_singleton polled message ih =>
    rw [List.foldl_append, List.foldl_cons, List.foldl_nil]
    apply poll_hasPolled sessionId
    · exact ih fun m hm => greets m (List.mem_append_left _ hm)
    · exact greets message (List.mem_append_right _ List.mem_cons_self)

/-- A `GameStart` after the acknowledgement of the join ends the phase. -/
theorem foldl_started (n : Node) (sessionId started : String) {i : ℤ}
    (joined : .sessionJoined i ∈ polled) (greets : ∀ message ∈ polled, Greets joinIndex message) :
    ((polled ++ [ServerMessage.gameStart started]).foldl (poll sessionId) { node := n }).progress =
      .started := by
  have hpolled := foldl_hasPolled n sessionId greets
  rw [List.foldl_append, List.foldl_cons, List.foldl_nil]
  generalize polled.foldl (poll sessionId) { node := n } = c at hpolled ⊢
  cases hprogress : c.progress with
  | joining =>
    simp only [HasPolled, hprogress] at hpolled
    exact absurd joined (hpolled.1 i)
  | waiting => simp only [poll, hprogress, waitForGameStart]
  | started => simp only [poll, hprogress]
  | joinRejected | sessionClosed => simp only [HasPolled, hprogress] at hpolled

end LobbyClient

/-! ## When a phase returns -/

/-- Every `GameStart` after the acknowledgement of the join comes after a roster. -/
def RosterFirst (inbox : List ServerMessage) : Prop :=
  ∀ before i middle sessionId after,
    inbox = before ++ .sessionJoined i :: (middle ++ .gameStart sessionId :: after) →
    ∃ roster, .rosterUpdate roster ∈ before ++ middle

/-- A roster right after the acknowledgement is early enough. -/
theorem rosterFirst_of_second (i : ℤ) (roster : GlobalRoster) (rest : List ServerMessage) :
    RosterFirst (.sessionJoined i :: .rosterUpdate roster :: rest) := by
  intro before j middle sessionId after hinbox
  refine ⟨roster, ?_⟩
  rcases before with _ | ⟨first, _ | ⟨second, before⟩⟩
  · cases middle with
    | nil => cases hinbox
    | cons second middle =>
      cases hinbox
      exact List.mem_cons_self
  · cases hinbox
  · cases hinbox
    simp

namespace Node

theorem clientLobbyPhase_eq_some {n n' : Node} {sessionId : String} {polled : List ServerMessage}
    {now : ℚ} {lobbyHost : Ip} (h : n.clientLobbyPhase sessionId polled now lobbyHost = some n') :
    ∃ c, polled.foldl (LobbyClient.poll sessionId) { node := n } = c ∧ c.progress = .started ∧
      n' = c.node.rebuildWorldFromRoster now lobbyHost := by
  simp only [clientLobbyPhase] at h
  split at h
  case h_1 hstarted => exact ⟨_, rfl, hstarted, (Option.some.inj h).symm⟩
  case h_2 => cases h

/-- The phase of a client that was not accepted does not return. -/
theorem clientLobbyPhase_unjoined (n : Node) (sessionId : String) {polled : List ServerMessage}
    (now : ℚ) (lobbyHost : Ip) (unjoined : ∀ i, .sessionJoined i ∉ polled) :
    n.clientLobbyPhase sessionId polled now lobbyHost = none := by
  have hprogress : (polled.foldl (LobbyClient.poll sessionId) { node := n }).progress = .joining ∨
      ∃ reason, (polled.foldl (LobbyClient.poll sessionId) { node := n }).progress =
        .joinRejected reason := by
    apply Fallible.foldl_keeps (P := fun c : LobbyClient =>
      c.progress = .joining ∨ ∃ reason, c.progress = .joinRejected reason) ?_ (.inl rfl)
    rintro c message hmessage (hjoining | ⟨reason, hrejected⟩)
    · simp only [LobbyClient.poll, hjoining]
      cases message with
      | sessionJoined i => exact absurd hmessage (unjoined i)
      | sessionJoinRejected _ reason => exact .inr ⟨reason, rfl⟩
      | rosterUpdate | sessionCreated | sessionClosed | gameStart | initialStateSync =>
        exact .inl hjoining
    · simp only [LobbyClient.poll, hrejected]
      exact .inr ⟨reason, rfl⟩
  simp only [clientLobbyPhase]
  obtain hjoining | ⟨reason, hrejected⟩ := hprogress
  · rw [hjoining]
  · rw [hrejected]

/-- A roster that lists the node and a host is all it takes. -/
theorem readyToPlay_rebuild {n : Node} {joinIndex : ℤ} (now : ℚ) (lobbyHost : Ip)
    (index : n.joinIndex = joinIndex.toNat) (name : n.localPlayerId = playerIdFor joinIndex)
    (greets : Greets joinIndex (.rosterUpdate n.roster)) :
    (n.rebuildWorldFromRoster now lobbyHost).ReadyToPlay := by
  obtain ⟨⟨e, he, hindex, hplayer⟩, hhosted⟩ := greets
  refine ⟨⟨e, he, ?_, ?_⟩, hhosted, ?_⟩
  · simp [hindex, index]
  · simp [hplayer, name]
  · exact mem_rebuildWorldFromRoster.mpr ⟨e, he, by simp [hplayer, name]⟩

/-- A client that polls greetings is ready to play whenever it returns, if and only if the roster
comes first. -/
theorem readyToPlay_iff_rosterFirst {n : Node} {joinIndex : ℤ} {inbox : List ServerMessage}
    (sessionId : String) (now : ℚ) (lobbyHost : Ip) (new : n.roster = {})
    (greets : ∀ message ∈ inbox, Greets joinIndex message) :
    (∀ k n', n.clientLobbyPhase sessionId (inbox.take k) now lobbyHost = some n' →
      n'.ReadyToPlay) ↔ RosterFirst inbox := by
  have hprefix (k : ℕ) : LobbyClient.HasPolled n.roster joinIndex (inbox.take k)
      ((inbox.take k).foldl (LobbyClient.poll sessionId) { node := n }) :=
    LobbyClient.foldl_hasPolled n sessionId fun m hm => greets m (List.mem_of_mem_take hm)
  constructor
  · intro hready before i middle started after hinbox
    by_contra hnone
    push Not at hnone
    -- the client that has polled everything up to this `GameStart`
    let polled := before ++ ServerMessage.sessionJoined i :: middle
    have hsplit : inbox = (polled ++ [.gameStart started]) ++ after := by simp [hinbox, polled]
    have htake : inbox.take (polled.length + 1) = polled ++ [.gameStart started] := by
      rw [hsplit]
      apply List.take_left'
      simp
    have hjoined : .sessionJoined i ∈ polled := by simp [polled]
    have hgreets : ∀ m ∈ polled, Greets joinIndex m := by
      intro m hm
      apply greets
      rw [hsplit]
      exact List.mem_append_left _ (List.mem_append_left _ hm)
    have hstarted := LobbyClient.foldl_started n sessionId started hjoined hgreets
    have hpolled := hprefix (polled.length + 1)
    have hreturns : n.clientLobbyPhase sessionId (inbox.take (polled.length + 1)) now lobbyHost =
        some ((inbox.take (polled.length + 1)).foldl (LobbyClient.poll sessionId)
          { node := n } |>.node.rebuildWorldFromRoster now lobbyHost) := by
      rw [htake]
      simp only [clientLobbyPhase, hstarted]
    obtain ⟨e, he, -⟩ := (hready _ _ hreturns).listed
    rw [htake] at hpolled he
    generalize (polled ++ [ServerMessage.gameStart started]).foldl (LobbyClient.poll sessionId)
      { node := n } = c at hstarted hpolled he
    simp only [LobbyClient.HasPolled, hstarted] at hpolled
    obtain ⟨before', i', middle', started', after', hsame, hroster, -⟩ := hpolled
    obtain hlast | ⟨-, hroster⟩ := hroster
    · have hmem : .rosterUpdate c.node.roster ∈ polled ++ [.gameStart started] := by
        rw [hsame]
        simp only [List.mem_append, List.mem_cons] at hlast ⊢
        tauto
      exact hnone c.node.roster (by simpa [polled] using hmem)
    · rw [Node.rebuildWorldFromRoster_roster, hroster, new] at he
      cases he
  · intro hfirst k n' hreturns
    obtain ⟨c, hc, hstarted, rfl⟩ := clientLobbyPhase_eq_some hreturns
    have hpolled := hprefix k
    rw [hc] at hpolled
    simp only [LobbyClient.HasPolled, hstarted] at hpolled
    obtain ⟨before, i, middle, started, after, htake, hroster, hindex, hname⟩ := hpolled
    have hinbox : inbox = before ++ .sessionJoined i ::
        (middle ++ .gameStart started :: (after ++ inbox.drop k)) :=
      calc inbox = inbox.take k ++ inbox.drop k := (List.take_append_drop k inbox).symm
        _ = before ++ .sessionJoined i ::
            (middle ++ .gameStart started :: (after ++ inbox.drop k)) := by
          rw [htake]
          simp
    obtain ⟨roster, hsome⟩ := hfirst before i middle started _ hinbox
    obtain hlast | ⟨hnone, -⟩ := hroster
    · apply readyToPlay_rebuild now lobbyHost hindex hname
      apply greets
      rw [hinbox]
      simp only [List.mem_append, List.mem_cons] at hlast ⊢
      tauto
    · exact absurd hsome (hnone roster)

end Node

end DistributedSmb
