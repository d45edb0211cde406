import DistributedSmb.Election.Effects
import DistributedSmb.Lobby.Reservations

/-!
# Followers and the new lobby

A follower that processes a `ReconnectionAck` opens a connection to the new host's lobby, and sends
nothing over it. The lobby adds a connection to a session only on a message, so it never learns of
the follower.
-/

namespace DistributedSmb

open Library

/-! ## What a client sends to the lobby -/

def Outgoing.toLobby : Outgoing → Option WsMessage
  | .lobby message => some message
  | .udp _ _ _ | .relay _ => none

namespace Node

/-- What the node has sent over its lobby connection. -/
def sentToLobby (n : Node) : List WsMessage := n.outbox.filterMap Outgoing.toLobby

theorem sentToLobby_send {n : Node} {out : List Outgoing} (h : ∀ o ∈ out, o.toLobby = none) :
    (n.send out).sentToLobby = n.sentToLobby := by
  have hnone : out.filterMap Outgoing.toLobby = [] := List.filterMap_eq_nil_iff.mpr h
  simp [sentToLobby, send, hnone]

theorem sentToLobby_of_frame {n m : Node} (h : m.frame = n.frame) :
    m.sentToLobby = n.sentToLobby := by
  have houtbox : m.outbox = n.outbox := congrArg (fun f => f.2.2.2.1) h
  rw [sentToLobby, houtbox, sentToLobby]

theorem promoteToHost_sentToLobby {n m : Node} {now : ℚ} (h : n.promoteToHost now = .ok m) :
    m.sentToLobby = n.sentToLobby := by
  rcases promoteToHost_spec h with ⟨-, rfl⟩ | ⟨-, out, rfl, hout⟩
  · rfl
  · have hnone : ∀ o ∈ out, o.toLobby = none := by
      intro o ho
      obtain ⟨ack, rfl | ⟨host, port, rfl⟩⟩ := hout o ho <;> rfl
    calc ((n.assumeHostRole.send out).finishPromotion now).sentToLobby
        = (n.assumeHostRole.send out).sentToLobby := rfl
      _ = n.takeAuthority.restoreWorld.evictHost.sentToLobby := sentToLobby_send hnone
      _ = n.takeAuthority.sentToLobby :=
        sentToLobby_of_frame ((evictHost_frame _).trans (restoreWorld_frame _))

theorem onReconnectionAck_sentToLobby (n : Node) (ack : ReconnectionAck) :
    (n.onReconnectionAck ack).sentToLobby = n.sentToLobby := by
  rcases onReconnectionAck_cases n ack with ⟨hsame, -⟩ | ⟨-, -, hreset⟩
  · rw [hsame]
  · rw [sentToLobby, hreset.outbox, sentToLobby]

theorem ElectionParts.sentToLobby {n m : Node} (h : n.ElectionParts m) :
    m.sentToLobby = n.sentToLobby := by
  induction h with
  | refl => rfl
  | tail _ last ih =>
    rw [← ih]
    cases last with
    | fields only => rw [only]; rfl
    | sends out elsewhere =>
      refine sentToLobby_send fun o ho => ?_
      cases o with
      | lobby message => exact absurd rfl (elsewhere _ ho message)
      | udp _ _ _ | relay _ => rfl
    | evicts pid => rfl
    | promotes now h => exact promoteToHost_sentToLobby h
    | reconnects ack => exact onReconnectionAck_sentToLobby _ ack

/-- A client sends nothing over its lobby connection. -/
theorem clientCall_sentToLobby {n m : Node} {now : ℚ} {call : ClientCall}
    (h : n.clientCall now call = .ok m) : m.sentToLobby = n.sentToLobby := by
  cases call with
  | ensureElectionComponents =>
    cases h
    unfold ensureElectionComponents
    split <;> rfl
  | lobbyMessage message =>
    cases h
    unfold onLobbyMessage
    split <;> rfl
  | sendInputPacket localInput =>
    obtain ⟨packet, -, h⟩ := Fallible.bind_eq_ok.mp h
    cases h
    exact sentToLobby_send (by simp [Outgoing.toLobby])
  | runPredictedTicks localInput sentAt =>
    refine Fallible.foldlM_keeps (P := fun m : Node => m.sentToLobby = n.sentToLobby)
      (fun m _ m' _ hm hstep => ?_) h rfl
    obtain ⟨p, -, hstep⟩ := Fallible.bind_eq_ok.mp hstep
    cases hstep
    exact hm
  | clearEvents => cases h; rfl
  | datagram payload =>
    obtain ⟨message, -, h⟩ := Fallible.bind_eq_ok.mp h
    cases message with
    | election message => exact (onElectionMessage_parts h).sentToLobby
    | hostIdentityResponse response =>
      cases h
      unfold onHostIdentityResponse
      split
      · rfl
      · split <;> rfl
    | worldState snapshot =>
      simp only [onSnapshot] at h
      split at h
      · cases h; rfl
      · obtain ⟨p, -, h⟩ := Fallible.bind_eq_ok.mp h
        cases h
        rfl
    | playerInput _ | hostDiscoveryProbe _ => cases h; rfl
  | gameEvent message =>
    cases message with
    | playerLeft pid =>
      cases h
      split <;> rfl
    | rosterUpdate roster =>
      obtain ⟨merged, rfl, -⟩ := mergeRoster_spec h
      rfl
    | election message => exact (onElectionMessage_parts h).sentToLobby
    | _ => cases h; rfl
  | tickElectionState foundIp => exact (tickElectionState_parts h).sentToLobby
  | adjustPredictionLead =>
    cases h
    unfold adjustPredictionLead
    dsimp only
    split_ifs <;> rfl

end Node

/-! ## Connections that say nothing -/

variable {κ : Type}

/-- No session lists the connection, and nothing has been sent on it or is about to be. -/
structure LobbyView.Stranger (ws : κ) (v : LobbyView κ) : Prop where
  unlisted : ∀ sessionId, ws ∉ v.manager.connections sessionId
  idle : v.pending ws = []
  undelivered : ∀ handler message, .deliver ws message ∉ v.pending handler
  unsent : ∀ message, .sent ws message ∉ v.log

/-- A message that arrives on this connection. -/
def LobbyStep.isFrom [DecidableEq κ] (ws : κ) : LobbyStep κ → Bool
  | .receive sender _ _ => decide (sender = ws)
  | .resume _ _ | .disconnect _ => false

theorem LobbyManager.connections_dropSession {m : LobbyManager κ}
    {sessionId other : String} {ws : κ}
    (h : ws ∈ (m.dropSession sessionId).connections other) : ws ∈ m.connections other := by
  unfold connections at h ⊢
  cases hfound : (m.dropSession sessionId).sessions.get? other with
  | none => simp [hfound] at h
  | some r =>
    rw [hfound] at h
    rw [(get?_dropSession hfound).2]
    exact h

theorem Lobby.empty_stranger (ws : κ) : ({} : Lobby κ).view.Stranger ws :=
  ⟨fun _ => List.not_mem_nil, rfl, fun _ _ => List.not_mem_nil, fun _ => List.not_mem_nil⟩

variable [DecidableEq κ]

/-- A message that puts its connection into a session, if it is granted. -/
def ClientMessage.enters : ClientMessage → Bool
  | .sessionCreate _ | .sessionJoin _ | .sessionRecreate _ => true
  | .sessionLeave _ | .initialStateSync _ | .gameStart _ | .unknown | .malformed => false

omit [DecidableEq κ] in
/-- Only a message on the connection can put it into a session. -/
theorem LobbyManager.Opens.connections {m m' : LobbyManager κ} {sender ws : κ}
    {message : ClientMessage} {uuid other : String} {events : List (LobbyEvent κ)}
    {tasks : List (LobbyTask κ)} (opens : m.Opens sender message uuid m' events tasks)
    (h : ws ∈ m'.connections other) :
    ws ∈ m.connections other ∨ ws = sender ∧ message.enters = true := by
  have hrecord {sessionId : String} {r : SessionRecord κ}
      (found : m.sessions.get? sessionId = some r)
      (hmem : ws ∈ r.connections) : ws ∈ m.connections sessionId := by
    rwa [LobbyManager.connections, found]
  cases opens with
  | create | recreate =>
    rcases connections_of_put h with ⟨-, hnew⟩ | hold
    · exact .inr ⟨List.mem_singleton.mp hnew, rfl⟩
    · exact .inl hold
  | join found address room joined =>
    rcases connections_of_put h with ⟨rfl, hnew⟩ | hold
    · rcases List.mem_append.mp hnew with hmem | hmem
      · rw [(SessionRecord.join_spec joined).connections] at hmem
        exact .inl (hrecord found hmem)
      · exact .inr ⟨List.mem_singleton.mp hmem, rfl⟩
    · exact .inl hold
  | close found | leave found =>
    rcases connections_of_put h with ⟨rfl, hnew⟩ | hold
    · rw [SessionRecord.leave_connections] at hnew
      exact .inl (hrecord found hnew)
    · exact .inl hold
  | start found =>
    rcases connections_of_put h with ⟨rfl, hnew⟩ | hold
    · exact .inl (hrecord found hnew)
    · exact .inl hold
  | refuse | sync | idle => exact .inl h

namespace LobbyView

variable {ws : κ} {v : LobbyView κ}

theorem Does.connections {handler : κ} {v' : LobbyView κ} (does : Does handler v v')
    {other : String}
    (h : ws ∈ v'.manager.connections other) : ws ∈ v.manager.connections other := by
  cases does with
  | reply | deliver | broadcast | broadcastRoster | start | skip | forget => exact h
  | drop => exact LobbyManager.connections_dropSession h
  | ends left =>
    obtain rfl | ⟨sessionId, rfl⟩ := left
    · exact h
    · exact LobbyManager.connections_removeConnection h

theorem Stranger.todo (h : v.Stranger ws) {handler : κ} {tasks : List (LobbyTask κ)}
    (own : handler = ws → tasks = []) (others : ∀ message, .deliver ws message ∉ tasks) :
    (v.todo handler tasks).Stranger ws := by
  refine ⟨h.unlisted, ?_, fun w message => ?_, h.unsent⟩
  · by_cases hown : ws = handler
    · subst hown
      rw [todo_pending_self, own rfl]
    · rw [todo_pending_ne v hown, h.idle]
  · by_cases hw : w = handler
    · subst hw
      rw [todo_pending_self]
      exact others message
    · rw [todo_pending_ne v hw]
      exact h.undelivered w message

omit [DecidableEq κ] in
theorem Stranger.note (h : v.Stranger ws) {e : LobbyEvent κ}
    (other : ∀ message, e ≠ .sent ws message) : (v.note e).Stranger ws := by
  refine ⟨h.unlisted, h.idle, h.undelivered, fun message hsent => ?_⟩
  obtain hold | hnew := List.mem_append.mp hsent
  · exact h.unsent message hold
  · exact other message (List.mem_singleton.mp hnew).symm

omit [DecidableEq κ] in
theorem Stranger.withManager (h : v.Stranger ws) {manager : LobbyManager κ}
    (unlisted : ∀ sessionId, ws ∈ manager.connections sessionId →
      ws ∈ v.manager.connections sessionId) : (v.withManager manager).Stranger ws :=
  ⟨fun sessionId hmem => h.unlisted sessionId (unlisted sessionId hmem), h.idle, h.undelivered,
    h.unsent⟩

theorem Stranger.does {handler : κ} {v' : LobbyView κ} (does : Does handler v v')
    (h : v.Stranger ws) : v'.Stranger ws := by
  have hrest {task : LobbyTask κ} {rest : List (LobbyTask κ)}
      (next : v.pending handler = task :: rest) :
      handler ≠ ws ∧ (∀ message, task ≠ .deliver ws message) ∧
        ∀ message, .deliver ws message ∉ rest := by
    have hmem := h.undelivered handler
    rw [next] at hmem
    simp only [List.mem_cons, not_or] at hmem
    refine ⟨?_, fun message htask => (hmem message).1 htask.symm, fun message => (hmem message).2⟩
    rintro rfl
    rw [h.idle] at next
    cases next
  have hdeliveries {sessionId : String} {message : ServerMessage} {rest : List (LobbyTask κ)}
      (others : ∀ message, LobbyTask.deliver ws message ∉ rest) :
      ∀ m, LobbyTask.deliver ws m ∉
        (v.manager.connections sessionId).map (.deliver · message) ++ rest := by
    intro m hmem
    obtain hnew | hold := List.mem_append.mp hmem
    · obtain ⟨w, hw, heq⟩ := List.mem_map.mp hnew
      cases heq
      exact h.unlisted sessionId hw
    · exact others m hold
  have hkept (sessionId : String) (hmem : ws ∈ v'.manager.connections sessionId) :
      ws ∈ v.manager.connections sessionId := does.connections hmem
  cases does with
  | reply next =>
    obtain ⟨hne, -, hothers⟩ := hrest next
    refine (h.note fun message heq => hne ?_).todo (fun heq => absurd heq hne) hothers
    cases heq
    rfl
  | deliver next =>
    obtain ⟨hne, htask, hothers⟩ := hrest next
    refine (h.note fun message heq => htask message ?_).todo (fun heq => absurd heq hne) hothers
    cases heq
    rfl
  | broadcast next =>
    obtain ⟨hne, -, hothers⟩ := hrest next
    exact h.todo (fun heq => absurd heq hne) (hdeliveries hothers)
  | broadcastRoster next roster =>
    obtain ⟨hne, -, hothers⟩ := hrest next
    exact h.todo (fun heq => absurd heq hne) (hdeliveries hothers)
  | start next active =>
    obtain ⟨hne, -, hothers⟩ := hrest next
    exact h.todo (fun heq => absurd heq hne) (by simpa using hothers)
  | skip next | forget next =>
    obtain ⟨hne, -, hothers⟩ := hrest next
    exact h.todo (fun heq => absurd heq hne) hothers
  | drop next =>
    obtain ⟨hne, -, hothers⟩ := hrest next
    refine (Stranger.note (h.withManager hkept) ?_).todo (fun heq => absurd heq hne) hothers
    intro _ heq
    cases heq
  | ends left =>
    refine (Stranger.note (h.withManager hkept) ?_).todo (fun _ => rfl) (by simp)
    intro _ heq
    cases heq

theorem Stranger.opens (h : v.Stranger ws) {sender : κ} {message : ClientMessage} {uuid : String}
    {manager : LobbyManager κ} {events : List (LobbyEvent κ)} {tasks : List (LobbyTask κ)}
    (hne : sender ≠ ws) (opens : v.manager.Opens sender message uuid manager events tasks) :
    (LobbyView.todo ⟨manager, v.pending, v.log ++ events⟩ sender tasks).Stranger ws := by
  have hunlisted (sessionId : String) (hmem : ws ∈ manager.connections sessionId) :
      ws ∈ v.manager.connections sessionId := by
    rcases opens.connections hmem with hold | ⟨heq, -⟩
    · exact hold
    · exact absurd heq.symm hne
  have hquiet : (∀ message, .deliver ws message ∉ tasks) ∧
      ∀ message, .sent ws message ∉ events := by
    cases opens <;> simp
  refine Stranger.todo ?_ (fun heq => absurd heq hne) hquiet.1
  refine ⟨fun sessionId hmem => h.unlisted sessionId (hunlisted sessionId hmem), h.idle,
    h.undelivered, fun message hsent => ?_⟩
  rcases List.mem_append.mp hsent with hold | hnew
  · exact h.unsent message hold
  · exact hquiet.2 message hnew

end LobbyView

namespace Lobby

variable {ws : κ}

theorem step_stranger {s : Lobby κ} {x : LobbyStep κ} (other : x.isFrom ws = false)
    (h : s.view.Stranger ws) : (s.step x).view.Stranger ws := by
  refine step_keeps (fun _ _ _ does hv => hv.does does) (fun hx _ _ opens => ?_) h
  subst hx
  exact h.opens (of_decide_eq_false other) opens

theorem run_stranger {s : Lobby κ} {steps : List (LobbyStep κ)}
    (others : ∀ x ∈ steps, x.isFrom ws = false) (h : s.view.Stranger ws) :
    (s.run steps).view.Stranger ws :=
  Fallible.foldl_keeps (P := fun s : Lobby κ => s.view.Stranger ws)
    (fun _ x hx hs => step_stranger (others x hx) hs) h

end Lobby

/-! ## Followers -/

/-- A node that processes a `ReconnectionAck` and goes on with its frames, and the connection that
it opens to the new host's lobby. -/
structure Follower (κ : Type) where
  node : Node
  ack : ReconnectionAck
  calls : List (ℚ × ClientCall)
  ws : κ

namespace Follower

def run (f : Follower κ) : Except PyError Node :=
  f.calls.foldlM (fun n c => n.clientCall c.1 c.2) (f.node.onReconnectionAck f.ack)

omit [DecidableEq κ] in
theorem run_sentToLobby {f : Follower κ} {n : Node} (h : f.run = .ok n) :
    n.sentToLobby = f.node.sentToLobby :=
  Fallible.foldlM_keeps (P := fun n : Node => n.sentToLobby = f.node.sentToLobby)
    (fun _ _ _ _ hn hcall => (Node.clientCall_sentToLobby hcall).trans hn) h
    (Node.onReconnectionAck_sentToLobby f.node f.ack)

/-- A message arrives from the follower only if it has sent one since the acknowledgement. -/
def HeardIn (f : Follower κ) (steps : List (LobbyStep κ)) : Prop :=
  ∃ n, f.run = .ok n ∧
    (n.sentToLobby = f.node.sentToLobby → ∀ x ∈ steps, x.isFrom f.ws = false)

end Follower

/-- In every run of the lobby, whenever the session is registered again, the followers' connections
are in the session if and only if there are no followers. -/
theorem followers_listed_iff {steps : List (LobbyStep κ)} {followers : List (Follower κ)}
    (heard : ∀ f ∈ followers, f.HeardIn steps) (sessionId : String) :
    (∀ f ∈ followers, f.ws ∈ (Lobby.run {} steps).manager.connections sessionId) ↔
      followers = [] := by
  constructor
  · intro hlisted
    refine List.eq_nil_iff_forall_not_mem.mpr fun f hf => ?_
    obtain ⟨n, hrun, hheard⟩ := heard f hf
    have hstranger := Lobby.run_stranger (hheard (Follower.run_sentToLobby hrun))
      (Lobby.empty_stranger f.ws)
    exact hstranger.unlisted sessionId (hlisted f hf)
  · rintro rfl f hf
    cases hf

/-! ### A migration -/

/-- The second player has been promoted: it registers the session again and starts a new run. -/
def secondRun : List (LobbyStep LobbyPeer) :=
  [.receive .host (.sessionRecreate ⟨"session", 3, "10.0.0.2", hostUdpPort, 1, [0, 2]⟩) "",
    .resume .host false, .receive .host (.gameStart "session") "", .resume .host false]

/-- The third player follows it. -/
def thirdPlayer : Follower LobbyPeer where
  node := .clientOf threePlayers ⟨"player-3", "10.0.0.3", 50012, 2, .connected, false⟩ "10.0.0.1"
  ack := ⟨"10.0.0.2", hostUdpPort, gameEventWsPort, "session"⟩
  calls := [(2, .ensureElectionComponents), (2, .tickElectionState none)]
  ws := .guest

theorem thirdPlayer_heardIn : thirdPlayer.HeardIn secondRun := by
  obtain ⟨n, hn, -⟩ := Fallible.exists_of_okAnd (x := thirdPlayer.run) (p := fun _ => true)
    (by decide +kernel)
  exact ⟨n, hn, fun _ => by decide⟩

theorem thirdPlayer_is_not_listed :
    ¬ ∀ f ∈ [thirdPlayer], f.ws ∈ (Lobby.run {} secondRun).manager.connections "session" :=
  fun h => absurd ((followers_listed_iff (by simpa using thirdPlayer_heardIn) "session").mp h)
    (List.cons_ne_nil _ _)

/-- The new run is announced to the host alone. -/
theorem new_run_reaches_the_host_only :
    thirdPlayer.HeardIn secondRun ∧
      thirdPlayer.ws ∉ (Lobby.run {} secondRun).manager.connections "session" ∧
      .sent .host (.gameStart "session") ∈ (Lobby.run {} secondRun).log ∧
      .sent .guest (.gameStart "session") ∉ (Lobby.run {} secondRun).log :=
  ⟨thirdPlayer_heardIn, by decide +kernel, by decide +kernel, by decide +kernel⟩

end DistributedSmb
