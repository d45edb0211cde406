import DistributedSmb.Domain.Resuming
import DistributedSmb.Gameplay.MidGameRejoin
import DistributedSmb.Gameplay.RunningSession

/-!
# Playing again

A process keeps the level it has loaded, and its engine is authoritative exactly if it is the host.
So when it plays again in the same session, its engine is that of a new process in the same roster,
but for the sequence number and the events that wait, and goes through the same ticks.
-/

namespace DistributedSmb

open Library

/-! ## Role and level -/

def GameEngine.withAuthority (g : GameEngine) : GameEngine := { g with isAuthoritative := true }

theorem GameEngine.withAuthority_setting {g g' : GameEngine} (h : g'.setting = g.setting) :
    g'.withAuthority.setting = g.withAuthority.setting :=
  congrArg (fun s => (s.1, true, s.2.2)) h

namespace Node

/-- The role, and all of the engine that ticks leave alone. -/
def casting (n : Node) : (List Platform × Bool × ℤ × ℤ × List SpawnPoint × Level) × PlayerRole :=
  (n.engine.setting, n.role)

/-- The node keeps its part, or it is promoted. -/
def Recasts (n n' : Node) : Prop :=
  n'.casting = n.casting ∨ n'.casting = (n.engine.withAuthority.setting, .host)

theorem Recasts.refl (n : Node) : n.Recasts n := .inl rfl

theorem Recasts.trans {n n' n'' : Node} (h : n.Recasts n') (h' : n'.Recasts n'') :
    n.Recasts n'' := by
  rcases h' with hsame' | hpromoted'
  · rw [Recasts, hsame']
    exact h
  · refine .inr (hpromoted'.trans ?_)
    rcases h with hsame | hpromoted
    · rw [GameEngine.withAuthority_setting (Prod.mk.inj hsame).1]
    · have hagain := GameEngine.withAuthority_setting (g := n.engine.withAuthority)
        (Prod.mk.inj hpromoted).1
      rw [hagain]
      rfl

theorem evictHost_casting (n : Node) : n.evictHost.casting = n.casting := by
  unfold evictHost
  split <;> rfl

theorem restoreWorld_casting (n : Node) : n.restoreWorld.casting = n.casting := by
  unfold restoreWorld
  split <;> rfl

theorem promoteToHost_recasts {n n' : Node} {now : ℚ} (h : n.promoteToHost now = .ok n') :
    n.Recasts n' := by
  rcases promoteToHost_spec h with ⟨-, rfl⟩ | ⟨-, out, rfl, -⟩
  · exact .refl _
  · have hassumed : n.assumeHostRole.casting = n.takeAuthority.casting :=
      (evictHost_casting _).trans (restoreWorld_casting _)
    refine .inr (Prod.ext ?_ rfl)
    exact (Prod.mk.inj hassumed).1

theorem onSelfElected_recasts {n n' : Node} {now : ℚ} (h : n.onSelfElected now = .ok n') :
    n.Recasts n' := by
  unfold onSelfElected at h
  dsimp only at h
  split at h
  · exact promoteToHost_recasts h
  · obtain ⟨_, -, h⟩ := Fallible.bind_eq_ok.mp h
    cases h
    exact .inl rfl

theorem onElectionAck_recasts {n n' : Node} {msg : ElectionAck} {now : ℚ}
    (h : n.onElectionAck msg now = .ok n') : n.Recasts n' := by
  unfold onElectionAck at h
  split at h
  · cases h; exact .refl _
  split at h
  · cases h; exact .refl _
  dsimp only at h
  split at h
  · have hpromoted := promoteToHost_recasts h
    exact Recasts.trans (.inl rfl) hpromoted
  · cases h; exact .inl rfl

theorem onNewHostClaim_casting {n n' : Node} {msg : NewHostClaim} {now : ℚ}
    (h : n.onNewHostClaim msg now = .ok n') : n'.casting = n.casting := by
  unfold onNewHostClaim at h
  split at h
  · cases h; rfl
  split at h
  · cases h; rfl
  split at h
  · obtain ⟨_, -, h⟩ := Fallible.bind_eq_ok.mp h
    cases h
    rfl
  · cases h; rfl

theorem onReconnectionAck_casting (n : Node) (ack : ReconnectionAck) :
    (n.onReconnectionAck ack).casting = n.casting := by
  unfold onReconnectionAck
  split
  · rfl
  · have hresynced : (n.reconnectTo ack).resyncEnvironmentFromBuffer.casting = n.casting := by
      unfold resyncEnvironmentFromBuffer
      split <;> rfl
    have hrepointed (m : Node) : (m.repointRosterAt ack.newHostIp).casting = m.casting := by
      unfold repointRosterAt
      dsimp only
      split <;> exact evictHost_casting m
    have hforgotten (m : Node) : m.forgetSnapshotSequence.casting = m.casting := rfl
    have hreset (m : Node) : m.resetElectionState.recalibratePredictionLead.casting =
        m.casting := rfl
    dsimp only
    rw [hreset, hrepointed, hforgotten, hresynced]

theorem onElectionMessage_recasts {n n' : Node} {message : ElectionMessage} {now : ℚ}
    (h : n.onElectionMessage now message = .ok n') : n.Recasts n' := by
  cases message with
  | newHostClaim claim => exact .inl (onNewHostClaim_casting h)
  | electionAck ack => exact onElectionAck_recasts h
  | reconnectionAck ack =>
    cases h
    exact .inl (onReconnectionAck_casting n ack)

theorem tickHostTimeout_casting {n n' : Node} {coordinator : ElectionCoordinator}
    {watcher : HostTimeoutWatcher} {now : ℚ}
    (h : n.tickHostTimeout coordinator watcher now = .ok n') : n'.casting = n.casting := by
  have hprobe {m : Node} (h : m.resendHostVerifyProbe now = .ok n') : n'.casting = m.casting := by
    obtain ⟨_, -, h⟩ := Fallible.bind_eq_ok.mp h
    cases h
    rfl
  unfold tickHostTimeout at h
  split at h
  · split at h
    · exact (hprobe h).trans rfl
    · cases h; rfl
  · unfold tickHostVerify at h
    split at h
    · cases h; rfl
    split at h
    · cases h; rfl
    split at h
    · exact hprobe h
    · cases h; rfl

theorem tickCoordinator_recasts {n n' : Node} {now : ℚ} (h : n.tickCoordinator now = .ok n') :
    n.Recasts n' := by
  unfold tickCoordinator at h
  split at h
  · cases h; exact .refl _
  case h_2 coordinator hcoordinator =>
    obtain ⟨⟨ticked, event⟩, -, h⟩ := Fallible.bind_eq_ok.mp h
    dsimp only at h
    split at h
    · exact onSelfElected_recasts (n := { n with
        election := { n.election with coordinator := some ticked } }) h
    · cases h; exact .inl rfl

theorem tickClaimDeadline_recasts {n n' : Node} {now : ℚ} (h : n.tickClaimDeadline now = .ok n') :
    n.Recasts n' := by
  unfold tickClaimDeadline at h
  split at h
  · cases h; exact .refl _
  split at h
  · cases h; exact .refl _
  have hevicted : (n.election.pendingElectionAcks.foldl evictSilentPeer n).casting = n.casting :=
    Fallible.foldl_keeps (P := fun m : Node => m.casting = n.casting)
      (fun m ip _ hm => by
        unfold evictSilentPeer
        split <;> exact hm) rfl
  have hpromoted := promoteToHost_recasts h
  exact Recasts.trans (.inl hevicted) (Recasts.trans (.inl rfl) hpromoted)

theorem tickReconnectionFallback_casting {n n' : Node} {foundIp : Option Ip} {now : ℚ}
    (h : n.tickReconnectionFallback foundIp now = .ok n') : n'.casting = n.casting := by
  unfold tickReconnectionFallback at h
  split at h
  · cases h; rfl
  split at h
  · cases h; rfl
  split at h
  · cases h; rfl
  · obtain ⟨ack, -, h⟩ := Fallible.bind_eq_ok.mp h
    cases h
    exact onReconnectionAck_casting _ ack

theorem tickElectionState_recasts {n n' : Node} {foundIp : Option Ip} {now : ℚ}
    (h : n.tickElectionState foundIp now = .ok n') : n.Recasts n' := by
  unfold tickElectionState at h
  split at h
  · obtain ⟨n₁, htimeout, h⟩ := Fallible.bind_eq_ok.mp h
    refine Recasts.trans (.inl (tickHostTimeout_casting htimeout)) ?_
    split at h
    · obtain ⟨n₂, hcoordinator, h⟩ := Fallible.bind_eq_ok.mp h
      obtain ⟨n₃, hdeadline, h⟩ := Fallible.bind_eq_ok.mp h
      exact ((tickCoordinator_recasts hcoordinator).trans
        (tickClaimDeadline_recasts hdeadline)).trans (.inl (tickReconnectionFallback_casting h))
    · cases h; exact .refl _
  · cases h; exact .refl _

theorem onSnapshot_casting {n n' : Node} {snapshot : WorldStateSnapshot} {now : ℚ}
    (h : n.onSnapshot snapshot now = .ok n') : n'.casting = n.casting := by
  unfold onSnapshot at h
  split at h
  · cases h; rfl
  · obtain ⟨p, hp, h⟩ := Fallible.bind_eq_ok.mp h
    cases h
    obtain ⟨g, hreplay, rfl⟩ := PredictionEngine.reconcile_spec hp
    have hkept := Fallible.foldlM_keeps (P := fun g : GameEngine => g.setting = n.engine.setting)
      (fun _ _ _ _ hg htick => (GameEngine.tick_setting htick).trans hg) hreplay rfl
    exact Prod.ext hkept rfl

theorem runPredictedTicks_casting {n n' : Node} {localInput : InputState} {sentAt now : ℚ}
    (h : n.runPredictedTicks localInput sentAt now = .ok n') : n'.casting = n.casting :=
  Fallible.foldlM_keeps (P := fun m : Node => m.casting = n.casting)
    (fun m _ m' _ hm hpredict => by
      obtain ⟨p, hp, hpredict⟩ := Fallible.bind_eq_ok.mp hpredict
      cases hpredict
      obtain ⟨g, htick, rfl⟩ := PredictionEngine.predictTick_spec hp
      exact (congrArg (fun setting => (setting, m.role)) (GameEngine.tick_setting htick)).trans hm)
    h rfl

theorem onDatagram_recasts {n n' : Node} {payload : Except PyError UdpMessage} {now : ℚ}
    (h : n.onDatagram payload now = .ok n') : n.Recasts n' := by
  obtain ⟨message, -, h⟩ := Fallible.bind_eq_ok.mp h
  cases message with
  | election message => exact onElectionMessage_recasts h
  | worldState snapshot => exact .inl (onSnapshot_casting h)
  | hostIdentityResponse response =>
    cases h
    unfold onHostIdentityResponse
    split
    · exact .refl n
    split
    · exact .refl n
    · exact .inl rfl
  | playerInput | hostDiscoveryProbe => cases h; exact .refl _

theorem onGameEvent_recasts {n n' : Node} {message : WsMessage} {now : ℚ}
    (h : n.onGameEvent now message = .ok n') : n.Recasts n' := by
  have happlied (m : WsMessage) : (n.applyToEngine m).casting = n.casting :=
    Prod.ext (GameEngine.applyMessage_setting n.engine m) rfl
  cases message with
  | playerLeft pid =>
    cases h
    split
    · exact .refl n
    · exact .inl rfl
  | rosterUpdate roster =>
    obtain ⟨merged, rfl, -⟩ := mergeRoster_spec h
    exact .inl rfl
  | election message => exact onElectionMessage_recasts h
  | levelReset => cases h; exact .inl (happlied .levelReset)
  | _ => cases h; exact .inl (happlied _)

theorem clientCall_recasts {n n' : Node} {now : ℚ} {call : ClientCall}
    (h : n.clientCall now call = .ok n') : n.Recasts n' := by
  cases call with
  | ensureElectionComponents =>
    cases h
    unfold ensureElectionComponents
    split
    · exact .refl n
    · exact .inl rfl
  | lobbyMessage message => cases h; cases message <;> exact .inl rfl
  | sendInputPacket localInput =>
    obtain ⟨_, -, h⟩ := Fallible.bind_eq_ok.mp h
    cases h
    exact .inl rfl
  | runPredictedTicks localInput sentAt => exact .inl (runPredictedTicks_casting h)
  | clearEvents => cases h; exact .inl rfl
  | datagram payload => exact onDatagram_recasts h
  | gameEvent message => exact onGameEvent_recasts h
  | tickElectionState foundIp => exact tickElectionState_recasts h
  | adjustPredictionLead =>
    cases h
    unfold adjustPredictionLead
    dsimp only
    split
    · exact .inl rfl
    split
    · exact .inl rfl
    split <;> exact .inl rfl

theorem restorePlayer_setting (g : GameEngine) (restored : Option Player) (known : Bool)
    (entry : RosterEntry) : (restorePlayer g restored known entry).setting = g.setting := by
  unfold restorePlayer
  split
  · rfl
  split <;> rfl

theorem rejoin_casting {n : Node} {entry : RosterEntry} {now : ℚ} {r : Node × Bool}
    (h : n.rejoin entry now = .ok r) : r.1.casting = n.casting := by
  unfold rejoin at h
  split at h
  · cases h; rfl
  dsimp only at h
  split at h
  · cases h; rfl
  split at h
  · cases h; rfl
  · obtain ⟨roster, -, h⟩ := Fallible.bind_eq_ok.mp h
    cases h
    exact Prod.ext (restorePlayer_setting _ _ _ _) rfl

theorem hostCall_casting {n n' : Node} {now : ℚ} {call : HostCall}
    (h : n.hostCall now call = .ok n') : n'.casting = n.casting := by
  have hevict {m m' : Node} {pid : PlayerId} (h : m.evictAndAnnounce pid = .ok m') :
      m'.casting = m.casting := by
    obtain ⟨_, -, h⟩ := Fallible.bind_eq_ok.mp h
    cases h
    rfl
  cases call with
  | checkForRejoiningPlayers message =>
    unfold hostCall checkForRejoiningPlayers at h
    dsimp only at h
    split at h
    · obtain ⟨⟨m, reentered⟩, hall, h⟩ := Fallible.bind_eq_ok.mp h
      have hkept := Fallible.foldlM_keeps (P := fun r : Node × Bool => r.1.casting = n.casting)
        (fun r entry r' _ hr hstep => by
          obtain ⟨⟨m, reentered⟩, hrejoin, hstep⟩ := Fallible.bind_eq_ok.mp hstep
          cases hstep
          exact (rejoin_casting hrejoin).trans hr) hall rfl
      cases h
      split
      · exact hkept
      · exact hkept
    · cases h; rfl
  | playerDisconnected pid => exact hevict h
  | evictSilentPlayers =>
    exact Fallible.foldlM_keeps (P := fun m : Node => m.casting = n.casting)
      (fun _ _ _ _ hm hstep => (hevict hstep).trans hm) h rfl
  | remoteInput payload host port =>
    obtain ⟨message, -, h⟩ := Fallible.bind_eq_ok.mp h
    cases message with
    | hostDiscoveryProbe probe =>
      dsimp only at h
      split at h
      · cases h; rfl
      · obtain ⟨_, -, h⟩ := Fallible.bind_eq_ok.mp h
        cases h
        rfl
    | playerInput packet =>
      dsimp only at h
      split at h <;> cases h <;> rfl
    | _ => cases h; rfl
  | advance localInput enemyCommands =>
    obtain ⟨g, htick, h⟩ := Fallible.bind_eq_ok.mp h
    cases h
    exact Prod.ext (GameEngine.tick_setting htick) rfl
  | sendGameEvents =>
    obtain ⟨_, -, h⟩ := Fallible.bind_eq_ok.mp h
    cases h
    rfl
  | sendWorldStateSnapshot => cases h; rfl
  | maybeBroadcastRoster =>
    unfold hostCall maybeBroadcastRoster at h
    dsimp only at h
    split at h
    · cases h; rfl
    · obtain ⟨_, -, h⟩ := Fallible.bind_eq_ok.mp h
      cases h
      rfl

theorem processFrame_recasts {n n' : Node} {f : FrameInput} (h : n.processFrame f = .ok n') :
    n.Recasts n' :=
  Fallible.foldlM_rel Recasts.refl (fun h h' => h.trans h') (fun m c m' _ hstep => by
    obtain ⟨now, call⟩ := c
    cases call with
    | client call => exact clientCall_recasts hstep
    | host call => exact .inl (hostCall_casting hstep)) h

/-! ## Lobby phases -/

/-- The node plays this level, with the authority of its role. -/
def Plays (level : Level) (n : Node) : Prop :=
  n.engine.setting =
    ({ GameEngine.ofLevel level with isAuthoritative := n.role = .host } : GameEngine).setting

theorem Plays.congr {level : Level} {n n' : Node} (h : n.Plays level)
    (casting : n'.casting = n.casting) : n'.Plays level := by
  obtain ⟨hsetting, hrole⟩ := Prod.mk.inj casting
  rw [Plays, hsetting, h, hrole]

theorem Plays.recasts {level : Level} {n n' : Node} (h : n.Plays level) (hn' : n.Recasts n') :
    n'.Plays level := by
  rcases hn' with hsame | hpromoted
  · exact h.congr hsame
  · obtain ⟨hsetting, hrole⟩ := Prod.mk.inj hpromoted
    rw [Plays, hsetting, hrole, GameEngine.withAuthority_setting h]
    rfl

theorem bootstrap_plays (level : Level) (role : PlayerRole) (localIp : Ip) :
    (bootstrap level role localIp).Plays level := rfl

/-- What polling the lobby leaves alone. -/
def polls (n : Node) : GameEngine × PlayerRole := (n.engine, n.role)

theorem adoptRoster_polls (n : Node) (message : ServerMessage) :
    (n.adoptRoster message).polls = n.polls := by
  cases message <;> rfl

theorem foldl_adoptRoster_polls (n : Node) (messages : List ServerMessage) :
    (messages.foldl adoptRoster n).polls = n.polls :=
  Fallible.foldl_keeps (P := fun m : Node => m.polls = n.polls)
    (fun m message _ hm => (adoptRoster_polls m message).trans hm) rfl

theorem awaitGameStart_polls {n started : Node} {messages drained : List ServerMessage}
    (h : n.awaitGameStart messages = some (started, drained)) : started.polls = n.polls := by
  induction messages generalizing n with
  | nil => cases h
  | cons message rest ih =>
    cases message with
    | sessionJoinRejected => cases h
    | gameStart => cases h; rfl
    | sessionCreated | sessionJoined | rosterUpdate | sessionClosed | initialStateSync =>
      exact (ih h).trans (adoptRoster_polls n _)

theorem awaitSessionCreated_polls {n created : Node} {messages rest : List ServerMessage}
    (h : n.awaitSessionCreated messages = some (created, rest)) : created.polls = n.polls := by
  induction messages generalizing n with
  | nil => cases h
  | cons message rest' ih =>
    cases message with
    | sessionJoinRejected => cases h
    | sessionCreated => cases h; rfl
    | gameStart | sessionJoined | rosterUpdate | sessionClosed | initialStateSync =>
      exact (ih h).trans (adoptRoster_polls n _)

theorem awaitRestart_polls {n started : Node} {messages : List ServerMessage}
    (h : n.awaitRestart messages = some started) : started.polls = n.polls := by
  induction messages generalizing n with
  | nil => cases h
  | cons message rest ih =>
    cases message with
    | sessionClosed => cases h
    | gameStart => cases h; rfl
    | sessionCreated | sessionJoined | rosterUpdate | sessionJoinRejected | initialStateSync =>
      exact (ih h).trans (adoptRoster_polls n _)

end Node

def GameEngine.spawnEntry (g : GameEngine) (e : RosterEntry) : GameEngine :=
  g.spawnPlayer e.playerId (g.spawnPositionFor e.joinIndex) e.joinIndex

/-- The world without its players, and with the players of these entries where they start. -/
def GameEngine.repopulate (entries : List RosterEntry) (g : GameEngine) : GameEngine :=
  entries.foldl spawnEntry { g with worldState := { g.worldState with characters := ∅ } }

namespace Node

/-- A lobby phase repopulates the engine, and does nothing else to it. -/
theorem lobbyPhase_spec {n n' : Node} {sessionId : String} {waiting starting : List ServerMessage}
    {now : ℚ} {lobbyHost : Ip}
    (h : n.lobbyPhase sessionId waiting starting now lobbyHost = some n') :
    n'.engine = n.engine.repopulate n'.roster.getAllPlayers ∧ n'.role = n.role := by
  unfold lobbyPhase at h
  split at h
  · obtain ⟨⟨created, rest⟩, hcreated, h⟩ := Option.bind_eq_some_iff.mp h
    dsimp only at h
    split at h
    · cases h
    · obtain ⟨⟨started, drained⟩, hstarted, rfl⟩ := Option.map_eq_some_iff.mp h
      have hpolls := (foldl_adoptRoster_polls started drained).trans
        ((awaitGameStart_polls hstarted).trans
        ((foldl_adoptRoster_polls created rest).trans (awaitSessionCreated_polls hcreated)))
      obtain ⟨hengine, hrole⟩ := Prod.mk.inj hpolls
      refine ⟨?_, hrole⟩
      rw [← hengine]
      rfl
  · simp only [clientLobbyPhase] at h
    have hkept := Fallible.foldl_keeps (f := LobbyClient.poll sessionId) (l := waiting)
      (P := fun c : LobbyClient => c.node.role = n.role ∧ c.node.engine = n.engine)
      (fun c message _ hc => by
        obtain ⟨hrole, hengine⟩ := c.poll_node sessionId message
        exact ⟨hrole.trans hc.1, hengine.trans hc.2⟩) (s := { node := n }) ⟨rfl, rfl⟩
    split at h
    · cases h
      refine ⟨?_, hkept.1⟩
      rw [← hkept.2]
      rfl
    · cases h

/-- A phase before another run resets it first. -/
theorem replayPhase_spec {n n' : Node} {waiting starting : List ServerMessage} {now : ℚ}
    {lobbyHost : Ip} (h : n.replayPhase waiting starting now lobbyHost = some n') :
    n'.engine = n.engine.resetForNewRun.repopulate n'.roster.getAllPlayers ∧ n'.role = n.role := by
  unfold replayPhase at h
  split at h
  · simp only [replayLobbyPhase] at h
    split at h
    · cases h
    · obtain ⟨⟨started, drained⟩, hstarted, rfl⟩ := Option.map_eq_some_iff.mp h
      have hpolls := (foldl_adoptRoster_polls started drained).trans
        ((awaitGameStart_polls hstarted).trans (foldl_adoptRoster_polls n waiting))
      obtain ⟨hengine, hrole⟩ := Prod.mk.inj hpolls
      refine ⟨?_, hrole⟩
      rw [← hengine]
      rfl
  · obtain ⟨started, hstarted, rfl⟩ := Option.map_eq_some_iff.mp h
    obtain ⟨hengine, hrole⟩ := Prod.mk.inj (awaitRestart_polls hstarted)
    refine ⟨?_, hrole⟩
    rw [← hengine]
    rfl

end Node

namespace GameEngine

theorem repopulate_setting (entries : List RosterEntry) (g : GameEngine) :
    (g.repopulate entries).setting = g.setting := by
  exact Fallible.foldl_keeps (P := fun g' : GameEngine => g'.setting = g.setting)
    (f := spawnEntry) (fun _ _ _ hg => hg) rfl

theorem resumed_repopulate {ahead : ℤ} {waiting : List GameEvent} (entries : List RosterEntry)
    (g : GameEngine) :
    (g.resumed ahead waiting).repopulate entries =
      (g.repopulate entries).resumed ahead waiting := by
  let emptied : GameEngine := { g with worldState := { g.worldState with characters := ∅ } }
  change entries.foldl spawnEntry (emptied.resumed ahead waiting) =
    (entries.foldl spawnEntry emptied).resumed ahead waiting
  refine List.foldl_hom (resumed ahead waiting) ?_
  intro _ _
  rfl

/-- A reset forgets all of a run but the number it has reached and the events that still wait. -/
theorem resetForNewRun_repopulate {level : Level} {g : GameEngine} {isAuthoritative : Bool}
    (plays : g.setting =
      ({ ofLevel level with isAuthoritative := isAuthoritative } : GameEngine).setting)
    (entries : List RosterEntry) :
    g.resetForNewRun.repopulate entries =
      (({ ofLevel level with isAuthoritative := isAuthoritative } : GameEngine).repopulate
        entries).resumed g.worldState.sequenceNumber (g.events ++ [.levelReset]) := by
  rw [← resumed_repopulate]
  simp only [setting, Prod.mk.injEq] at plays
  obtain ⟨hplatforms, hauthority, hwidth, hheight, hspawn, hlevel⟩ := plays
  simp only [repopulate, resetForNewRun, resumed, ofLevel, WorldState.loadLevel] at *
  simp [hplatforms, hauthority, hwidth, hheight, hspawn, hlevel]

end GameEngine

/-! ## Sessions -/

namespace RunningSession

section
variable {ι : Type} [DecidableEq ι] {level : Level}

theorem withNode_plays {s : RunningSession ι} (plays : ∀ i, ∀ n ∈ s.nodes i, n.Plays level) (i : ι)
    {m : Option Node} (hm : ∀ n ∈ m, n.Plays level) :
    ∀ j, ∀ n ∈ (s.withNode i m).nodes j, n.Plays level := by
  intro j n hn
  by_cases hj : j = i
  · subst hj
    simp only [withNode, Function.update_self] at hn
    exact hm n hn
  · simp only [withNode, Function.update_of_ne hj] at hn
    exact plays j n hn

theorem frame_plays {s s' : RunningSession ι} {i : ι} {found : FrameInput}
    (h : s.frame i found = .ok s') (plays : ∀ i, ∀ n ∈ s.nodes i, n.Plays level) :
    ∀ i, ∀ n ∈ s'.nodes i, n.Plays level := by
  unfold frame at h
  split at h
  · cases h
    exact plays
  case h_2 n hn =>
    obtain ⟨n', hframe, h⟩ := Fallible.bind_eq_ok.mp h
    cases h
    exact withNode_plays plays i fun m hm =>
      Option.some.inj hm ▸ (plays i n hn).recasts (Node.processFrame_recasts hframe)

theorem step_plays {s s' : RunningSession ι} {x : SessionStep ι} (h : s.step level x = .ok s')
    (plays : ∀ i, ∀ n ∈ s.nodes i, n.Plays level) : ∀ i, ∀ n ∈ s'.nodes i, n.Plays level := by
  cases x with
  | enter i role localIp sessionId waiting starting now lobbyHost =>
    cases h
    refine withNode_plays plays i fun n hn => ?_
    obtain ⟨hengine, hrole⟩ := Node.lobbyPhase_spec hn
    refine (Node.bootstrap_plays level role localIp).congr (Prod.ext ?_ hrole)
    exact (congrArg GameEngine.setting hengine).trans (GameEngine.repopulate_setting _ _)
  | replay i waiting starting now lobbyHost =>
    cases h
    refine withNode_plays plays i fun n hn => ?_
    obtain ⟨before, hbefore, hn⟩ := Option.bind_eq_some_iff.mp hn
    obtain ⟨hengine, hrole⟩ := Node.replayPhase_spec hn
    refine (plays i before hbefore).congr (Prod.ext ?_ hrole)
    exact (congrArg GameEngine.setting hengine).trans (GameEngine.repopulate_setting _ _)
  | frame i found => exact frame_plays h plays
  | sendRaises i found gone =>
    obtain ⟨after, hframe, h⟩ := Fallible.bind_eq_ok.mp h
    cases h
    exact withNode_plays (frame_plays hframe plays) i fun _ hnone => nomatch hnone
  | crash i =>
    cases h
    exact withNode_plays plays i fun _ hnone => nomatch hnone

theorem run_plays {s : RunningSession ι} {steps : List (SessionStep ι)}
    (h : run level {} steps = .ok s) : ∀ i, ∀ n ∈ s.nodes i, n.Plays level :=
  Fallible.foldlM_keeps (P := fun s : RunningSession ι => ∀ i, ∀ n ∈ s.nodes i, n.Plays level)
    (fun _ _ _ _ hs hstep => step_plays hstep hs) h fun _ _ hnone => nomatch hnone

/-- Whatever a process has been through, its engine is authoritative exactly if it is the host, and
has the platforms, the bounds and the spawn points of the level that it has loaded. -/
theorem authority_follows_role {s : RunningSession ι} {steps : List (SessionStep ι)}
    (h : run level {} steps = .ok s) {i : ι} {n : Node} (hn : s.nodes i = some n) :
    (n.engine.isAuthoritative = true ↔ n.role = .host) ∧ n.engine.level = level ∧
      n.engine.platforms = level.platforms ∧ n.engine.worldWidth = level.width ∧
      n.engine.worldHeight = level.height ∧ n.engine.spawnPoints = level.spawnPoints := by
  have hplays := run_plays h i n hn
  simp only [Node.Plays, GameEngine.setting, GameEngine.ofLevel, Prod.mk.injEq] at hplays
  obtain ⟨hplatforms, hauthority, hwidth, hheight, hspawn, hlevel⟩ := hplays
  refine ⟨?_, hlevel, hplatforms, hwidth, hheight, hspawn⟩
  rw [hauthority, decide_eq_true_iff]

/-- Whatever a process has been through, it plays again like a process that has just entered the
game in its role and with its roster. -/
theorem replay_repeats {s : RunningSession ι} {steps : List (SessionStep ι)}
    (h : run level {} steps = .ok s) {i : ι} {n n' m : Node} (hn : s.nodes i = some n)
    {waiting starting : List ServerMessage} {now : ℚ} {lobbyHost : Ip}
    (replays : n.replayPhase waiting starting now lobbyHost = some n')
    {localIp : Ip} {sessionId : String} {waiting' starting' : List ServerMessage} {now' : ℚ}
    {lobbyHost' : Ip}
    (enters : (Node.bootstrap level n.role localIp).lobbyPhase sessionId waiting' starting' now'
      lobbyHost' = some m) (same : m.roster = n'.roster) (ticks : List GameEngine.TickArgs) :
    ticks.foldlM GameEngine.tick n'.engine =
      GameEngine.resumed n.engine.worldState.sequenceNumber (n.engine.events ++ [.levelReset]) <$>
        ticks.foldlM GameEngine.tick m.engine := by
  have hplays := run_plays h i n hn
  obtain ⟨hreplayed, -⟩ := Node.replayPhase_spec replays
  obtain ⟨hentered, -⟩ := Node.lobbyPhase_spec enters
  have hfresh : m.engine = ({ GameEngine.ofLevel level with
      isAuthoritative := n.role = .host } : GameEngine).repopulate m.roster.getAllPlayers :=
    hentered.trans rfl
  rw [hreplayed, GameEngine.resetForNewRun_repopulate hplays, ← same, ← hfresh]
  exact GameEngine.resumed_run ticks m.engine

end

/-- The guest has had a snapshot of the host that crashes, and waits for another in vain. -/
def guestTakesOver : List (SessionStep ℕ) :=
  hostCrashes ++
    [.frame 1 { now := 2, datagrams := [(.ok (.worldState ⟨1, {}⟩), "10.0.0.1", 50010)] },
      .frame 1 { now := 8 }, .frame 1 { now := 19 }, .frame 1 { now := 20 }]

theorem guest_has_authority : ∃ s n, run GameEngine.coinGateLevel {} guestTakesOver = .ok s ∧
    s.nodes 1 = some n ∧ n.engine.isAuthoritative = true ∧
    n.engine.platforms = GameEngine.coinGateLevel.platforms := by
  have htakes : Fallible.okAnd (run GameEngine.coinGateLevel {} guestTakesOver)
      (fun s => (s.nodes 1).any fun n => n.role = .host) = true := by
    decide +kernel
  obtain ⟨s, hs, htakes⟩ := Fallible.exists_of_okAnd htakes
  obtain ⟨n, hn, hhost⟩ := (Option.any_eq_true _ _).mp htakes
  have hfollows := authority_follows_role hs hn
  exact ⟨s, n, hs, hn, hfollows.1.mpr (of_decide_eq_true hhost), hfollows.2.2.1⟩

/-- The host of the room plays again in the same roster. -/
def HostReplays (s : RunningSession ℕ) (n n' m : Node) : Prop :=
  s.nodes 0 = some n ∧ n.replayPhase [] [.gameStart "room"] 9 "10.0.0.1" = some n' ∧
    (Node.bootstrap GameEngine.coinGateLevel n.role "10.0.0.1").lobbyPhase ""
      [.sessionCreated "room" 0, .rosterUpdate guestRoom] [.gameStart "room"] 9 "10.0.0.1" =
        some m ∧
    m.roster = n'.roster

theorem exists_hostReplays : ∃ s n n' m,
    run GameEngine.coinGateLevel {} (hostCrashes.take 3) = .ok s ∧ HostReplays s n n' m := by
  have hplays : Fallible.okAnd (run GameEngine.coinGateLevel {} (hostCrashes.take 3)) (fun s =>
      (s.nodes 0).any fun n => (n.replayPhase [] [.gameStart "room"] 9 "10.0.0.1").any fun n' =>
        ((Node.bootstrap GameEngine.coinGateLevel n.role "10.0.0.1").lobbyPhase ""
          [.sessionCreated "room" 0, .rosterUpdate guestRoom] [.gameStart "room"] 9
          "10.0.0.1").any fun m => m.roster = n'.roster) = true := by
    decide +kernel
  obtain ⟨s, hs, hplays⟩ := Fallible.exists_of_okAnd hplays
  obtain ⟨n, hn, hplays⟩ := (Option.any_eq_true _ _).mp hplays
  obtain ⟨n', hn', hplays⟩ := (Option.any_eq_true _ _).mp hplays
  obtain ⟨m, hm, hsame⟩ := (Option.any_eq_true _ _).mp hplays
  exact ⟨s, n, n', m, hs, hn, hn', hm, of_decide_eq_true hsame⟩

/-- It takes its first tick like a host that has just opened the room. -/
theorem host_replays : ∃ s n n' m, run GameEngine.coinGateLevel {} (hostCrashes.take 3) = .ok s ∧
    HostReplays s n n' m ∧ [⟨1 / 60, ∅, none, 10⟩].foldlM GameEngine.tick n'.engine =
      GameEngine.resumed n.engine.worldState.sequenceNumber (n.engine.events ++ [.levelReset]) <$>
        [⟨1 / 60, ∅, none, 10⟩].foldlM GameEngine.tick m.engine := by
  obtain ⟨s, n, n', m, hs, hreplays⟩ := exists_hostReplays
  exact ⟨s, n, n', m, hs, hreplays, replay_repeats hs hreplays.1 hreplays.2.1 hreplays.2.2.1
    hreplays.2.2.2 [⟨1 / 60, ∅, none, 10⟩]⟩

end RunningSession

end DistributedSmb
