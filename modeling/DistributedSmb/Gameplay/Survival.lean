import DistributedSmb.Gameplay.Datagrams
import DistributedSmb.Gameplay.Naming
import DistributedSmb.Lobby.NewRun

/-!
# Frames that raise nothing

A frame has no handler for the exceptions of its calls, so one that is raised ends the game. Nodes
that have names, of themselves and of everything in their worlds and rosters, raise none as long as
what they receive is named too, and what they send is. So no frame of a session raises, whatever
happens in it: crashes, elections, promotions, evictions and rejoins.
-/

namespace DistributedSmb

open Library

/-! ## Messages -/

/-- An entry has a slot, the id that belongs to it, and an address. -/
structure RosterEntry.Named (e : RosterEntry) : Prop where
  slot : e.joinIndex < maxPlayers
  name : e.playerId = playerIdFor e.joinIndex
  host : e.host ≠ ""

structure GlobalRoster.Named (r : GlobalRoster) : Prop where
  distinct : (r.players.map RosterEntry.joinIndex).Nodup
  entries : ∀ e ∈ r.players, e.Named

/-- What a receiver goes by is named. -/
def WsMessage.Named : WsMessage → Prop
  | rosterUpdate roster => roster.Named
  | initialStateSync w => w.Named
  | _ => True

def UdpMessage.Named : UdpMessage → Prop
  | worldState snapshot => snapshot.worldState.Named
  | playerInput packet => packet.playerId ≠ ""
  | _ => True

def Outgoing.Named : Outgoing → Prop
  | udp message _ _ => message.Named
  | relay message | lobby message => message.Named

theorem eventMessage_named (e : GameEvent) : e.message.Named := by cases e <;> exact trivial

/-! ### Rosters -/

theorem RosterEntry.Named.id {e : RosterEntry} (h : e.Named) : e.playerId ≠ "" :=
  h.name ▸ playerIdFor_ne_empty e.joinIndex

namespace GlobalRoster.Named

variable {r : GlobalRoster}

theorem slots (h : r.Named) : r.NamesSlots :=
  fun e he => ⟨(h.entries e he).slot, (h.entries e he).name⟩

theorem ids (h : r.Named) {e : RosterEntry} (he : e ∈ r.players) : e.playerId ≠ "" :=
  (h.entries e he).id

theorem addPlayer (h : r.Named) {e : RosterEntry} (named : e.Named)
    (new : ∀ p ∈ r.players, p.joinIndex ≠ e.joinIndex) :
    ∃ r', r.addPlayer e = .ok r' ∧ r'.Named ∧ r'.players = r.players ++ [e] := by
  refine ⟨_, GlobalRoster.addPlayer_succeeds new, ⟨?_, ?_⟩, rfl⟩
  · rw [List.map_append, List.nodup_append]
    refine ⟨h.distinct, List.nodup_singleton _, ?_⟩
    intro i hi j hj
    obtain ⟨p, hp, rfl⟩ := List.mem_map.mp hi
    rw [List.mem_singleton.mp hj]
    exact new p hp
  · intro p hp
    rcases List.mem_append.mp hp with hold | hlast
    · exact h.entries p hold
    · rw [List.mem_singleton.mp hlast]
      exact named

theorem addAll {l : List RosterEntry} (h : r.Named) (named : ∀ e ∈ l, e.Named)
    (distinct : (l.map RosterEntry.joinIndex).Nodup)
    (new : ∀ e ∈ l, ∀ p ∈ r.players, p.joinIndex ≠ e.joinIndex) :
    ∃ r', l.foldlM GlobalRoster.addPlayer r = .ok r' ∧ r'.Named := by
  induction l generalizing r with
  | nil => exact ⟨r, rfl, h⟩
  | cons e l ih =>
    rw [List.forall_mem_cons] at named new
    rw [List.map_cons, List.nodup_cons] at distinct
    obtain ⟨r₁, hadd, hnamed, hplayers⟩ := h.addPlayer named.1 new.1
    obtain ⟨r', hrest, hr'⟩ := ih hnamed named.2 distinct.2 (by
      intro e' he' p hp
      rw [hplayers] at hp
      rcases List.mem_append.mp hp with hold | hlast
      · exact new.2 e' he' p hold
      · rw [List.mem_singleton.mp hlast]
        exact fun hsame => distinct.1 (hsame ▸ List.mem_map_of_mem he'))
    exact ⟨r', by rw [List.foldlM_cons, hadd, Fallible.ok_bind, hrest], hr'⟩

theorem removePlayer (h : r.Named) (pid : PlayerId) : (r.removePlayer pid).Named where
  distinct := h.distinct.sublist (List.filter_sublist.map _)
  entries := fun e he => h.entries e (GlobalRoster.mem_removePlayer.mp he).1

theorem promoteHost (h : r.Named) (pid : PlayerId) : (r.promoteHost pid).Named where
  distinct := by
    have hsame : (r.promoteHost pid).players.map RosterEntry.joinIndex =
        r.players.map RosterEntry.joinIndex := by
      simp [GlobalRoster.promoteHost, Function.comp_def]
    rw [hsame]
    exact h.distinct
  entries := by
    intro e he
    obtain ⟨p, hp, rfl⟩ := List.mem_map.mp he
    exact ⟨(h.entries p hp).slot, (h.entries p hp).name, (h.entries p hp).host⟩

theorem validate (h : r.Named) : (WsMessage.rosterUpdate r).validate = .ok () := if_pos h.distinct

end GlobalRoster.Named

/-- Every roster that a lobby sends is named. -/
theorem Lobby.roster_named {κ : Type} [DecidableEq κ] {steps : List (LobbyStep κ)} {ws : κ}
    {roster : GlobalRoster} (sent : .sent ws (.rosterUpdate roster) ∈ (Lobby.run {} steps).log) :
    roster.Named := by
  have hprompt : (({} : Lobby κ).view).Prompt := fun _ _ htask => nomatch htask
  have hfirst : (({} : Lobby κ).view).Told ws roster → ({} : Lobby κ).Shows ws roster := by
    rintro (hsent | ⟨_, hpending⟩)
    · cases hsent
    · cases hpending
  obtain ⟨built, -, sessionId, -, hroster⟩ := Lobby.run_told hprompt hfirst (.inl sent)
  obtain ⟨record, hfound, hroster⟩ := LobbyManager.getRoster_eq_ok hroster
  have inOrder := Lobby.run_slotsHold built sessionId record hfound
  have hnames := inOrder.namesSlots hroster
  rw [inOrder.getRoster] at hroster
  cases hroster
  refine ⟨?_, fun e he => ⟨(hnames e he).1, (hnames e he).2, ?_⟩⟩
  · rw [List.map_map]
    refine (List.nodup_map_iff_inj_on (inOrder.distinct.of_map _)).mpr fun e he e' he' hsame => ?_
    have hindex := SessionRecord.toNat_injective (inOrder.valid e he).slot
      (inOrder.valid e' he').slot hsame
    exact List.inj_on_of_nodup_map inOrder.distinct he he' hindex
  · obtain ⟨slot, hslot, rfl⟩ := List.mem_map.mp he
    exact (inOrder.valid slot hslot).address.1

/-! ## Nodes -/

/-- A pending election has its timer. -/
def ElectionCoordinator.TimerSet (c : ElectionCoordinator) : Prop :=
  c.state = .electionPending → c.electionTimerExpiry ≠ none

/-- A node in which nothing goes without a name. -/
structure Node.Sound (n : Node) : Prop where
  session : n.sessionId ≠ ""
  address : n.localIp ≠ ""
  player : n.localPlayerId ≠ ""
  engine : n.engine.Named
  roster : n.roster.Named
  inputTimes : ∀ pid ∈ n.lastInputTime, pid ≠ ""
  buffered : ∀ snapshot ∈ n.bufferedSnapshot, snapshot.worldState.Named
  timer : ∀ coordinator ∈ n.election.coordinator, coordinator.TimerSet
  outbox : ∀ o ∈ n.outbox, o.Named

/-- The call raises nothing. -/
abbrev Survives (x : Except PyError Node) : Prop := Fallible.Achieves Node.Sound x

namespace Node.Sound

variable {n : Node} (h : n.Sound)
include h

theorem withElection {election : ElectionFields}
    (timer : ∀ coordinator ∈ election.coordinator, coordinator.TimerSet) :
    ({ n with election := election } : Node).Sound := { h with timer := timer }

theorem withEngine {g : GameEngine} (hg : g.Named) : ({ n with engine := g } : Node).Sound :=
  { h with engine := hg }

theorem withWorld {w : WorldState} (hw : w.Named) :
    ({ n with engine := { n.engine with worldState := w } } : Node).Sound :=
  h.withEngine ⟨h.engine.level, hw, h.engine.events⟩

theorem withRoster {r : GlobalRoster} (hr : r.Named) : ({ n with roster := r } : Node).Sound :=
  { h with roster := hr }

theorem send {out : List Outgoing} (hout : ∀ o ∈ out, o.Named) : (n.send out).Sound :=
  { h with
    outbox := by
      intro o ho
      exact (List.mem_append.mp ho).elim (h.outbox o) (hout o) }

theorem broadcastElection (message : ElectionMessage) (onlyHosts : Option (List Ip)) :
    (n.broadcastElection message onlyHosts).Sound := by
  refine h.send fun o ho => ?_
  rcases List.mem_cons.mp ho with rfl | ho
  · exact trivial
  · obtain ⟨e, -, rfl⟩ := List.mem_map.mp ho
    exact trivial

theorem evictPlayer (pid : PlayerId) : (n.evictPlayer pid).Sound :=
  { h with
    engine := ⟨h.engine.level, h.engine.world.removePlayer pid, h.engine.events⟩
    roster := h.roster.removePlayer pid
    inputTimes := fun q hq => h.inputTimes q (Dict.mem_erase.mp hq).1 }

theorem evictHost : n.evictHost.Sound := by
  unfold Node.evictHost
  split
  · exact h.evictPlayer _
  · exact h

theorem promoteInRoster (pid : PlayerId) : (n.promoteInRoster pid).Sound :=
  h.withRoster (h.roster.promoteHost pid)

theorem restoreWorld : n.restoreWorld.Sound := by
  unfold Node.restoreWorld
  split
  case h_1 snapshot hsnapshot =>
    exact { h.withWorld (h.buffered snapshot hsnapshot) with }
  case h_2 => exact h

theorem takeAuthority : n.takeAuthority.Sound :=
  { h with
    engine := ⟨h.engine.level, h.engine.world, h.engine.events⟩
    timer := h.timer }

theorem assumeHostRole : n.assumeHostRole.Sound :=
  (h.takeAuthority.restoreWorld.evictHost).promoteInRoster _

theorem peerId {e : RosterEntry} (he : e ∈ n.peers) : e.playerId ≠ "" :=
  h.roster.ids (Node.mem_peers.mp he).1

theorem finishPromotion (now : ℚ) : (n.finishPromotion now).Sound :=
  { h with
    inputTimes := by
      refine Fallible.foldl_keeps (P := fun times : Dict PlayerId ℚ => ∀ pid ∈ times, pid ≠ "")
        (fun times e he htimes pid hpid => ?_) h.inputTimes
      rcases Dict.mem_set.mp hpid with rfl | hold
      · exact h.peerId he
      · exact htimes pid hold }

/-! ### Elections -/

theorem announcePromotion : Survives n.announcePromotion := by
  unfold Node.announcePromotion
  split
  · exact Fallible.achieves_ok h
  · rw [ReconnectionAck.checked_succeeds h.address h.session]
    exact Fallible.achieves_ok (h.broadcastElection _ _)

theorem promoteToHost (now : ℚ) : Survives (n.promoteToHost now) := by
  unfold Node.promoteToHost
  split
  · exact Fallible.achieves_ok h
  · exact h.assumeHostRole.announcePromotion.bind fun n hn =>
      Fallible.achieves_ok (hn.finishPromotion now)

theorem withPendingAcks (pending : List Ip) : (n.withPendingAcks pending).Sound :=
  h.withElection h.timer

theorem onSelfElected (now : ℚ) : Survives (n.onSelfElected now) := by
  unfold Node.onSelfElected
  dsimp only
  split
  · exact h.promoteToHost now
  · have hclaim : NewHostClaim.checked ⟨n.localIp, n.joinIndex, n.sessionId⟩ =
        .ok ⟨n.localIp, n.joinIndex, n.sessionId⟩ := by
      simp only [NewHostClaim.checked, requireText_succeeds _ h.address,
        requireText_succeeds _ h.session, Fallible.ok_bind]
    rw [hclaim]
    exact Fallible.achieves_ok ((h.broadcastElection _ _).withElection h.timer)

theorem onElectionAck (msg : ElectionAck) (now : ℚ) : Survives (n.onElectionAck msg now) := by
  unfold Node.onElectionAck
  split
  · exact Fallible.achieves_ok h
  split
  · exact Fallible.achieves_ok h
  dsimp only
  split
  · exact (h.withPendingAcks _).promoteToHost now
  · exact Fallible.achieves_ok (h.withPendingAcks _)

theorem onNewHostClaim (msg : NewHostClaim) (now : ℚ) : Survives (n.onNewHostClaim msg now) := by
  unfold Node.onNewHostClaim
  split
  · exact Fallible.achieves_ok h
  split
  · exact Fallible.achieves_ok h
  case h_2 coordinator hcoordinator =>
    split
    case h_1 followed _ _ hfollows =>
      -- a follower's election is not pending any more
      have hfollow : ∀ c ∈ (n.follow followed msg.claimerIp now).election.coordinator,
          c.TimerSet := by
        intro c hc hpending
        cases hc
        simp only [ElectionCoordinator.onNewHostClaim] at hfollows
        split at hfollows
        · cases hfollows
        · cases hfollows
          cases hpending
      dsimp only
      rw [ElectionAck.checked_succeeds]
      · exact Fallible.achieves_ok ((h.withElection hfollow).broadcastElection _ _)
      · exact h.address
      · exact h.session
    · exact Fallible.achieves_ok h

theorem evictSilentPeer (ip : Ip) : (n.evictSilentPeer ip).Sound := by
  unfold Node.evictSilentPeer
  split
  · exact h.evictPlayer _
  · exact h

theorem tickClaimDeadline (now : ℚ) : Survives (n.tickClaimDeadline now) := by
  unfold Node.tickClaimDeadline
  split
  · exact Fallible.achieves_ok h
  split
  · exact Fallible.achieves_ok h
  have hevicted : (n.election.pendingElectionAcks.foldl Node.evictSilentPeer n).Sound :=
    Fallible.foldl_keeps (P := Node.Sound) (fun m ip _ hm => hm.evictSilentPeer ip) h
  exact (hevicted.withPendingAcks []).promoteToHost now

theorem tickCoordinator (now : ℚ) : Survives (n.tickCoordinator now) := by
  unfold Node.tickCoordinator
  split
  · exact Fallible.achieves_ok h
  case h_2 coordinator hcoordinator =>
    have hset := h.timer coordinator hcoordinator
    have htick : Fallible.Achieves (fun r => r.1.TimerSet) (coordinator.tick now) := by
      unfold ElectionCoordinator.tick
      split
      case isTrue pending =>
        split
        case h_1 hunset => exact absurd hunset (hset pending)
        case h_2 =>
          split
          · exact Fallible.achieves_ok fun hclaimed => nomatch hclaimed
          · exact Fallible.achieves_ok hset
      case isFalse => exact Fallible.achieves_ok hset
    refine htick.bind fun r hr => ?_
    have hticked : ({ n with election := { n.election with coordinator := some r.1 } } :
        Node).Sound :=
      h.withElection fun c hc => Option.some.inj hc ▸ hr
    dsimp only
    split
    · exact hticked.onSelfElected now
    · exact Fallible.achieves_ok hticked

/-! ### Reconnections -/

theorem resyncEnvironmentFromBuffer : n.resyncEnvironmentFromBuffer.Sound := by
  unfold Node.resyncEnvironmentFromBuffer
  split
  · exact h
  case h_2 last hlast =>
    have hw := h.engine.world
    have hbuffered := (h.buffered last hlast).environment
    exact h.withWorld ⟨hw.keyed, hw.characters, hw.timers, hbuffered.powerUps,
      hw.environment.enemies, hbuffered.gates⟩

theorem repointRosterAt (newHostIp : Ip) : (n.repointRosterAt newHostIp).Sound := by
  unfold Node.repointRosterAt
  dsimp only
  split
  · exact h.evictHost.promoteInRoster _
  · exact h.evictHost

theorem resetElectionState : n.resetElectionState.Sound :=
  h.withElection fun _ hnone => nomatch hnone

theorem onReconnectionAck (ack : ReconnectionAck) : (n.onReconnectionAck ack).Sound := by
  unfold Node.onReconnectionAck
  split
  · exact h
  · have hreconnected : (n.reconnectTo ack).Sound := { h with timer := h.timer }
    have hforgotten :
        (n.reconnectTo ack).resyncEnvironmentFromBuffer.forgetSnapshotSequence.Sound :=
      { hreconnected.resyncEnvironmentFromBuffer with }
    exact { (hforgotten.repointRosterAt ack.newHostIp).resetElectionState with }

theorem tickReconnectionFallback {foundIp : Option Ip} (found : ∀ ip ∈ foundIp, ip ≠ "")
    (now : ℚ) : Survives (n.tickReconnectionFallback foundIp now) := by
  unfold Node.tickReconnectionFallback
  split
  · exact Fallible.achieves_ok h
  split
  · exact Fallible.achieves_ok h
  split
  · exact Fallible.achieves_ok (h.withElection h.timer)
  case h_2 ip =>
    rw [ReconnectionAck.checked_succeeds (found ip rfl) h.session]
    have hstopped : ({ n with election :=
        { n.election with followingSince := now, followingHostIp := none } } : Node).Sound :=
      h.withElection h.timer
    exact Fallible.achieves_ok (hstopped.onReconnectionAck _)

/-! ### Failure detection -/

theorem ensureElectionComponents : n.ensureElectionComponents.Sound := by
  unfold Node.ensureElectionComponents
  split
  · exact h
  · exact { h with
      buffered := fun _ hnone => nomatch hnone
      timer := fun c hc => Option.some.inj hc ▸ fun hpending => nomatch hpending }

theorem withHostVerifyDeadline (deadline : ℚ) : (n.withHostVerifyDeadline deadline).Sound :=
  h.withElection h.timer

theorem resendHostVerifyProbe (now : ℚ) : Survives (n.resendHostVerifyProbe now) := by
  have hprobe : HostDiscoveryProbe.checked ⟨n.sessionId, n.localIp⟩ =
      .ok ⟨n.sessionId, n.localIp⟩ := by
    simp only [HostDiscoveryProbe.checked, requireText_succeeds _ h.session,
      requireText_succeeds _ h.address, Fallible.ok_bind]
  unfold Node.resendHostVerifyProbe
  rw [hprobe]
  have hprobing : ({ n with election :=
      { n.election with hostVerifyNextProbe := now + hostVerifyResendIntervalS } } : Node).Sound :=
    h.withElection h.timer
  refine Fallible.achieves_ok (hprobing.send fun o ho => ?_)
  rw [List.mem_singleton.mp ho]
  exact trivial

theorem startElection (coordinator : ElectionCoordinator) (now : ℚ) :
    (n.startElection coordinator now).Sound :=
  h.withElection fun _ hc => Option.some.inj hc ▸ fun _ hunset => nomatch hunset

theorem tickHostTimeout (coordinator : ElectionCoordinator) (watcher : HostTimeoutWatcher)
    (now : ℚ) : Survives (n.tickHostTimeout coordinator watcher now) := by
  unfold Node.tickHostTimeout
  split
  · split
    · exact (h.withHostVerifyDeadline _).resendHostVerifyProbe now
    · exact Fallible.achieves_ok h
  · unfold Node.tickHostVerify
    split
    · exact Fallible.achieves_ok (h.withHostVerifyDeadline 0)
    split
    · exact Fallible.achieves_ok (h.startElection coordinator now)
    split
    · exact h.resendHostVerifyProbe now
    · exact Fallible.achieves_ok h

theorem tickElectionState {foundIp : Option Ip} (found : ∀ ip ∈ foundIp, ip ≠ "") (now : ℚ) :
    Survives (n.tickElectionState foundIp now) := by
  unfold Node.tickElectionState
  split
  · refine (h.tickHostTimeout _ _ now).bind fun n hn => ?_
    split
    · refine (hn.tickCoordinator now).bind fun n hn => ?_
      exact (hn.tickClaimDeadline now).bind fun n hn => hn.tickReconnectionFallback found now
    · exact Fallible.achieves_ok hn
  · exact Fallible.achieves_ok h

/-! ### Client frames -/

theorem onLobbyMessage {message : WsMessage} (named : message.Named) :
    (n.onLobbyMessage message).Sound := by
  cases message with
  | initialStateSync w =>
    exact { h with
      engine := ⟨h.engine.level, named, h.engine.events⟩
      buffered := by
        intro snapshot hsnapshot
        refine h.buffered snapshot ?_
        rw [Node.bufferedSnapshot] at hsnapshot ⊢
        cases hbuffer : n.envStateBuffer with
        | none => simp [Node.onLobbyMessage, hbuffer] at hsnapshot
        | some b => simpa [Node.onLobbyMessage, hbuffer] using hsnapshot }
  | _ => exact h

theorem sendInputPacket (localInput : InputState) : Survives (n.sendInputPacket localInput) := by
  have hpacket :
      PlayerInputPacket.checked ⟨n.localPlayerId, n.inputSequenceNumber + 1, localInput⟩ =
        .ok ⟨n.localPlayerId, n.inputSequenceNumber + 1, localInput⟩ := by
    simp only [PlayerInputPacket.checked, requireText_succeeds _ h.player, Fallible.ok_bind]
  unfold Node.sendInputPacket
  dsimp only
  rw [hpacket]
  have hcounted : ({ n with inputSequenceNumber := n.inputSequenceNumber + 1 } : Node).Sound :=
    { h with }
  refine Fallible.achieves_ok (hcounted.send fun o ho => ?_)
  rw [List.mem_singleton.mp ho]
  exact h.player

theorem predictTick (localInput : InputState) (sentAt now : ℚ) :
    Survives (n.predictTick localInput sentAt now) := by
  have hpredicted : Fallible.Achieves (fun p => p.engine.Named)
      (n.prediction.predictTick localInput tickInterval sentAt now) :=
    Fallible.Achieves.bind (GameEngine.tick_named h.engine _) fun g hg => Fallible.achieves_ok hg
  exact hpredicted.bind fun p hp => Fallible.achieves_ok { h.withEngine hp with }

theorem runPredictedTicks (localInput : InputState) (sentAt now : ℚ) :
    Survives (n.runPredictedTicks localInput sentAt now) :=
  Fallible.achieves_foldlM (fun _ _ _ hm => hm.predictTick localInput sentAt now)
    { h with }

theorem clearEvents : n.clearEvents.Sound :=
  h.withEngine ⟨h.engine.level, h.engine.world, fun _ hnone => nomatch hnone⟩

/-- The replay starts from the snapshot's world, with the node's own blocks, power-ups and gates. -/
theorem onSnapshot {snapshot : WorldStateSnapshot} (named : snapshot.worldState.Named) (now : ℚ) :
    Survives (n.onSnapshot snapshot now) := by
  unfold Node.onSnapshot
  split
  · exact Fallible.achieves_ok h
  have hadopted : (n.prediction.adopt snapshot.worldState).Named :=
    ⟨h.engine.level, ⟨named.keyed, named.characters, named.timers,
      h.engine.world.environment.powerUps, named.environment.enemies,
      h.engine.world.environment.gates⟩, h.engine.events⟩
  have hreplayed : Fallible.Achieves (fun p => p.engine.Named)
      (n.prediction.reconcile snapshot now) :=
    Fallible.Achieves.bind
      (Fallible.achieves_foldlM (fun _ _ _ hg => GameEngine.tick_named hg _) hadopted)
      fun g hg => Fallible.achieves_ok hg
  refine hreplayed.bind fun p hp => Fallible.achieves_ok
    { h.withEngine hp with
      buffered := fun last hlast => ?_
      timer := h.timer }
  cases hbuffer : n.envStateBuffer with
  | none => simp [Node.bufferedSnapshot, hbuffer] at hlast
  | some b =>
    simp only [Node.bufferedSnapshot, hbuffer, Option.map_some, Option.bind_some,
      EnvironmentalStateBuffer.update, Option.mem_some_iff] at hlast
    exact hlast ▸ named

theorem onElectionMessage (message : ElectionMessage) (now : ℚ) :
    Survives (n.onElectionMessage now message) := by
  cases message with
  | newHostClaim claim => exact h.onNewHostClaim claim now
  | electionAck ack => exact h.onElectionAck ack now
  | reconnectionAck ack => exact Fallible.achieves_ok (h.onReconnectionAck ack)

theorem onHostIdentityResponse (response : HostIdentityResponse) (now : ℚ) :
    (n.onHostIdentityResponse response now).Sound := by
  unfold Node.onHostIdentityResponse
  split
  · exact h
  split
  · exact h
  · exact h.withElection h.timer

theorem onDatagram {message : UdpMessage} (named : message.Named) (now : ℚ) :
    Survives (n.onDatagram (.ok message) now) := by
  cases message with
  | playerInput packet => exact Fallible.achieves_ok h
  | worldState snapshot => exact h.onSnapshot named now
  | hostDiscoveryProbe probe => exact Fallible.achieves_ok h
  | hostIdentityResponse response =>
    exact Fallible.achieves_ok (h.onHostIdentityResponse response now)
  | election message => exact h.onElectionMessage message now

/-- Only unknown slots are added, and in a named roster they are distinct. -/
theorem mergeRoster {roster : GlobalRoster} (named : roster.Named) :
    Survives (n.mergeRoster roster) := by
  have hsorted : roster.getAllPlayers.Perm roster.players := List.perm_insertionSort _ _
  refine Fallible.Achieves.bind (h.roster.addAll ?_ ?_ ?_) fun r hr =>
    Fallible.achieves_ok (h.withRoster hr)
  · intro e he
    exact named.entries e (hsorted.mem_iff.mp (List.mem_filter.mp he).1)
  · exact ((hsorted.map _).nodup_iff.mpr named.distinct).sublist (List.filter_sublist.map _)
  · intro e he p hp hsame
    have hunknown := (List.mem_filter.mp he).2
    simp only [Bool.and_eq_true, decide_eq_true_eq] at hunknown
    exact hunknown.1 (hsame ▸ List.mem_map_of_mem hp)

theorem applyToEngine (message : WsMessage) : (n.applyToEngine message).Sound :=
  h.withEngine (GameEngine.applyMessage_named h.engine message)

theorem clearSharedTimers : n.clearSharedTimers.Sound :=
  { h with
    buffered := by
      intro last hlast
      cases hbuffer : n.envStateBuffer with
      | none => simp [Node.bufferedSnapshot, Node.clearSharedTimers, hbuffer] at hlast
      | some b =>
        simp only [Node.bufferedSnapshot, Node.clearSharedTimers, hbuffer, Option.map_some,
          Option.bind_some] at hlast
        have hheld : ∀ snapshot ∈ b.last, snapshot.worldState.Named := fun snapshot hsnapshot =>
          h.buffered snapshot (by rw [Node.bufferedSnapshot, hbuffer]; exact hsnapshot)
        split at hlast
        · obtain ⟨snapshot, hsnapshot, rfl⟩ := Option.mem_map.mp hlast
          have hnamed := hheld snapshot hsnapshot
          exact ⟨hnamed.keyed, hnamed.characters,
            fun pid hpid => absurd hpid (Dict.not_mem_empty pid), hnamed.environment⟩
        · exact hheld last hlast }

theorem onGameEvent {message : WsMessage} (named : message.Named) (now : ℚ) :
    Survives (n.onGameEvent now message) := by
  cases message with
  | playerLeft pid =>
    refine Fallible.achieves_ok ?_
    split
    · exact h
    · exact h.evictPlayer pid
  | rosterUpdate roster => exact h.mergeRoster named
  | election message => exact h.onElectionMessage message now
  | levelReset => exact Fallible.achieves_ok (h.applyToEngine .levelReset).clearSharedTimers
  | _ => exact Fallible.achieves_ok (h.applyToEngine _)

theorem adjustPredictionLead : n.adjustPredictionLead.Sound := by
  unfold Node.adjustPredictionLead
  dsimp only
  split
  · exact { h with }
  split
  · exact { h with }
  split
  · exact { h with }
  · exact { h with }

/-! ### Host frames -/

theorem replaceInRoster {entry : RosterEntry} (named : entry.Named) :
    Fallible.Achieves GlobalRoster.Named (Node.replaceInRoster n.roster
      (n.roster.getAllPlayers.find? fun e => e.joinIndex = entry.joinIndex) entry) := by
  cases hfound : n.roster.getAllPlayers.find? fun e => e.joinIndex = entry.joinIndex with
  | none =>
    have hnew : ∀ p ∈ n.roster.players, p.joinIndex ≠ entry.joinIndex := fun p hp =>
      by simpa using List.find?_eq_none.mp hfound p (GlobalRoster.mem_getAllPlayers.mpr hp)
    obtain ⟨r, hadd, hr, -⟩ := h.roster.addPlayer named hnew
    exact ⟨r, hadd, hr⟩
  | some e =>
    have he : e ∈ n.roster.players :=
      GlobalRoster.mem_getAllPlayers.mp (List.mem_of_find?_eq_some hfound)
    have hindex : e.joinIndex = entry.joinIndex := by simpa using List.find?_some hfound
    have hnew : ∀ p ∈ (n.roster.removePlayer e.playerId).players,
        p.joinIndex ≠ entry.joinIndex := by
      intro p hp hsame
      obtain ⟨hmem, hother⟩ := GlobalRoster.mem_removePlayer.mp hp
      have heq := List.inj_on_of_nodup_map h.roster.distinct hmem he (hsame.trans hindex.symm)
      exact hother (heq ▸ rfl)
    obtain ⟨r, hadd, hr, -⟩ := (h.roster.removePlayer e.playerId).addPlayer named hnew
    exact ⟨r, hadd, hr⟩

theorem rejoin {entry : RosterEntry} (named : entry.Named) (now : ℚ) :
    Fallible.Achieves (fun r => r.1.Sound) (n.rejoin entry now) := by
  unfold Node.rejoin
  split
  · exact Fallible.achieves_ok h
  dsimp only
  split
  · exact Fallible.achieves_ok h
  split
  · exact Fallible.achieves_ok h
  refine (h.replaceInRoster named).bind fun r hr => Fallible.achieves_ok
    { h with
      engine := ?_
      roster := hr
      inputTimes := ?_ }
  · unfold Node.restorePlayer
    split
    · exact ⟨h.engine.level, h.engine.world.addPlayer named.id, h.engine.events⟩
    split
    · exact h.engine
    · exact GameEngine.spawnPlayer_named h.engine named.id _ _
  · intro pid hpid
    rcases Dict.mem_set.mp hpid with rfl | hold
    · exact named.id
    · exact h.inputTimes pid hold

/-- If somebody rejoined, the lobby gets the world. -/
theorem checkForRejoiningPlayers {message : Option WsMessage} (named : ∀ m ∈ message, m.Named)
    (now : ℚ) : Survives (n.checkForRejoiningPlayers message now) := by
  unfold Node.checkForRejoiningPlayers
  split
  case h_1 roster =>
    have hall : Fallible.Achieves (fun r => r.1.Sound) (n.rejoinAll roster.getAllPlayers now) := by
      refine Fallible.achieves_foldlM (P := fun r : Node × Bool => r.1.Sound)
        (fun r entry hentry hr => ?_) h
      have hnamed := (named _ rfl).entries entry (GlobalRoster.mem_getAllPlayers.mp hentry)
      exact (hr.rejoin hnamed now).bind fun r' hr' => Fallible.achieves_ok hr'
    refine hall.bind fun r hr => Fallible.achieves_ok ?_
    split
    · refine hr.send fun o ho => ?_
      rw [List.mem_singleton.mp ho]
      exact hr.engine.world
    · exact hr
  case h_2 => exact Fallible.achieves_ok h

theorem evictAndAnnounce {pid : PlayerId} (id : pid ≠ "") : Survives (n.evictAndAnnounce pid) := by
  unfold Node.evictAndAnnounce
  rw [checked_of_validate (m := .playerLeft pid) (requireText_succeeds _ id)]
  refine Fallible.achieves_ok ((h.evictPlayer pid).send fun o ho => ?_)
  rw [List.mem_singleton.mp ho]
  exact trivial

theorem evictSilentPlayers (now : ℚ) : Survives (n.evictSilentPlayers now) := by
  refine Fallible.achieves_foldlM (fun m pid hpid hm => hm.evictAndAnnounce ?_) h
  obtain ⟨e, he, rfl⟩ := List.mem_map.mp hpid
  exact h.inputTimes _ (Dict.mem_keys_of_mem (List.mem_filter.mp he).1)

theorem onRemoteInput {message : UdpMessage} (named : message.Named) (host : Ip) (port : ℕ)
    (now : ℚ) : Survives (n.onRemoteInput (.ok message) host port now) := by
  cases message with
  | playerInput packet =>
    simp only [Node.onRemoteInput, Fallible.ok_bind]
    split
    · exact Fallible.achieves_ok h
    · refine Fallible.achieves_ok { h with inputTimes := fun pid hpid => ?_ }
      rcases Dict.mem_set.mp hpid with rfl | hold
      · exact named
      · exact h.inputTimes pid hold
  | hostDiscoveryProbe probe =>
    simp only [Node.onRemoteInput, Fallible.ok_bind]
    split
    · exact Fallible.achieves_ok h
    · have hresponse : HostIdentityResponse.checked ⟨n.sessionId, n.localIp⟩ =
          .ok ⟨n.sessionId, n.localIp⟩ := by
        simp only [HostIdentityResponse.checked, requireText_succeeds _ h.session,
          requireText_succeeds _ h.address, Fallible.ok_bind]
      rw [hresponse]
      refine Fallible.achieves_ok (h.send fun o ho => ?_)
      rw [List.mem_singleton.mp ho]
      exact trivial
  | _ => exact Fallible.achieves_ok h

theorem advance (localInput : InputState)
    (enemyCommands : Option (Dict EnemyId EnemyMovementCommand)) (now : ℚ) :
    Survives (n.advance localInput enemyCommands now) :=
  Fallible.Achieves.bind (GameEngine.tick_named h.engine _) fun _ hg =>
    Fallible.achieves_ok (h.withEngine hg)

theorem sendGameEvents : Survives n.sendGameEvents := by
  unfold Node.sendGameEvents
  rw [mapM_eventToMessage_of_named h.engine.events]
  refine Fallible.achieves_ok ((h.send fun o ho => ?_).withEngine
    ⟨h.engine.level, h.engine.world, fun _ hnone => nomatch hnone⟩)
  obtain ⟨message, hmessage, rfl⟩ := List.mem_map.mp ho
  obtain ⟨e, -, rfl⟩ := List.mem_map.mp hmessage
  exact eventMessage_named e

theorem sendWorldStateSnapshot : n.sendWorldStateSnapshot.Sound := by
  have hsent :
      (n.send (n.peers.map fun e =>
        .udp (.worldState ⟨n.engine.worldState.sequenceNumber, n.engine.worldState⟩)
          e.host e.udpPort)).Sound := by
    refine h.send fun o ho => ?_
    obtain ⟨e, -, rfl⟩ := List.mem_map.mp ho
    exact h.engine.world
  exact { hsent with }

theorem maybeBroadcastRoster : Survives n.maybeBroadcastRoster := by
  unfold Node.maybeBroadcastRoster
  split
  · exact Fallible.achieves_ok h
  · rw [checked_of_validate h.roster.validate]
    refine Fallible.achieves_ok (h.send fun o ho => ?_)
    rw [List.mem_singleton.mp ho]
    exact h.roster

end Node.Sound

/-! ## Frames -/

/-- What the call reads from outside is named. -/
def ClientCall.Named : ClientCall → Prop
  | lobbyMessage message | gameEvent message => message.Named
  | datagram payload => ∃ message, payload = .ok message ∧ message.Named
  | tickElectionState foundIp => ∀ ip ∈ foundIp, ip ≠ ""
  | _ => True

def HostCall.Named : HostCall → Prop
  | checkForRejoiningPlayers message => ∀ m ∈ message, m.Named
  | playerDisconnected pid => pid ≠ ""
  | remoteInput payload _ _ => ∃ message, payload = .ok message ∧ message.Named
  | _ => True

def Call.Named : Call → Prop
  | client call => call.Named
  | host call => call.Named

/-- What the frame finds in its queues is named. -/
structure FrameInput.Named (f : FrameInput) : Prop where
  lobby : ∀ message ∈ f.lobby, message.Named
  datagrams : ∀ d ∈ f.datagrams, ∃ message, d.1 = .ok message ∧ message.Named
  gameEvents : ∀ message ∈ f.gameEvents, message.Named
  foundIp : ∀ ip ∈ f.foundIp, ip ≠ ""
  disconnected : ∀ pid ∈ f.disconnected, pid ≠ ""

/-- A frame that finds nothing. -/
theorem FrameInput.named_idle (now : ℚ) : ({ now := now } : FrameInput).Named :=
  ⟨List.forall_mem_nil _, List.forall_mem_nil _, List.forall_mem_nil _,
    fun _ hnone => (nomatch hnone), List.forall_mem_nil _⟩

namespace Node.Sound

variable {n : Node}

theorem clientCall (h : n.Sound) {call : ClientCall} (named : call.Named) (now : ℚ) :
    Survives (n.clientCall now call) := by
  cases call with
  | ensureElectionComponents => exact Fallible.achieves_ok h.ensureElectionComponents
  | lobbyMessage message => exact Fallible.achieves_ok (h.onLobbyMessage named)
  | sendInputPacket localInput => exact h.sendInputPacket localInput
  | runPredictedTicks localInput sentAt => exact h.runPredictedTicks localInput sentAt now
  | clearEvents => exact Fallible.achieves_ok h.clearEvents
  | datagram payload =>
    obtain ⟨message, rfl, hmessage⟩ := named
    exact h.onDatagram hmessage now
  | gameEvent message => exact h.onGameEvent named now
  | tickElectionState foundIp => exact h.tickElectionState named now
  | adjustPredictionLead => exact Fallible.achieves_ok h.adjustPredictionLead

theorem hostCall (h : n.Sound) {call : HostCall} (named : call.Named) (now : ℚ) :
    Survives (n.hostCall now call) := by
  cases call with
  | checkForRejoiningPlayers message => exact h.checkForRejoiningPlayers named now
  | playerDisconnected pid => exact h.evictAndAnnounce named
  | evictSilentPlayers => exact h.evictSilentPlayers now
  | remoteInput payload host port =>
    obtain ⟨message, rfl, hmessage⟩ := named
    exact h.onRemoteInput hmessage host port now
  | advance localInput enemyCommands => exact h.advance localInput enemyCommands now
  | sendGameEvents => exact h.sendGameEvents
  | sendWorldStateSnapshot => exact Fallible.achieves_ok h.sendWorldStateSnapshot
  | maybeBroadcastRoster => exact h.maybeBroadcastRoster

theorem step (h : n.Sound) {c : TimedCall} (named : c.call.Named) : Survives (n.step c) := by
  obtain ⟨now, call⟩ := c
  cases call with
  | client call => exact h.clientCall named now
  | host call => exact h.hostCall named now

end Node.Sound

theorem FrameInput.Named.calls {f : FrameInput} (h : f.Named) (role : PlayerRole) :
    ∀ c ∈ f.calls role, c.call.Named := by
  cases role with
  | client =>
    intro c hc
    obtain ⟨call, hcall, rfl⟩ := List.mem_map.mp hc
    simp only [FrameInput.clientCalls, List.mem_append, List.mem_map, List.mem_cons,
      List.not_mem_nil, or_false] at hcall
    rcases hcall with ((((rfl | ⟨m, hm, rfl⟩) | rfl | rfl | rfl) | ⟨d, hd, rfl⟩) | ⟨m, hm, rfl⟩) |
      rfl | rfl
    · exact trivial
    · exact h.lobby m hm
    · exact trivial
    · exact trivial
    · exact trivial
    · exact h.datagrams d hd
    · exact h.gameEvents m hm
    · exact h.foundIp
    · exact trivial
  | host =>
    intro c hc
    obtain ⟨call, hcall, rfl⟩ := List.mem_map.mp hc
    simp only [FrameInput.hostCalls, List.mem_append, List.mem_map, List.mem_cons,
      List.not_mem_nil, or_false] at hcall
    rcases hcall with (((rfl | ⟨pid, hpid, rfl⟩) | rfl) | ⟨d, hd, rfl⟩) | rfl | rfl | rfl | rfl
    · exact fun m hm => h.lobby m (List.mem_of_mem_head? hm)
    · exact h.disconnected pid hpid
    · exact trivial
    · exact h.datagrams d hd
    · exact trivial
    · exact trivial
    · exact trivial
    · exact trivial

theorem Node.Sound.processFrame {n : Node} (h : n.Sound) {f : FrameInput} (named : f.Named) :
    Survives (n.processFrame f) :=
  Fallible.achieves_foldlM (fun _ c hc hm => hm.step (named.calls n.role c hc)) h

end DistributedSmb
