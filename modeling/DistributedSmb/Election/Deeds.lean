import DistributedSmb.Election.Effects

/-!
# What a node does to its roster

The roster and the saved characters of a node change by a few deeds only: a player is evicted, an
entry is learned, or a player that has joined again is readmitted. Every call of a frame, of a
client, in a promotion or of a host, is made of such deeds and of what leaves both alone.
-/

namespace DistributedSmb

open Library

/-- Every entry has a slot of a session and the id that belongs to it. -/
def GlobalRoster.NamesSlots (r : GlobalRoster) : Prop :=
  ∀ e ∈ r.players, e.joinIndex < maxPlayers ∧ e.playerId = playerIdFor e.joinIndex

instance (r : GlobalRoster) : Decidable r.NamesSlots :=
  inferInstanceAs (Decidable (∀ e ∈ r.players, _))

theorem playerIdFor_injective {i j : ℕ} (hi : i < maxPlayers) (hj : j < maxPlayers)
    (h : playerIdFor i = playerIdFor j) : i = j := by
  have hall : ∀ i < maxPlayers, ∀ j < maxPlayers, playerIdFor i = playerIdFor j → i = j := by decide
  exact hall i hi j hj h

/-- What a node can do to its roster and to the characters it has saved. -/
inductive Deed where
  | elsewhere
  | evict (pid : PlayerId)
  | learn (entry : RosterEntry)
  | rejoin (entry : RosterEntry) (now : ℚ)

namespace Node

/-- A node that knows its own slot, and slots of other players only. -/
structure KnowsSlots (n : Node) : Prop where
  session : n.sessionId ≠ ""
  address : n.localIp ≠ ""
  own : n.joinIndex < maxPlayers
  ownName : n.localPlayerId = playerIdFor n.joinIndex
  listed : n.roster.NamesSlots
  saved : ∀ i ∈ n.rejoinStates, i < maxPlayers

/-- The slots in the roster, the saved characters, and who the node is. -/
def slots (n : Node) : List (PlayerId × ℕ) × Dict ℕ Player × PlayerId × Ip × String × ℕ :=
  (n.roster.players.map fun e => (e.playerId, e.joinIndex), n.rejoinStates, n.identity)

inductive Does (n : Node) : Deed → Node → Prop
  | elsewhere {m : Node} (same : m.slots = n.slots) : Does n .elsewhere m
  | evict (pid : PlayerId) : Does n (.evict pid) (n.evictPlayer pid)
  | learn {entry : RosterEntry} {roster : GlobalRoster} (slot : entry.joinIndex < maxPlayers)
    (named : entry.playerId = playerIdFor entry.joinIndex)
    (added : n.roster.addPlayer entry = .ok roster) :
    Does n (.learn entry) { n with roster := roster }
  | rejoin {m : Node} {entry : RosterEntry} {now : ℚ} {reentered : Bool}
    (slot : entry.joinIndex < maxPlayers) (named : entry.playerId = playerIdFor entry.joinIndex)
    (rejoined : n.rejoin entry now = .ok (m, reentered)) : Does n (.rejoin entry now) m

/-- Deeds one after the other. -/
def Deeds : Node → Node → Prop := Relation.ReflTransGen fun n m => ∃ d, n.Does d m

theorem Does.deeds {n m : Node} {d : Deed} (h : n.Does d m) : Deeds n m := .single ⟨d, h⟩

theorem deeds_of_same {n m : Node} (same : m.slots = n.slots) : Deeds n m :=
  (Does.elsewhere same).deeds

theorem getPlayer_eq_some {r : GlobalRoster} {pid : PlayerId} {e : RosterEntry}
    (h : r.getPlayer pid = some e) : e ∈ r.players ∧ e.playerId = pid :=
  ⟨List.mem_of_find?_eq_some h, by simpa [GlobalRoster.getPlayer] using List.find?_some h⟩

/-! ## Elections -/

theorem slots_map_flag {r : GlobalRoster} (pid : PlayerId) :
    (r.promoteHost pid).players.map (fun e => (e.playerId, e.joinIndex)) =
      r.players.map fun e => (e.playerId, e.joinIndex) := by
  simp [GlobalRoster.promoteHost, Function.comp_def]

theorem promoteInRoster_slots (n : Node) (pid : PlayerId) :
    (n.promoteInRoster pid).slots = n.slots := by
  simp only [slots, promoteInRoster, slots_map_flag]
  rfl

theorem evictHost_deeds (n : Node) : Deeds n n.evictHost := by
  unfold evictHost
  split
  case h_1 crashed _ => exact (Does.evict crashed.playerId).deeds
  case h_2 => exact .refl

theorem restoreWorld_slots (n : Node) : n.restoreWorld.slots = n.slots := by
  unfold restoreWorld
  split <;> rfl

theorem promoteToHost_deeds {n m : Node} {now : ℚ} (h : n.promoteToHost now = .ok m) :
    Deeds n m := by
  rcases promoteToHost_spec h with ⟨-, rfl⟩ | ⟨-, out, rfl, -⟩
  · exact .refl
  · have hrestored : n.takeAuthority.restoreWorld.slots = n.slots := restoreWorld_slots _
    refine (deeds_of_same hrestored).trans ((evictHost_deeds _).trans (deeds_of_same ?_))
    exact promoteInRoster_slots _ n.localPlayerId

theorem onReconnectionAck_deeds (n : Node) (ack : ReconnectionAck) :
    Deeds n (n.onReconnectionAck ack) := by
  unfold onReconnectionAck
  split
  · exact .refl
  · have hsynced : (n.reconnectTo ack).resyncEnvironmentFromBuffer.forgetSnapshotSequence.slots =
        n.slots := by
      unfold resyncEnvironmentFromBuffer
      split <;> rfl
    refine (deeds_of_same hsynced).trans ((evictHost_deeds _).trans (deeds_of_same ?_))
    dsimp only [repointRosterAt]
    split
    case h_1 newHost _ => exact promoteInRoster_slots _ newHost.playerId
    case h_2 => rfl

theorem ElectionPart.deeds {n m : Node} (h : n.ElectionPart m) : Deeds n m := by
  cases h with
  | fields only => exact deeds_of_same (by rw [only]; rfl)
  | sends out => exact deeds_of_same rfl
  | evicts pid => exact (Does.evict pid).deeds
  | promotes now h => exact promoteToHost_deeds h
  | reconnects ack => exact onReconnectionAck_deeds n ack

theorem ElectionParts.deeds {n m : Node} (h : n.ElectionParts m) : Deeds n m := by
  induction h with
  | refl => exact .refl
  | tail _ last ih => exact ih.trans last.deeds

/-! ## The calls of a frame -/

theorem onDatagram_deeds {n m : Node} {payload : Except PyError UdpMessage} {now : ℚ}
    (h : n.onDatagram payload now = .ok m) : Deeds n m := by
  obtain ⟨message, -, h⟩ := Fallible.bind_eq_ok.mp h
  cases message with
  | election message => exact (onElectionMessage_parts h).deeds
  | hostIdentityResponse response =>
    cases h
    refine deeds_of_same ?_
    unfold onHostIdentityResponse
    split
    · rfl
    · split <;> rfl
  | worldState snapshot =>
    simp only [onSnapshot] at h
    split at h
    · cases h; exact .refl
    · obtain ⟨p, -, h⟩ := Fallible.bind_eq_ok.mp h
      cases h
      exact deeds_of_same rfl
  | playerInput _ | hostDiscoveryProbe _ => cases h; exact .refl

/-- The entries that are learned are listed one after the other. -/
theorem mergeRoster_deeds {n m : Node} {roster : GlobalRoster} (named : roster.NamesSlots)
    (h : n.mergeRoster roster = .ok m) : Deeds n m := by
  obtain ⟨merged, hmerged, h⟩ := Fallible.bind_eq_ok.mp h
  cases h
  refine Fallible.foldlM_keeps (P := fun r : GlobalRoster => Deeds n { n with roster := r })
    (fun r entry r' hentry hr hadd => hr.tail ?_) hmerged .refl
  obtain ⟨hmem, -⟩ := List.mem_filter.mp hentry
  obtain ⟨hslot, hname⟩ := named entry (GlobalRoster.mem_getAllPlayers.mp hmem)
  exact ⟨_, .learn hslot hname hadd⟩

end Node

/-- The rosters that a call receives name slots of a session. -/
def TimedCall.NamesSlots (c : TimedCall) : Prop :=
  match c.call with
  | .client (.gameEvent (.rosterUpdate roster)) => roster.NamesSlots
  | .host (.checkForRejoiningPlayers (some (.rosterUpdate roster))) => roster.NamesSlots
  | _ => True

namespace Node

theorem onGameEvent_deeds {n m : Node} {message : WsMessage} {now : ℚ}
    (named : TimedCall.NamesSlots ⟨now, .client (.gameEvent message)⟩)
    (h : n.onGameEvent now message = .ok m) : Deeds n m := by
  cases message with
  | playerLeft pid =>
    cases h
    split
    · exact .refl
    · exact (Does.evict pid).deeds
  | rosterUpdate roster => exact mergeRoster_deeds named h
  | election message => exact (onElectionMessage_parts h).deeds
  | _ => cases h; exact deeds_of_same rfl

theorem runPredictedTicks_deeds {n m : Node} {localInput : InputState} {sentAt now : ℚ}
    (h : n.runPredictedTicks localInput sentAt now = .ok m) : Deeds n m := by
  refine Fallible.foldlM_keeps (P := fun m : Node => Deeds n m) (fun m _ m' _ hm hstep => ?_) h
    (deeds_of_same rfl)
  obtain ⟨p, -, hstep⟩ := Fallible.bind_eq_ok.mp hstep
  cases hstep
  exact hm.trans (deeds_of_same rfl)

theorem ensureElectionComponents_slots {n : Node} (known : n.KnowsSlots) :
    n.ensureElectionComponents.slots = n.slots := by
  unfold ensureElectionComponents
  split
  · rfl
  · have hindex :
        ((n.roster.getPlayer n.localPlayerId).map RosterEntry.joinIndex).getD n.joinIndex =
          n.joinIndex := by
      cases hentry : n.roster.getPlayer n.localPlayerId with
      | none => rfl
      | some e =>
        obtain ⟨hmem, hid⟩ := getPlayer_eq_some hentry
        obtain ⟨hslot, hname⟩ := known.listed e hmem
        change e.joinIndex = n.joinIndex
        exact playerIdFor_injective hslot known.own (by rw [← hname, hid, known.ownName])
    simp only [slots, identity, hindex]

theorem clientCall_deeds {n m : Node} {now : ℚ} {call : ClientCall} (known : n.KnowsSlots)
    (named : TimedCall.NamesSlots ⟨now, .client call⟩) (h : n.clientCall now call = .ok m) :
    Deeds n m := by
  cases call with
  | ensureElectionComponents =>
    cases h
    exact deeds_of_same (ensureElectionComponents_slots known)
  | lobbyMessage message =>
    cases h
    refine deeds_of_same ?_
    unfold onLobbyMessage
    split <;> rfl
  | sendInputPacket localInput =>
    obtain ⟨packet, -, h⟩ := Fallible.bind_eq_ok.mp h
    cases h
    exact deeds_of_same rfl
  | runPredictedTicks localInput sentAt => exact runPredictedTicks_deeds h
  | clearEvents => cases h; exact deeds_of_same rfl
  | datagram payload => exact onDatagram_deeds h
  | gameEvent message => exact onGameEvent_deeds named h
  | tickElectionState foundIp => exact (tickElectionState_parts h).deeds
  | adjustPredictionLead =>
    cases h
    refine deeds_of_same ?_
    unfold adjustPredictionLead
    dsimp only
    split_ifs <;> rfl

theorem hostCall_deeds {n m : Node} {now : ℚ} {call : HostCall}
    (named : TimedCall.NamesSlots ⟨now, .host call⟩) (h : n.hostCall now call = .ok m) :
    Deeds n m := by
  cases call with
  | checkForRejoiningPlayers message =>
    refine checkForRejoiningPlayers_keeps (P := fun m => Deeds n m)
      (fun m m' roster entry _ _ hmessage hentry hm hrejoin => ?_)
      (fun _ _ hm => hm.trans (deeds_of_same rfl)) h .refl
    subst hmessage
    obtain ⟨hslot, hname⟩ := named entry hentry
    exact hm.trans (Does.rejoin hslot hname hrejoin).deeds
  | playerDisconnected pid =>
    rw [evictAndAnnounce_spec h]
    exact (Does.evict pid).deeds.trans (deeds_of_same rfl)
  | evictSilentPlayers =>
    refine Fallible.foldlM_keeps (P := fun m : Node => Deeds n m) (fun m pid m' _ hm hstep => ?_) h
      .refl
    rw [evictAndAnnounce_spec hstep]
    exact hm.trans ((Does.evict pid).deeds.trans (deeds_of_same rfl))
  | remoteInput payload host port =>
    refine deeds_of_same ?_
    obtain ⟨message, -, h⟩ := Fallible.bind_eq_ok.mp h
    split at h
    · split at h
      · cases h; rfl
      · obtain ⟨response, -, h⟩ := Fallible.bind_eq_ok.mp h
        cases h; rfl
    · split at h <;> cases h <;> rfl
    · cases h; rfl
  | advance localInput enemyCommands =>
    obtain ⟨engine, -, h⟩ := Fallible.bind_eq_ok.mp h
    cases h
    exact deeds_of_same rfl
  | sendGameEvents =>
    obtain ⟨messages, -, h⟩ := Fallible.bind_eq_ok.mp h
    cases h
    exact deeds_of_same rfl
  | sendWorldStateSnapshot => cases h; exact deeds_of_same rfl
  | maybeBroadcastRoster =>
    obtain ⟨out, rfl, -⟩ := maybeBroadcastRoster_spec h
    exact deeds_of_same rfl

/-- Every call of a frame is made of deeds. -/
theorem step_deeds {n m : Node} {c : TimedCall} (known : n.KnowsSlots) (named : c.NamesSlots)
    (h : n.step c = .ok m) : Deeds n m := by
  obtain ⟨now, client | host⟩ := c
  · exact clientCall_deeds known named h
  · exact hostCall_deeds named h

end Node

end DistributedSmb
