import DistributedSmb.Gameplay.Host

/-!
# The host's world and roster

Players move between the characters, the respawn timers and the roster of a host: they die and
respawn, leave and rejoin. Whoever is in the world, alive or waiting to respawn, stays in the
roster, as long as nobody is evicted while waiting.
-/

namespace DistributedSmb

open Library

/-! ## What a host call leaves alone -/

namespace Node

/-- Who the node is, and its part in an election. -/
def standing (n : Node) : PlayerId × Ip × String × ℕ × PlayerRole × ElectionFields :=
  (n.localPlayerId, n.localIp, n.sessionId, n.joinIndex, n.role, n.election)

theorem rejoin_standing {n n' : Node} {entry : RosterEntry} {now : ℚ} {b : Bool}
    (h : n.rejoin entry now = .ok (n', b)) : n'.standing = n.standing := by
  simp only [rejoin] at h
  split at h
  · cases h; rfl
  · split at h
    · cases h; rfl
    · split at h
      · cases h; rfl
      · obtain ⟨roster, -, h⟩ := Fallible.bind_eq_ok.mp h
        cases h
        rfl

/-- What every rejoining entry keeps, the whole update keeps. -/
theorem rejoinAll_keeps {P : Node → Prop} {entries : List RosterEntry}
    (keep : ∀ n n' entry now b, entry ∈ entries → P n →
      Node.rejoin n entry now = .ok (n', b) → P n')
    {n n' : Node} {now : ℚ} {b : Bool} (h : n.rejoinAll entries now = .ok (n', b)) (hn : P n) :
    P n' :=
  Fallible.foldlM_keeps (P := fun state : Node × Bool => P state.1)
    (fun s entry s' hentry hs hstep => by
      obtain ⟨⟨n₁, reentered⟩, hrejoin, hstep⟩ := Fallible.bind_eq_ok.mp hstep
      cases hstep
      exact keep _ _ _ _ _ hentry hs hrejoin) h hn

/-- What re-entering keeps, the poll of the lobby keeps. -/
theorem checkForRejoiningPlayers_keeps {P : Node → Prop} {message : Option WsMessage}
    (keep : ∀ n n' roster entry now b, message = some (.rosterUpdate roster) →
      entry ∈ roster.players → P n → Node.rejoin n entry now = .ok (n', b) → P n')
    (keepSend : ∀ n out, P n → P (Node.send n out)) {n n' : Node} {now : ℚ}
    (h : n.checkForRejoiningPlayers message now = .ok n') (hn : P n) : P n' := by
  unfold checkForRejoiningPlayers at h
  split at h
  case h_1 roster =>
    obtain ⟨⟨n₁, reentered⟩, hrejoin, h⟩ := Fallible.bind_eq_ok.mp h
    have hn₁ : P n₁ := rejoinAll_keeps (fun n n' entry now b hentry =>
      keep n n' roster entry now b rfl (GlobalRoster.mem_getAllPlayers.mp hentry)) hrejoin hn
    cases h
    split
    · exact keepSend _ _ hn₁
    · exact hn₁
  case h_2 => cases h; exact hn

theorem rejoin_outbox {n n' : Node} {entry : RosterEntry} {now : ℚ} {b : Bool}
    (h : n.rejoin entry now = .ok (n', b)) : n'.outbox = n.outbox := by
  simp only [rejoin] at h
  split at h
  · cases h; rfl
  split at h
  · cases h; rfl
  split at h
  · cases h; rfl
  obtain ⟨roster, -, h⟩ := Fallible.bind_eq_ok.mp h
  cases h; rfl

/-- A host that readmits somebody sends the lobby its world, and nothing else. -/
theorem checkForRejoiningPlayers_outbox {n n' : Node} {message : Option WsMessage} {now : ℚ}
    (h : n.checkForRejoiningPlayers message now = .ok n') :
    ∃ out, n'.outbox = n.outbox ++ out ∧
      ∀ o ∈ out, o = .lobby (.initialStateSync n'.engine.worldState) := by
  unfold checkForRejoiningPlayers at h
  split at h
  case h_1 roster =>
    obtain ⟨⟨m, reentered⟩, hrejoin, h⟩ := Fallible.bind_eq_ok.mp h
    have hsame : m.outbox = n.outbox :=
      rejoinAll_keeps (P := fun m => m.outbox = n.outbox)
        (fun _ _ _ _ _ _ hm hstep => (rejoin_outbox hstep).trans hm) hrejoin rfl
    cases h
    cases reentered with
    | true =>
      exact ⟨[.lobby (.initialStateSync m.engine.worldState)], by simp [send, hsame], by simp⟩
    | false => exact ⟨[], by simpa using hsame, by simp⟩
  case h_2 =>
    cases h
    exact ⟨[], by simp, by simp⟩

theorem evictAndAnnounce_spec {n n' : Node} {pid : PlayerId} (h : n.evictAndAnnounce pid = .ok n') :
    n' = (n.evictPlayer pid).send [.relay (.playerLeft pid)] := by
  obtain ⟨message, hchecked, h⟩ := Fallible.bind_eq_ok.mp h
  cases h
  rw [checked_eq_ok hchecked]

/-- A datagram moves the input caches only. -/
theorem onRemoteInput_spec {n n' : Node} {payload : Except PyError UdpMessage}
    {host : Ip} {port : ℕ} {now : ℚ} (h : n.onRemoteInput payload host port now = .ok n') :
    n'.standing = n.standing ∧ n'.engine = n.engine ∧ n'.roster = n.roster := by
  obtain ⟨message, -, h⟩ := Fallible.bind_eq_ok.mp h
  split at h
  · split at h
    · cases h; exact ⟨rfl, rfl, rfl⟩
    · obtain ⟨response, -, h⟩ := Fallible.bind_eq_ok.mp h
      cases h; exact ⟨rfl, rfl, rfl⟩
  · split at h <;> cases h <;> exact ⟨rfl, rfl, rfl⟩
  · cases h; exact ⟨rfl, rfl, rfl⟩

theorem onRemoteInput_outbox {n n' : Node} {payload : Except PyError UdpMessage} {host : Ip}
    {port : ℕ} {now : ℚ} (h : n.onRemoteInput payload host port now = .ok n') :
    ∃ out, n'.outbox = n.outbox ++ out ∧ ∀ o ∈ out, ∃ message, o = .udp message host port := by
  obtain ⟨message, -, h⟩ := Fallible.bind_eq_ok.mp h
  split at h
  · split at h
    · cases h
      exact ⟨[], by simp, by simp⟩
    · obtain ⟨response, -, h⟩ := Fallible.bind_eq_ok.mp h
      cases h
      exact ⟨_, rfl, by simp⟩
  · split at h <;> cases h <;> exact ⟨[], by simp, by simp⟩
  · cases h
    exact ⟨[], by simp, by simp⟩

theorem maybeBroadcastRoster_spec {n n' : Node} (h : n.maybeBroadcastRoster = .ok n') :
    ∃ out, n' = n.send out ∧ ∀ o ∈ out, o = .relay (.rosterUpdate n.roster) := by
  unfold maybeBroadcastRoster at h
  split at h
  · cases h
    exact ⟨[], by simp [send], by simp⟩
  · obtain ⟨message, hchecked, h⟩ := Fallible.bind_eq_ok.mp h
    cases h
    exact ⟨_, rfl, by simp [checked_eq_ok hchecked]⟩

/-- Host calls take no part in an election. -/
theorem hostCall_standing {n n' : Node} {now : ℚ} {call : HostCall}
    (h : n.hostCall now call = .ok n') : n'.standing = n.standing := by
  cases call with
  | checkForRejoiningPlayers message =>
    exact checkForRejoiningPlayers_keeps (P := fun m => m.standing = n.standing)
      (fun _ _ _ _ _ _ _ _ hm hrejoin => (rejoin_standing hrejoin).trans hm)
      (fun _ _ hm => hm) h rfl
  | playerDisconnected pid => rw [evictAndAnnounce_spec h]; rfl
  | evictSilentPlayers =>
    refine Fallible.foldlM_keeps (P := fun m => m.standing = n.standing)
      (fun m pid m' _ hm hstep => ?_) h rfl
    rw [evictAndAnnounce_spec hstep]
    exact hm
  | remoteInput payload host port => exact (onRemoteInput_spec h).1
  | advance localInput enemyCommands =>
    obtain ⟨engine, -, h⟩ := Fallible.bind_eq_ok.mp h
    cases h; rfl
  | sendGameEvents =>
    obtain ⟨messages, -, h⟩ := Fallible.bind_eq_ok.mp h
    cases h; rfl
  | sendWorldStateSnapshot => cases h; rfl
  | maybeBroadcastRoster =>
    obtain ⟨out, rfl, -⟩ := maybeBroadcastRoster_spec h
    rfl

theorem processFrame_standing {n n' : Node} {f : FrameInput} (host : n.role = .host)
    (h : n.processFrame f = .ok n') : n'.standing = n.standing := by
  refine Fallible.foldlM_keeps (P := fun m => m.standing = n.standing)
    (fun m c m' hc hm hstep => ?_) h rfl
  rw [host] at hc
  obtain ⟨call, -, rfl⟩ := List.mem_map.mp hc
  exact (hostCall_standing hstep).trans hm

/-! ## Agreement -/

/-- Everyone in the world is in the roster, and characters are stored under their own ids. -/
structure AgreesWithRoster (n : Node) : Prop where
  keyed : n.engine.worldState.Keyed
  rostered : ∀ pid, n.engine.Present pid → pid ∈ n.roster.ids

/-- A roster entry is replaced by one with the same id, or a new one is added. -/
theorem ids_replaceInRoster {roster roster' : GlobalRoster} {existing : Option RosterEntry}
    {entry : RosterEntry} (same : ∀ e, existing = some e → e.playerId = entry.playerId)
    (h : replaceInRoster roster existing entry = .ok roster') (pid : PlayerId) :
    pid ∈ roster'.ids ↔ pid ∈ roster.ids ∨ pid = entry.playerId := by
  cases existing with
  | none =>
    rw [GlobalRoster.addPlayer_eq_ok h]
    simp [GlobalRoster.ids]
  | some e =>
    have hadd := GlobalRoster.addPlayer_eq_ok h
    have hids : pid ∈ roster'.ids ↔ pid ∈ (roster.removePlayer e.playerId).ids ∨
        pid = entry.playerId := by
      rw [hadd]
      simp only [GlobalRoster.ids, List.map_append, List.map_cons, List.map_nil, List.mem_append,
        List.mem_singleton]
    rw [hids, GlobalRoster.mem_ids_removePlayer, same e rfl]
    by_cases hpid : pid = entry.playerId <;> simp [hpid]

/-- A restored or spawned player is the only newcomer. -/
theorem restorePlayer_spec {g : GameEngine} (hg : g.worldState.Keyed) (restored : Option Player)
    (known : Bool) (entry : RosterEntry) :
    (restorePlayer g restored known entry).worldState.Keyed ∧
      ∀ pid, (restorePlayer g restored known entry).Present pid →
        g.Present pid ∨ pid = entry.playerId := by
  have added (p : Player) (hp : p.playerId = entry.playerId) :
      (g.worldState.addPlayer p).Keyed ∧ ∀ pid, pid ∈ (g.worldState.addPlayer p).characters →
        pid ∈ g.worldState.characters ∨ pid = entry.playerId := by
    refine ⟨hg.addPlayer p, fun pid hpid => ?_⟩
    rw [WorldState.addPlayer, Dict.mem_set, hp] at hpid
    exact hpid.symm
  have present {w : WorldState} (timers : w.respawnTimers = g.worldState.respawnTimers)
      (h : ∀ pid, pid ∈ w.characters → pid ∈ g.worldState.characters ∨ pid = entry.playerId)
      (pid : PlayerId) (hpid : pid ∈ w.characters ∨ pid ∈ w.respawnTimers) :
      g.Present pid ∨ pid = entry.playerId := by
    rcases hpid with halive | hdead
    · exact (h pid halive).imp_left .inl
    · exact .inl (.inr (timers ▸ hdead))
  cases restored with
  | some p =>
    obtain ⟨hkeyed, hnew⟩ :=
      added { p with playerId := entry.playerId, joinIndex := entry.joinIndex } rfl
    exact ⟨hkeyed, present rfl hnew⟩
  | none =>
    cases known with
    | true => exact ⟨hg, fun pid hpid => .inl hpid⟩
    | false =>
      obtain ⟨hkeyed, hnew⟩ := added (Player.clampToWorld g.worldWidth g.worldHeight true
        { playerId := entry.playerId, x := (g.spawnPositionFor entry.joinIndex).1,
          y := (g.spawnPositionFor entry.joinIndex).2, joinIndex := entry.joinIndex }) rfl
      exact ⟨hkeyed, present rfl hnew⟩

theorem AgreesWithRoster.rejoin {n n' : Node} {entry : RosterEntry} {now : ℚ} {b : Bool}
    (hn : n.AgreesWithRoster) (h : n.rejoin entry now = .ok (n', b)) : n'.AgreesWithRoster := by
  simp only [Node.rejoin] at h
  split at h
  · cases h; exact hn
  · split at h
    · cases h; exact hn
    case isFalse same =>
      split at h
      · cases h; exact hn
      · obtain ⟨roster, hroster, h⟩ := Fallible.bind_eq_ok.mp h
        cases h
        have hids := ids_replaceInRoster (fun e he => by simpa [he] using same) hroster
        obtain ⟨hkeyed, hpresent⟩ := restorePlayer_spec hn.keyed
          (n.rejoinStates.get? entry.joinIndex)
          (n.roster.getAllPlayers.find? fun e => e.joinIndex = entry.joinIndex).isSome entry
        refine ⟨hkeyed, fun pid hpid => (hids pid).mpr ?_⟩
        exact (hpresent pid hpid).imp_left (hn.rostered pid)

theorem AgreesWithRoster.send {n : Node} (hn : n.AgreesWithRoster) (out : List Outgoing) :
    (n.send out).AgreesWithRoster := ⟨hn.keyed, hn.rostered⟩

/-- Evicting a player that is not waiting to respawn. -/
theorem AgreesWithRoster.evictPlayer {n : Node} (hn : n.AgreesWithRoster) {pid : PlayerId}
    (spared : pid ∉ n.engine.worldState.respawnTimers) : (n.evictPlayer pid).AgreesWithRoster where
  keyed := hn.keyed.removePlayer pid
  rostered q hq := by
    rw [evictPlayer_roster, GlobalRoster.mem_ids_removePlayer]
    rcases hq with halive | hdead
    · rw [Node.evictPlayer, WorldState.removePlayer, Dict.mem_erase] at halive
      exact ⟨hn.rostered q (.inl halive.1), halive.2⟩
    · exact ⟨hn.rostered q (.inr hdead), fun heq => spared (heq ▸ hdead)⟩

theorem AgreesWithRoster.advance {n n' : Node} (hn : n.AgreesWithRoster) {localInput : InputState}
    {enemyCommands : Option (Dict EnemyId EnemyMovementCommand)} {now : ℚ}
    (h : n.advance localInput enemyCommands now = .ok n') : n'.AgreesWithRoster := by
  obtain ⟨engine, htick, h⟩ := Fallible.bind_eq_ok.mp h
  cases h
  obtain ⟨hkeyed, hpresent⟩ := GameEngine.tick_participants hn.keyed htick
  exact ⟨hkeyed, fun pid hpid => hn.rostered pid ((hpresent pid).mp hpid)⟩

/-- Nobody whom this call evicts is waiting to respawn. -/
def SparesTheDead (n : Node) (c : TimedCall) : Prop :=
  match c.call with
  | .host (.playerDisconnected pid) => pid ∉ n.engine.worldState.respawnTimers
  | .host .evictSilentPlayers =>
    ∀ pid ∈ n.silentPlayers c.now, pid ∉ n.engine.worldState.respawnTimers
  | _ => True

theorem hostCall_agrees {n n' : Node} {now : ℚ} {call : HostCall}
    (spares : n.SparesTheDead ⟨now, .host call⟩) (hn : n.AgreesWithRoster)
    (h : n.hostCall now call = .ok n') : n'.AgreesWithRoster := by
  cases call with
  | checkForRejoiningPlayers message =>
    exact checkForRejoiningPlayers_keeps (P := AgreesWithRoster)
      (fun _ _ _ _ _ _ _ _ hm hrejoin => hm.rejoin hrejoin) (fun _ out hm => hm.send out) h hn
  | playerDisconnected pid =>
    rw [evictAndAnnounce_spec h]
    exact (hn.evictPlayer spares).send _
  | evictSilentPlayers =>
    -- the evictions leave the respawn timers as they are
    have hkept := Fallible.foldlM_keeps
      (P := fun m : Node => m.AgreesWithRoster ∧
        m.engine.worldState.respawnTimers = n.engine.worldState.respawnTimers)
      (fun m pid m' hpid hm hstep => by
        rw [evictAndAnnounce_spec hstep]
        exact ⟨(hm.1.evictPlayer (hm.2 ▸ spares pid hpid)).send _, hm.2⟩) h ⟨hn, rfl⟩
    exact hkept.1
  | remoteInput payload host port =>
    obtain ⟨-, hengine, hroster⟩ := onRemoteInput_spec h
    exact ⟨hengine ▸ hn.keyed, hengine ▸ hroster ▸ hn.rostered⟩
  | advance localInput enemyCommands => exact hn.advance h
  | sendGameEvents =>
    obtain ⟨messages, -, h⟩ := Fallible.bind_eq_ok.mp h
    cases h
    exact ⟨hn.keyed, hn.rostered⟩
  | sendWorldStateSnapshot => cases h; exact ⟨hn.keyed, hn.rostered⟩
  | maybeBroadcastRoster =>
    obtain ⟨out, rfl, -⟩ := maybeBroadcastRoster_spec h
    exact hn.send out

/-! ## Runs of host frames -/

/-- A host whose characters are its roster, with nobody waiting to respawn. -/
structure HostStart (n : Node) : Prop where
  isHost : n.role = .host
  keyed : n.engine.worldState.Keyed
  sameIds : ∀ pid, pid ∈ n.engine.worldState.characters ↔ pid ∈ n.roster.ids
  nobodyDead : n.engine.worldState.respawnTimers = ∅

instance (n : Node) (c : TimedCall) : Decidable (n.SparesTheDead c) := by
  unfold SparesTheDead
  split <;> infer_instance

/-- The condition on each call of a frame. -/
def FrameSparesTheDead (n : Node) (f : FrameInput) : Prop :=
  Fallible.Along step SparesTheDead n (f.calls n.role)

instance (n : Node) (f : FrameInput) : Decidable (n.FrameSparesTheDead f) :=
  inferInstanceAs (Decidable (Fallible.Along _ _ _ _))

theorem processFrame_agrees {n n' : Node} {f : FrameInput} (spares : n.FrameSparesTheDead f)
    (hn : n.role = .host ∧ n.AgreesWithRoster) (h : n.processFrame f = .ok n') :
    n'.role = .host ∧ n'.AgreesWithRoster := by
  refine Fallible.foldlM_keeps_along (P := fun m : Node => m.role = .host ∧ m.AgreesWithRoster)
    (fun m c m' hc hspares hm hstep => ?_) spares h hn
  obtain ⟨call, -, rfl⟩ : ∃ call ∈ f.hostCalls, ⟨f.now, .host call⟩ = c := by
    simpa [hn.1, FrameInput.calls] using hc
  have hstanding := hostCall_standing hstep
  exact ⟨(congrArg (fun s => s.2.2.2.2.1) hstanding).trans hm.1, hostCall_agrees hspares hm.2 hstep⟩

/-- After every frame of a host that evicts nobody who is waiting to respawn, whoever has a
character or a respawn timer has a roster entry. -/
theorem host_world_agrees {n n' : Node} {frames : List FrameInput} (start : n.HostStart)
    (spares : Fallible.Along processFrame FrameSparesTheDead n frames)
    (hrun : frames.foldlM processFrame n = .ok n') :
    (∀ pid, pid ∈ n'.engine.worldState.characters → pid ∈ n'.roster.ids) ∧
      ∀ pid, pid ∈ n'.engine.worldState.respawnTimers → pid ∈ n'.roster.ids := by
  have hstart : n.AgreesWithRoster := by
    refine ⟨start.keyed, fun pid hpid => ?_⟩
    rcases hpid with halive | hdead
    · exact (start.sameIds pid).mp halive
    · simp [start.nobodyDead] at hdead
  have hagrees := Fallible.foldlM_keeps_along
    (P := fun m : Node => m.role = .host ∧ m.AgreesWithRoster)
    (fun _ _ _ _ hspares hm hframe => processFrame_agrees hspares hm hframe) spares hrun
    ⟨start.isHost, hstart⟩
  exact ⟨fun pid h => hagrees.2.rostered pid (.inl h), fun pid h => hagrees.2.rostered pid (.inr h)⟩

/-! ### A ghost -/

/-- Two players over a pit; the second one has already fallen out of the world. -/
def hostOverPit : Node where
  engine :=
    { worldState :=
        { characters := Dict.ofList
            [("player-1", { playerId := "player-1", x := 0, y := 0 }),
              ("player-2", { playerId := "player-2", x := 0, y := 700, joinIndex := 1 })] }
      worldWidth := 1000
      worldHeight := 600 }
  roster :=
    { players :=
        [⟨"player-1", "10.0.0.1", 50010, 0, .connected, true⟩,
          ⟨"player-2", "10.0.0.2", 50011, 1, .connected, false⟩] }
  sessionId := "session"
  localIp := "10.0.0.1"
  role := .host
  localPlayerId := "player-1"
  remoteHost := "10.0.0.1"

theorem hostOverPit_start : hostOverPit.HostStart where
  isHost := rfl
  keyed := by unfold WorldState.Keyed; decide +kernel
  sameIds pid := by
    have hkeys : hostOverPit.engine.worldState.characters.keys = hostOverPit.roster.ids := by
      decide +kernel
    rw [Dict.mem_iff, hkeys]
  nobodyDead := rfl

/-- The player dies in the pit, and nobody leaves. -/
theorem host_world_agrees_after_a_death :
    ∃ n', [({ now := 0 } : FrameInput)].foldlM processFrame hostOverPit = .ok n' ∧
      (∀ pid, pid ∈ n'.engine.worldState.characters → pid ∈ n'.roster.ids) ∧
      ∀ pid, pid ∈ n'.engine.worldState.respawnTimers → pid ∈ n'.roster.ids := by
  obtain ⟨n', hrun, -⟩ := Fallible.exists_of_okAnd (p := fun _ => true)
    (x := [({ now := 0 } : FrameInput)].foldlM processFrame hostOverPit) (by decide +kernel)
  exact ⟨n', hrun, host_world_agrees hostOverPit_start (by decide +kernel) hrun⟩

/-- The player dies in the pit and disconnects before its respawn. -/
theorem evicted_while_dead_is_a_ghost :
    ¬ ∀ (n n' : Node) (frames : List FrameInput), n.HostStart →
      frames.foldlM processFrame n = .ok n' →
      (∀ pid, pid ∈ n'.engine.worldState.characters → pid ∈ n'.roster.ids) ∧
        ∀ pid, pid ∈ n'.engine.worldState.respawnTimers → pid ∈ n'.roster.ids := by
  intro agrees
  obtain ⟨n', hrun, hghost⟩ := Fallible.exists_of_okAnd
    (x := [({ now := 0 } : FrameInput), { now := 1 / 60, disconnected := ["player-2"] }].foldlM
      processFrame hostOverPit)
    (p := fun n => "player-2" ∈ n.engine.worldState.respawnTimers ∧ "player-2" ∉ n.roster.ids)
    (by decide +kernel)
  obtain ⟨hdead, hgone⟩ := of_decide_eq_true hghost
  exact hgone ((agrees _ _ _ hostOverPit_start hrun).2 _ hdead)

end Node

end DistributedSmb
