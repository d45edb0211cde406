import DistributedSmb.Domain.Respawns
import DistributedSmb.Gameplay.HostWorld
import DistributedSmb.Network.RoundTrip
import Mathlib.Algebra.Order.Ring.Cast

/-!
# Respawns across a migration

The world state that a host broadcasts names the players that wait for their respawn, but the join
indices to respawn them with stay in the host's own table. A node that is promoted from a snapshot
respawns them with the indices of its own table.
-/

namespace DistributedSmb

open Library

/-- Characters and enemies are stored under their own ids, and every enemy came out of its
constructor. -/
structure GameEngine.WellFormed (g : GameEngine) : Prop where
  keyed : g.worldState.Keyed
  enemiesKeyed : g.EnemiesKeyed
  constructed : g.worldState.Constructed

theorem GameEngine.WellFormed.of_enemies {g g' : GameEngine} (h : g.WellFormed)
    (keyed : g'.worldState.Keyed) (from_ : g.EnemiesFrom g') : g'.WellFormed :=
  ⟨keyed, h.enemiesKeyed.mono from_, constructed_mono h.constructed from_⟩

namespace Node

/-! ## Runs of a host -/

theorem rejoin_wellFormed {n n' : Node} {entry : RosterEntry} {now : ℚ} {b : Bool}
    (hn : n.engine.WellFormed) (h : n.rejoin entry now = .ok (n', b)) : n'.engine.WellFormed := by
  simp only [rejoin] at h
  split at h
  · cases h; exact hn
  · split at h
    · cases h; exact hn
    · split at h
      · cases h; exact hn
      · obtain ⟨roster, -, h⟩ := Fallible.bind_eq_ok.mp h
        cases h
        refine hn.of_enemies (restorePlayer_spec hn.keyed _ _ entry).1 (.of_eq ?_)
        simp only [restorePlayer]
        split
        · rfl
        · split <;> rfl

theorem evictPlayer_wellFormed {n : Node} (hn : n.engine.WellFormed) (pid : PlayerId) :
    (n.evictPlayer pid).engine.WellFormed :=
  hn.of_enemies (hn.keyed.removePlayer pid) (.of_eq rfl)

theorem hostCall_wellFormed {n n' : Node} {now : ℚ} {call : HostCall} (hn : n.engine.WellFormed)
    (h : n.hostCall now call = .ok n') : n'.engine.WellFormed := by
  cases call with
  | checkForRejoiningPlayers message =>
    exact checkForRejoiningPlayers_keeps (P := fun m => m.engine.WellFormed)
      (fun _ _ _ _ _ _ _ _ hm hrejoin => rejoin_wellFormed hm hrejoin) (fun _ _ hm => hm) h hn
  | playerDisconnected pid =>
    rw [evictAndAnnounce_spec h]
    exact evictPlayer_wellFormed hn pid
  | evictSilentPlayers =>
    refine Fallible.foldlM_keeps (P := fun m : Node => m.engine.WellFormed)
      (fun m pid m' _ hm hstep => ?_) h hn
    rw [evictAndAnnounce_spec hstep]
    exact evictPlayer_wellFormed hm pid
  | remoteInput payload host port =>
    rw [(onRemoteInput_spec h).2.1]
    exact hn
  | advance localInput enemyCommands =>
    obtain ⟨engine, htick, h⟩ := Fallible.bind_eq_ok.mp h
    cases h
    exact hn.of_enemies (GameEngine.tick_participants hn.keyed htick).1
      (GameEngine.tick_enemies htick)
  | sendGameEvents =>
    obtain ⟨messages, -, h⟩ := Fallible.bind_eq_ok.mp h
    cases h
    exact hn.of_enemies hn.keyed (.of_eq rfl)
  | sendWorldStateSnapshot => cases h; exact hn
  | maybeBroadcastRoster =>
    obtain ⟨out, rfl, -⟩ := maybeBroadcastRoster_spec h
    exact hn

end Node

/-- A host, with the join index that each player had when it was last alive. For a player that
waits to respawn, this is the index it died with. -/
structure WatchedHost where
  node : Node
  lastIndex : PlayerId → ℕ

namespace WatchedHost

def step (s : WatchedHost) (c : ℚ × HostCall) : Except PyError WatchedHost := do
  let node ← s.node.hostCall c.1 c.2
  .ok
    { node := node
      lastIndex := fun pid =>
        ((s.node.engine.worldState.getPlayer pid).map Player.joinIndex).getD (s.lastIndex pid) }

def run (s : WatchedHost) (calls : List (ℚ × HostCall)) : Except PyError WatchedHost :=
  calls.foldlM step s

/-- What `_send_world_state_snapshot` broadcasts. -/
def snapshot (s : WatchedHost) : WorldStateSnapshot :=
  ⟨s.node.engine.worldState.sequenceNumber, s.node.engine.worldState⟩

theorem run_wellFormed {s s' : WatchedHost} {calls : List (ℚ × HostCall)}
    (hs : s.node.engine.WellFormed) (h : s.run calls = .ok s') : s'.node.engine.WellFormed := by
  refine Fallible.foldlM_keeps (P := fun s : WatchedHost => s.node.engine.WellFormed)
    (fun s c s' _ hs hstep => ?_) h hs
  obtain ⟨n, hcall, hstep⟩ := Fallible.bind_eq_ok.mp hstep
  cases hstep
  exact Node.hostCall_wellFormed hs hcall

/-- A snapshot of the run arrives as it was sent. -/
theorem snapshot_arrives {s s' : WatchedHost} {calls : List (ℚ × HostCall)}
    (hs : s.node.engine.WellFormed) (h : s.run calls = .ok s') {text : JsonText} {py : Runtime}
    {order : SetOrder} (hlossless : text.Lossless (encodeMessage order (.worldState s'.snapshot)))
    {snapshot : WorldStateSnapshot}
    (hwire : text.decodeMessage py (text.encodeMessage order (.worldState s'.snapshot)) =
      .ok (some (.worldState snapshot))) : snapshot = s'.snapshot := by
  have hschema : (UdpMessage.worldState s'.snapshot).InSchema := (run_wellFormed hs h).constructed
  rw [message_survives text py order hschema rfl hlossless] at hwire
  cases hwire
  rfl

end WatchedHost

/-! ## The promoted node -/

namespace GameEngine

/-- When the timer is due in a game that is not won yet, the player reappears with this join index,
at its spawn position. -/
def RespawnsAs (g : GameEngine) (pid : PlayerId) (due : ℚ) (index : ℕ) : Prop :=
  ∀ (early : List TickArgs) (last : TickArgs) (g₁ g₂ : GameEngine),
    (∀ args ∈ early, args.now < due) → due ≤ last.now → early.foldlM tick g = .ok g₁ →
    g₁.worldState.victory = false → g₁.tick last = .ok g₂ →
    ∃ p, g₂.worldState.getPlayer pid = some p ∧ p.joinIndex = index ∧
      p.x = (g.spawnPositionFor index).1 ∧ p.y = (g.spawnPositionFor index).2

/-- The spawn position of this join index lies inside the world. -/
def SpawnFits (g : GameEngine) (index : ℕ) : Prop :=
  0 ≤ (g.spawnPositionFor index).1 ∧
    (g.spawnPositionFor index).1 ≤ max 0 (g.worldWidth - playerWidth) ∧
    0 ≤ (g.spawnPositionFor index).2 ∧
    (g.spawnPositionFor index).2 ≤ max 0 (g.worldHeight - playerHeight)

instance (g : GameEngine) (index : ℕ) : Decidable (g.SpawnFits index) :=
  inferInstanceAs (Decidable (_ ∧ _))

theorem clamp_eq_self_iff (x : ℤ) {bound : ℤ} {size : ℚ} (hsize : size = bound) :
    max 0 (min (x : ℚ) (max 0 size)) = x ↔ 0 ≤ x ∧ x ≤ max 0 bound := by
  have hcast : max 0 size = ((max 0 bound : ℤ) : ℚ) := by
    rw [hsize, Int.cast_max, Int.cast_zero]
  have hpositive : (0 : ℤ) ≤ max 0 bound := le_max_left 0 bound
  rw [hcast]
  generalize max 0 bound = m at hpositive
  rw [← Int.cast_min, ← Int.cast_zero, ← Int.cast_max, Rat.intCast_inj]
  omega

theorem spawned_fits_iff {g : GameEngine} {pid : PlayerId} {index : ℕ} :
    ((g.spawned pid index).x = (g.spawnPositionFor index).1 ∧
      (g.spawned pid index).y = (g.spawnPositionFor index).2) ↔ g.SpawnFits index := by
  have hx := clamp_eq_self_iff (g.spawnPositionFor index).1
    (show (g.worldWidth - playerWidth : ℚ) = (g.worldWidth - playerWidth : ℤ) by simp)
  have hy := clamp_eq_self_iff (g.spawnPositionFor index).2
    (show (g.worldHeight - playerHeight : ℚ) = (g.worldHeight - playerHeight : ℤ) by simp)
  rw [SpawnFits, ← and_assoc, ← hx, ← hy]
  rfl

/-- A won game stays won. -/
theorem running_before {ticks : List TickArgs} {g g' : GameEngine}
    (hrun : ticks.foldlM tick g = .ok g')
    (running : g'.worldState.victory = false) : g.worldState.victory = false := by
  by_contra hwon
  rw [Bool.not_eq_false] at hwon
  have hkept := Fallible.foldlM_keeps (P := fun g : GameEngine => g.worldState.victory = true)
    (fun g args g' _ hg htick => by
      rw [tick, if_pos hg] at htick
      cases htick
      exact hg) hrun hwon
  rw [hkept] at running
  cases running

/-- The index of the table decides, and the spawn position is kept if it fits. -/
theorem respawnsAs_iff {g : GameEngine} {pid : PlayerId} {due : ℚ} {index : ℕ}
    (authoritative : g.isAuthoritative = true) (keyed : g.worldState.Keyed)
    (enemiesKeyed : g.EnemiesKeyed) (h : g.Waits pid due) :
    g.RespawnsAs pid due index ↔
      (g.worldState.victory = false →
        g.respawnJoinIndex.getD pid 0 = index ∧ g.SpawnFits index) := by
  constructor
  · intro hrespawns running
    obtain ⟨g', htick, -⟩ := tick_succeeds_of_keyed ⟨0, ∅, none, due⟩ enemiesKeyed
    obtain ⟨p, hp, hindex, hx, hy⟩ := hrespawns [] ⟨0, ∅, none, due⟩ g g' (by simp) le_rfl rfl
      running htick
    rw [tick_respawns authoritative keyed h running le_rfl htick] at hp
    cases hp
    obtain rfl : g.respawnJoinIndex.getD pid 0 = index := hindex
    exact ⟨rfl, spawned_fits_iff.mp ⟨hx, hy⟩⟩
  · intro hindex early last g₁ g₂ hearly hlast hrun running htick
    obtain ⟨hkeyed, hspares, hsetting⟩ := ticks_spare keyed h hearly hrun
    have hauthority : g₁.isAuthoritative = true :=
      (congrArg (fun s => s.2.1) hsetting).trans authoritative
    have hspawned := tick_respawns hauthority hkeyed (h.spared hspares) running hlast htick
    rw [Dict.getD, hspares.index, ← Dict.getD, spawned_of_setting hsetting] at hspawned
    obtain ⟨rfl, hfits⟩ := hindex (running_before hrun running)
    obtain ⟨hx, hy⟩ := spawned_fits_iff.mpr hfits
    exact ⟨_, hspawned, rfl, hx, hy⟩

end GameEngine

namespace Node

/-- A promotion takes authority over the buffered world, less at most the crashed host. -/
theorem promoteToHost_engine {c m : Node} {now : ℚ} {snapshot : WorldStateSnapshot}
    (buffered : c.bufferedSnapshot = some snapshot) (waiting : c.election.promotionDone = false)
    (h : c.promoteToHost now = .ok m) :
    ∃ w, m.engine = { c.engine with isAuthoritative := true, worldState := w } ∧
      (w = snapshot.worldState ∨ ∃ pid, w = snapshot.worldState.removePlayer pid) := by
  rcases promoteToHost_spec h with ⟨done, -⟩ | ⟨-, out, rfl, -⟩
  · rw [done] at waiting
    cases waiting
  have hengine : ((c.assumeHostRole.send out).finishPromotion now).engine =
      c.takeAuthority.restoreWorld.evictHost.engine := rfl
  have hrestore : c.takeAuthority.restoreWorld.engine =
      { c.engine with isAuthoritative := true, worldState := snapshot.worldState } := by
    have hbuffered : c.takeAuthority.bufferedSnapshot = some snapshot := buffered
    rw [restoreWorld, hbuffered]
    rfl
  rw [hengine, evictHost]
  split
  case h_1 crashed _ =>
    refine ⟨snapshot.worldState.removePlayer crashed.playerId, ?_, .inr ⟨crashed.playerId, rfl⟩⟩
    rw [evictPlayer, hrestore]
  case h_2 => exact ⟨_, hrestore, .inl rfl⟩

end Node

/-- Every player that waits to respawn in a snapshot reappears on the promoted node as it died
exactly if the node's own table holds the index it died with, and that index's spawn position lies
inside the world. -/
theorem respawn_identity_iff {s₀ s : WatchedHost} {calls : List (ℚ × HostCall)}
    (wellFormed : s₀.node.engine.WellFormed) (hrun : s₀.run calls = .ok s) {text : JsonText}
    {py : Runtime} {order : SetOrder}
    (hlossless : text.Lossless (encodeMessage order (.worldState s.snapshot)))
    {snapshot : WorldStateSnapshot}
    (hwire : text.decodeMessage py (text.encodeMessage order (.worldState s.snapshot)) =
      .ok (some (.worldState snapshot)))
    {c m : Node} {now : ℚ} (buffered : c.bufferedSnapshot = some snapshot)
    (waiting : c.election.promotionDone = false) (hpromote : c.promoteToHost now = .ok m) :
    (∀ pid due, s.node.engine.Waits pid due → m.engine.RespawnsAs pid due (s.lastIndex pid)) ↔
      (s.node.engine.worldState.victory = false → ∀ pid due, s.node.engine.Waits pid due →
        c.engine.respawnJoinIndex.getD pid 0 = s.lastIndex pid ∧
          c.engine.SpawnFits (s.lastIndex pid)) := by
  have hworld := WatchedHost.run_wellFormed wellFormed hrun
  obtain rfl := WatchedHost.snapshot_arrives wellFormed hrun hlossless hwire
  obtain ⟨w, hengine, hw⟩ := Node.promoteToHost_engine buffered waiting hpromote
  have hkeyed : w.Keyed := by
    rcases hw with rfl | ⟨pid, rfl⟩
    · exact hworld.keyed
    · exact hworld.keyed.removePlayer pid
  have henemies : w.environment.EnemiesKeyed := by
    rcases hw with rfl | ⟨pid, rfl⟩ <;> exact hworld.enemiesKeyed
  have hvictory : w.victory = s.node.engine.worldState.victory := by
    rcases hw with rfl | ⟨pid, rfl⟩ <;> rfl
  have hwaits {pid : PlayerId} {due : ℚ} (h : s.node.engine.Waits pid due) :
      m.engine.Waits pid due := by
    rw [hengine]
    rcases hw with rfl | ⟨q, rfl⟩
    · exact ⟨h.absent, h.timer⟩
    · exact ⟨fun hmem => h.absent (Dict.mem_erase.mp hmem).1, h.timer⟩
  have hone {pid : PlayerId} {due : ℚ} (h : s.node.engine.Waits pid due) :
      m.engine.RespawnsAs pid due (s.lastIndex pid) ↔
        (s.node.engine.worldState.victory = false →
          c.engine.respawnJoinIndex.getD pid 0 = s.lastIndex pid ∧
            c.engine.SpawnFits (s.lastIndex pid)) := by
    rw [GameEngine.respawnsAs_iff (by rw [hengine]) (by rw [hengine]; exact hkeyed)
      (by rw [hengine]; exact henemies) (hwaits h), hengine, ← hvictory]
    rfl
  constructor
  · intro hrespawns running pid due h
    exact (hone h).mp (hrespawns pid due h) running
  · intro hindices pid due h
    exact (hone h).mpr fun running => hindices running pid due h

/-! ## Into the pit -/

def diver (pid : PlayerId) (joinIndex : ℕ) : Player where
  playerId := pid
  y := 700
  joinIndex := joinIndex

/-- A level of two spawn points, with players that have fallen out of the world. -/
def pit (players : List Player) : GameEngine where
  worldState := players.foldl WorldState.addPlayer {}
  worldWidth := 1000
  worldHeight := 600
  spawnPoints := [⟨100, 100⟩, ⟨200, 100⟩]

theorem pit_wellFormed (players : List Player) : (pit players).WellFormed := by
  have hkeyed : (players.foldl WorldState.addPlayer {}).Keyed :=
    List.foldlRecOn players WorldState.addPlayer
      (fun e (he : e ∈ []) => absurd he List.not_mem_nil) fun _ hw p _ => hw.addPlayer p
  have henemies : (players.foldl WorldState.addPlayer {}).environment.enemies = ∅ :=
    List.foldlRecOn (motive := fun w : WorldState => w.environment.enemies = ∅) players
      WorldState.addPlayer rfl fun _ hw _ _ => hw
  refine ⟨hkeyed, ?_, ?_⟩ <;> intro e (he : e ∈ _)
  · rw [show (pit players).worldState.environment.enemies = ∅ from henemies] at he
    exact absurd he List.not_mem_nil
  · rw [show (pit players).worldState.environment.enemies = ∅ from henemies] at he
    exact absurd he List.not_mem_nil


def pitHost (players : List Player) : WatchedHost where
  node :=
    { Node.clientOf threePlayers
        ⟨"player-1", "10.0.0.1", 50010, 0, .connected, true⟩ "10.0.0.1" with
      engine := pit players
      role := .host }
  lastIndex _ := 0

def divers (pids : List PlayerId) : WorldStateSnapshot where
  sequenceNumber := 1
  worldState :=
    { sequenceNumber := 1
      respawnTimers := Dict.ofList (pids.map fun pid => (pid, 3)) }

/-- The text of such a snapshot, around the text of its timers. -/
def diversText (timers : String) : String :=
  "\x7b\"sequence_number\": 1, \"world_state\": \x7b\"sequence_number\": 1, \"characters\": " ++
    "\x7b\x7d, \"environment\": \x7b\"destructible_blocks\": [], \"power_ups\": \x7b\x7d, " ++
    "\"enemies\": \x7b\x7d, \"cooperative_gates\": \x7b\x7d\x7d, \"coins_collected\": 0, " ++
    "\"coins_to_win\": 5, \"blocks_destroyed\": 0, \"blocks_to_win\": 0, " ++
    "\"enemies_defeated\": 0, \"enemies_to_win\": 0, \"initial_enemy_count\": 0, " ++
    "\"victory\": false, \"victory_player_id\": null, \"respawn_timers\": \x7b" ++ timers ++
    "\x7d\x7d, \"message_type\": \"world_state\"\x7d"

def diversTexts (timers : String) (pids : List PlayerId) : JsonText :=
  textOf (diversText timers) (encodeMessage sortedOrder (.worldState (divers pids)))

theorem divers_arrive (timers : String) (pids : List PlayerId) :
    (diversTexts timers pids).decodeMessage strictRuntime
      ((diversTexts timers pids).encodeMessage sortedOrder (.worldState (divers pids))) =
        .ok (some (.worldState (divers pids))) := by
  have hschema : (UdpMessage.worldState (divers pids)).InSchema := by
    simp [UdpMessage.InSchema, WorldState.Constructed, divers]
  exact message_survives _ strictRuntime sortedOrder hschema rfl rfl

/-- The second player's node, with the snapshot in its buffer. -/
def nextHost (pids : List PlayerId) : Node :=
  { Node.clientOf threePlayers ⟨"player-2", "10.0.0.2", 50011, 1, .connected, false⟩ "10.0.0.1" with
    engine := { pit [] with isAuthoritative := false }
    envStateBuffer := some (.update (divers pids)) }

/-- The first player dies with join index `0`, which the next host's empty table stands for. -/
theorem first_player_respawns_as_it_died :
    ∃ s m, (pitHost [diver "player-1" 0]).run [(0, .advance {} none)] = .ok s ∧
      (nextHost ["player-1"]).promoteToHost 2 = .ok m ∧
      ∀ pid due, s.node.engine.Waits pid due → m.engine.RespawnsAs pid due (s.lastIndex pid) := by
  obtain ⟨s, hs, hcheck⟩ := Fallible.exists_of_okAnd
    (x := (pitHost [diver "player-1" 0]).run [(0, .advance {} none)])
    (p := fun s => s.snapshot = divers ["player-1"] ∧ s.lastIndex "player-1" = 0)
    (by decide +kernel)
  obtain ⟨hsnapshot, hindex⟩ := of_decide_eq_true hcheck
  obtain ⟨m, hm, -⟩ := Fallible.exists_of_okAnd (p := fun _ => true)
    (x := (nextHost ["player-1"]).promoteToHost 2) (by decide +kernel)
  have hlossless : (diversTexts "\"player-1\": 3.0" ["player-1"]).Lossless
      (encodeMessage sortedOrder (.worldState s.snapshot)) := by
    rw [hsnapshot]
    rfl
  have hwire : (diversTexts "\"player-1\": 3.0" ["player-1"]).decodeMessage strictRuntime
      ((diversTexts "\"player-1\": 3.0" ["player-1"]).encodeMessage sortedOrder
        (.worldState s.snapshot)) = .ok (some (.worldState s.snapshot)) := by
    rw [hsnapshot]
    exact divers_arrive _ _
  refine ⟨s, m, hs, hm, (respawn_identity_iff (pit_wellFormed _) hs hlossless hwire ?_ rfl
    hm).mpr fun _ pid due h => ?_⟩
  · rw [hsnapshot]
    rfl
  · have htimers : s.node.engine.worldState.respawnTimers = Dict.ofList [("player-1", 3)] := by
      change s.snapshot.worldState.respawnTimers = _
      rw [hsnapshot]
      rfl
    have hpid : pid ∈ Dict.ofList [("player-1", (3 : ℚ))] := by
      rw [← htimers]
      exact Dict.mem_of_get?_eq_some h.timer
    obtain rfl : pid = "player-1" := by simpa [Dict.ofList] using hpid
    rw [hindex]
    decide

/-- The second player is in the snapshot too, and the node that is promoted has never seen it
die. -/
theorem second_player_respawns_as_the_first :
    ∃ s m, (pitHost [diver "player-1" 0, diver "player-2" 1]).run [(0, .advance {} none)] = .ok s ∧
      s.snapshot = divers ["player-1", "player-2"] ∧
      (diversTexts "\"player-1\": 3.0, \"player-2\": 3.0" ["player-1", "player-2"]).decodeMessage
        strictRuntime
        ((diversTexts "\"player-1\": 3.0, \"player-2\": 3.0" ["player-1", "player-2"]).encodeMessage
          sortedOrder (.worldState s.snapshot)) = .ok (some (.worldState s.snapshot)) ∧
      (nextHost ["player-1", "player-2"]).bufferedSnapshot = some s.snapshot ∧
      (nextHost ["player-1", "player-2"]).promoteToHost 2 = .ok m ∧
      s.lastIndex "player-2" = 1 ∧ s.node.engine.Waits "player-2" 3 ∧
      ¬ m.engine.RespawnsAs "player-2" 3 1 := by
  obtain ⟨s, hs, hcheck⟩ := Fallible.exists_of_okAnd
    (x := (pitHost [diver "player-1" 0, diver "player-2" 1]).run [(0, .advance {} none)])
    (p := fun s => s.snapshot = divers ["player-1", "player-2"] ∧ s.lastIndex "player-2" = 1)
    (by decide +kernel)
  obtain ⟨hsnapshot, hindex⟩ := of_decide_eq_true hcheck
  obtain ⟨m, hm, hcheck⟩ := Fallible.exists_of_okAnd
    (p := fun m : Node => decide (m.engine.worldState.victory = false) &&
      Fallible.okAnd (m.engine.tick ⟨0, ∅, none, 3⟩) fun g =>
        decide ((g.worldState.getPlayer "player-2").map Player.joinIndex = some 0))
    (x := (nextHost ["player-1", "player-2"]).promoteToHost 2) (by decide +kernel)
  obtain ⟨running, hcheck⟩ := Bool.and_eq_true_iff.mp hcheck
  obtain ⟨g, htick, hzero⟩ := Fallible.exists_of_okAnd hcheck
  have hworld : s.node.engine.worldState = (divers ["player-1", "player-2"]).worldState :=
    congrArg WorldStateSnapshot.worldState hsnapshot
  refine ⟨s, m, hs, hsnapshot, ?_, ?_, hm, hindex, ⟨?_, ?_⟩, fun hrespawns => ?_⟩
  · rw [hsnapshot]
    exact divers_arrive _ _
  · rw [hsnapshot]
    rfl
  · rw [hworld]
    exact Dict.not_mem_empty _
  · rw [hworld]
    rfl
  · obtain ⟨p, hp, hone, -⟩ := hrespawns [] ⟨0, ∅, none, 3⟩ m.engine g (by simp) le_rfl rfl
      (of_decide_eq_true running) htick
    have hzero := of_decide_eq_true hzero
    rw [hp, Option.map_some, hone] at hzero
    cases hzero

end DistributedSmb
