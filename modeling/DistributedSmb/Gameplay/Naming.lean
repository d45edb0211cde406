import DistributedSmb.Domain.Enemies
import DistributedSmb.Domain.Objectives
import DistributedSmb.Gameplay.RemoteEvents

/-!
# Names

The checks of the messages that hosts make of their events refuse an empty id. In a world in which
everything is named, which a level with named entities loads, a tick keeps everything named, and its
events pass these checks.
-/

namespace DistributedSmb

open Library

/-- Every entity of the level has an id. -/
structure Level.Named (level : Level) : Prop where
  powerups : ∀ u ∈ level.powerups, u.powerupId ≠ ""
  enemies : ∀ e ∈ level.enemies, e.enemyId ≠ ""
  gates : ∀ gate ∈ level.gates, gate.gateId ≠ ""

theorem Level.named_empty : ({} : Level).Named :=
  ⟨List.forall_mem_nil _, List.forall_mem_nil _, List.forall_mem_nil _⟩

structure EnvironmentalState.Named (environment : EnvironmentalState) : Prop where
  powerUps : ∀ e ∈ environment.powerUps.entries, e.2.powerupId ≠ ""
  enemies : ∀ e ∈ environment.enemies.entries, e.2.enemyId = e.1 ∧ e.1 ≠ ""
  gates : ∀ e ∈ environment.cooperativeGates.entries, e.2.gateId ≠ ""

/-- Everybody in the world, alive or waiting for a respawn, has an id, and so has every entity. -/
structure WorldState.Named (w : WorldState) : Prop where
  keyed : w.Keyed
  characters : ∀ pid ∈ w.characters, pid ≠ ""
  timers : ∀ pid ∈ w.respawnTimers, pid ≠ ""
  environment : w.environment.Named

/-- The message of the event passes its check. -/
def GameEvent.Named (e : GameEvent) : Prop := eventToMessage e = .ok e.message

structure GameEngine.Named (g : GameEngine) : Prop where
  level : g.level.Named
  world : g.worldState.Named
  events : ∀ e ∈ g.events, e.Named

/-! ## Events -/

theorem checked_of_validate {m : WsMessage} (h : m.validate = .ok ()) : m.checked = .ok m := by
  rw [WsMessage.checked, h, Fallible.ok_bind]

theorem blockDestroyed_named (position : ℤ × ℤ) : (GameEvent.blockDestroyed position).Named := rfl

theorem powerUpCollected_named {powerupId : PowerUpId} {pid : PlayerId} (hpowerup : powerupId ≠ "")
    (hpid : pid ≠ "") : (GameEvent.powerUpCollected powerupId pid).Named := by
  refine checked_of_validate ?_
  rw [WsMessage.validate, requireText_succeeds _ hpowerup, requireText_succeeds _ hpid]
  rfl

theorem playerDeath_named {pid : PlayerId} {cause : EnemyId} (hpid : pid ≠ "")
    (hcause : cause ≠ "") : (GameEvent.playerDeath pid cause).Named := by
  refine checked_of_validate ?_
  rw [WsMessage.validate, requireText_succeeds _ hpid, requireText_succeeds _ hcause]
  rfl

theorem gateStateChanged_named {gateId : GateId} {newState : String} (hgate : gateId ≠ "")
    (hstate : newState ≠ "") : (GameEvent.gateStateChanged gateId newState).Named := by
  refine checked_of_validate ?_
  rw [WsMessage.validate, requireText_succeeds _ hgate, requireText_succeeds _ hstate]
  rfl

/-- The host can make messages of all its events. -/
theorem mapM_eventToMessage_of_named {events : List GameEvent} (h : ∀ e ∈ events, e.Named) :
    events.mapM eventToMessage = .ok (events.map GameEvent.message) := by
  induction events with
  | nil => rfl
  | cons e rest ih =>
    have he : eventToMessage e = .ok e.message := h e List.mem_cons_self
    rw [List.mapM_cons, he, ih fun e' he' => h e' (List.mem_cons_of_mem _ he')]
    rfl

/-! ## Worlds -/

theorem EnvironmentalState.Named.enemiesKeyed {environment : EnvironmentalState}
    (h : environment.Named) : environment.EnemiesKeyed := fun e he => (h.enemies e he).1

theorem WorldState.Named.playerId {w : WorldState} (h : w.Named) {e : PlayerId × Player}
    (he : e ∈ w.characters.entries) : e.2.playerId ≠ "" := by
  rw [h.keyed e he]
  exact h.characters _ (Dict.mem_keys_of_mem he)

theorem WorldState.Named.removePlayer {w : WorldState} (h : w.Named) (pid : PlayerId) :
    (w.removePlayer pid).Named where
  keyed := h.keyed.removePlayer pid
  characters := fun q hq => h.characters q (Dict.mem_erase.mp hq).1
  timers := h.timers
  environment := h.environment

theorem WorldState.Named.addPlayer {w : WorldState} (h : w.Named) {p : Player}
    (hp : p.playerId ≠ "") : (w.addPlayer p).Named where
  keyed := h.keyed.addPlayer p
  characters := by
    intro q hq
    rcases Dict.mem_set.mp hq with rfl | hold
    · exact hp
    · exact h.characters q hold
  timers := h.timers
  environment := h.environment

theorem Level.Named.environment {level : Level} (h : level.Named) (w : WorldState) :
    (w.loadLevel level).environment.Named where
  powerUps := by
    intro e he
    obtain ⟨u, hu, rfl⟩ := List.mem_map.mp (Dict.mem_of_mem_ofList he)
    exact h.powerups u hu
  enemies := by
    intro e he
    obtain ⟨enemy, henemy, rfl⟩ := List.mem_map.mp (Dict.mem_of_mem_ofList he)
    exact ⟨rfl, h.enemies enemy henemy⟩
  gates := by
    intro e he
    obtain ⟨gate, hgate, rfl⟩ := List.mem_map.mp (Dict.mem_of_mem_ofList he)
    exact h.gates gate hgate

namespace GameEngine

/-! ## Stages -/

theorem powerUps_named {args : TickArgs} {stage : TickStage} {g g' : GameEngine}
    (hg : ∀ e ∈ g.worldState.environment.powerUps.entries, e.2.powerupId ≠ "")
    (h : stage.run args g = .ok g') :
    ∀ e ∈ g'.worldState.environment.powerUps.entries, e.2.powerupId ≠ "" := by
  by_cases hstage : stage = .handlePowerupCollisions
  swap
  · have hsame : g'.worldState.environment.powerUps = g.worldState.environment.powerUps :=
      (stage_leaves h).powerUps hstage
    rwa [hsame]
  subst hstage
  simp only [TickStage.run, handlePowerupCollisions] at h
  split at h
  · cases h
    exact hg
  obtain ⟨⟨characters, powerUps, events⟩, hsweep, h⟩ := Fallible.bind_eq_ok.mp h
  cases h
  intro e he
  obtain ⟨u, hu, hsame⟩ := Dict.mem_entries_sweep
    (R := fun (u u' : ExclusivePowerUp) => u'.powerupId = u.powerupId)
    (fun cs key u cs' u' out hu => by
      rcases awardPowerup_cases hu with ⟨-, rfl, -⟩ | ⟨pid, p, p', -, -, -, rfl, -⟩ <;> rfl)
      hsweep he
  rw [hsame]
  exact hg _ hu

theorem updateState_named {gate : CooperativeGate} {b : Bool} {event : GameEvent}
    (hgate : gate.gateId ≠ "") (h : (gate.updateState b).2 = some event) : event.Named := by
  have hstate : (if b then "open" else "closed") ≠ "" := by cases b <;> decide
  simp only [CooperativeGate.updateState] at h
  generalize (if b = true then "open" else "closed") = newState at h hstate
  split at h
  · cases h
  · cases h
    exact gateStateChanged_named hgate hstate

theorem gates_named {args : TickArgs} {stage : TickStage} {g g' : GameEngine}
    (hg : ∀ e ∈ g.worldState.environment.cooperativeGates.entries, e.2.gateId ≠ "")
    (h : stage.run args g = .ok g') :
    ∀ e ∈ g'.worldState.environment.cooperativeGates.entries, e.2.gateId ≠ "" := by
  by_cases hstage : stage = .handleGateCollisions
  swap
  · have hsame : g'.worldState.environment.cooperativeGates =
        g.worldState.environment.cooperativeGates := (stage_leaves h).gates hstage
    rwa [hsame]
  subst hstage
  cases h
  intro e he
  obtain ⟨e, hmem, rfl⟩ := List.mem_map.mp he
  dsimp only
  rw [(updateState_keeps _ _).1]
  exact hg e hmem

theorem environment_named {args : TickArgs} {stage : TickStage} {g g' : GameEngine}
    (hg : g.worldState.environment.Named) (h : stage.run args g = .ok g') :
    g'.worldState.environment.Named where
  powerUps := powerUps_named hg.powerUps h
  enemies := by
    intro e' he'
    obtain ⟨e, he, hkey, hid, -⟩ := stage_enemies h e' he'
    obtain ⟨hown, hname⟩ := hg.enemies e he
    exact ⟨by rw [hid, hown, hkey], hkey ▸ hname⟩
  gates := gates_named hg.gates h

/-- Participants neither come nor go in an evolution. -/
theorem Evolves.named {g g' : GameEngine} (h : g.Evolves g') (hg : g.worldState.Named)
    (environment : g'.worldState.environment.Named) : g'.worldState.Named := by
  obtain ⟨hkeyed, hpresent⟩ := h.participants hg.keyed
  have hnames : ∀ pid, g'.Present pid → pid ≠ "" := fun pid hpid =>
    ((hpresent pid).mp hpid).elim (hg.characters pid) (hg.timers pid)
  exact ⟨hkeyed, fun pid hpid => hnames pid (.inl hpid), fun pid hpid => hnames pid (.inr hpid),
    environment⟩

/-- All events that wait to be sent are named. -/
def QueueNamed (g : GameEngine) : Prop := ∀ e ∈ g.events, e.Named

theorem QueueNamed.append {g g' : GameEngine} {events : List GameEvent} (h : g.QueueNamed)
    (queued : g'.events = g.events ++ events) (named : ∀ e ∈ events, e.Named) : g'.QueueNamed := by
  intro e he
  rw [queued] at he
  exact (List.mem_append.mp he).elim (h e) (named e)

theorem handlePowerupCollisions_named {now : ℚ} {g g' : GameEngine} (hg : g.worldState.Named)
    (queue : g.QueueNamed) (h : g.handlePowerupCollisions now = .ok g') : g'.QueueNamed := by
  unfold handlePowerupCollisions at h
  split at h
  · cases h
    exact queue
  obtain ⟨⟨characters, powerUps, events⟩, hsweep, h⟩ := Fallible.bind_eq_ok.mp h
  cases h
  -- the winner of a power-up is one of the characters, which keep their ids
  have hnamed := Sweep.state_rel
    (Q := fun (cs : Dict PlayerId Player) (out : List GameEvent) cs' =>
      (∀ e ∈ cs.entries, e.2.playerId ≠ "") →
        (∀ e ∈ cs'.entries, e.2.playerId ≠ "") ∧ ∀ o ∈ out, o.Named)
    (fun cs hcs => ⟨hcs, fun o ho => nomatch ho⟩)
    (fun h h' hcs => by
      obtain ⟨hmid, hout⟩ := h hcs
      obtain ⟨hend, hrest⟩ := h' hmid
      exact ⟨hend, fun o ho => (List.mem_append.mp ho).elim (hout o) (hrest o)⟩)
    (fun cs e cs' e' out he hstep hcs => by
      obtain ⟨-, haward⟩ := Dict.sweepEntry_eq_ok hstep
      rcases awardPowerup_cases haward with
        ⟨rfl, -, rfl⟩ | ⟨pid, p, p', hp, hid, rfl, -, rfl⟩
      · exact ⟨hcs, fun o ho => nomatch ho⟩
      · refine ⟨fun entry hentry => ?_, fun o ho => ?_⟩
        · rcases Dict.mem_entries_set.mp hentry with rfl | ⟨hold, -⟩
          · exact hid ▸ hcs _ hp
          · exact hcs entry hold
        · rw [List.mem_singleton.mp ho]
          exact powerUpCollected_named (hg.environment.powerUps e he) (hcs _ hp))
    (Dict.sweep_eq_ok hsweep)
  exact queue.append rfl (hnamed fun e he => hg.playerId he).2

theorem queuePlayerDeath_named {now : ℚ} {cause : EnemyId} {g : GameEngine} {p : Player}
    (queue : g.QueueNamed) (hp : p.playerId ≠ "") (hcause : cause ≠ "") :
    (g.queuePlayerDeath now cause p).QueueNamed := by
  refine queue.append rfl fun e he => ?_
  rw [List.mem_singleton.mp he]
  exact playerDeath_named hp hcause

theorem fightEnemy_named {now : ℚ} {e : Enemy} {l : List (PlayerId × Player)} {g g' : GameEngine}
    (players : ∀ entry ∈ l, entry.2.playerId ≠ "") (he : e.enemyId ≠ "") (queue : g.QueueNamed)
    (h : fightEnemy now e g l = .ok g') : g'.QueueNamed := by
  induction l generalizing g with
  | nil => cases h; exact queue
  | cons entry rest ih =>
    obtain ⟨key, p⟩ := entry
    have hrest : ∀ entry ∈ rest, entry.2.playerId ≠ "" := fun entry hentry =>
      players entry (List.mem_cons_of_mem _ hentry)
    have hp : p.playerId ≠ "" := players _ List.mem_cons_self
    simp only [fightEnemy] at h
    split at h
    · exact ih hrest queue h
    split at h
    · -- the enemy is defeated
      obtain ⟨g₁, hdelete, h⟩ := Fallible.bind_eq_ok.mp h
      cases h
      simp only [deleteEnemy] at hdelete
      split at hdelete <;> cases hdelete
      exact queue
    · refine ih hrest (queuePlayerDeath_named queue ?_ he) h
      rwa [hasActivePowerupEffect_playerId]

theorem handleEnemyCollisions_named {now : ℚ} {g g' : GameEngine} (hg : g.worldState.Named)
    (queue : g.QueueNamed) (h : g.handleEnemyCollisions now = .ok g') : g'.QueueNamed := by
  unfold handleEnemyCollisions at h
  split at h
  · cases h
    exact queue
  have hkept := Fallible.foldlM_keeps
    (P := fun g₁ : GameEngine => g.SameParticipants g₁ ∧ g₁.QueueNamed)
    (fun g₁ e g₂ he hg₁ hfight => by
      obtain ⟨binding, hbinding, rfl⟩ := List.mem_map.mp he
      obtain ⟨hown, hname⟩ := hg.environment.enemies binding hbinding
      obtain ⟨-, hsame⟩ := fightEnemy_spec hfight
      refine ⟨hg₁.1.trans (hsame hg₁.1.1 (lists_characters hg₁.1.1)), ?_⟩
      refine fightEnemy_named (fun entry hentry => ?_) (hown ▸ hname) hg₁.2 hfight
      have hpresent : g.Present entry.1 :=
        (hg₁.1.2 entry.1).mp (.inl (Dict.mem_keys_of_mem hentry))
      rw [hg₁.1.1 entry hentry]
      exact hpresent.elim (hg.characters _) (hg.timers _)) h
    ⟨⟨hg.keyed, fun _ => Iff.rfl⟩, queue⟩
  exact hkept.2

theorem handleVoidDeaths_named (now : ℚ) {g : GameEngine} (hg : g.worldState.Named)
    (queue : g.QueueNamed) : (g.handleVoidDeaths now).QueueNamed := by
  unfold handleVoidDeaths
  split
  · exact queue
  refine Fallible.foldl_keeps (P := QueueNamed) (fun g₁ p hp hg₁ => ?_) queue
  split
  · exact hg₁
  · obtain ⟨entry, hentry, rfl⟩ := List.mem_map.mp hp
    exact queuePlayerDeath_named hg₁ (hg.playerId hentry) (by decide)

theorem handleGateCollisions_named {g : GameEngine} (hg : g.worldState.Named)
    (queue : g.QueueNamed) : g.handleGateCollisions.QueueNamed := by
  refine queue.append rfl fun e he => ?_
  obtain ⟨gate, hgate, hevent⟩ := List.mem_filterMap.mp he
  obtain ⟨entry, hentry, rfl⟩ := List.mem_map.mp hgate
  exact updateState_named (hg.environment.gates entry hentry) hevent

theorem stage_queueNamed {args : TickArgs} {stage : TickStage} {g g' : GameEngine}
    (hg : g.worldState.Named) (queue : g.QueueNamed) (h : stage.run args g = .ok g') :
    g'.QueueNamed := by
  cases stage with
  | handlePowerupCollisions => exact handlePowerupCollisions_named hg queue h
  | handleEnemyCollisions => exact handleEnemyCollisions_named hg queue h
  | handleVoidDeaths => cases h; exact handleVoidDeaths_named args.now hg queue
  | handleGateCollisions => cases h; exact handleGateCollisions_named hg queue
  | handleBlockCollisions =>
    obtain ⟨events, hqueued, hkind⟩ := handleBlockCollisions_queues h
    refine queue.append hqueued fun e he => ?_
    have hblock := hkind e he
    cases e with
    | blockDestroyed position => exact blockDestroyed_named position
    | _ => cases hblock
  | _ =>
    obtain ⟨events, hqueued, hkind⟩ := stage_queues h
    refine queue.append hqueued fun e he => ?_
    have hnone := hkind e he
    cases e <;> cases hnone

theorem stage_named {args : TickArgs} {stage : TickStage} {g g' : GameEngine} (hg : g.Named)
    (h : stage.run args g = .ok g') : g'.Named where
  level := by
    rw [level_of_setting (stage_evolves h).setting]
    exact hg.level
  world := (stage_evolves h).named hg.world (environment_named hg.world.environment h)
  events := stage_queueNamed hg.world hg.events h

/-! ## Runs -/

/-- A tick does not raise, and keeps everything named. -/
theorem tick_named {g : GameEngine} (hg : g.Named) (args : TickArgs) :
    ∃ g', g.tick args = .ok g' ∧ g'.Named := by
  obtain ⟨g', htick, -⟩ := tick_succeeds_of_keyed args hg.world.environment.enemiesKeyed
  refine ⟨g', htick, ?_⟩
  unfold tick at htick
  split at htick
  · cases htick
    exact ⟨hg.level, ⟨hg.world.keyed, hg.world.characters, hg.world.timers, hg.world.environment⟩,
      hg.events⟩
  · obtain ⟨g₁, hstages, htick⟩ := Fallible.bind_eq_ok.mp htick
    cases htick
    have hnamed := Fallible.foldlM_keeps (P := GameEngine.Named)
      (fun _ _ _ _ hg h => stage_named hg h) hstages hg
    exact ⟨hnamed.level, ⟨hnamed.world.keyed, hnamed.world.characters, hnamed.world.timers,
      hnamed.world.environment⟩, hnamed.events⟩

theorem spawnPlayer_named {g : GameEngine} (hg : g.Named) {pid : PlayerId} (hpid : pid ≠ "")
    (position : ℤ × ℤ) (joinIndex : ℕ) : (g.spawnPlayer pid position joinIndex).Named where
  level := hg.level
  world := hg.world.addPlayer hpid
  events := hg.events

theorem resetForNewRun_named {g : GameEngine} (hg : g.Named) : g.resetForNewRun.Named where
  level := hg.level
  world := by
    refine ⟨fun e he => ?_, fun pid hpid => ?_, fun pid hpid =>
      absurd hpid (Dict.not_mem_empty pid), hg.level.environment g.worldState⟩
    · obtain ⟨e, hmem, rfl⟩ := List.mem_map.mp he
      exact hg.world.keyed e hmem
    · exact hg.world.characters pid (Dict.mem_mapValues.mp hpid)
  events := by
    refine QueueNamed.append hg.events rfl fun e he => ?_
    rw [List.mem_singleton.mp he]
    rfl

/-- What the host announces changes no id. -/
theorem applyMessage_named {g : GameEngine} (hg : g.Named) (m : WsMessage) :
    (g.applyMessage m).Named := by
  have hworld := hg.world
  cases m with
  | blockDestroyed position =>
    exact ⟨hg.level, ⟨hworld.keyed, hworld.characters, hworld.timers, hworld.environment.powerUps,
      hworld.environment.enemies, hworld.environment.gates⟩, hg.events⟩
  | powerUpCollected powerupId pid =>
    refine ⟨hg.level, ⟨hworld.keyed, hworld.characters, hworld.timers, ?_,
      hworld.environment.enemies, hworld.environment.gates⟩, hg.events⟩
    intro e he
    obtain ⟨e, hmem, rfl⟩ := List.mem_map.mp he
    dsimp only
    split <;> exact hworld.environment.powerUps e hmem
  | gateStateChanged gateId newState =>
    refine ⟨hg.level, ⟨hworld.keyed, hworld.characters, hworld.timers,
      hworld.environment.powerUps, hworld.environment.enemies, ?_⟩, hg.events⟩
    intro e he
    obtain ⟨e, hmem, rfl⟩ := List.mem_map.mp he
    dsimp only
    split <;> exact hworld.environment.gates e hmem
  | playerDeath pid cause => exact ⟨hg.level, hworld.removePlayer pid, hg.events⟩
  | levelReset => exact resetForNewRun_named hg
  | _ => exact hg

end GameEngine

end DistributedSmb
