import DistributedSmb.Domain.Respawns

/-!
# What only an authoritative engine does

A predicting engine skips five stages of a tick: it collects no power-up, defeats no enemy, kills
nobody, declares no victory and respawns nobody. A tick in which an authoritative engine does
nothing of this is a tick of both.
-/

namespace DistributedSmb

open Library

namespace GameEngine

/-- The same engine on a client. -/
def predicting (g : GameEngine) : GameEngine := { g with isAuthoritative := false }

/-- The events that were queued between two states. -/
def queued (g g' : GameEngine) : List GameEvent := g'.events.drop g.events.length

/-- Nothing was collected, no death was announced, no enemy was removed, nobody won and nobody was
respawned. A power-up is collected together with the event that says so. -/
structure Uneventful (g g' : GameEngine) : Prop where
  powerUps : ∀ powerupId pid, .powerUpCollected powerupId pid ∉ g.queued g'
  players : ∀ pid cause, .playerDeath pid cause ∉ g.queued g'
  enemies : ∀ enemyId ∈ g.enemies, enemyId ∈ g'.enemies
  victory : g'.worldState.victory = true → g.worldState.victory = true
  timers : ∀ pid ∈ g.worldState.respawnTimers, pid ∈ g'.worldState.respawnTimers

/-- What is never taken back during a tick. A timer is only set for a player that died. -/
structure Advances (g g' : GameEngine) : Prop where
  events : g.events <+: g'.events
  enemies : ∀ enemyId ∈ g'.enemies, enemyId ∈ g.enemies
  victory : g.worldState.victory = true → g'.worldState.victory = true
  timers : (∀ pid cause, .playerDeath pid cause ∉ g.queued g') →
    ∀ pid ∈ g'.worldState.respawnTimers, pid ∈ g.worldState.respawnTimers

theorem queued_append {g g' : GameEngine} {events : List GameEvent}
    (h : g'.events = g.events ++ events) : g.queued g' = events := by
  rw [queued, h, List.drop_left]

theorem queued_trans {g g' g'' : GameEngine} (h : g.events <+: g'.events)
    (h' : g'.events <+: g''.events) : g.queued g'' = g.queued g' ++ g'.queued g'' := by
  obtain ⟨events, h⟩ := h
  obtain ⟨rest, h'⟩ := h'
  rw [queued_append h.symm, queued_append h'.symm]
  exact queued_append (by rw [← h', ← h, List.append_assoc])

theorem Advances.refl (g : GameEngine) : g.Advances g := ⟨List.prefix_rfl, by simp, id, by simp⟩

theorem Advances.trans {g g' g'' : GameEngine} (h : g.Advances g') (h' : g'.Advances g'') :
    g.Advances g'' where
  events := h.events.trans h'.events
  enemies enemyId he := h.enemies enemyId (h'.enemies enemyId he)
  victory hv := h'.victory (h.victory hv)
  timers alive pid hpid := by
    simp only [queued_trans h.events h'.events, List.mem_append, not_or] at alive
    exact h.timers (fun pid cause => (alive pid cause).1) pid
      (h'.timers (fun pid cause => (alive pid cause).2) pid hpid)

/-- An uneventful stretch has no eventful part. -/
theorem Uneventful.split {g g' g'' : GameEngine} (h : g.Advances g') (h' : g'.Advances g'')
    (uneventful : g.Uneventful g'') : g.Uneventful g' ∧ g'.Uneventful g'' := by
  obtain ⟨powerUps, players, enemies, victory, timers⟩ := uneventful
  simp only [queued_trans h.events h'.events, List.mem_append, not_or] at powerUps players
  have alive (pid : PlayerId) (cause : EnemyId) := (players pid cause).1
  have alive' (pid : PlayerId) (cause : EnemyId) := (players pid cause).2
  constructor
  · exact ⟨fun u pid => (powerUps u pid).1, alive,
      fun enemyId he => h'.enemies enemyId (enemies enemyId he),
      fun hv => victory (h'.victory hv),
      fun pid hpid => h'.timers alive' pid (timers pid hpid)⟩
  · exact ⟨fun u pid => (powerUps u pid).2, alive',
      fun enemyId he => enemies enemyId (h.enemies enemyId he),
      fun hv => h.victory (victory hv),
      fun pid hpid => timers pid (h.timers alive pid hpid)⟩

/-! ## What a stage advances -/

theorem advances_of_eq {g g' : GameEngine} (events : g.events <+: g'.events)
    (enemies : ∀ enemyId ∈ g'.enemies, enemyId ∈ g.enemies)
    (victory : g'.worldState.victory = g.worldState.victory)
    (timers : g'.worldState.respawnTimers = g.worldState.respawnTimers) : g.Advances g' :=
  ⟨events, enemies, fun h => victory.trans h, fun _ _ hpid => timers ▸ hpid⟩

theorem deleteEnemy_advances {g g' : GameEngine} {enemyId : EnemyId}
    (h : g.deleteEnemy enemyId = .ok g') :
    g.Advances g' ∧ enemyId ∈ g.enemies ∧ enemyId ∉ g'.enemies := by
  have herased := deleteEnemy_enemies h
  have hgone : enemyId ∉ g'.enemies := by simp [herased]
  simp only [deleteEnemy] at h
  split at h <;> cases h
  case isTrue hstored =>
    refine ⟨advances_of_eq List.prefix_rfl (fun other he => ?_) rfl rfl, hstored, hgone⟩
    exact (Dict.mem_erase.mp (herased ▸ he)).1

theorem queuePlayerDeath_advances (now : ℚ) (cause : EnemyId) (g : GameEngine) (p : Player) :
    g.Advances (g.queuePlayerDeath now cause p) ∧
      .playerDeath p.playerId cause ∈ g.queued (g.queuePlayerDeath now cause p) := by
  have hqueued : g.queued (g.queuePlayerDeath now cause p) = [.playerDeath p.playerId cause] :=
    queued_append rfl
  have hdeath : .playerDeath p.playerId cause ∈ g.queued (g.queuePlayerDeath now cause p) := by
    simp [hqueued]
  exact ⟨⟨List.prefix_append _ _, fun _ he => he, id, fun alive => absurd hdeath (alive _ _)⟩,
    hdeath⟩

theorem fightEnemy_advances {now : ℚ} {e : Enemy} {l : List (PlayerId × Player)} {g g' : GameEngine}
    (h : fightEnemy now e g l = .ok g') : g.Advances g' := by
  induction l generalizing g with
  | nil => cases h; exact .refl _
  | cons entry rest ih =>
    obtain ⟨key, p⟩ := entry
    simp only [fightEnemy] at h
    split at h
    · exact ih h
    split at h
    · obtain ⟨g₁, hdelete, h⟩ := Fallible.bind_eq_ok.mp h
      cases h
      exact (deleteEnemy_advances hdelete).1.trans
        (advances_of_eq List.prefix_rfl (fun _ he => he) rfl rfl)
    · exact (queuePlayerDeath_advances now e.enemyId g _).1.trans (ih h)

theorem respawn_advances (g : GameEngine) (pid : PlayerId) :
    g.Advances (g.respawn pid) ∧ pid ∉ (g.respawn pid).worldState.respawnTimers := by
  refine ⟨⟨List.prefix_rfl, fun _ he => he, id, fun _ q hq => ?_⟩, fun h => ?_⟩
  · exact (Dict.mem_erase.mp hq).1
  · exact (Dict.mem_erase.mp h).2 rfl

theorem respawnDue_advances (now : ℚ) (g : GameEngine) (timers : List (PlayerId × ℚ)) :
    g.Advances (respawnDue now g timers) := by
  refine Fallible.foldl_keeps (P := g.Advances) (fun g₁ timer _ h => ?_) (.refl g)
  split
  · exact h.trans (respawn_advances g₁ timer.1).1
  · exact h

/-- The deaths of the players that fell out of the world. -/
def killFallen (now : ℚ) (g : GameEngine) (players : List Player) : GameEngine :=
  players.foldl (fun (g : GameEngine) (p : Player) =>
    if p.y + p.height ≤ g.worldHeight then g else g.queuePlayerDeath now voidDeathCause p) g

theorem killFallen_advances (now : ℚ) (g : GameEngine) (players : List Player) :
    g.Advances (killFallen now g players) := by
  refine Fallible.foldl_keeps (P := g.Advances) (fun g₁ p _ h => ?_) (.refl g)
  split
  · exact h
  · exact h.trans (queuePlayerDeath_advances now voidDeathCause g₁ p).1

theorem handleVictoryCondition_advances (g : GameEngine) : g.Advances g.handleVictoryCondition := by
  unfold handleVictoryCondition
  split
  · exact .refl g
  · split
    · exact ⟨List.prefix_rfl, fun _ he => he, fun _ => rfl, fun _ _ hpid => hpid⟩
    · exact .refl g

theorem stage_advances {args : TickArgs} {stage : TickStage} {g g' : GameEngine}
    (h : stage.run args g = .ok g') : g.Advances g' := by
  cases stage with
  | handleBlockCollisions =>
    obtain ⟨⟨blocks, characters, events⟩, -, h⟩ := Fallible.bind_eq_ok.mp h
    cases h
    exact advances_of_eq (List.prefix_append _ _) (fun _ he => he) rfl rfl
  | handlePowerupCollisions =>
    simp only [TickStage.run, handlePowerupCollisions] at h
    split at h
    · cases h; exact .refl g
    · obtain ⟨⟨characters, powerUps, events⟩, -, h⟩ := Fallible.bind_eq_ok.mp h
      cases h
      exact advances_of_eq (List.prefix_append _ _) (fun _ he => he) rfl rfl
  | updateEnemies =>
    have hfrom := stage_enemies h
    cases h
    refine advances_of_eq List.prefix_rfl (fun enemyId he => ?_) rfl rfl
    obtain ⟨e', he'⟩ := Dict.exists_of_mem he
    obtain ⟨e, hmem, rfl, -⟩ := hfrom _ he'
    exact Dict.mem_keys_of_mem hmem
  | handleEnemyCollisions =>
    simp only [TickStage.run, handleEnemyCollisions] at h
    split at h
    · cases h; exact .refl g
    · exact Fallible.foldlM_rel Advances.refl Advances.trans
        (fun g e g' _ h => fightEnemy_advances h) h
  | handleVoidDeaths =>
    cases h
    rw [handleVoidDeaths]
    split
    · exact .refl g
    · exact killFallen_advances args.now g _
  | handleGateCollisions =>
    cases h
    exact advances_of_eq (List.prefix_append _ _) (fun _ he => he) rfl rfl
  | handleVictoryCondition => cases h; exact handleVictoryCondition_advances g
  | processRespawns =>
    cases h
    rw [processRespawns]
    split
    · exact .refl g
    · exact respawnDue_advances args.now g _
  | _ => cases h; exact advances_of_eq List.prefix_rfl (fun _ he => he) rfl rfl

theorem tick_advances {args : TickArgs} {g g' : GameEngine} (h : g.tick args = .ok g') :
    g.Advances g' := by
  unfold tick at h
  split at h
  · cases h
    exact advances_of_eq List.prefix_rfl (fun _ he => he) rfl rfl
  · obtain ⟨g₁, hstages, h⟩ := Fallible.bind_eq_ok.mp h
    cases h
    have hstages : g.Advances g₁ :=
      Fallible.foldlM_rel Advances.refl Advances.trans (fun _ _ _ _ h => stage_advances h) hstages
    exact hstages.trans (advances_of_eq List.prefix_rfl (fun _ he => he) rfl rfl)

/-! ## The stages without their effects -/

/-- A power-up that is collected is reported. -/
theorem awardPowerup_idle {now : ℚ} {characters characters' : Dict PlayerId Player}
    {key : PowerUpId} {u u' : ExclusivePowerUp}
    (h : awardPowerup now characters key u = .ok (characters', u', [])) :
    characters' = characters ∧ u' = u := by
  rcases awardPowerup_cases h with ⟨hcharacters, hu, -⟩ | ⟨_, _, _, _, _, _, _, hout⟩
  · exact ⟨hcharacters, hu⟩
  · cases hout

theorem handlePowerupCollisions_idle {now : ℚ} {g g' : GameEngine}
    (h : g.handlePowerupCollisions now = .ok g') (uneventful : g.Uneventful g') : g' = g := by
  unfold handlePowerupCollisions at h
  split at h
  · cases h; rfl
  obtain ⟨⟨characters, powerUps, events⟩, hsweep, h⟩ := Fallible.bind_eq_ok.mp h
  have hcollections : ∀ o ∈ events, ∃ powerupId pid, o = .powerUpCollected powerupId pid :=
    Dict.sweep_state_rel
      (Q := fun _ out _ => ∀ o ∈ out, ∃ powerupId pid, o = GameEvent.powerUpCollected powerupId pid)
      (by simp) (fun h h' o ho => (List.mem_append.mp ho).elim (h o) (h' o))
      (fun cs key u cs' u' out hu => by
        rcases awardPowerup_cases hu with ⟨-, -, rfl⟩ | ⟨pid, p, p', -, -, -, -, rfl⟩ <;>
          simp) hsweep
  obtain rfl : events = [] := by
    refine List.eq_nil_iff_forall_not_mem.mpr fun event he => ?_
    obtain ⟨powerupId, pid, rfl⟩ := hcollections event he
    have hqueued : g.queued g' = events := queued_append (by cases h; rfl)
    exact uneventful.powerUps powerupId pid (hqueued ▸ he)
  obtain ⟨rfl, rfl⟩ := Dict.sweep_idle (fun _ _ _ _ _ hu => awardPowerup_idle hu) hsweep
  cases h
  simp

theorem fightEnemy_idle {now : ℚ} {e : Enemy} {l : List (PlayerId × Player)} {g g' : GameEngine}
    (h : fightEnemy now e g l = .ok g') (uneventful : g.Uneventful g') : g' = g := by
  induction l with
  | nil => cases h; rfl
  | cons entry rest ih =>
    obtain ⟨key, p⟩ := entry
    simp only [fightEnemy] at h
    split at h
    · exact ih h
    split at h
    · -- a defeated enemy would be missing
      obtain ⟨g₁, hdelete, h⟩ := Fallible.bind_eq_ok.mp h
      cases h
      obtain ⟨-, hstored, hgone⟩ := deleteEnemy_advances hdelete
      exact absurd (uneventful.enemies e.enemyId hstored) hgone
    · -- a death would have been reported
      obtain ⟨hadvances, hdeath⟩ := queuePlayerDeath_advances now e.enemyId g
        (p.hasActivePowerupEffect now).1
      exact absurd hdeath ((uneventful.split hadvances (fightEnemy_advances h)).1.players _ _)

theorem handleEnemyCollisions_idle {now : ℚ} {g g' : GameEngine}
    (h : g.handleEnemyCollisions now = .ok g') (uneventful : g.Uneventful g') : g' = g := by
  unfold handleEnemyCollisions at h
  split at h
  · cases h; rfl
  exact Fallible.foldlM_idle Advances.refl Advances.trans Uneventful.split
    (fun g e g' h => fightEnemy_advances h)
    (fun g e g' _ h huneventful => fightEnemy_idle h huneventful) h uneventful

theorem killFallen_idle {now : ℚ} {g : GameEngine} {players : List Player}
    (uneventful : g.Uneventful (killFallen now g players)) : killFallen now g players = g := by
  induction players with
  | nil => rfl
  | cons p rest ih =>
    simp only [killFallen, List.foldl_cons] at uneventful ⊢
    split at uneventful
    case isTrue hinside =>
      rw [if_pos hinside]
      exact ih uneventful
    case isFalse =>
      obtain ⟨hadvances, hdeath⟩ := queuePlayerDeath_advances now voidDeathCause g p
      exact absurd hdeath
        ((uneventful.split hadvances (killFallen_advances now _ rest)).1.players _ _)

theorem respawnDue_idle {now : ℚ} {g : GameEngine} {timers : List (PlayerId × ℚ)}
    (stored : ∀ timer ∈ timers, timer.1 ∈ g.worldState.respawnTimers)
    (uneventful : g.Uneventful (respawnDue now g timers)) : respawnDue now g timers = g := by
  induction timers with
  | nil => rfl
  | cons timer rest ih =>
    obtain ⟨hstored, hrest⟩ := List.forall_mem_cons.mp stored
    simp only [respawnDue, List.foldl_cons] at uneventful ⊢
    split at uneventful
    case isTrue =>
      -- a respawn deletes its timer
      obtain ⟨hadvances, hgone⟩ := respawn_advances g timer.1
      have hpart := (uneventful.split hadvances (respawnDue_advances now _ rest)).1
      exact absurd (hpart.timers timer.1 hstored) hgone
    case isFalse hwaits =>
      rw [if_neg hwaits]
      exact ih hrest uneventful

theorem handleVictoryCondition_idle {g : GameEngine}
    (uneventful : g.Uneventful g.handleVictoryCondition) : g.handleVictoryCondition = g := by
  unfold handleVictoryCondition at uneventful ⊢
  split at uneventful
  case isTrue hskipped => rw [if_pos hskipped]
  case isFalse hundecided =>
    rw [if_neg hundecided]
    split at uneventful
    case h_1 =>
      have hwon := uneventful.victory rfl
      simp [hwon] at hundecided
    case h_2 => rfl

/-- A stage without any effect of an authoritative engine is that of a predicting one. -/
theorem stage_predicting {args : TickArgs} {stage : TickStage} {g g' : GameEngine}
    (h : stage.run args g = .ok g') (uneventful : g.Uneventful g') :
    stage.run args g.predicting = .ok g'.predicting := by
  cases stage with
  | handleBlockCollisions =>
    obtain ⟨⟨blocks, characters, events⟩, hsweep, h⟩ := Fallible.bind_eq_ok.mp h
    cases h
    exact Fallible.bind_eq_ok.mpr ⟨_, hsweep, rfl⟩
  | handlePowerupCollisions => rw [handlePowerupCollisions_idle h uneventful]; rfl
  | handleEnemyCollisions => rw [handleEnemyCollisions_idle h uneventful]; rfl
  | handleVoidDeaths =>
    obtain rfl := Except.ok.inj h
    have hidle : g.handleVoidDeaths args.now = g := by
      unfold handleVoidDeaths at uneventful ⊢
      split at uneventful
      case isTrue hskipped => rw [if_pos hskipped]
      case isFalse hhost =>
        rw [if_neg hhost]
        exact killFallen_idle uneventful
    rw [hidle]
    rfl
  | handleVictoryCondition =>
    obtain rfl := Except.ok.inj h
    rw [handleVictoryCondition_idle uneventful]
    rfl
  | processRespawns =>
    obtain rfl := Except.ok.inj h
    have hidle : g.processRespawns args.now = g := by
      unfold processRespawns at uneventful ⊢
      split at uneventful
      case isTrue hskipped => rw [if_pos hskipped]
      case isFalse hhost =>
        rw [if_neg hhost]
        exact respawnDue_idle (fun timer ht => Dict.mem_keys_of_mem ht) uneventful
    rw [hidle]
    rfl
  | _ => cases h; rfl

/-- An uneventful tick is also the tick of an engine without authority, down to its events. -/
theorem tick_predicting {g g' : GameEngine} {args : TickArgs} (h : g.tick args = .ok g')
    (uneventful : g.Uneventful g') : g.predicting.tick args = .ok g'.predicting := by
  unfold tick at h ⊢
  by_cases hvictory : g.worldState.victory = true
  · rw [if_pos hvictory] at h
    cases h
    exact if_pos hvictory
  · rw [if_neg hvictory] at h
    obtain ⟨g₁, hstages, h⟩ := Fallible.bind_eq_ok.mp h
    cases h
    have hagree : tickStages.foldlM (TickStage.run args) g.predicting = .ok g₁.predicting :=
      Fallible.foldlM_agrees Advances.refl Advances.trans Uneventful.split
        (fun g stage g' h => stage_advances h)
        (fun g stage g' _ h huneventful => stage_predicting h huneventful) hstages
        ⟨uneventful.powerUps, uneventful.players, uneventful.enemies, uneventful.victory,
          uneventful.timers⟩
    rw [show g.predicting.worldState.victory = g.worldState.victory from rfl,
      if_neg hvictory, hagree]
    rfl

end GameEngine

end DistributedSmb
