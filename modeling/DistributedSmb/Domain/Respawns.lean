import DistributedSmb.Domain.Enemies

/-!
# Waiting to respawn

A player that waits for its respawn has a timer and no character. No tick touches it before its
timer is due; then it is spawned with the join index that the engine's own table holds for it.
-/

namespace DistributedSmb

open Library

namespace GameEngine

/-- The player is dead, and `g'` knows of it what `g` knew. -/
structure Spares (pid : PlayerId) (g g' : GameEngine) : Prop where
  absent : pid ∉ g'.worldState.characters
  timer : g'.worldState.respawnTimers.get? pid = g.worldState.respawnTimers.get? pid
  index : g'.respawnJoinIndex.get? pid = g.respawnJoinIndex.get? pid

theorem Spares.refl {pid : PlayerId} {g : GameEngine} (h : pid ∉ g.worldState.characters) :
    g.Spares pid g := ⟨h, rfl, rfl⟩

theorem Spares.trans {pid : PlayerId} {g g' g'' : GameEngine} (h : Spares pid g g')
    (h' : Spares pid g' g'') : Spares pid g g'' :=
  ⟨h'.absent, h'.timer.trans h.timer, h'.index.trans h.index⟩

/-- A change of the characters that adds nobody. -/
theorem spares_of_keys {pid : PlayerId} {g g' : GameEngine} (h : pid ∉ g.worldState.characters)
    (keys : g'.worldState.characters.keys = g.worldState.characters.keys)
    (timers : g'.worldState.respawnTimers = g.worldState.respawnTimers)
    (table : g'.respawnJoinIndex = g.respawnJoinIndex) : Spares pid g g' :=
  ⟨by rwa [Dict.mem_iff, keys], by rw [timers], by rw [table]⟩

theorem queuePlayerDeath_spares {pid : PlayerId} (now : ℚ) (cause : EnemyId) {g : GameEngine}
    {p : Player} (h : pid ∉ g.worldState.characters) (hp : p.playerId ≠ pid) :
    Spares pid g (g.queuePlayerDeath now cause p) where
  absent hmem := h (Dict.mem_erase.mp hmem).1
  timer := Dict.get?_set_ne _ hp.symm _
  index := Dict.get?_set_ne _ hp.symm _

theorem setCharacter_spares {pid key : PlayerId} {g : GameEngine} (p : Player)
    (h : pid ∉ g.worldState.characters) (hkey : key ≠ pid) :
    Spares pid g (g.setCharacter key p) where
  absent hmem := (Dict.mem_set.mp hmem).elim (fun heq => hkey heq.symm) h
  timer := rfl
  index := rfl

theorem deleteEnemy_spares {pid : PlayerId} {g g' : GameEngine} {enemyId : EnemyId}
    (h : pid ∉ g.worldState.characters) (hdelete : g.deleteEnemy enemyId = .ok g') :
    Spares pid g g' := by
  simp only [deleteEnemy] at hdelete
  split at hdelete <;> cases hdelete
  exact ⟨h, rfl, rfl⟩

theorem fightEnemy_spares {pid : PlayerId} {now : ℚ} {e : Enemy} {l : List (PlayerId × Player)}
    {g g' : GameEngine} (others : ∀ e ∈ l, e.1 ≠ pid ∧ e.2.playerId ≠ pid)
    (h : pid ∉ g.worldState.characters) (hfight : fightEnemy now e g l = .ok g') :
    Spares pid g g' := by
  induction l generalizing g with
  | nil => cases hfight; exact .refl h
  | cons entry rest ih =>
    obtain ⟨key, p⟩ := entry
    obtain ⟨⟨hkey, hp⟩, others⟩ := List.forall_mem_cons.mp others
    simp only [fightEnemy] at hfight
    have hid := hasActivePowerupEffect_playerId now p
    generalize p.hasActivePowerupEffect now = checked at hfight hid
    split at hfight
    · exact ih others h hfight
    split at hfight
    · -- the enemy is defeated
      obtain ⟨g₁, hdelete, hfight⟩ := Fallible.bind_eq_ok.mp hfight
      cases hfight
      have hdeleted := deleteEnemy_spares h hdelete
      exact hdeleted.trans (setCharacter_spares _ hdeleted.absent hkey)
    · -- another player dies
      have hdeath := queuePlayerDeath_spares now e.enemyId h (hid.trans_ne hp)
      exact hdeath.trans (ih others hdeath.absent hfight)

theorem others_of_absent {pid : PlayerId} {g : GameEngine} (keyed : g.worldState.Keyed)
    (h : pid ∉ g.worldState.characters) :
    ∀ e ∈ g.worldState.characters.entries, e.1 ≠ pid ∧ e.2.playerId ≠ pid := by
  intro e he
  have hne : e.1 ≠ pid := fun heq => h (heq ▸ Dict.mem_keys_of_mem he)
  exact ⟨hne, (keyed e he).trans_ne hne⟩

theorem handleEnemyCollisions_spares {pid : PlayerId} {now : ℚ} {g g' : GameEngine}
    (keyed : g.worldState.Keyed) (h : pid ∉ g.worldState.characters)
    (hfights : g.handleEnemyCollisions now = .ok g') : Spares pid g g' := by
  unfold handleEnemyCollisions at hfights
  split at hfights
  · cases hfights; exact .refl h
  have hkept := Fallible.foldlM_keeps (P := fun g₁ : GameEngine => g₁.worldState.Keyed ∧
      Spares pid g g₁) (fun g₁ e g₂ _ hg₁ hfight => by
    refine ⟨?_, hg₁.2.trans (fightEnemy_spares (others_of_absent hg₁.1 hg₁.2.absent) hg₁.2.absent
      hfight)⟩
    exact ((fightEnemy_spec hfight).2 hg₁.1 (lists_characters hg₁.1)).1) hfights ⟨keyed, .refl h⟩
  exact hkept.2

theorem handleVoidDeaths_spares {pid : PlayerId} (now : ℚ) {g : GameEngine}
    (keyed : g.worldState.Keyed) (h : pid ∉ g.worldState.characters) :
    Spares pid g (g.handleVoidDeaths now) := by
  unfold handleVoidDeaths
  split
  · exact .refl h
  refine Fallible.foldl_keeps (P := Spares pid g) (fun g₁ p hp hg₁ => ?_) (.refl h)
  split
  · exact hg₁
  · obtain ⟨e, he, rfl⟩ := List.mem_map.mp hp
    exact hg₁.trans (queuePlayerDeath_spares now _ hg₁.absent (others_of_absent keyed h e he).2)

/-! ## Respawning -/

/-- What `spawn_player` makes of a join index. -/
def spawned (g : GameEngine) (pid : PlayerId) (joinIndex : ℕ) : Player :=
  Player.clampToWorld g.worldWidth g.worldHeight true
    { playerId := pid
      x := (g.spawnPositionFor joinIndex).1
      y := (g.spawnPositionFor joinIndex).2
      joinIndex := joinIndex }

theorem respawn_self (g : GameEngine) (pid : PlayerId) :
    (g.respawn pid).worldState.getPlayer pid =
      some (g.spawned pid (g.respawnJoinIndex.getD pid 0)) :=
  Dict.get?_set_self _ pid _

/-- The respawn of somebody else. -/
theorem respawn_other (g : GameEngine) {pid q : PlayerId} (h : q ≠ pid) :
    (g.respawn q).worldState.getPlayer pid = g.worldState.getPlayer pid ∧
      (g.respawn q).worldState.respawnTimers.get? pid = g.worldState.respawnTimers.get? pid ∧
      (g.respawn q).respawnJoinIndex.get? pid = g.respawnJoinIndex.get? pid :=
  ⟨Dict.get?_set_ne _ h.symm _, Dict.get?_erase_ne _ h.symm, Dict.get?_erase_ne _ h.symm⟩

/-- The loop over the timers, for any part of them. -/
def respawnDue (now : ℚ) (g : GameEngine) (timers : List (PlayerId × ℚ)) : GameEngine :=
  timers.foldl (fun g timer => if now ≥ timer.2 then g.respawn timer.1 else g) g

theorem respawnDue_other {now : ℚ} {timers : List (PlayerId × ℚ)} {g : GameEngine} {pid : PlayerId}
    (h : ∀ timer ∈ timers, timer.1 = pid → now < timer.2) :
    (respawnDue now g timers).worldState.getPlayer pid = g.worldState.getPlayer pid ∧
      (respawnDue now g timers).worldState.respawnTimers.get? pid =
        g.worldState.respawnTimers.get? pid ∧
      (respawnDue now g timers).respawnJoinIndex.get? pid = g.respawnJoinIndex.get? pid := by
  refine Fallible.foldl_keeps (P := fun g₁ : GameEngine =>
    g₁.worldState.getPlayer pid = g.worldState.getPlayer pid ∧
      g₁.worldState.respawnTimers.get? pid = g.worldState.respawnTimers.get? pid ∧
      g₁.respawnJoinIndex.get? pid = g.respawnJoinIndex.get? pid)
    (fun g₁ timer htimer hg₁ => ?_) ⟨rfl, rfl, rfl⟩
  split
  case isTrue hdue =>
    have hne : timer.1 ≠ pid := fun heq => absurd hdue (not_le.mpr (h timer htimer heq))
    obtain ⟨hplayer, htimers, hindex⟩ := g₁.respawn_other hne
    exact ⟨hplayer.trans hg₁.1, htimers.trans hg₁.2.1, hindex.trans hg₁.2.2⟩
  case isFalse => exact hg₁

theorem respawnDue_setting (now : ℚ) (timers : List (PlayerId × ℚ)) (g : GameEngine) :
    (respawnDue now g timers).setting = g.setting := by
  refine Fallible.foldl_keeps (P := fun g₁ : GameEngine => g₁.setting = g.setting)
    (fun g₁ timer _ hg₁ => ?_) rfl
  split
  · exact hg₁
  · exact hg₁

theorem spawned_of_setting {g g' : GameEngine} (h : g'.setting = g.setting) (pid : PlayerId)
    (joinIndex : ℕ) : g'.spawned pid joinIndex = g.spawned pid joinIndex := by
  simp only [setting, Prod.mk.injEq] at h
  obtain ⟨-, -, hwidth, hheight, hpoints, -⟩ := h
  simp only [spawned, spawnPositionFor, hwidth, hheight, hpoints]

theorem respawnDue_self {now due : ℚ} {timers : List (PlayerId × ℚ)}
    (nodup : (timers.map Prod.fst).Nodup) {g : GameEngine} {pid : PlayerId}
    (h : (pid, due) ∈ timers) (hdue : due ≤ now) :
    (respawnDue now g timers).worldState.getPlayer pid =
        some (g.spawned pid (g.respawnJoinIndex.getD pid 0)) ∧
      pid ∉ (respawnDue now g timers).worldState.respawnTimers := by
  obtain ⟨before, after, rfl⟩ := List.append_of_mem h
  rw [List.map_append, List.map_cons, List.nodup_append, List.nodup_cons] at nodup
  obtain ⟨-, ⟨hafter, -⟩, hbefore⟩ := nodup
  have hothers (timer : PlayerId × ℚ) (htimer : timer ∈ before) (heq : timer.1 = pid) :
      now < timer.2 :=
    absurd heq (hbefore _ (List.mem_map_of_mem htimer) _ List.mem_cons_self)
  have hlater (timer : PlayerId × ℚ) (htimer : timer ∈ after) (heq : timer.1 = pid) :
      now < timer.2 := absurd (List.mem_map.mpr ⟨timer, htimer, heq⟩) hafter
  have hfirst := respawnDue_other (g := g) hothers
  have hsplit : respawnDue now g (before ++ (pid, due) :: after) =
      respawnDue now ((respawnDue now g before).respawn pid) after := by
    simp [respawnDue, hdue]
  obtain ⟨hplayer, htimer, -⟩ :=
    respawnDue_other (g := (respawnDue now g before).respawn pid) hlater
  constructor
  · rw [hsplit, hplayer, respawn_self, Dict.getD, hfirst.2.2, ← Dict.getD,
      spawned_of_setting (respawnDue_setting now before g)]
  · rw [hsplit, ← Dict.get?_eq_none_iff, htimer]
    exact Dict.get?_erase_self _ pid

/-! ## The tick -/

/-- A stage touches nobody who is dead, except that `process_respawns` spawns whose time has
come. -/
theorem stage_spares {pid : PlayerId} {args : TickArgs} {stage : TickStage} {g g' : GameEngine}
    (keyed : g.worldState.Keyed) (h : pid ∉ g.worldState.characters)
    (waits : stage = .processRespawns → ∀ due, g.worldState.respawnTimers.get? pid = some due →
      args.now < due)
    (hrun : stage.run args g = .ok g') : Spares pid g g' := by
  cases stage with
  | applyInputs =>
    cases hrun
    exact spares_of_keys h (Dict.keys_mapWithKey _ _) rfl rfl
  | handleBlockCollisions =>
    obtain ⟨⟨blocks, characters, events⟩, hsweep, hrun⟩ := Fallible.bind_eq_ok.mp hrun
    cases hrun
    exact spares_of_keys h (Dict.keys_sweep hsweep) rfl rfl
  | handlePowerupCollisions =>
    simp only [TickStage.run, handlePowerupCollisions] at hrun
    split at hrun
    · cases hrun; exact .refl h
    obtain ⟨⟨characters, powerUps, events⟩, hsweep, hrun⟩ := Fallible.bind_eq_ok.mp hrun
    cases hrun
    have hsame := Dict.sweep_state_rel
      (Q := fun (cs : Dict PlayerId Player) (_ : List GameEvent) cs' => SameCharacters cs cs')
      (fun cs => .refl cs) (fun h h' => h.trans h')
      (fun cs key u cs' u' out hu => by
        rcases awardPowerup_cases hu with ⟨rfl, -, -⟩ | ⟨pid, p, p', hp, hid, rfl, -, -⟩
        · exact .refl cs'
        · exact sameCharacters_set hp hid) hsweep
    exact spares_of_keys h hsame.1 rfl rfl
  | handleEnemyCollisions => exact handleEnemyCollisions_spares keyed h hrun
  | handleVoidDeaths => cases hrun; exact handleVoidDeaths_spares args.now keyed h
  | handleGateCollisions =>
    cases hrun
    exact spares_of_keys h g.handleGateCollisions_sameCharacters.1 rfl rfl
  | handleVictoryCondition =>
    cases hrun
    unfold handleVictoryCondition
    split
    · exact .refl h
    · split
      · exact ⟨h, rfl, rfl⟩
      · exact .refl h
  | processRespawns =>
    cases hrun
    unfold processRespawns
    split
    · exact .refl h
    have hothers : ∀ timer ∈ g.worldState.respawnTimers.entries, timer.1 = pid →
        args.now < timer.2 := by
      rintro ⟨q, due⟩ hmem rfl
      exact waits rfl due (Dict.get?_eq_some_iff.mpr hmem)
    obtain ⟨hplayer, htimer, hindex⟩ := respawnDue_other (g := g) hothers
    refine ⟨?_, htimer, hindex⟩
    rw [← Dict.get?_eq_none_iff] at h ⊢
    exact hplayer.trans h
  | updateEnemies => cases hrun; exact ⟨h, rfl, rfl⟩
  | syncObjectiveProgress => cases hrun; exact ⟨h, rfl, rfl⟩
  | _ => cases hrun; exact spares_of_keys h (Dict.keys_mapValues _ _) rfl rfl

/-- What a player that waits for its respawn looks like. -/
structure Waits (g : GameEngine) (pid : PlayerId) (due : ℚ) : Prop where
  absent : pid ∉ g.worldState.characters
  timer : g.worldState.respawnTimers.get? pid = some due

theorem Waits.spared {g g' : GameEngine} {pid : PlayerId} {due : ℚ} (h : g.Waits pid due)
    (hg : Spares pid g g') : g'.Waits pid due := ⟨hg.absent, hg.timer.trans h.timer⟩

/-- Stages that do not respawn the player, whether because of the stage or of the time. -/
theorem stages_spare {pid : PlayerId} {due : ℚ} {args : TickArgs} {stages : List TickStage}
    {g g' : GameEngine} (keyed : g.worldState.Keyed) (h : g.Waits pid due)
    (waits : .processRespawns ∈ stages → args.now < due)
    (hrun : stages.foldlM (TickStage.run args) g = .ok g') :
    g'.worldState.Keyed ∧ Spares pid g g' := by
  refine Fallible.foldlM_keeps (P := fun g₁ : GameEngine => g₁.worldState.Keyed ∧ Spares pid g g₁)
    (fun g₁ stage g₂ hstage hg₁ hstep => ?_) hrun ⟨keyed, .refl h.absent⟩
  refine ⟨((stage_evolves hstep).participants hg₁.1).1, hg₁.2.trans ?_⟩
  refine stage_spares hg₁.1 hg₁.2.absent ?_ hstep
  rintro rfl due' hdue'
  obtain rfl := Option.some.inj ((h.spared hg₁.2).timer.symm.trans hdue')
  exact waits hstage

/-- A tick before the timer is due. -/
theorem tick_spares {pid : PlayerId} {due : ℚ} {args : TickArgs} {g g' : GameEngine}
    (keyed : g.worldState.Keyed) (h : g.Waits pid due) (early : args.now < due)
    (htick : g.tick args = .ok g') : g'.worldState.Keyed ∧ Spares pid g g' := by
  unfold tick at htick
  split at htick
  · cases htick
    exact ⟨keyed, spares_of_keys h.absent rfl rfl rfl⟩
  · obtain ⟨g₁, hstages, htick⟩ := Fallible.bind_eq_ok.mp htick
    cases htick
    obtain ⟨hkeyed, hspares⟩ := stages_spare keyed h (fun _ => early) hstages
    exact ⟨hkeyed, hspares.absent, hspares.timer, hspares.index⟩

theorem ticks_spare {pid : PlayerId} {due : ℚ} {ticks : List TickArgs} {g g' : GameEngine}
    (keyed : g.worldState.Keyed) (h : g.Waits pid due) (early : ∀ args ∈ ticks, args.now < due)
    (hrun : ticks.foldlM tick g = .ok g') :
    g'.worldState.Keyed ∧ Spares pid g g' ∧ g'.setting = g.setting := by
  refine Fallible.foldlM_keeps (P := fun g₁ : GameEngine => g₁.worldState.Keyed ∧
    Spares pid g g₁ ∧ g₁.setting = g.setting) (fun g₁ args g₂ hargs hg₁ htick => ?_) hrun
    ⟨keyed, .refl h.absent, rfl⟩
  obtain ⟨hkeyed, hspares⟩ := tick_spares hg₁.1 (h.spared hg₁.2.1) (early args hargs) htick
  exact ⟨hkeyed, hg₁.2.1.trans hspares, (tick_setting htick).trans hg₁.2.2⟩

/-- The first tick in which the timer is due spawns the player with the index of the table. -/
theorem tick_respawns {pid : PlayerId} {due : ℚ} {args : TickArgs} {g g' : GameEngine}
    (authoritative : g.isAuthoritative = true) (keyed : g.worldState.Keyed) (h : g.Waits pid due)
    (running : g.worldState.victory = false) (hdue : due ≤ args.now)
    (htick : g.tick args = .ok g') :
    g'.worldState.getPlayer pid = some (g.spawned pid (g.respawnJoinIndex.getD pid 0)) := by
  have hsplit : tickStages = tickStages.dropLast ++ [.processRespawns] := rfl
  rw [tick, if_neg (by simp [running]), hsplit, List.foldlM_append] at htick
  obtain ⟨g₂, hstages, htick⟩ := Fallible.bind_eq_ok.mp htick
  obtain ⟨g₁, hbefore, hstages⟩ := Fallible.bind_eq_ok.mp hstages
  have hothers : .processRespawns ∉ tickStages.dropLast := by decide
  obtain ⟨-, hspares⟩ := stages_spare keyed h (fun hmem => absurd hmem hothers) hbefore
  have hsetting : g₁.setting = g.setting :=
    (Fallible.foldlM_rel Evolves.refl Evolves.trans (fun _ _ _ _ h => stage_evolves h)
      hbefore).setting
  have hauthority : g₁.isAuthoritative = true :=
    (congrArg (fun s => s.2.1) hsetting).trans authoritative
  have hmem := Dict.get?_eq_some_iff.mp (h.spared hspares).timer
  cases htick
  cases hstages
  have hspawned := (respawnDue_self g₁.worldState.respawnTimers.nodup (g := g₁) hmem hdue).1
  rw [Dict.getD, hspares.index, ← Dict.getD, spawned_of_setting hsetting] at hspawned
  rw [← hspawned]
  simp only [countTick, processRespawns, hauthority, respawnDue]
  rfl

end GameEngine

end DistributedSmb
