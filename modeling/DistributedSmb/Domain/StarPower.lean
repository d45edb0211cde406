import DistributedSmb.Domain.Conservation

/-!
# Star power

A star makes its player immune to the enemies for a while. Within that time the only stage that can
take the player out of the game is the one for those who fall out of the world.
-/

namespace DistributedSmb

open Library

/-! ## Effects -/

theorem resolveCollision_effect (p : Player) (b : Box) :
    (resolveCollision p b).powerupEffectExpiresAt = p.powerupEffectExpiresAt := by
  simp only [resolveCollision, resolveTopCollision, resolveBottomCollision, resolveLeftCollision,
    resolveRightCollision]
  split_ifs <;> rfl

theorem handleCollisions_effect (platforms : List Platform) (p : Player) :
    (p.handleCollisions platforms).powerupEffectExpiresAt = p.powerupEffectExpiresAt := by
  refine Fallible.foldl_keeps
    (P := fun q : Player => q.powerupEffectExpiresAt = p.powerupEffectExpiresAt) ?_ rfl
  intro q platform _ hq
  split
  · exact (resolveCollision_effect q platform.box).trans hq
  · exact hq

/-- The effect of the player lasts until `due` at least. -/
def Player.LastsUntil (due : ℚ) (p : Player) : Prop :=
  ∃ expiresAt, p.powerupEffectExpiresAt = some expiresAt ∧ due ≤ expiresAt

namespace Player.LastsUntil

variable {due now : ℚ} {p q : Player}

theorem of_effect (h : p.LastsUntil due)
    (same : q.powerupEffectExpiresAt = p.powerupEffectExpiresAt) : q.LastsUntil due := by
  obtain ⟨expiresAt, heffect, hdue⟩ := h
  exact ⟨expiresAt, same.trans heffect, hdue⟩

theorem expirePowerupEffect (h : p.LastsUntil due) (early : now < due) :
    (p.expirePowerupEffect now).LastsUntil due := by
  obtain ⟨expiresAt, heffect, hdue⟩ := id h
  unfold Player.expirePowerupEffect
  rw [heffect]
  dsimp only
  rw [if_neg (not_le.mpr (early.trans_le hdue))]
  exact h

theorem hasActivePowerupEffect (h : p.LastsUntil due) (early : now < due) :
    p.hasActivePowerupEffect now = (p, true) := by
  obtain ⟨expiresAt, heffect, hdue⟩ := h
  unfold Player.hasActivePowerupEffect
  rw [heffect]
  dsimp only
  rw [if_neg (not_le.mpr (early.trans_le hdue))]

end Player.LastsUntil

/-- The player is among the characters, under the effect of a star until `due` at least. -/
def Shielded (pid : PlayerId) (due : ℚ) (characters : Dict PlayerId Player) : Prop :=
  ∃ p, characters.get? pid = some p ∧ p.LastsUntil due

namespace Shielded

variable {pid : PlayerId} {due now : ℚ} {cs cs' : Dict PlayerId Player}

theorem of_get? (h : Shielded pid due cs) (same : cs'.get? pid = cs.get? pid) :
    Shielded pid due cs' := by
  obtain ⟨p, hp, lasts⟩ := h
  exact ⟨p, same.trans hp, lasts⟩

theorem mapWithKey {f : PlayerId → Player → Player} (h : Shielded pid due cs)
    (keeps : ∀ p : Player, p.LastsUntil due → (f pid p).LastsUntil due) :
    Shielded pid due (cs.mapWithKey f) := by
  obtain ⟨p, hp, lasts⟩ := h
  exact ⟨f pid p, by rw [Dict.get?_mapWithKey, hp, Option.map_some], keeps p lasts⟩

theorem mapValues {f : Player → Player} (h : Shielded pid due cs)
    (keeps : ∀ p : Player, p.LastsUntil due → (f p).LastsUntil due) :
    Shielded pid due (cs.mapValues f) := h.mapWithKey (f := fun _ => f) keeps

theorem lasts (h : Shielded pid due cs) {e : PlayerId × Player} (he : e ∈ cs.entries)
    (heq : e.1 = pid) : e.2.LastsUntil due := by
  obtain ⟨p, hp, lasts⟩ := h
  obtain rfl : e.2 = p :=
    Option.some.inj ((Dict.get?_eq_some_iff.mpr (heq ▸ he)).symm.trans hp)
  exact lasts

theorem set (h : Shielded pid due cs) {key : PlayerId} {p : Player}
    (keeps : key = pid → p.LastsUntil due) : Shielded pid due (cs.set key p) := by
  by_cases heq : key = pid
  · subst heq
    exact ⟨p, Dict.get?_set_self cs key p, keeps rfl⟩
  · exact h.of_get? (Dict.get?_set_ne cs (Ne.symm heq) p)

theorem mem (h : Shielded pid due cs) : pid ∈ cs := by
  obtain ⟨p, hp, -⟩ := h
  exact Dict.mem_of_get?_eq_some hp

/-- A further star cannot end before the first one. -/
theorem awardPowerup {key : PowerUpId} {u u' : ExclusivePowerUp} {out : List GameEvent}
    (h : Shielded pid due cs) (recent : due ≤ now + starEffectS)
    (haward : DistributedSmb.awardPowerup now cs key u = .ok (cs', u', out)) :
    Shielded pid due cs' := by
  unfold DistributedSmb.awardPowerup at haward
  split at haward
  case isTrue => cases haward; exact h
  case isFalse hcollected =>
    dsimp only at haward
    split at haward
    · cases haward; exact h
    · rename_i winnerKey winner hwinner
      have hmem := (List.mem_filter.mp (List.minOn?_mem hwinner)).1
      simp only [ExclusivePowerUp.collect, hcollected, Bool.false_eq_true, if_false,
        Fallible.ok_bind] at haward
      cases haward
      refine h.set fun heq => ?_
      split
      · exact ⟨_, rfl, recent⟩
      · exact h.lasts hmem heq

end Shielded

namespace GameEngine

/-- Whoever is under the effect of a star keeps it, or falls out of the world. -/
structure Shields (pid : PlayerId) (due : ℚ) (g g' : GameEngine) : Prop where
  events : g.events <+: g'.events
  outcome : Shielded pid due g.worldState.characters →
    Shielded pid due g'.worldState.characters ∨ .playerDeath pid voidDeathCause ∈ g.queued g'

variable {pid : PlayerId} {due now : ℚ} {g g' g'' : GameEngine}

theorem Shields.refl (pid : PlayerId) (due : ℚ) (g : GameEngine) : Shields pid due g g :=
  ⟨List.prefix_rfl, .inl⟩

theorem Shields.trans (h : Shields pid due g g') (h' : Shields pid due g' g'') :
    Shields pid due g g'' := by
  refine ⟨h.events.trans h'.events, fun shielded => ?_⟩
  rw [queued_trans h.events h'.events, List.mem_append]
  obtain hg' | hfell := h.outcome shielded
  · exact (h'.outcome hg').imp_right .inr
  · exact .inr (.inl hfell)

theorem shields_of_characters (events : g.events <+: g'.events)
    (characters : Shielded pid due g.worldState.characters →
      Shielded pid due g'.worldState.characters) : Shields pid due g g' :=
  ⟨events, fun shielded => .inl (characters shielded)⟩

/-! ## Enemies and falls -/

/-- The death of another player. -/
theorem queuePlayerDeath_shields (cause : EnemyId) {p : Player} (other : pid ≠ p.playerId) :
    Shields pid due g (g.queuePlayerDeath now cause p) :=
  shields_of_characters (List.prefix_append _ _) fun shielded =>
    shielded.of_get? (Dict.get?_erase_ne _ other)

/-- In each fight the player is alone, or defeats the enemy that it touches. -/
theorem fightEnemy_shields {e : Enemy} {l : List (PlayerId × Player)} (early : now < due)
    (filed : ∀ entry ∈ l, entry.2.playerId = entry.1)
    (lasts : ∀ entry ∈ l, entry.1 = pid → entry.2.LastsUntil due)
    (h : fightEnemy now e g l = .ok g') : Shields pid due g g' := by
  induction l generalizing g with
  | nil => cases h; exact .refl pid due _
  | cons entry rest ih =>
    obtain ⟨key, p⟩ := entry
    obtain ⟨hfiled, filed⟩ := List.forall_mem_cons.mp filed
    obtain ⟨hlasts, lasts⟩ := List.forall_mem_cons.mp lasts
    simp only [fightEnemy] at h
    have hid := hasActivePowerupEffect_playerId now p
    have hactive : key = pid → p.hasActivePowerupEffect now = (p, true) := fun heq =>
      (hlasts heq).hasActivePowerupEffect early
    generalize p.hasActivePowerupEffect now = checked at h hid hactive
    split at h
    · exact ih filed lasts h
    split at h
    · -- the enemy is defeated
      obtain ⟨g₁, hdelete, h⟩ := Fallible.bind_eq_ok.mp h
      cases h
      simp only [deleteEnemy] at hdelete
      split at hdelete <;> cases hdelete
      refine shields_of_characters List.prefix_rfl fun shielded => shielded.set fun heq => ?_
      rw [hactive heq]
      exact (hlasts heq).of_effect rfl
    case isFalse hweak =>
      -- whoever dies here has no effect
      have hother : pid ≠ checked.1.playerId := by
        intro heq
        rw [hactive (heq.trans (hid.trans hfiled)).symm] at hweak
        simp at hweak
      exact (queuePlayerDeath_shields e.enemyId hother).trans (ih filed lasts h)

theorem handleEnemyCollisions_shields (early : now < due) (keyed : g.worldState.Keyed)
    (h : g.handleEnemyCollisions now = .ok g') : Shields pid due g g' := by
  unfold handleEnemyCollisions at h
  split at h
  · cases h; exact .refl pid due g
  have hkept := Fallible.foldlM_keeps
    (P := fun g₁ : GameEngine => g₁.worldState.Keyed ∧ Shields pid due g g₁) ?_ h
    ⟨keyed, .refl pid due g⟩
  · exact hkept.2
  intro g₁ e g₂ _ ⟨keyed₁, h₁⟩ hfight
  refine ⟨((fightEnemy_spec hfight).2 keyed₁ (lists_characters keyed₁)).1, h₁.trans ?_⟩
  refine ⟨(fightEnemy_fates g₁.worldState.characters.nodup (alive_characters keyed₁) hfight).events,
    fun shielded => ?_⟩
  exact (fightEnemy_shields early (fun entry hentry => keyed₁ entry hentry)
    (fun entry hentry => shielded.lasts hentry) hfight).outcome shielded

/-- The death of the player itself. -/
theorem handleVoidDeaths_shields : Shields pid due g (g.handleVoidDeaths now) := by
  unfold handleVoidDeaths
  split
  · exact .refl pid due g
  refine Fallible.foldl_keeps (P := Shields pid due g) (fun g₁ p _ h => ?_) (.refl pid due g)
  split
  · exact h
  refine h.trans ?_
  by_cases heq : pid = p.playerId
  · refine ⟨List.prefix_append _ _, fun _ => .inr ?_⟩
    rw [queued_append rfl, heq]
    exact List.mem_singleton_self _
  · exact queuePlayerDeath_shields voidDeathCause heq

/-! ## The other stages -/

theorem bumpBlocks_effect {blocks blocks' : List DestructibleBlock} {pid : PlayerId} {p p' : Player}
    {out : List GameEvent} (h : bumpBlocks blocks pid p = .ok (blocks', p', out)) :
    p'.powerupEffectExpiresAt = p.powerupEffectExpiresAt := by
  obtain ⟨⟨q, l, events⟩, hsweep, h⟩ := Fallible.bind_eq_ok.mp h
  cases h
  refine Sweep.keeps
    (P := fun q : Player => q.powerupEffectExpiresAt = p.powerupEffectExpiresAt)
    (fun q b q' b' out _ hq hb => ?_) hsweep rfl
  rcases bumpBlock_cases q b with heq | heq | heq <;> rw [heq] at hb <;> cases hb
  · exact hq
  · exact (resolveCollision_effect q b.box).trans hq
  · exact (resolveCollision_effect q b.box).trans hq

theorem handleGateCollisions_shields : Shields pid due g g.handleGateCollisions := by
  refine shields_of_characters (List.prefix_append _ _) fun shielded => ?_
  refine Fallible.foldl_keeps (P := Shielded pid due) (fun cs gate _ hcs => ?_) shielded
  unfold CooperativeGate.pushBack
  split
  · refine hcs.mapValues fun p lasts => ?_
    split
    · exact lasts.of_effect (resolveCollision_effect p _)
    · exact lasts
  · exact hcs

/-- Every stage up to the respawns shields the player, while its effect lasts. -/
theorem stage_shields {args : TickArgs} {stage : TickStage} (early : args.now < due)
    (recent : due ≤ args.now + starEffectS) (keyed : g.worldState.Keyed)
    (other : stage ≠ .processRespawns) (h : stage.run args g = .ok g') : Shields pid due g g' := by
  have events := (stage_fates keyed other h).events
  cases stage with
  | handleBlockCollisions =>
    obtain ⟨⟨blocks, characters, out⟩, hsweep, h⟩ := Fallible.bind_eq_ok.mp h
    cases h
    refine shields_of_characters events fun shielded => ?_
    obtain ⟨p, hp, lasts⟩ := shielded
    have hsame := Dict.get?_sweep (fun _ _ _ _ _ _ hb => bumpBlocks_effect hb) hsweep pid
    rw [hp, Option.map_some, Option.map_eq_some_iff] at hsame
    obtain ⟨p', hp', heffect⟩ := hsame
    exact ⟨p', hp', lasts.of_effect heffect⟩
  | handlePowerupCollisions =>
    refine shields_of_characters events fun shielded => ?_
    simp only [TickStage.run, handlePowerupCollisions] at h
    split at h
    · cases h; exact shielded
    obtain ⟨⟨characters, powerUps, out⟩, hsweep, h⟩ := Fallible.bind_eq_ok.mp h
    cases h
    exact Dict.sweep_state_rel
      (Q := fun (cs : Dict PlayerId Player) (_ : List GameEvent) cs' =>
        Shielded pid due cs → Shielded pid due cs')
      (fun _ => id) (fun h h' => h' ∘ h)
      (fun _ _ _ _ _ _ haward shielded => shielded.awardPowerup recent haward) hsweep shielded
  | handleEnemyCollisions => exact handleEnemyCollisions_shields early keyed h
  | handleVoidDeaths => cases h; exact handleVoidDeaths_shields
  | handleGateCollisions => cases h; exact handleGateCollisions_shields
  | processRespawns => exact absurd rfl other
  | applyInputs =>
    cases h
    refine shields_of_characters events fun shielded => shielded.mapWithKey fun p lasts => ?_
    cases args.inputs.get? pid with
    | none => exact lasts
    | some input => exact lasts.of_effect rfl
  | expirePowerupEffects =>
    cases h
    exact shields_of_characters events fun shielded =>
      shielded.mapValues fun _ lasts => lasts.expirePowerupEffect early
  | handleCollisions =>
    cases h
    exact shields_of_characters events fun shielded =>
      shielded.mapValues fun p lasts => lasts.of_effect (handleCollisions_effect g.platforms p)
  | recordPrevious | applyPhysics | clampPlayersToWorld =>
    cases h
    exact shields_of_characters events fun shielded =>
      shielded.mapValues fun _ lasts => lasts.of_effect rfl
  | updateEnemies | syncObjectiveProgress =>
    cases h
    exact shields_of_characters events id
  | handleVictoryCondition =>
    cases h
    refine shields_of_characters events fun shielded => ?_
    rw [handleVictoryCondition]
    split
    · exact shielded
    · split <;> exact shielded

/-! ## The tick -/

/-- A living player is not respawned. -/
theorem processRespawns_shields (absent : pid ∉ g.worldState.respawnTimers) :
    Shields pid due g (g.processRespawns now) := by
  refine shields_of_characters (processRespawns_events now g ▸ List.prefix_rfl) fun shielded => ?_
  unfold processRespawns
  split
  · exact shielded
  have others : ∀ timer ∈ g.worldState.respawnTimers.entries, timer.1 = pid → now < timer.2 := by
    rintro timer htimer rfl
    exact absurd (Dict.mem_keys_of_mem htimer) absent
  exact shielded.of_get? (respawnDue_other (g := g) others).1

theorem tick_shields {args : TickArgs} (keyed : g.worldState.Keyed)
    (absent : pid ∉ g.worldState.respawnTimers) (early : args.now < due)
    (recent : due ≤ args.now + starEffectS) (h : g.tick args = .ok g') : Shields pid due g g' := by
  obtain rfl | ⟨g₁, hbefore, rfl⟩ := tick_split h
  · exact shields_of_characters List.prefix_rfl id
  have fates := stages_fates keyed (by decide) hbefore
  have hshields := (Fallible.foldlM_keeps
    (P := fun g₁ : GameEngine => g₁.worldState.Keyed ∧ Shields pid due g g₁)
    (fun g₁ stage g₂ hstage hg₁ h =>
      ⟨((stage_evolves h).participants hg₁.1).1, hg₁.2.trans
        (stage_shields early recent hg₁.1 (fun heq => absurd (heq ▸ hstage) (by decide)) h)⟩)
    hbefore ⟨keyed, .refl pid due g⟩).2
  have quiet := processRespawns_events args.now g₁
  have rest : g₁.events <+: (g₁.processRespawns args.now).countTick.events :=
    quiet ▸ List.prefix_rfl
  refine ⟨hshields.events.trans rest, fun shielded => ?_⟩
  obtain hg₁ | hfell := hshields.outcome shielded
  · -- who is alive before the respawns was not waiting for one
    have kept : Kept pid g g₁ := by
      refine (fates.fate pid).resolve_right fun ⟨joinIndex, died⟩ => ?_
      exact livingIndex_eq_none.mp died.gone hg₁.mem
    have absent₁ : pid ∉ g₁.worldState.respawnTimers := fun htimer =>
      absent (kept.mem_timers.mp htimer)
    obtain hg₂ | hfell := (processRespawns_shields absent₁).outcome hg₁
    · exact .inl hg₂
    · rw [queued, quiet, List.drop_length] at hfell
      cases hfell
  · rw [queued_trans hshields.events rest]
    exact .inr (List.mem_append_left _ hfell)

/-- A player that is alive before and after a tick does not wait for a respawn. -/
theorem tick_absent {args : TickArgs} (keyed : g.worldState.Keyed)
    (absent : pid ∉ g.worldState.respawnTimers) (alive : pid ∈ g'.worldState.characters)
    (h : g.tick args = .ok g') : pid ∉ g'.worldState.respawnTimers := by
  rcases tick_outcome keyed h pid with k | ⟨joinIndex, d⟩ | r
  · exact fun htimer => absent (k.mem_timers.mp htimer)
  · exact absurd alive (livingIndex_eq_none.mp d.gone)
  · exact r.gone

/-- A player under the effect of a star survives every run of ticks within the time of the effect,
whatever the enemies do, unless it falls out of the world. -/
theorem star_protects {ticks : List TickArgs} (keyed : g.worldState.Keyed)
    (absent : pid ∉ g.worldState.respawnTimers)
    (shielded : Shielded pid due g.worldState.characters)
    (window : ∀ args ∈ ticks, args.now < due ∧ due ≤ args.now + starEffectS)
    (h : ticks.foldlM tick g = .ok g') :
    (Shielded pid due g'.worldState.characters ∧ g.deathsOf g' pid = 0) ∨
      .playerDeath pid voidDeathCause ∈ g.queued g' := by
  have hkept := Fallible.foldlM_keeps
    (P := fun g₁ : GameEngine => g₁.worldState.Keyed ∧ g.events <+: g₁.events ∧
      ((Shielded pid due g₁.worldState.characters ∧ pid ∉ g₁.worldState.respawnTimers ∧
        g.deathsOf g₁ pid = 0) ∨ .playerDeath pid voidDeathCause ∈ g.queued g₁)) ?_ h
    ⟨keyed, List.prefix_rfl, .inl ⟨shielded, absent, deathsOf_append (List.append_nil _).symm pid⟩⟩
  · exact hkept.2.2.imp_left fun ⟨alive, _, spared⟩ => ⟨alive, spared⟩
  intro g₁ args g₂ hargs ⟨keyed₁, events, outcome⟩ htick
  obtain ⟨early, recent⟩ := window args hargs
  have more : g₁.events <+: g₂.events := (tick_advances htick).events
  refine ⟨(tick_participants keyed₁ htick).1, events.trans more, ?_⟩
  rw [queued_trans events more, List.mem_append, deathsOf_trans events more]
  obtain ⟨alive, absent₁, spared⟩ | hfell := outcome
  · have hshields : Shields pid due g₁ g₂ := tick_shields keyed₁ absent₁ early recent htick
    obtain halive | hfell := hshields.outcome alive
    · have none : g₁.deathsOf g₂ pid = 0 :=
        of_not_not fun dead => (tick_deaths keyed₁ htick dead).2 halive.mem
      refine .inl ⟨halive, tick_absent keyed₁ absent₁ halive.mem htick, ?_⟩
      rw [spared, none]
    · exact .inr (.inr hfell)
  · exact .inr (.inl hfell)

/-- A player with a star in the middle of a koopa. -/
def starInKoopa : GameEngine where
  worldState :=
    { characters := .ofList [("player1",
        { playerId := "player1", x := 50, y := 500, powerupEffectExpiresAt := some 10 })]
      environment :=
        { enemies := .ofList [("koopa-1", { enemyId := "koopa-1", x := 50, y := 500 })] }
      initialEnemyCount := 1 }
  worldWidth := 1000
  worldHeight := 600

theorem star_beats_koopa : ∃ g',
    [(⟨1 / 60, ∅, none, 1⟩ : TickArgs), ⟨1 / 60, ∅, none, 2⟩].foldlM tick starInKoopa = .ok g' ∧
      Shielded "player1" 10 g'.worldState.characters ∧ starInKoopa.deathsOf g' "player1" = 0 ∧
      g'.worldState.enemiesDefeated = 1 := by
  have keyed : starInKoopa.worldState.Keyed := by
    change ∀ e ∈ starInKoopa.worldState.characters.entries, e.2.playerId = e.1
    decide +kernel
  have shielded : Shielded "player1" 10 starInKoopa.worldState.characters :=
    ⟨_, rfl, 10, rfl, le_rfl⟩
  obtain ⟨g', hrun, hfought⟩ := Fallible.exists_of_okAnd
    (x := [(⟨1 / 60, ∅, none, 1⟩ : TickArgs), ⟨1 / 60, ∅, none, 2⟩].foldlM tick starInKoopa)
    (p := fun g' => decide (g'.worldState.enemiesDefeated = 1 ∧
      .playerDeath "player1" voidDeathCause ∉ starInKoopa.queued g')) (by decide +kernel)
  obtain ⟨hdefeated, hfell⟩ := of_decide_eq_true hfought
  obtain ⟨alive, spared⟩ :=
    (star_protects keyed (by decide +kernel) shielded (by decide +kernel) hrun).resolve_right hfell
  exact ⟨g', hrun, alive, spared, hdefeated⟩

end GameEngine

end DistributedSmb
