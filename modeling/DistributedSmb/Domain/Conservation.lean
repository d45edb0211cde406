import DistributedSmb.Domain.Consumption

/-!
# Ticks conserve players

A player is alive or waits for its respawn, and its join index is in its character or in the
engine's table. Two stages of a tick kill players and one respawns them; between the three
containers nobody is lost, doubled or given another index, and every death is announced once.
-/

namespace DistributedSmb

open Library

def GameEvent.isDeathOf (pid : PlayerId) : GameEvent → Bool
  | .playerDeath dead _ => dead = pid
  | _ => false

namespace GameEngine

/-- The join index of a living player. -/
def livingIndex (g : GameEngine) (pid : PlayerId) : Option ℕ :=
  (g.worldState.characters.get? pid).map Player.joinIndex

/-- The join index of a player, alive or waiting. -/
def joinIndexOf (g : GameEngine) (pid : PlayerId) : Option ℕ :=
  (g.livingIndex pid).or
    ((g.worldState.respawnTimers.get? pid).bind fun _ => g.respawnJoinIndex.get? pid)

/-- How many deaths of one player were announced between two states. -/
def deathsOf (g g' : GameEngine) (pid : PlayerId) : ℕ :=
  (g.queued g').countP (GameEvent.isDeathOf pid)

theorem livingIndex_eq_none {g : GameEngine} {pid : PlayerId} :
    g.livingIndex pid = none ↔ pid ∉ g.worldState.characters := by
  rw [livingIndex, Option.map_eq_none_iff, Dict.get?_eq_none_iff]

theorem livingIndex_of_mem {g : GameEngine} {e : PlayerId × Player}
    (h : e ∈ g.worldState.characters.entries) : g.livingIndex e.1 = some e.2.joinIndex := by
  rw [livingIndex, Dict.get?_eq_some_iff.mpr h, Option.map_some]

/-! ## What becomes of one player -/

/-- The player and its records are as they were. -/
structure Kept (pid : PlayerId) (g g' : GameEngine) : Prop where
  living : g'.livingIndex pid = g.livingIndex pid
  timer : g'.worldState.respawnTimers.get? pid = g.worldState.respawnTimers.get? pid
  index : g'.respawnJoinIndex.get? pid = g.respawnJoinIndex.get? pid
  deaths : g.deathsOf g' pid = 0

theorem Kept.joinIndexOf {pid : PlayerId} {g g' : GameEngine} (h : Kept pid g g') :
    g'.joinIndexOf pid = g.joinIndexOf pid := by
  rw [GameEngine.joinIndexOf, h.living, h.timer, h.index, GameEngine.joinIndexOf]

/-- The player died once, and waits with its join index. -/
structure Died (now : ℚ) (pid : PlayerId) (joinIndex : ℕ) (g g' : GameEngine) : Prop where
  living : g.livingIndex pid = some joinIndex
  gone : g'.livingIndex pid = none
  timer : g'.worldState.respawnTimers.get? pid = some (now + respawnDelayS)
  index : g'.respawnJoinIndex.get? pid = some joinIndex
  deaths : g.deathsOf g' pid = 1

/-- Before the respawns of a tick every player is spared or dies once. -/
structure Fates (now : ℚ) (g g' : GameEngine) : Prop where
  events : g.events <+: g'.events
  fate : ∀ pid, Kept pid g g' ∨ ∃ joinIndex, Died now pid joinIndex g g'

theorem deathsOf_append {g g' : GameEngine} {events : List GameEvent}
    (h : g'.events = g.events ++ events) (pid : PlayerId) :
    g.deathsOf g' pid = events.countP (GameEvent.isDeathOf pid) := by
  rw [deathsOf, queued_append h]

theorem deathsOf_trans {g g' g'' : GameEngine} (h : g.events <+: g'.events)
    (h' : g'.events <+: g''.events) (pid : PlayerId) :
    g.deathsOf g'' pid = g.deathsOf g' pid + g'.deathsOf g'' pid := by
  rw [deathsOf, queued_trans h h', List.countP_append]
  rfl

theorem Kept.refl (pid : PlayerId) (g : GameEngine) : Kept pid g g :=
  ⟨rfl, rfl, rfl, deathsOf_append (List.append_nil _).symm pid⟩

theorem Kept.trans {pid : PlayerId} {g g' g'' : GameEngine} (h : Kept pid g g')
    (h' : Kept pid g' g'') (events : g.events <+: g'.events) (rest : g'.events <+: g''.events) :
    Kept pid g g'' where
  living := h'.living.trans h.living
  timer := h'.timer.trans h.timer
  index := h'.index.trans h.index
  deaths := by rw [deathsOf_trans events rest, h.deaths, h'.deaths]

theorem Fates.refl (now : ℚ) (g : GameEngine) : g.Fates now g where
  events := List.prefix_rfl
  fate pid := .inl (.refl pid g)

/-- Nobody dies twice: the dead are not among the living. -/
theorem Fates.trans {now : ℚ} {g g' g'' : GameEngine} (h : Fates now g g') (h' : Fates now g' g'') :
    Fates now g g'' := by
  refine ⟨h.events.trans h'.events, fun pid => ?_⟩
  have deaths := deathsOf_trans h.events h'.events pid
  rcases h.fate pid with k | ⟨joinIndex, d⟩ <;> rcases h'.fate pid with k' | ⟨joinIndex', d'⟩
  · exact .inl (k.trans k' h.events h'.events)
  · exact .inr ⟨joinIndex', k.living.symm.trans d'.living, d'.gone, d'.timer, d'.index, by
      rw [deaths, k.deaths, d'.deaths]⟩
  · exact .inr ⟨joinIndex, d.living, k'.living.trans d.gone, k'.timer.trans d.timer,
      k'.index.trans d.index, by rw [deaths, d.deaths, k'.deaths]⟩
  · have := d.gone.symm.trans d'.living
    cases this

/-- A step without deaths that keeps the records. -/
theorem fates_of_spared {now : ℚ} {g g' : GameEngine} {kind : GameEvent → Bool}
    (queues : Queues kind g g') (quiet : ∀ pid cause, kind (.playerDeath pid cause) = false)
    (living : ∀ pid, g'.livingIndex pid = g.livingIndex pid)
    (timers : g'.worldState.respawnTimers = g.worldState.respawnTimers)
    (table : g'.respawnJoinIndex = g.respawnJoinIndex) : Fates now g g' := by
  obtain ⟨events, hqueued, hkind⟩ := queues
  refine ⟨⟨events, hqueued.symm⟩, fun pid => .inl ⟨living pid, by rw [timers], by rw [table], ?_⟩⟩
  rw [deathsOf_append hqueued, List.countP_eq_zero]
  intro event he hdeath
  cases event with
  | playerDeath dead cause => exact Bool.false_ne_true ((quiet dead cause).symm.trans (hkind _ he))
  | _ => simp [GameEvent.isDeathOf] at hdeath

theorem fates_of_same {now : ℚ} {g g' : GameEngine} (events : g'.events = g.events)
    (living : ∀ pid, g'.livingIndex pid = g.livingIndex pid)
    (timers : g'.worldState.respawnTimers = g.worldState.respawnTimers)
    (table : g'.respawnJoinIndex = g.respawnJoinIndex) : Fates now g g' := by
  have queues : Queues (fun _ => false) g g' := queues_nothing events
  exact fates_of_spared queues (fun _ _ => rfl) living timers table

/-! ## Deaths -/

theorem queuePlayerDeath_fates (now : ℚ) (cause : EnemyId) {g : GameEngine} {p : Player}
    (living : g.livingIndex p.playerId = some p.joinIndex) :
    Fates now g (g.queuePlayerDeath now cause p) := by
  refine ⟨List.prefix_append _ _, fun pid => ?_⟩
  have deaths : g.deathsOf (g.queuePlayerDeath now cause p) pid =
      [GameEvent.playerDeath p.playerId cause].countP (GameEvent.isDeathOf pid) :=
    deathsOf_append rfl pid
  by_cases hpid : pid = p.playerId
  · subst hpid
    refine .inr ⟨p.joinIndex, living, ?_, Dict.get?_set_self _ _ _, Dict.get?_set_self _ _ _, ?_⟩
    · exact livingIndex_eq_none.mpr fun hmem => (Dict.mem_erase.mp hmem).2 rfl
    · rw [deaths]
      simp [GameEvent.isDeathOf]
  · refine .inl ⟨congrArg (Option.map Player.joinIndex) (Dict.get?_erase_ne _ hpid),
      Dict.get?_set_ne _ hpid _, Dict.get?_set_ne _ hpid _, ?_⟩
    rw [deaths]
    simp [GameEvent.isDeathOf, Ne.symm hpid]

/-- The players of a list, each under its own id, are alive. -/
def Alive (g : GameEngine) (l : List (PlayerId × Player)) : Prop :=
  ∀ e ∈ l, e.2.playerId = e.1 ∧ g.livingIndex e.1 = some e.2.joinIndex

theorem alive_characters {g : GameEngine} (keyed : g.worldState.Keyed) :
    g.Alive g.worldState.characters.entries := fun e he => ⟨keyed e he, livingIndex_of_mem he⟩

/-- One death leaves the others of a list alive. -/
theorem Alive.queuePlayerDeath {g : GameEngine} {l : List (PlayerId × Player)} (h : g.Alive l)
    {p : Player} (other : ∀ e ∈ l, e.1 ≠ p.playerId) (now : ℚ) (cause : EnemyId) :
    (g.queuePlayerDeath now cause p).Alive l := by
  intro e he
  refine ⟨(h e he).1, ?_⟩
  have hother : (g.queuePlayerDeath now cause p).livingIndex e.1 = g.livingIndex e.1 :=
    congrArg (Option.map Player.joinIndex) (Dict.get?_erase_ne _ (other e he))
  exact hother.trans (h e he).2

theorem hasActivePowerupEffect_sameAs (now : ℚ) (p : Player) :
    (p.hasActivePowerupEffect now).1.SameAs p := by
  unfold Player.hasActivePowerupEffect
  split
  · exact .refl p
  · split <;> exact ⟨rfl, rfl⟩

theorem livingIndex_setCharacter {g : GameEngine} {key : PlayerId} {p : Player}
    (h : g.livingIndex key = some p.joinIndex) (pid : PlayerId) :
    (g.setCharacter key p).livingIndex pid = g.livingIndex pid := by
  by_cases hpid : pid = key
  · subst hpid
    rw [h]
    exact congrArg (Option.map Player.joinIndex) (Dict.get?_set_self _ _ _)
  · exact congrArg (Option.map Player.joinIndex) (Dict.get?_set_ne _ hpid _)

theorem deleteEnemy_fates {now : ℚ} {g g' : GameEngine} {enemyId : EnemyId}
    (h : g.deleteEnemy enemyId = .ok g') :
    Fates now g g' ∧ g'.worldState.characters = g.worldState.characters := by
  simp only [deleteEnemy] at h
  split at h <;> cases h
  exact ⟨fates_of_same rfl (fun _ => rfl) rfl rfl, rfl⟩

theorem fightEnemy_fates {now : ℚ} {e : Enemy} {l : List (PlayerId × Player)} {g g' : GameEngine}
    (nodup : (l.map Prod.fst).Nodup) (alive : g.Alive l) (h : fightEnemy now e g l = .ok g') :
    Fates now g g' := by
  induction l generalizing g with
  | nil => cases h; exact .refl now _
  | cons entry rest ih =>
    obtain ⟨key, p⟩ := entry
    rw [List.map_cons, List.nodup_cons] at nodup
    obtain ⟨⟨hkey, hliving⟩, halive⟩ := List.forall_mem_cons.mp alive
    simp only [fightEnemy] at h
    obtain ⟨hid, hindex⟩ := hasActivePowerupEffect_sameAs now p
    generalize p.hasActivePowerupEffect now = checked at h hid hindex
    split at h
    · exact ih nodup.2 halive h
    split at h
    · -- the enemy is defeated
      obtain ⟨g₁, hdelete, h⟩ := Fallible.bind_eq_ok.mp h
      cases h
      obtain ⟨hfates, hcharacters⟩ := deleteEnemy_fates hdelete
      have hliving₁ : g₁.livingIndex key = some checked.1.joinIndex := by
        rw [livingIndex, hcharacters, hindex]
        exact hliving
      exact hfates.trans (fates_of_same rfl (livingIndex_setCharacter hliving₁) rfl rfl)
    · -- the player dies
      have hself : checked.1.playerId = key := hid.trans hkey
      have hother : ∀ e ∈ rest, e.1 ≠ checked.1.playerId := by
        rintro e he heq
        exact nodup.1 (List.mem_map.mpr ⟨e, he, heq.trans hself⟩)
      have hdeath : Fates now g (g.queuePlayerDeath now e.enemyId checked.1) :=
        queuePlayerDeath_fates now e.enemyId (by rw [hself, hindex]; exact hliving)
      exact hdeath.trans (ih nodup.2 (Alive.queuePlayerDeath halive hother now e.enemyId) h)

theorem handleEnemyCollisions_fates {now : ℚ} {g g' : GameEngine} (keyed : g.worldState.Keyed)
    (h : g.handleEnemyCollisions now = .ok g') : Fates now g g' := by
  unfold handleEnemyCollisions at h
  split at h
  · cases h; exact .refl now g
  have hkept := Fallible.foldlM_keeps
    (P := fun g₁ : GameEngine => g₁.worldState.Keyed ∧ Fates now g g₁)
    (fun g₁ e g₂ _ hg₁ h =>
      ⟨((fightEnemy_spec h).2 hg₁.1 (lists_characters hg₁.1)).1,
        hg₁.2.trans (fightEnemy_fates g₁.worldState.characters.nodup (alive_characters hg₁.1) h)⟩)
    h ⟨keyed, .refl now g⟩
  exact hkept.2

theorem killFallen_fates {now : ℚ} {g : GameEngine} {l : List (PlayerId × Player)}
    (nodup : (l.map Prod.fst).Nodup) (alive : g.Alive l) :
    Fates now g (killFallen now g (l.map Prod.snd)) := by
  induction l generalizing g with
  | nil => exact .refl now g
  | cons entry rest ih =>
    obtain ⟨key, p⟩ := entry
    rw [List.map_cons, List.nodup_cons] at nodup
    obtain ⟨⟨hkey, hliving⟩, halive⟩ := List.forall_mem_cons.mp alive
    obtain rfl : p.playerId = key := hkey
    simp only [killFallen, List.map_cons, List.foldl_cons]
    split
    · exact ih nodup.2 halive
    · have hother : ∀ e ∈ rest, e.1 ≠ p.playerId :=
        fun e he heq => nodup.1 (List.mem_map.mpr ⟨e, he, heq⟩)
      exact (queuePlayerDeath_fates now voidDeathCause hliving).trans
        (ih nodup.2 (Alive.queuePlayerDeath halive hother now voidDeathCause))

theorem handleVoidDeaths_fates {now : ℚ} {g : GameEngine} (keyed : g.worldState.Keyed) :
    Fates now g (g.handleVoidDeaths now) := by
  unfold handleVoidDeaths
  split
  · exact .refl now g
  · exact killFallen_fates g.worldState.characters.nodup (alive_characters keyed)

/-! ## The other stages -/

/-- A change of the characters that keeps everybody's index. -/
theorem fates_of_characters {now : ℚ} {g g' : GameEngine} (events : g'.events = g.events)
    {f : PlayerId → Player → Player}
    (characters : g'.worldState.characters = g.worldState.characters.mapWithKey f)
    (index : ∀ pid p, (f pid p).joinIndex = p.joinIndex)
    (timers : g'.worldState.respawnTimers = g.worldState.respawnTimers)
    (table : g'.respawnJoinIndex = g.respawnJoinIndex) : Fates now g g' := by
  refine fates_of_same events (fun pid => ?_) timers table
  rw [livingIndex, characters, Dict.get?_mapWithKey, Option.map_map]
  exact congrArg (Option.map · _) (funext fun p => index pid p)

theorem mapPlayers_fates {now : ℚ} {f : Player → Player}
    (index : ∀ p, (f p).joinIndex = p.joinIndex) (g : GameEngine) : Fates now g (g.mapPlayers f) :=
  fates_of_characters (f := fun _ => f) rfl rfl (fun _ => index) rfl rfl

theorem applyInputs_fates {now : ℚ} (inputs : Dict PlayerId InputState) (g : GameEngine) :
    Fates now g (g.applyInputs inputs) := by
  refine fates_of_characters (f := ?move) rfl ?_ ?_ rfl rfl
  case refine_1 =>
    dsimp only [applyInputs]
    rfl
  intro pid p
  cases inputs.get? pid <;> rfl

theorem expirePowerupEffect_joinIndex (now : ℚ) (p : Player) :
    (p.expirePowerupEffect now).joinIndex = p.joinIndex := by
  unfold Player.expirePowerupEffect
  split
  · split <;> rfl
  · rfl

theorem handleCollisions_joinIndex (platforms : List Platform) (p : Player) :
    (p.handleCollisions platforms).joinIndex = p.joinIndex := by
  refine Fallible.foldl_keeps (P := fun q : Player => q.joinIndex = p.joinIndex) ?_ rfl
  intro q platform _ hq
  split
  · exact (resolveCollision_sameAs q platform.box).2.trans hq
  · exact hq

theorem bumpBlocks_joinIndex {blocks blocks' : List DestructibleBlock} {pid : PlayerId}
    {p p' : Player} {out : List GameEvent} (h : bumpBlocks blocks pid p = .ok (blocks', p', out)) :
    p'.joinIndex = p.joinIndex := by
  obtain ⟨⟨q, l, events⟩, hsweep, h⟩ := Fallible.bind_eq_ok.mp h
  cases h
  refine Sweep.keeps (P := fun q : Player => q.joinIndex = p.joinIndex)
    (fun q b q' b' out _ hq hb => ?_) hsweep rfl
  rcases bumpBlock_cases q b with heq | heq | heq <;> rw [heq] at hb <;> cases hb
  · exact hq
  · exact (resolveCollision_sameAs q b.box).2.trans hq
  · exact (resolveCollision_sameAs q b.box).2.trans hq

/-- An award sets the effect of its winner, who stays in the game under the same index. -/
theorem awardPowerup_joinIndex {now : ℚ} {characters characters' : Dict PlayerId Player}
    {key : PowerUpId} {u u' : ExclusivePowerUp} {out : List GameEvent}
    (h : awardPowerup now characters key u = .ok (characters', u', out)) :
    characters'.mapValues Player.joinIndex = characters.mapValues Player.joinIndex := by
  have hstanding := congrArg (Dict.mapValues Player.joinIndex) (awardPowerup_awards h).1
  simp only [standing, Dict.mapValues_mapValues] at hstanding
  exact hstanding

theorem handlePowerupCollisions_fates {now : ℚ} {g g' : GameEngine}
    (h : g.handlePowerupCollisions now = .ok g') : Fates now g g' := by
  have queues := handlePowerupCollisions_queues h
  unfold handlePowerupCollisions at h
  split at h
  · cases h; exact .refl now g
  obtain ⟨⟨characters, powerUps, out⟩, hsweep, h⟩ := Fallible.bind_eq_ok.mp h
  cases h
  refine fates_of_spared queues (fun _ _ => rfl) (fun pid => ?_) rfl rfl
  have hindexes : characters.mapValues Player.joinIndex =
      g.worldState.characters.mapValues Player.joinIndex :=
    Dict.sweep_state_rel (Q := fun cs _ cs' =>
        Dict.mapValues Player.joinIndex cs' = Dict.mapValues Player.joinIndex cs)
      (fun _ => rfl) (fun h h' => h'.trans h) (fun _ _ _ _ _ _ hu => awardPowerup_joinIndex hu)
      hsweep
  have hpid := congrArg (Dict.get? · pid) hindexes
  simp only [Dict.get?_mapValues] at hpid
  exact hpid

theorem pushBack_joinIndex (gate : CooperativeGate) (cs : Dict PlayerId Player) (pid : PlayerId) :
    ((gate.pushBack cs).get? pid).map Player.joinIndex = (cs.get? pid).map Player.joinIndex := by
  unfold CooperativeGate.pushBack
  split
  · rw [Dict.get?_mapValues, Option.map_map]
    congr 1
    funext p
    simp only [Function.comp_apply]
    split
    · exact (resolveCollision_sameAs p gate.box).2
    · rfl
  · rfl

theorem handleGateCollisions_fates {now : ℚ} {g : GameEngine}
    (queues : Queues TickStage.handleGateCollisions.emits g g.handleGateCollisions) :
    Fates now g g.handleGateCollisions := by
  refine fates_of_spared queues (fun _ _ => rfl) (fun pid => ?_) rfl rfl
  exact Fallible.foldl_keeps (P := fun cs : Dict PlayerId Player =>
      (cs.get? pid).map Player.joinIndex = g.livingIndex pid)
    (fun cs gate _ hcs => (pushBack_joinIndex _ cs pid).trans hcs) rfl

/-- Every stage up to the respawns decides each player's fate. -/
theorem stage_fates {args : TickArgs} {stage : TickStage} {g g' : GameEngine}
    (keyed : g.worldState.Keyed) (other : stage ≠ .processRespawns)
    (h : stage.run args g = .ok g') : Fates args.now g g' := by
  have queues := stage_queues h
  cases stage with
  | handleBlockCollisions =>
    obtain ⟨⟨blocks, characters, out⟩, hsweep, h⟩ := Fallible.bind_eq_ok.mp h
    cases h
    exact fates_of_spared queues (fun _ _ => rfl)
      (fun pid => Dict.get?_sweep (fun _ _ _ _ _ _ hb => bumpBlocks_joinIndex hb) hsweep pid)
      rfl rfl
  | handlePowerupCollisions => exact handlePowerupCollisions_fates h
  | handleEnemyCollisions => exact handleEnemyCollisions_fates keyed h
  | processRespawns => exact absurd rfl other
  | recordPrevious => cases h; exact mapPlayers_fates (f := Player.recordPrevious) (fun _ => rfl) g
  | expirePowerupEffects =>
    cases h; exact mapPlayers_fates (expirePowerupEffect_joinIndex args.now) g
  | applyInputs => cases h; exact applyInputs_fates args.inputs g
  | applyPhysics =>
    cases h
    exact mapPlayers_fates (f := fun p => DistributedSmb.applyPhysics p args.dt) (fun _ => rfl) g
  | handleCollisions => cases h; exact mapPlayers_fates (handleCollisions_joinIndex g.platforms) g
  | updateEnemies => cases h; exact fates_of_same rfl (fun _ => rfl) rfl rfl
  | handleVoidDeaths => cases h; exact handleVoidDeaths_fates keyed
  | syncObjectiveProgress => cases h; exact fates_of_same rfl (fun _ => rfl) rfl rfl
  | handleGateCollisions => cases h; exact handleGateCollisions_fates queues
  | clampPlayersToWorld =>
    cases h
    exact mapPlayers_fates (f := Player.clampToWorld g.worldWidth g.worldHeight false)
      (fun _ => rfl) g
  | handleVictoryCondition =>
    cases h
    rw [handleVictoryCondition]
    split
    · exact .refl _ g
    · split
      · exact fates_of_same rfl (fun _ => rfl) rfl rfl
      · exact .refl _ g

/-! ## The tick -/

/-- Every character is stored under its own id, nobody is both alive and waiting, and whoever waits
has a join index. -/
structure Conserving (g : GameEngine) : Prop where
  keyed : g.worldState.Keyed
  disjoint : ∀ pid ∈ g.worldState.characters, pid ∉ g.worldState.respawnTimers
  indexed : ∀ pid ∈ g.worldState.respawnTimers, pid ∈ g.respawnJoinIndex

/-- What one tick does to a player. -/
structure Conserves (pid : PlayerId) (g g' : GameEngine) : Prop where
  disjoint : pid ∈ g'.worldState.characters → pid ∉ g'.worldState.respawnTimers
  indexed : pid ∈ g'.worldState.respawnTimers → pid ∈ g'.respawnJoinIndex
  joinIndex : g'.joinIndexOf pid = g.joinIndexOf pid
  deaths : g.deathsOf g' pid =
    if pid ∈ g.worldState.characters ∧ pid ∈ g'.worldState.respawnTimers then 1 else 0

theorem stages_fates {args : TickArgs} {stages : List TickStage} {g g' : GameEngine}
    (keyed : g.worldState.Keyed) (others : .processRespawns ∉ stages)
    (h : stages.foldlM (TickStage.run args) g = .ok g') : Fates args.now g g' := by
  have hkept := Fallible.foldlM_keeps
    (P := fun g₁ : GameEngine => g₁.worldState.Keyed ∧ Fates args.now g g₁)
    (fun g₁ stage g₂ hstage hg₁ h =>
      ⟨((stage_evolves h).participants hg₁.1).1,
        hg₁.2.trans (stage_fates hg₁.1 (fun heq => others (heq ▸ hstage)) h)⟩)
    h ⟨keyed, .refl args.now g⟩
  exact hkept.2

theorem processRespawns_events (now : ℚ) (g : GameEngine) :
    (g.processRespawns now).events = g.events := by
  unfold processRespawns
  split
  · rfl
  · exact Fallible.foldl_keeps (P := fun g₁ : GameEngine => g₁.events = g.events)
      (fun g₁ timer _ hg₁ => by split <;> exact hg₁) rfl

/-- Whose time has come is spawned with the index of the table; the others are kept. -/
theorem processRespawns_outcome (now : ℚ) (g : GameEngine) (pid : PlayerId) :
    Kept pid g (g.processRespawns now) ∨
    ∃ due, g.worldState.respawnTimers.get? pid = some due ∧ due ≤ now ∧
      (g.processRespawns now).livingIndex pid = some (g.respawnJoinIndex.getD pid 0) ∧
      pid ∉ (g.processRespawns now).worldState.respawnTimers := by
  have quiet : g.deathsOf (g.processRespawns now) pid = 0 :=
    deathsOf_append ((processRespawns_events now g).trans (List.append_nil _).symm) pid
  unfold processRespawns at quiet ⊢
  split
  · exact .inl (.refl pid g)
  by_cases hdue : ∃ due, g.worldState.respawnTimers.get? pid = some due ∧ due ≤ now
  · obtain ⟨due, htimer, hdue⟩ := hdue
    obtain ⟨hplayer, hgone⟩ := respawnDue_self g.worldState.respawnTimers.nodup (g := g)
      (Dict.get?_eq_some_iff.mp htimer) hdue
    exact .inr ⟨due, htimer, hdue, congrArg (Option.map Player.joinIndex) hplayer, hgone⟩
  · have others : ∀ timer ∈ g.worldState.respawnTimers.entries, timer.1 = pid → now < timer.2 := by
      rintro ⟨q, due⟩ hmem rfl
      exact not_le.mp fun hle => hdue ⟨due, Dict.get?_eq_some_iff.mpr hmem, hle⟩
    obtain ⟨hplayer, htimer, hindex⟩ := respawnDue_other (g := g) others
    exact .inl ⟨congrArg (Option.map Player.joinIndex) hplayer, htimer, hindex, by
      rwa [if_neg ‹_›] at quiet⟩

theorem Kept.mem_timers {pid : PlayerId} {g g' : GameEngine} (h : Kept pid g g') :
    pid ∈ g'.worldState.respawnTimers ↔ pid ∈ g.worldState.respawnTimers := by
  rw [← not_iff_not, ← Dict.get?_eq_none_iff, ← Dict.get?_eq_none_iff, h.timer]

theorem Kept.mem_characters {pid : PlayerId} {g g' : GameEngine} (h : Kept pid g g') :
    pid ∈ g'.worldState.characters ↔ pid ∈ g.worldState.characters := by
  rw [← not_iff_not, ← livingIndex_eq_none, ← livingIndex_eq_none, h.living]

theorem Kept.mem_table {pid : PlayerId} {g g' : GameEngine} (h : Kept pid g g') :
    pid ∈ g'.respawnJoinIndex ↔ pid ∈ g.respawnJoinIndex := by
  rw [← not_iff_not, ← Dict.get?_eq_none_iff, ← Dict.get?_eq_none_iff, h.index]

/-- The player's time had come: it is alive again, with the index of the table. -/
structure Respawned (now : ℚ) (pid : PlayerId) (g g' : GameEngine) : Prop where
  due : ∃ due, g.worldState.respawnTimers.get? pid = some due ∧ due ≤ now
  living : g'.livingIndex pid = some (g.respawnJoinIndex.getD pid 0)
  gone : pid ∉ g'.worldState.respawnTimers
  deaths : g.deathsOf g' pid = 0

/-- A tick of a game that goes on runs its stages, the respawns last. -/
theorem tick_split {g g' : GameEngine} {args : TickArgs} (h : g.tick args = .ok g') :
    g' = g.countTick ∨ ∃ g₁, tickStages.dropLast.foldlM (TickStage.run args) g = .ok g₁ ∧
      g' = (g₁.processRespawns args.now).countTick := by
  unfold tick at h
  split at h
  · cases h
    exact .inl rfl
  have hsplit : tickStages = tickStages.dropLast ++ [.processRespawns] := rfl
  rw [hsplit, List.foldlM_append] at h
  obtain ⟨g₂, hstages, h⟩ := Fallible.bind_eq_ok.mp h
  cases h
  obtain ⟨g₁, hbefore, hstages⟩ := Fallible.bind_eq_ok.mp hstages
  cases hstages
  exact .inr ⟨g₁, hbefore, rfl⟩

/-- A tick keeps a player, kills it once or respawns it. -/
theorem tick_outcome {g g' : GameEngine} {args : TickArgs} (keyed : g.worldState.Keyed)
    (h : g.tick args = .ok g') (pid : PlayerId) :
    Kept pid g g' ∨ (∃ joinIndex, Died args.now pid joinIndex g g') ∨
      Respawned args.now pid g g' := by
  obtain rfl | ⟨g₁, hbefore, rfl⟩ := tick_split h
  · exact .inl ⟨rfl, rfl, rfl, deathsOf_append (List.append_nil _).symm pid⟩
  obtain ⟨events, fate⟩ := stages_fates keyed (by decide) hbefore
  have quiet := processRespawns_events args.now g₁
  have rest : g₁.events <+: (g₁.processRespawns args.now).countTick.events :=
    quiet ▸ List.prefix_rfl
  have deaths : g.deathsOf (g₁.processRespawns args.now).countTick pid = g.deathsOf g₁ pid := by
    have none : g₁.deathsOf (g₁.processRespawns args.now).countTick pid = 0 :=
      deathsOf_append (quiet.trans (List.append_nil _).symm) pid
    rw [deathsOf_trans events rest, none, Nat.add_zero]
  rcases fate pid with k | ⟨joinIndex, d⟩ <;>
    rcases processRespawns_outcome args.now g₁ pid with k' | ⟨due, htimer, hdue, living, gone⟩
  · exact .inl ⟨k'.living.trans k.living, k'.timer.trans k.timer, k'.index.trans k.index,
      deaths.trans k.deaths⟩
  · refine .inr (.inr ⟨⟨due, k.timer ▸ htimer, hdue⟩, ?_, gone, deaths.trans k.deaths⟩)
    rw [Dict.getD, ← k.index]
    exact living
  · exact .inr (.inl ⟨joinIndex, d.living, k'.living.trans d.gone, k'.timer.trans d.timer,
      k'.index.trans d.index, deaths.trans d.deaths⟩)
  · -- nobody respawns in the tick of its death
    obtain rfl : args.now + respawnDelayS = due := Option.some.inj (d.timer.symm.trans htimer)
    exact absurd hdue (not_le.mpr (lt_add_of_pos_right _ (by decide : 0 < respawnDelayS)))

theorem Kept.conserves {pid : PlayerId} {g g' : GameEngine} (start : g.Conserving)
    (h : Kept pid g g') : Conserves pid g g' where
  disjoint hpid := fun htimer =>
    start.disjoint pid (h.mem_characters.mp hpid) (h.mem_timers.mp htimer)
  indexed hpid := h.mem_table.mpr (start.indexed pid (h.mem_timers.mp hpid))
  joinIndex := h.joinIndexOf
  deaths := by
    rw [h.deaths, if_neg]
    exact fun both => start.disjoint pid both.1 (h.mem_timers.mp both.2)

theorem Died.mem_characters {now : ℚ} {pid : PlayerId} {joinIndex : ℕ} {g g' : GameEngine}
    (d : Died now pid joinIndex g g') : pid ∈ g.worldState.characters := by
  by_contra hpid
  exact absurd (d.living.symm.trans (livingIndex_eq_none.mpr hpid)) (by simp)

/-- A player that died in the tick waits at its end. -/
theorem Died.conserves {now : ℚ} {pid : PlayerId} {joinIndex : ℕ} {g g' : GameEngine}
    (d : Died now pid joinIndex g g') : Conserves pid g g' where
  disjoint hpid := absurd hpid (livingIndex_eq_none.mp d.gone)
  indexed _ := Dict.mem_of_get?_eq_some d.index
  joinIndex := by
    rw [joinIndexOf, joinIndexOf, d.gone, d.timer, d.index, d.living]
    rfl
  deaths := by rw [d.deaths, if_pos ⟨d.mem_characters, Dict.mem_of_get?_eq_some d.timer⟩]

/-- A player that is respawned has the index it waited with. -/
theorem Respawned.conserves {now : ℚ} {pid : PlayerId} {g g' : GameEngine} (start : g.Conserving)
    (r : Respawned now pid g g') : Conserves pid g g' := by
  obtain ⟨⟨due, htimer, -⟩, living, gone, deaths⟩ := r
  have waiting : pid ∈ g.worldState.respawnTimers := Dict.mem_of_get?_eq_some htimer
  have dead : pid ∉ g.worldState.characters := fun hpid => start.disjoint pid hpid waiting
  obtain ⟨joinIndex, hindex⟩ := Dict.exists_of_mem (start.indexed pid waiting)
  have hindex := Dict.get?_eq_some_iff.mpr hindex
  constructor
  case disjoint => exact fun _ => gone
  case indexed => exact fun hpid => absurd hpid gone
  case joinIndex =>
    rw [joinIndexOf, joinIndexOf, living, Dict.getD, hindex, livingIndex_eq_none.mpr dead, htimer]
    rfl
  case deaths =>
    rw [deaths, if_neg]
    exact fun both => dead both.1

theorem tick_conserves {g g' : GameEngine} {args : TickArgs} (start : g.Conserving)
    (h : g.tick args = .ok g') (pid : PlayerId) : Conserves pid g g' := by
  rcases tick_outcome start.keyed h pid with k | ⟨joinIndex, d⟩ | r
  · exact k.conserves start
  · exact d.conserves
  · exact r.conserves start

/-- Only who was alive and is not any more was announced as dead. -/
theorem tick_deaths {g g' : GameEngine} {args : TickArgs} (keyed : g.worldState.Keyed)
    (h : g.tick args = .ok g') {pid : PlayerId} (dead : g.deathsOf g' pid ≠ 0) :
    pid ∈ g.worldState.characters ∧ pid ∉ g'.worldState.characters := by
  rcases tick_outcome keyed h pid with k | ⟨joinIndex, d⟩ | r
  · exact absurd k.deaths dead
  · exact ⟨d.mem_characters, livingIndex_eq_none.mp d.gone⟩
  · exact absurd r.deaths dead

theorem Conserving.tick {g g' : GameEngine} {args : TickArgs} (start : g.Conserving)
    (h : g.tick args = .ok g') : g'.Conserving where
  keyed := (tick_participants start.keyed h).1
  disjoint pid := (tick_conserves start h pid).disjoint
  indexed pid := (tick_conserves start h pid).indexed

/-- After any run of ticks and one more: the same players are in the game under the same join
indexes, nobody is both alive and waiting, and the last tick announced the death of exactly those
who passed from the living to the waiting in it, once. -/
theorem players_conserved {g g₁ g₂ : GameEngine} (start : g.Conserving) {before : List TickArgs}
    {args : TickArgs} (hbefore : before.foldlM GameEngine.tick g = .ok g₁)
    (htick : g₁.tick args = .ok g₂) :
    g₂.Conserving ∧ (∀ pid, g₂.Present pid ↔ g.Present pid) ∧
      (∀ pid, g₂.joinIndexOf pid = g.joinIndexOf pid) ∧
      ∀ pid, g₁.deathsOf g₂ pid =
        if pid ∈ g₁.worldState.characters ∧ pid ∈ g₂.worldState.respawnTimers then 1 else 0 := by
  have hkept := Fallible.foldlM_keeps
    (P := fun g₁ : GameEngine => g₁.Conserving ∧ (∀ pid, g₁.Present pid ↔ g.Present pid) ∧
      ∀ pid, g₁.joinIndexOf pid = g.joinIndexOf pid)
    (fun g₁ args g₂ _ ⟨hg₁, hpresent, hindex⟩ h => ⟨hg₁.tick h,
      fun pid => ((tick_participants hg₁.keyed h).2 pid).trans (hpresent pid),
      fun pid => (tick_conserves hg₁ h pid).joinIndex.trans (hindex pid)⟩)
    hbefore ⟨start, fun _ => Iff.rfl, fun _ => rfl⟩
  obtain ⟨hg₁, hpresent, hindex⟩ := hkept
  exact ⟨hg₁.tick htick,
    fun pid => ((tick_participants hg₁.keyed htick).2 pid).trans (hpresent pid),
    fun pid => (tick_conserves hg₁ htick pid).joinIndex.trans (hindex pid),
    fun pid => (tick_conserves hg₁ htick pid).deaths⟩

/-- The first player falls into a pit while the second one waits for its respawn. -/
def pit : GameEngine where
  worldState :=
    { characters := .ofList
        [("player1", { playerId := "player1", x := 50, y := 590, joinIndex := 1 })]
      respawnTimers := .ofList [("player2", 1)] }
  respawnJoinIndex := .ofList [("player2", 2)]
  worldWidth := 1000
  worldHeight := 600

theorem pit_conserves_players : ∃ g₁ g₂,
    [(⟨1 / 60, ∅, none, 0⟩ : TickArgs)].foldlM tick pit = .ok g₁ ∧
      g₁.tick ⟨1 / 60, ∅, none, 2⟩ = .ok g₂ ∧ g₂.joinIndexOf "player1" = some 1 ∧
      g₂.joinIndexOf "player2" = some 2 ∧ g₂.Conserving := by
  have start : pit.Conserving := by
    refine ⟨?_, by decide +kernel, by decide +kernel⟩
    change ∀ e ∈ pit.worldState.characters.entries, e.2.playerId = e.1
    decide +kernel
  obtain ⟨g₁, hbefore, hfell⟩ := Fallible.exists_of_okAnd
    (x := [(⟨1 / 60, ∅, none, 0⟩ : TickArgs)].foldlM tick pit)
    (p := fun g₁ => Fallible.okAnd (g₁.tick ⟨1 / 60, ∅, none, 2⟩) fun _ => true) (by decide +kernel)
  obtain ⟨g₂, htick, -⟩ := Fallible.exists_of_okAnd hfell
  obtain ⟨hg₂, -, hindex, -⟩ := players_conserved start hbefore htick
  refine ⟨g₁, g₂, hbefore, htick, ?_, ?_, hg₂⟩
  · rw [hindex]
    decide +kernel
  · rw [hindex]
    decide +kernel

/-- A player that is stored under the name of another one. -/
def misfiled : GameEngine where
  worldState :=
    { characters := .ofList [("player1", { playerId := "player2", x := 50, y := 600 })] }
  worldWidth := 1000
  worldHeight := 600

/-- Its death is that of the other one: the dictionary keeps it, and a second player waits. -/
theorem misfiled_player_is_doubled : misfiled.isAuthoritative = true ∧
    (∀ pid ∈ misfiled.worldState.characters, pid ∉ misfiled.worldState.respawnTimers) ∧
    (∀ pid ∈ misfiled.worldState.respawnTimers, pid ∈ misfiled.respawnJoinIndex) ∧
    ∃ g', misfiled.tick ⟨1 / 60, ∅, none, 0⟩ = .ok g' ∧
      ¬ ∀ pid, g'.Present pid ↔ misfiled.Present pid := by
  refine ⟨rfl, by decide +kernel, by decide +kernel, ?_⟩
  obtain ⟨g', htick, hwaits⟩ := Fallible.exists_of_okAnd
    (x := misfiled.tick ⟨1 / 60, ∅, none, 0⟩)
    (p := fun g' => decide ("player2" ∈ g'.worldState.respawnTimers)) (by decide +kernel)
  refine ⟨g', htick, fun same => ?_⟩
  have present : misfiled.Present "player2" := (same "player2").mp (.inr (of_decide_eq_true hwaits))
  rcases present with h | h
  · exact absurd h (by decide +kernel)
  · exact absurd h (by decide +kernel)

end GameEngine

end DistributedSmb
