import DistributedSmb.Domain.Engine

/-!
# What a tick does

`Evolves` says once what any stage of a tick can do to the parts of the engine that the rest of the
development reasons about: it keeps the level's setting, it emits events whose replay is its whole
effect on blocks and power-ups, and it neither creates nor loses a participant. A tick composes its
stages, so it evolves the engine and then counts itself.
-/

namespace DistributedSmb

open Library

/-! ## Replaying events -/

/-- What an event says about one block. -/
def GameEvent.onBlock : GameEvent → DestructibleBlock → DestructibleBlock
  | .blockDestroyed position, b => if b.position = position then { b with destroyed := true } else b
  | _, b => b

/-- What an event says about one power-up. -/
def GameEvent.onPowerUp : GameEvent → PowerUpId → ExclusivePowerUp → ExclusivePowerUp
  | .powerUpCollected powerupId playerId, key, u =>
    if key = powerupId then { u with collected := true, owner := some playerId } else u
  | _, _, u => u

theorem GameEvent.onBlock_position (e : GameEvent) (b : DestructibleBlock) :
    (e.onBlock b).position = b.position := by
  cases e with
  | blockDestroyed position => simp only [onBlock]; split <;> rfl
  | _ => rfl

theorem GameEvent.onPowerUp_powerupId (e : GameEvent) (key : PowerUpId) (u : ExclusivePowerUp) :
    (e.onPowerUp key u).powerupId = u.powerupId := by
  cases e with
  | powerUpCollected powerupId playerId => simp only [onPowerUp]; split <;> rfl
  | _ => rfl

def replayBlocks (events : List GameEvent) (blocks : List DestructibleBlock) :
    List DestructibleBlock := blocks.map (replay GameEvent.onBlock events)

def replayPowerUps (events : List GameEvent) (powerUps : Dict PowerUpId ExclusivePowerUp) :
    Dict PowerUpId ExclusivePowerUp :=
  powerUps.mapWithKey fun key => replay (GameEvent.onPowerUp · key) events

theorem replayBlocks_append (events rest : List GameEvent) (blocks : List DestructibleBlock) :
    replayBlocks (events ++ rest) blocks = replayBlocks rest (replayBlocks events blocks) := by
  simp [replayBlocks, replay_append]

theorem replayPowerUps_append (events rest : List GameEvent)
    (powerUps : Dict PowerUpId ExclusivePowerUp) :
    replayPowerUps (events ++ rest) powerUps =
      replayPowerUps rest (replayPowerUps events powerUps) := by
  apply Dict.ext
  simp [replayPowerUps, Dict.mapWithKey, replay_append]

@[simp] theorem replayBlocks_nil (blocks : List DestructibleBlock) :
    replayBlocks [] blocks = blocks := by simp [replayBlocks]

@[simp] theorem replayPowerUps_nil (powerUps : Dict PowerUpId ExclusivePowerUp) :
    replayPowerUps [] powerUps = powerUps := by
  apply Dict.ext
  simp [replayPowerUps, Dict.mapWithKey]

theorem replayBlocks_eq_self {events : List GameEvent} {blocks : List DestructibleBlock}
    (h : ∀ e ∈ events, ∀ b ∈ blocks, e.onBlock b = b) : replayBlocks events blocks = blocks := by
  conv_rhs => rw [← List.map_id blocks]
  exact List.map_congr_left fun b hb => replay_eq_self fun e he => h e he b hb

theorem replayPowerUps_eq_self {events : List GameEvent}
    {powerUps : Dict PowerUpId ExclusivePowerUp}
    (h : ∀ e ∈ events, ∀ key u, e.onPowerUp key u = u) :
    replayPowerUps events powerUps = powerUps := by
  refine Dict.mapWithKey_eq_self fun e _ => ?_
  exact replay_eq_self fun event he => h event he e.1 e.2

theorem positions_replayBlocks (events : List GameEvent) (blocks : List DestructibleBlock) :
    (replayBlocks events blocks).map DestructibleBlock.position =
      blocks.map DestructibleBlock.position := by
  rw [replayBlocks, List.map_map]
  exact List.map_congr_left fun b _ => replay_keeps _ GameEvent.onBlock_position events b

/-- Blocks are addressed by position and power-ups by id; a level places no two blocks at one
position. -/
structure EnvironmentalState.Addressed (environment : EnvironmentalState) : Prop where
  positions : (environment.destructibleBlocks.map DestructibleBlock.position).Nodup
  powerupIds : ∀ e ∈ environment.powerUps.entries, e.2.powerupId = e.1

theorem EnvironmentalState.Addressed.replay {environment : EnvironmentalState}
    (h : environment.Addressed) (events : List GameEvent) (enemies : Dict EnemyId Enemy)
    (gates : Dict GateId CooperativeGate) :
    EnvironmentalState.Addressed
      ⟨replayBlocks events environment.destructibleBlocks,
        replayPowerUps events environment.powerUps, enemies, gates⟩ where
  positions := by
    rw [positions_replayBlocks]
    exact h.positions
  powerupIds := by
    intro e he
    obtain ⟨binding, hmem, rfl⟩ := List.mem_map.mp he
    have keep := replay_keeps (GameEvent.onPowerUp · binding.1)
      (fun event u => GameEvent.onPowerUp_powerupId event binding.1 u) events binding.2
    exact keep.trans (h.powerupIds binding hmem)

/-! ## Stages -/

namespace GameEngine

/-- The participants the engine knows: alive, or waiting for their respawn. -/
def Present (g : GameEngine) (pid : PlayerId) : Prop :=
  pid ∈ g.worldState.characters ∨ pid ∈ g.worldState.respawnTimers

/-- What loading a level fixes. -/
def setting (g : GameEngine) : List Platform × Bool × ℤ × ℤ × List SpawnPoint × Level :=
  (g.platforms, g.isAuthoritative, g.worldWidth, g.worldHeight, g.spawnPoints, g.level)

theorem level_of_setting {g g' : GameEngine} (h : g'.setting = g.setting) : g'.level = g.level :=
  congrArg (fun setting => setting.2.2.2.2.2) h

/-- The events of an evolution account for its effect on blocks and power-ups. -/
structure Emits (g g' : GameEngine) (events : List GameEvent) : Prop where
  queued : g'.events = g.events ++ events
  noReset : .levelReset ∉ events
  blocks : g'.worldState.environment.destructibleBlocks =
    replayBlocks events g.worldState.environment.destructibleBlocks
  powerUps : g'.worldState.environment.powerUps =
    replayPowerUps events g.worldState.environment.powerUps

/-- The same participants, stored under their own ids. -/
def SameParticipants (g g' : GameEngine) : Prop :=
  g'.worldState.Keyed ∧ ∀ pid, g'.Present pid ↔ g.Present pid

structure Evolves (g g' : GameEngine) : Prop where
  setting : g'.setting = g.setting
  sequenceNumber : g'.worldState.sequenceNumber = g.worldState.sequenceNumber
  emits : g.worldState.environment.Addressed →
    g'.worldState.environment.Addressed ∧ ∃ events, g.Emits g' events
  participants : g.worldState.Keyed → g.SameParticipants g'

/-- The part of `Evolves` that holds in every engine, also one whose characters are stored under
foreign keys. -/
structure Proceeds (g g' : GameEngine) : Prop where
  setting : g'.setting = g.setting
  sequenceNumber : g'.worldState.sequenceNumber = g.worldState.sequenceNumber
  emits : ∃ events, g.Emits g' events

theorem Emits.addressed {g g' : GameEngine} {events : List GameEvent} (h : g.Emits g' events)
    (hg : g.worldState.environment.Addressed) : g'.worldState.environment.Addressed := by
  have := hg.replay events g'.worldState.environment.enemies
    g'.worldState.environment.cooperativeGates
  rwa [← h.blocks, ← h.powerUps] at this

theorem Emits.accounted {g g' : GameEngine} {events : List GameEvent} (h : g.Emits g' events)
    (hg : g.worldState.environment.Addressed) :
    g'.worldState.environment.Addressed ∧ ∃ events, g.Emits g' events :=
  ⟨h.addressed hg, events, h⟩

theorem Emits.append {g g' g'' : GameEngine} {events rest : List GameEvent}
    (h : g.Emits g' events) (h' : g'.Emits g'' rest) : g.Emits g'' (events ++ rest) where
  queued := by rw [h'.queued, h.queued, List.append_assoc]
  noReset := by simp [h.noReset, h'.noReset]
  blocks := by rw [h'.blocks, h.blocks, replayBlocks_append]
  powerUps := by rw [h'.powerUps, h.powerUps, replayPowerUps_append]

/-- Events that address neither a block nor a power-up. -/
theorem emits_quiet {g g' : GameEngine} (events : List GameEvent)
    (queued : g'.events = g.events ++ events)
    (blocks : g'.worldState.environment.destructibleBlocks =
      g.worldState.environment.destructibleBlocks)
    (powerUps : g'.worldState.environment.powerUps = g.worldState.environment.powerUps)
    (noReset : .levelReset ∉ events) (onBlock : ∀ e ∈ events, ∀ b, e.onBlock b = b)
    (onPowerUp : ∀ e ∈ events, ∀ key u, e.onPowerUp key u = u) : g.Emits g' events where
  queued := queued
  noReset := noReset
  blocks := by rw [blocks, replayBlocks_eq_self fun e he b _ => onBlock e he b]
  powerUps := by rw [powerUps, replayPowerUps_eq_self onPowerUp]

theorem SameParticipants.trans {g g' g'' : GameEngine} (h : g.SameParticipants g')
    (h' : g'.SameParticipants g'') : g.SameParticipants g'' :=
  ⟨h'.1, fun pid => (h'.2 pid).trans (h.2 pid)⟩

theorem Evolves.refl (g : GameEngine) : g.Evolves g where
  setting := rfl
  sequenceNumber := rfl
  emits h := ⟨h, [], emits_quiet [] (by simp) rfl rfl (by simp) (by simp) (by simp)⟩
  participants h := ⟨h, fun _ => Iff.rfl⟩

theorem Evolves.trans {g g' g'' : GameEngine} (h : g.Evolves g') (h' : g'.Evolves g'') :
    g.Evolves g'' where
  setting := h'.setting.trans h.setting
  sequenceNumber := h'.sequenceNumber.trans h.sequenceNumber
  emits hg := by
    obtain ⟨hg', events, hevents⟩ := h.emits hg
    obtain ⟨hg'', rest, hrest⟩ := h'.emits hg'
    exact ⟨hg'', events ++ rest, hevents.append hrest⟩
  participants hg := (h.participants hg).trans (h'.participants (h.participants hg).1)

theorem emits_nothing {g g' : GameEngine} (events : g'.events = g.events)
    (blocks : g'.worldState.environment.destructibleBlocks =
      g.worldState.environment.destructibleBlocks)
    (powerUps : g'.worldState.environment.powerUps = g.worldState.environment.powerUps) :
    ∃ events, g.Emits g' events :=
  ⟨[], emits_quiet [] (by simp [events]) blocks powerUps (by simp) (by simp) (by simp)⟩

theorem Proceeds.refl (g : GameEngine) : g.Proceeds g := ⟨rfl, rfl, emits_nothing rfl rfl rfl⟩

theorem Proceeds.trans {g g' g'' : GameEngine} (h : g.Proceeds g') (h' : g'.Proceeds g'') :
    g.Proceeds g'' where
  setting := h'.setting.trans h.setting
  sequenceNumber := h'.sequenceNumber.trans h.sequenceNumber
  emits := by
    obtain ⟨events, he⟩ := h.emits
    obtain ⟨rest, hr⟩ := h'.emits
    exact ⟨events ++ rest, he.append hr⟩

theorem Proceeds.evolves {g g' : GameEngine} (h : g.Proceeds g')
    (participants : g.worldState.Keyed → g.SameParticipants g') : g.Evolves g' where
  setting := h.setting
  sequenceNumber := h.sequenceNumber
  emits hg := by
    obtain ⟨events, he⟩ := h.emits
    exact he.accounted hg
  participants := participants

/-- A change of the characters only, each of which stays who it is. -/
theorem Proceeds.evolves_of_characters {g g' : GameEngine} (h : g.Proceeds g')
    (timers : g'.worldState.respawnTimers = g.worldState.respawnTimers)
    (keys : g'.worldState.characters.keys = g.worldState.characters.keys)
    (same : ∀ e ∈ g'.worldState.characters.entries,
      ∃ p, (e.1, p) ∈ g.worldState.characters.entries ∧ e.2.playerId = p.playerId) :
    g.Evolves g' := by
  refine h.evolves fun hg => ⟨fun e he => ?_, fun pid => ?_⟩
  · obtain ⟨p, hp, heq⟩ := same e he
    rw [heq]
    exact hg _ hp
  · simp only [Present, timers, Dict.mem_iff, keys]

theorem mapPlayers_evolves (f : Player → Player) (h : ∀ p, (f p).playerId = p.playerId)
    (g : GameEngine) : g.Evolves (g.mapPlayers f) := by
  refine Proceeds.evolves_of_characters ⟨rfl, rfl, emits_nothing rfl rfl rfl⟩ rfl
    (Dict.keys_mapValues _ _) ?_
  intro e he
  obtain ⟨e, hmem, rfl⟩ := List.mem_map.mp he
  exact ⟨e.2, hmem, h e.2⟩

theorem expirePowerupEffect_playerId (now : ℚ) (p : Player) :
    (p.expirePowerupEffect now).playerId = p.playerId := by
  unfold Player.expirePowerupEffect
  split
  · split <;> rfl
  · rfl

theorem handleCollisions_playerId (platforms : List Platform) (p : Player) :
    (p.handleCollisions platforms).playerId = p.playerId := by
  refine Fallible.foldl_keeps (P := fun q : Player => q.playerId = p.playerId) ?_ rfl
  intro q platform _ hq
  split
  · rw [resolveCollision_playerId, hq]
  · exact hq

theorem applyInputs_evolves (inputs : Dict PlayerId InputState) (g : GameEngine) :
    g.Evolves (g.applyInputs inputs) := by
  refine Proceeds.evolves_of_characters ⟨rfl, rfl, emits_nothing rfl rfl rfl⟩ rfl
    (Dict.keys_mapWithKey _ _) ?_
  intro e he
  obtain ⟨e, hmem, rfl⟩ := List.mem_map.mp he
  refine ⟨e.2, hmem, ?_⟩
  dsimp only
  split <;> rfl

/-! ### Blocks -/

theorem destroy_of_intact {b : DestructibleBlock} (h : b.destroyed = false) :
    b.destroy = .ok ({ b with destroyed := true }, .blockDestroyed b.position) := by
  simp [DestructibleBlock.destroy, h]

/-- A block is left alone, touched, or destroyed together with its event. -/
theorem bumpBlock_cases (p : Player) (b : DestructibleBlock) :
    bumpBlock p b = .ok (p, b, []) ∨
    bumpBlock p b = .ok (resolveCollision p b.box, b, []) ∨
    bumpBlock p b = .ok (resolveCollision p b.box, { b with destroyed := true },
      [.blockDestroyed b.position]) := by
  unfold bumpBlock
  split
  case isTrue h =>
    have intact : b.destroyed = false := by simp_all
    split
    · rw [destroy_of_intact intact]
      exact .inr (.inr rfl)
    · exact .inr (.inl rfl)
  case isFalse => exact .inl rfl

theorem bumpBlock_spec {p p' : Player} {b b' : DestructibleBlock} {out : List GameEvent}
    (h : bumpBlock p b = .ok (p', b', out)) :
    p'.playerId = p.playerId ∧ b' = replay GameEvent.onBlock out b ∧
      ∀ o ∈ out, o = .blockDestroyed b.position := by
  rcases bumpBlock_cases p b with heq | heq | heq <;> rw [heq] at h <;> cases h
  · simp
  · simp
  · simp [replay, GameEvent.onBlock]

theorem bumpBlocks_spec {blocks blocks' : List DestructibleBlock} {pid : PlayerId} {p p' : Player}
    {out : List GameEvent} (h : bumpBlocks blocks pid p = .ok (blocks', p', out)) :
    p'.playerId = p.playerId ∧ (∀ o ∈ out, ∃ position, o = .blockDestroyed position) ∧
      ((blocks.map DestructibleBlock.position).Nodup → blocks' = replayBlocks out blocks) := by
  obtain ⟨⟨q, l, events⟩, hsweep, h⟩ := Fallible.bind_eq_ok.mp h
  cases h
  have hstate := Sweep.state_rel
    (Q := fun (p : Player) (out : List GameEvent) (p' : Player) =>
      p'.playerId = p.playerId ∧ ∀ o ∈ out, ∃ position, o = .blockDestroyed position)
    (by simp)
    (fun h h' => ⟨h'.1.trans h.1, fun o ho => (List.mem_append.mp ho).elim (h.2 o) (h'.2 o)⟩)
    (fun p b p' b' out _ hb => by
      obtain ⟨hid, -, hout⟩ := bumpBlock_spec hb
      exact ⟨hid, fun o ho => ⟨_, hout o ho⟩⟩) hsweep
  refine ⟨hstate.1, hstate.2, fun nodup => ?_⟩
  refine (Sweep.eq_replay DestructibleBlock.position GameEvent.onBlock ?_
    GameEvent.onBlock_position nodup hsweep).1
  intro p b p' b' out _ hb
  obtain ⟨-, heq, hout⟩ := bumpBlock_spec hb
  refine ⟨heq, fun o ho c hc => ?_⟩
  rw [hout o ho]
  simp [GameEvent.onBlock, hc]

theorem handleBlockCollisions_evolves {g g' : GameEngine}
    (h : g.handleBlockCollisions = .ok g') : g.Evolves g' := by
  obtain ⟨⟨blocks, characters, events⟩, hsweep, h⟩ := Fallible.bind_eq_ok.mp h
  obtain rfl := Except.ok.inj h
  have hstate := Dict.sweep_state_rel
    (Q := fun (blocks : List DestructibleBlock) (out : List GameEvent) blocks' =>
      (∀ o ∈ out, ∃ position, o = .blockDestroyed position) ∧
        ((blocks.map DestructibleBlock.position).Nodup → blocks' = replayBlocks out blocks))
    (by simp)
    (fun {s u t out rest} h h' => ⟨fun o ho => (List.mem_append.mp ho).elim (h.1 o) (h'.1 o),
      fun nodup => by
        have hu : u = replayBlocks out s := h.2 nodup
        rw [replayBlocks_append, ← hu]
        exact h'.2 (by rwa [hu, positions_replayBlocks])⟩)
    (fun blocks pid p blocks' p' out hb => (bumpBlocks_spec hb).2) hsweep
  constructor
  case setting => rfl
  case sequenceNumber => rfl
  case emits =>
    intro addressed
    have quiet : ∀ e ∈ events, ∀ key u, e.onPowerUp key u = u := by
      intro e he key u
      obtain ⟨position, rfl⟩ := hstate.1 e he
      rfl
    have noReset : .levelReset ∉ events := fun h => by
      obtain ⟨position, h⟩ := hstate.1 _ h
      cases h
    exact Emits.accounted
      ⟨rfl, noReset, hstate.2 addressed.positions, (replayPowerUps_eq_self quiet).symm⟩ addressed
  case participants =>
    intro keyed
    refine ⟨?_, fun pid => by simp only [Present, Dict.mem_iff, Dict.keys_sweep hsweep]⟩
    intro e he
    obtain ⟨p, hp, heq⟩ := Dict.mem_entries_sweep
      (R := fun (p p' : Player) => p'.playerId = p.playerId)
      (fun blocks pid p blocks' p' out hb => (bumpBlocks_spec hb).1) hsweep he
    rw [heq]
    exact keyed _ hp

/-! ### Power-ups -/

/-- A power-up is left alone, or collected by one of the characters together with its event. -/
theorem awardPowerup_cases {now : ℚ} {characters characters' : Dict PlayerId Player}
    {key : PowerUpId} {u u' : ExclusivePowerUp} {out : List GameEvent}
    (h : awardPowerup now characters key u = .ok (characters', u', out)) :
    (characters' = characters ∧ u' = u ∧ out = []) ∨
    ∃ pid p p', (pid, p) ∈ characters.entries ∧ p'.playerId = p.playerId ∧
      characters' = characters.set pid p' ∧
      u' = { u with collected := true, owner := some p.playerId } ∧
      out = [.powerUpCollected u.powerupId p.playerId] := by
  unfold awardPowerup at h
  split at h
  case isTrue => cases h; exact .inl ⟨rfl, rfl, rfl⟩
  case isFalse hcollected =>
    dsimp only at h
    split at h
    · cases h; exact .inl ⟨rfl, rfl, rfl⟩
    · rename_i pid p hwinner
      have hmem := (List.mem_filter.mp (List.minOn?_mem hwinner)).1
      simp only [ExclusivePowerUp.collect, hcollected, Bool.false_eq_true, if_false,
        Fallible.ok_bind] at h
      cases h
      refine .inr ⟨pid, p, _, hmem, ?_, rfl, rfl, rfl⟩
      split <;> rfl

/-- The characters keep their keys and who they are. -/
def SameCharacters (cs cs' : Dict PlayerId Player) : Prop :=
  cs'.keys = cs.keys ∧ ∀ e ∈ cs'.entries, ∃ p, (e.1, p) ∈ cs.entries ∧ e.2.playerId = p.playerId

theorem SameCharacters.refl (cs : Dict PlayerId Player) : SameCharacters cs cs :=
  ⟨rfl, fun e he => ⟨e.2, he, rfl⟩⟩

theorem SameCharacters.trans {cs cs' cs'' : Dict PlayerId Player} (h : SameCharacters cs cs')
    (h' : SameCharacters cs' cs'') : SameCharacters cs cs'' := by
  refine ⟨h'.1.trans h.1, fun e he => ?_⟩
  obtain ⟨p, hp, heq⟩ := h'.2 e he
  obtain ⟨q, hq, heq'⟩ := h.2 _ hp
  exact ⟨q, hq, heq.trans heq'⟩

theorem sameCharacters_set {cs : Dict PlayerId Player} {pid : PlayerId} {p p' : Player}
    (hp : (pid, p) ∈ cs.entries) (h : p'.playerId = p.playerId) :
    SameCharacters cs (cs.set pid p') := by
  refine ⟨Dict.keys_set_of_mem (Dict.mem_keys_of_mem hp) p', fun e he => ?_⟩
  rcases Dict.mem_entries_set.mp he with rfl | ⟨he, -⟩
  · exact ⟨p, hp, h⟩
  · exact ⟨e.2, he, rfl⟩

theorem handlePowerupCollisions_evolves {now : ℚ} {g g' : GameEngine}
    (h : g.handlePowerupCollisions now = .ok g') : g.Evolves g' := by
  unfold handlePowerupCollisions at h
  split at h
  · cases h; exact .refl g
  obtain ⟨⟨characters, powerUps, events⟩, hsweep, h⟩ := Fallible.bind_eq_ok.mp h
  obtain rfl := Except.ok.inj h
  have hstate := Dict.sweep_state_rel
    (Q := fun (cs : Dict PlayerId Player) (out : List GameEvent) cs' =>
      SameCharacters cs cs' ∧ ∀ o ∈ out, ∃ powerupId pid, o = .powerUpCollected powerupId pid)
    (fun cs => ⟨.refl cs, by simp⟩)
    (fun h h' => ⟨h.1.trans h'.1, fun o ho => (List.mem_append.mp ho).elim (h.2 o) (h'.2 o)⟩)
    (fun cs key u cs' u' out hu => by
      rcases awardPowerup_cases hu with ⟨rfl, rfl, rfl⟩ | ⟨pid, p, p', hp, hid, rfl, rfl, rfl⟩
      · exact ⟨.refl cs', by simp⟩
      · exact ⟨sameCharacters_set hp hid, by simp⟩) hsweep
  constructor
  case setting => rfl
  case sequenceNumber => rfl
  case emits =>
    intro addressed
    have hreplay : powerUps = replayPowerUps events g.worldState.environment.powerUps := by
      refine Dict.sweep_eq_replay ?_ hsweep
      intro cs key u cs' u' out hmem hu
      obtain rfl : u.powerupId = key := addressed.powerupIds _ hmem
      rcases awardPowerup_cases hu with ⟨-, rfl, rfl⟩ | ⟨pid, p, p', -, -, -, rfl, rfl⟩
      · simp
      · refine ⟨by simp [replay, GameEvent.onPowerUp], ?_⟩
        intro o ho key' u' hne
        rw [List.mem_singleton.mp ho]
        simp [GameEvent.onPowerUp, hne]
    have quiet : ∀ e ∈ events, ∀ b ∈ g.worldState.environment.destructibleBlocks,
        e.onBlock b = b := by
      intro e he b _
      obtain ⟨powerupId, pid, rfl⟩ := hstate.2 e he
      rfl
    have noReset : .levelReset ∉ events := fun h => by
      obtain ⟨powerupId, pid, h⟩ := hstate.2 _ h
      cases h
    exact Emits.accounted ⟨rfl, noReset, (replayBlocks_eq_self quiet).symm, hreplay⟩ addressed
  case participants =>
    intro keyed
    refine ⟨?_, fun pid => by simp only [Present, Dict.mem_iff, hstate.1.1]⟩
    intro e he
    obtain ⟨p, hp, heq⟩ := hstate.1.2 e he
    rw [heq]
    exact keyed _ hp

/-! ### Enemies, deaths and respawns -/

theorem updateEnemies_evolves (dt : ℚ)
    (enemyCommands : Option (Dict EnemyId EnemyMovementCommand)) (g : GameEngine) :
    g.Evolves (g.updateEnemies dt enemyCommands) :=
  Proceeds.evolves_of_characters ⟨rfl, rfl, emits_nothing rfl rfl rfl⟩ rfl rfl
    fun e he => ⟨e.2, he, rfl⟩

theorem deleteEnemy_spec {g g' : GameEngine} {enemyId : EnemyId}
    (h : g.deleteEnemy enemyId = .ok g') :
    g.Proceeds g' ∧ (g.worldState.Keyed → g.SameParticipants g') := by
  simp only [deleteEnemy] at h
  split at h <;> cases h
  exact ⟨⟨rfl, rfl, emits_nothing rfl rfl rfl⟩, fun hg => ⟨hg, fun _ => Iff.rfl⟩⟩

/-- The characters of `l` are stored under their own ids and known to the engine. -/
def Lists (g : GameEngine) (l : List (PlayerId × Player)) : Prop :=
  ∀ e ∈ l, e.2.playerId = e.1 ∧ g.Present e.1

theorem lists_characters {g : GameEngine} (h : g.worldState.Keyed) :
    g.Lists g.worldState.characters.entries :=
  fun e he => ⟨h e he, .inl (Dict.mem_keys_of_mem he)⟩

theorem Lists.mono {g g' : GameEngine} {l : List (PlayerId × Player)} (h : g.Lists l)
    (hg : g.SameParticipants g') : g'.Lists l :=
  fun e he => ⟨(h e he).1, (hg.2 e.1).mpr (h e he).2⟩

theorem setCharacter_proceeds (g : GameEngine) (key : PlayerId) (p : Player) :
    g.Proceeds (g.setCharacter key p) := ⟨rfl, rfl, emits_nothing rfl rfl rfl⟩

theorem setCharacter_participants {g : GameEngine} {key : PlayerId} {p : Player}
    (hg : g.worldState.Keyed) (hkey : p.playerId = key) (h : g.Present key) :
    g.SameParticipants (g.setCharacter key p) := by
  subst hkey
  refine ⟨hg.addPlayer p, fun pid => ?_⟩
  simp only [Present, setCharacter, Dict.mem_set]
  grind [Present]

theorem queuePlayerDeath_proceeds (now : ℚ) (cause : EnemyId) (g : GameEngine) (p : Player) :
    g.Proceeds (g.queuePlayerDeath now cause p) :=
  ⟨rfl, rfl, _, emits_quiet [.playerDeath p.playerId cause] rfl rfl rfl
    (by simp) (by simp [GameEvent.onBlock]) (by simp [GameEvent.onPowerUp])⟩

theorem queuePlayerDeath_participants (now : ℚ) (cause : EnemyId) {g : GameEngine} {p : Player}
    (hg : g.worldState.Keyed) (h : g.Present p.playerId) :
    g.SameParticipants (g.queuePlayerDeath now cause p) := by
  refine ⟨hg.removePlayer p.playerId, fun pid => ?_⟩
  simp only [Present, queuePlayerDeath, WorldState.removePlayer, Dict.mem_erase, Dict.mem_set]
  grind [Present]

theorem hasActivePowerupEffect_playerId (now : ℚ) (p : Player) :
    (p.hasActivePowerupEffect now).1.playerId = p.playerId := by
  unfold Player.hasActivePowerupEffect
  split
  · rfl
  · split <;> rfl

theorem fightEnemy_spec {now : ℚ} {e : Enemy} {l : List (PlayerId × Player)} {g g' : GameEngine}
    (h : fightEnemy now e g l = .ok g') :
    g.Proceeds g' ∧ (g.worldState.Keyed → g.Lists l → g.SameParticipants g') := by
  induction l generalizing g with
  | nil => cases h; exact ⟨.refl _, fun hg _ => ⟨hg, fun _ => Iff.rfl⟩⟩
  | cons entry rest ih =>
    obtain ⟨key, p⟩ := entry
    simp only [fightEnemy] at h
    have hid := hasActivePowerupEffect_playerId now p
    generalize p.hasActivePowerupEffect now = checked at h hid
    have tail {g₁ : GameEngine} (lists : g.Lists ((key, p) :: rest)) (hg : g.SameParticipants g₁) :
        g₁.Lists rest := fun e he => lists.mono hg e (List.mem_cons_of_mem _ he)
    have known {g₁ : GameEngine} (lists : g.Lists ((key, p) :: rest))
        (hg : g.SameParticipants g₁) : key = checked.1.playerId ∧ g₁.Present key := by
      obtain ⟨hkey, hpresent⟩ := lists.mono hg _ List.mem_cons_self
      exact ⟨by rw [hid, hkey], hpresent⟩
    split at h
    · -- no contact
      obtain ⟨hp, hs⟩ := ih h
      exact ⟨hp, fun hg lists => hs hg (tail lists ⟨hg, fun _ => Iff.rfl⟩)⟩
    split at h
    · -- the enemy is defeated
      obtain ⟨g₁, hdelete, h⟩ := Fallible.bind_eq_ok.mp h
      cases h
      obtain ⟨hp, hs⟩ := deleteEnemy_spec hdelete
      refine ⟨hp.trans (setCharacter_proceeds _ _ _), fun hg lists => ?_⟩
      obtain ⟨rfl, hpresent⟩ := known lists (hs hg)
      exact (hs hg).trans (setCharacter_participants (hs hg).1 rfl hpresent)
    · -- the player dies
      obtain ⟨hp, hs⟩ := ih h
      refine ⟨(queuePlayerDeath_proceeds _ _ _ _).trans hp, fun hg lists => ?_⟩
      obtain ⟨hkey, hpresent⟩ := known lists ⟨hg, fun _ => Iff.rfl⟩
      have hdeath := queuePlayerDeath_participants now e.enemyId hg (hkey ▸ hpresent)
      exact hdeath.trans (hs hdeath.1 (tail lists hdeath))

theorem handleEnemyCollisions_evolves {now : ℚ} {g g' : GameEngine}
    (h : g.handleEnemyCollisions now = .ok g') : g.Evolves g' := by
  unfold handleEnemyCollisions at h
  split at h
  · cases h; exact .refl g
  refine Fallible.foldlM_rel Evolves.refl Evolves.trans (fun g e g' _ h => ?_) h
  obtain ⟨hp, hs⟩ := fightEnemy_spec h
  exact hp.evolves fun hg => hs hg (lists_characters hg)

theorem handleVoidDeaths_evolves (now : ℚ) (g : GameEngine) :
    g.Evolves (g.handleVoidDeaths now) := by
  unfold handleVoidDeaths
  split
  · exact .refl g
  refine Proceeds.evolves ?_ fun hg => ?_
  · refine Fallible.foldl_keeps (P := g.Proceeds) (fun g₁ p _ h => ?_) (.refl g)
    split
    · exact h
    · exact h.trans (queuePlayerDeath_proceeds _ _ _ _)
  · refine Fallible.foldl_keeps (P := g.SameParticipants) (fun g₁ p hp h => ?_)
      ⟨hg, fun _ => Iff.rfl⟩
    split
    · exact h
    · obtain ⟨e, he, rfl⟩ := List.mem_map.mp hp
      obtain ⟨hkey, hpresent⟩ := (lists_characters hg).mono h e he
      exact h.trans (queuePlayerDeath_participants _ _ h.1 (hkey ▸ hpresent))

theorem respawn_proceeds (g : GameEngine) (pid : PlayerId) : g.Proceeds (g.respawn pid) :=
  ⟨rfl, rfl, emits_nothing rfl rfl rfl⟩

theorem respawn_participants {g : GameEngine} {pid : PlayerId} (hg : g.worldState.Keyed)
    (h : g.Present pid) : g.SameParticipants (g.respawn pid) := by
  refine ⟨hg.addPlayer _, fun q => ?_⟩
  simp only [Present, respawn, spawnPlayer, WorldState.addPlayer, Player.clampToWorld, Dict.mem_set,
    Dict.mem_erase]
  grind [Present]

theorem processRespawns_evolves (now : ℚ) (g : GameEngine) :
    g.Evolves (g.processRespawns now) := by
  unfold processRespawns
  split
  · exact .refl g
  refine Proceeds.evolves ?_ fun hg => ?_
  · refine Fallible.foldl_keeps (P := g.Proceeds) (fun g₁ timer _ h => ?_) (.refl g)
    split
    · exact h.trans (respawn_proceeds _ _)
    · exact h
  · refine Fallible.foldl_keeps (P := g.SameParticipants) (fun g₁ timer ht h => ?_)
      ⟨hg, fun _ => Iff.rfl⟩
    split
    · exact h.trans (respawn_participants h.1 ((h.2 _).mpr (.inr (Dict.mem_keys_of_mem ht))))
    · exact h

/-! ### Gates and victory -/

theorem updateState_event {gate : CooperativeGate} {b : Bool} {event : GameEvent}
    (h : (gate.updateState b).2 = some event) :
    ∃ newState, event = .gateStateChanged gate.gateId newState := by
  simp only [CooperativeGate.updateState] at h
  generalize (if b = true then "open" else "closed") = newState at h
  split at h
  · cases h
  · exact ⟨_, (Option.some.inj h).symm⟩

theorem pushBack_sameCharacters (gate : CooperativeGate) (cs : Dict PlayerId Player) :
    SameCharacters cs (gate.pushBack cs) := by
  unfold CooperativeGate.pushBack
  split
  · refine ⟨Dict.keys_mapValues _ _, fun e he => ?_⟩
    obtain ⟨e, hmem, rfl⟩ := List.mem_map.mp he
    refine ⟨e.2, hmem, ?_⟩
    dsimp only
    split
    · rw [resolveCollision_playerId]
    · rfl
  · exact .refl cs

theorem handleGateCollisions_sameCharacters (g : GameEngine) :
    SameCharacters g.worldState.characters g.handleGateCollisions.worldState.characters :=
  Fallible.foldl_keeps (P := SameCharacters g.worldState.characters)
    (fun cs _ _ h => h.trans (pushBack_sameCharacters _ cs)) (.refl _)

theorem handleGateCollisions_evolves (g : GameEngine) : g.Evolves g.handleGateCollisions := by
  have same := g.handleGateCollisions_sameCharacters
  refine Proceeds.evolves_of_characters ⟨rfl, rfl, _, emits_quiet _ rfl rfl rfl ?_ ?_ ?_⟩ rfl
    same.1 same.2
  · intro he
    obtain ⟨gate, -, hevent⟩ := List.mem_filterMap.mp he
    obtain ⟨newState, heq⟩ := updateState_event hevent
    cases heq
  all_goals
    intro event he
    obtain ⟨gate, -, hevent⟩ := List.mem_filterMap.mp he
    obtain ⟨newState, rfl⟩ := updateState_event hevent
    intros
    rfl

theorem handleVictoryCondition_evolves (g : GameEngine) : g.Evolves g.handleVictoryCondition := by
  unfold handleVictoryCondition
  split
  · exact .refl g
  · split
    · exact Proceeds.evolves_of_characters ⟨rfl, rfl, emits_nothing rfl rfl rfl⟩ rfl rfl
        fun e he => ⟨e.2, he, rfl⟩
    · exact .refl g

/-! ## The tick -/

theorem stage_evolves {args : TickArgs} {stage : TickStage} {g g' : GameEngine}
    (h : stage.run args g = .ok g') : g.Evolves g' := by
  cases stage with
  | recordPrevious => cases h; exact mapPlayers_evolves Player.recordPrevious (fun _ => rfl) g
  | expirePowerupEffects => cases h; exact mapPlayers_evolves _ (expirePowerupEffect_playerId _) g
  | applyInputs => cases h; exact applyInputs_evolves _ g
  | applyPhysics =>
    cases h
    exact mapPlayers_evolves (fun p => DistributedSmb.applyPhysics p args.dt) (fun _ => rfl) g
  | handleCollisions => cases h; exact mapPlayers_evolves _ (handleCollisions_playerId _) g
  | handleBlockCollisions => exact handleBlockCollisions_evolves h
  | handlePowerupCollisions => exact handlePowerupCollisions_evolves h
  | updateEnemies => cases h; exact updateEnemies_evolves _ _ g
  | handleEnemyCollisions => exact handleEnemyCollisions_evolves h
  | handleVoidDeaths => cases h; exact handleVoidDeaths_evolves _ g
  | syncObjectiveProgress =>
    cases h
    exact Proceeds.evolves_of_characters ⟨rfl, rfl, emits_nothing rfl rfl rfl⟩ rfl rfl
      fun e he => ⟨e.2, he, rfl⟩
  | handleGateCollisions => cases h; exact handleGateCollisions_evolves g
  | clampPlayersToWorld =>
    cases h
    exact mapPlayers_evolves (Player.clampToWorld g.worldWidth g.worldHeight false)
      (fun _ => rfl) g
  | handleVictoryCondition => cases h; exact handleVictoryCondition_evolves g
  | processRespawns => cases h; exact processRespawns_evolves _ g

/-- A tick evolves the engine and counts itself. -/
theorem tick_evolves {g g' : GameEngine} {args : TickArgs} (h : g.tick args = .ok g') :
    ∃ g₁, g.Evolves g₁ ∧ g' = g₁.countTick := by
  unfold tick at h
  split at h
  · cases h; exact ⟨g, .refl g, rfl⟩
  · obtain ⟨g₁, hstages, h⟩ := Fallible.bind_eq_ok.mp h
    cases h
    exact ⟨g₁, Fallible.foldlM_rel Evolves.refl Evolves.trans
      (fun _ _ _ _ h => stage_evolves h) hstages, rfl⟩

theorem tick_sequenceNumber {g g' : GameEngine} {args : TickArgs} (h : g.tick args = .ok g') :
    g'.worldState.sequenceNumber = g.worldState.sequenceNumber + 1 := by
  obtain ⟨g₁, he, rfl⟩ := tick_evolves h
  simp [countTick, he.sequenceNumber]

theorem tick_setting {g g' : GameEngine} {args : TickArgs} (h : g.tick args = .ok g') :
    g'.setting = g.setting := by
  obtain ⟨g₁, he, rfl⟩ := tick_evolves h
  exact he.setting

theorem tick_isAuthoritative {g g' : GameEngine} {args : TickArgs} (h : g.tick args = .ok g') :
    g'.isAuthoritative = g.isAuthoritative := congrArg (fun s => s.2.1) (tick_setting h)

theorem tick_participants {g g' : GameEngine} {args : TickArgs} (hg : g.worldState.Keyed)
    (h : g.tick args = .ok g') : g.SameParticipants g' := by
  obtain ⟨g₁, he, rfl⟩ := tick_evolves h
  exact he.participants hg

theorem tick_emits {g g' : GameEngine} {args : TickArgs}
    (hg : g.worldState.environment.Addressed) (h : g.tick args = .ok g') :
    g'.worldState.environment.Addressed ∧ ∃ events, g.Emits g' events := by
  obtain ⟨g₁, he, rfl⟩ := tick_evolves h
  obtain ⟨haddressed, events, hevents⟩ := he.emits hg
  exact ⟨haddressed, events, hevents.queued, hevents.noReset, hevents.blocks, hevents.powerUps⟩

/-! ## A predicting engine

A client's engine is not authoritative: it collects no power-up, kills nobody and never raises. -/

theorem bumpBlocks_succeeds (blocks : List DestructibleBlock) (pid : PlayerId) (p : Player) :
    ∃ r, bumpBlocks blocks pid p = .ok r := by
  obtain ⟨r, hr, -⟩ := Sweep.succeeds (f := bumpBlock) (P := fun _ => True) (l := blocks)
    (fun p b _ _ => by
      rcases bumpBlock_cases p b with h | h | h <;> exact ⟨_, h, trivial⟩) (s := p) trivial
  exact ⟨_, by rw [bumpBlocks, hr]; rfl⟩

/-- The stages that only an authoritative engine runs. -/
def TickStage.needsAuthority : TickStage → Bool
  | handlePowerupCollisions | handleEnemyCollisions | handleVoidDeaths | handleVictoryCondition
  | processRespawns => true
  | _ => false

theorem stage_idle (args : TickArgs) {stage : TickStage} {g : GameEngine}
    (hg : g.isAuthoritative = false) (h : stage.needsAuthority = true) :
    stage.run args g = .ok g := by
  cases stage with
  | handlePowerupCollisions => simp [TickStage.run, handlePowerupCollisions, hg]
  | handleEnemyCollisions => simp [TickStage.run, handleEnemyCollisions, hg]
  | handleVoidDeaths => simp [TickStage.run, handleVoidDeaths, hg]
  | handleVictoryCondition => simp [TickStage.run, handleVictoryCondition, hg]
  | processRespawns => simp [TickStage.run, processRespawns, hg]
  | _ => cases h

theorem eq_of_stage_idle {args : TickArgs} {stage : TickStage} {g g' : GameEngine}
    (hg : g.isAuthoritative = false) (h : stage.needsAuthority = true)
    (hrun : stage.run args g = .ok g') : g' = g :=
  Except.ok.inj (hrun.symm.trans (stage_idle args hg h))

theorem stage_succeeds (args : TickArgs) (stage : TickStage) {g : GameEngine}
    (hg : g.isAuthoritative = false) : ∃ g', stage.run args g = .ok g' := by
  cases stage with
  | handleBlockCollisions =>
    obtain ⟨r, hr, -⟩ := Dict.sweep_succeeds (f := bumpBlocks) (P := fun _ => True)
      (d := g.worldState.characters)
      (fun blocks pid p _ => (bumpBlocks_succeeds blocks pid p).imp fun _ h => ⟨h, trivial⟩)
      (s := g.worldState.environment.destructibleBlocks) trivial
    exact ⟨_, by rw [TickStage.run, handleBlockCollisions, hr]; rfl⟩
  | handlePowerupCollisions | handleEnemyCollisions => exact ⟨g, stage_idle args hg rfl⟩
  | _ => exact ⟨_, rfl⟩

theorem tick_succeeds {g : GameEngine} (args : TickArgs) (hg : g.isAuthoritative = false) :
    ∃ g', g.tick args = .ok g' := by
  unfold tick
  split
  · exact ⟨_, rfl⟩
  · obtain ⟨g₁, hg₁, -⟩ := Fallible.foldlM_succeeds (P := fun g => g.isAuthoritative = false)
      (f := fun g (stage : TickStage) => stage.run args g) (l := tickStages)
      (fun g stage _ hg => by
        obtain ⟨g', h⟩ := stage_succeeds args stage hg
        exact ⟨g', h, (congrArg (fun s => s.2.1) (stage_evolves h).setting).trans hg⟩) hg
    exact ⟨g₁.countTick, by simp [hg₁]⟩

end GameEngine

end DistributedSmb
