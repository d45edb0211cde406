import DistributedSmb.Domain.Evolution

/-!
# What a stage leaves alone

Five stages of a tick work on the objectives: the blocks, the power-ups, the counters, the gates and
the victory. The other ten write none of this. Five stages emit events, each of one kind.
-/

namespace DistributedSmb

open Library

namespace WorldState

def counters (w : WorldState) : ℤ × ℤ × ℤ :=
  (w.coinsCollected, w.blocksDestroyed, w.enemiesDefeated)

end WorldState

/-- What the objectives read and only their own stages write. -/
structure Objectives where
  counters : ℤ × ℤ × ℤ
  powerUps : Dict PowerUpId ExclusivePowerUp
  blocks : List DestructibleBlock
  gates : Dict GateId CooperativeGate
  initialEnemyCount : ℤ
  victory : Bool

namespace GameEngine

def objectives (g : GameEngine) : Objectives where
  counters := g.worldState.counters
  powerUps := g.worldState.environment.powerUps
  blocks := g.worldState.environment.destructibleBlocks
  gates := g.worldState.environment.cooperativeGates
  initialEnemyCount := g.worldState.initialEnemyCount
  victory := g.worldState.victory

theorem fightEnemy_objectives {now : ℚ} {e : Enemy} {l : List (PlayerId × Player)}
    {g g' : GameEngine} (h : fightEnemy now e g l = .ok g') : g'.objectives = g.objectives := by
  induction l generalizing g with
  | nil => cases h; rfl
  | cons entry rest ih =>
    obtain ⟨key, p⟩ := entry
    simp only [fightEnemy] at h
    split at h
    · exact ih h
    split at h
    · -- the enemy is defeated
      obtain ⟨g₁, hdelete, h⟩ := Fallible.bind_eq_ok.mp h
      cases h
      simp only [deleteEnemy] at hdelete
      split at hdelete <;> cases hdelete
      rfl
    · exact (ih h).trans rfl

def objectiveStages : List TickStage :=
  [.handleBlockCollisions, .handlePowerupCollisions, .syncObjectiveProgress, .handleGateCollisions,
    .handleVictoryCondition]

theorem stage_objectives {args : TickArgs} {stage : TickStage} {g g' : GameEngine}
    (other : stage ∉ objectiveStages) (h : stage.run args g = .ok g') :
    g'.objectives = g.objectives := by
  cases stage with
  | handleEnemyCollisions =>
    simp only [TickStage.run, handleEnemyCollisions] at h
    split at h
    · cases h; rfl
    · exact Fallible.foldlM_keeps (P := fun g₁ : GameEngine => g₁.objectives = g.objectives)
        (fun _ _ _ _ hg₁ h => (fightEnemy_objectives h).trans hg₁) h rfl
  | handleVoidDeaths =>
    cases h
    rw [handleVoidDeaths]
    split
    · rfl
    refine Fallible.foldl_keeps (P := fun g₁ : GameEngine => g₁.objectives = g.objectives)
      (fun g₁ p _ hg₁ => ?_) rfl
    split <;> exact hg₁
  | processRespawns =>
    cases h
    rw [processRespawns]
    split
    · rfl
    refine Fallible.foldl_keeps (P := fun g₁ : GameEngine => g₁.objectives = g.objectives)
      (fun g₁ timer _ hg₁ => ?_) rfl
    split <;> exact hg₁
  | handleBlockCollisions | handlePowerupCollisions | syncObjectiveProgress | handleGateCollisions
  | handleVictoryCondition => simp [objectiveStages] at other
  | _ => cases h; rfl

/-- Each part of the objectives is written by one stage only. -/
structure Leaves (stage : TickStage) (g g' : GameEngine) : Prop where
  blocks : stage ≠ .handleBlockCollisions → g'.objectives.blocks = g.objectives.blocks
  powerUps : stage ≠ .handlePowerupCollisions → g'.objectives.powerUps = g.objectives.powerUps
  counters : stage ≠ .syncObjectiveProgress → g'.objectives.counters = g.objectives.counters
  gates : stage ≠ .handleGateCollisions → g'.objectives.gates = g.objectives.gates
  victory : stage ≠ .handleVictoryCondition → g'.objectives.victory = g.objectives.victory
  initialEnemyCount : g'.objectives.initialEnemyCount = g.objectives.initialEnemyCount

theorem leaves_of_eq {stage : TickStage} {g g' : GameEngine} (h : g'.objectives = g.objectives) :
    Leaves stage g g' := by
  constructor <;> simp [h]

theorem stage_leaves {args : TickArgs} {stage : TickStage} {g g' : GameEngine}
    (h : stage.run args g = .ok g') : Leaves stage g g' := by
  by_cases hstage : stage ∈ objectiveStages
  · simp only [objectiveStages, List.mem_cons, List.not_mem_nil, or_false] at hstage
    rcases hstage with rfl | rfl | rfl | rfl | rfl
    · obtain ⟨r, -, h⟩ := Fallible.bind_eq_ok.mp h
      cases h
      exact ⟨absurd rfl, fun _ => rfl, fun _ => rfl, fun _ => rfl, fun _ => rfl, rfl⟩
    · simp only [TickStage.run, handlePowerupCollisions] at h
      split at h
      · cases h; exact leaves_of_eq rfl
      · obtain ⟨r, -, h⟩ := Fallible.bind_eq_ok.mp h
        cases h
        exact ⟨fun _ => rfl, absurd rfl, fun _ => rfl, fun _ => rfl, fun _ => rfl, rfl⟩
    · cases h
      exact ⟨fun _ => rfl, fun _ => rfl, absurd rfl, fun _ => rfl, fun _ => rfl, rfl⟩
    · cases h
      exact ⟨fun _ => rfl, fun _ => rfl, fun _ => rfl, absurd rfl, fun _ => rfl, rfl⟩
    · cases h
      rw [handleVictoryCondition]
      split
      · exact leaves_of_eq rfl
      · split
        · exact ⟨fun _ => rfl, fun _ => rfl, fun _ => rfl, fun _ => rfl, absurd rfl, rfl⟩
        · exact leaves_of_eq rfl
  · exact leaves_of_eq (stage_objectives hstage h)

/-! ## Events -/

/-- From `g` to `g'` only events of one kind are queued. -/
def Queues (kind : GameEvent → Bool) (g g' : GameEngine) : Prop :=
  ∃ events, g'.events = g.events ++ events ∧ ∀ e ∈ events, kind e = true

variable {kind : GameEvent → Bool}

theorem queues_nothing {g g' : GameEngine} (h : g'.events = g.events) : Queues kind g g' :=
  ⟨[], by rw [h, List.append_nil], by simp⟩

theorem Queues.refl (g : GameEngine) : Queues kind g g := queues_nothing rfl

theorem Queues.trans {g g' g'' : GameEngine} (h : Queues kind g g') (h' : Queues kind g' g'') :
    Queues kind g g'' := by
  obtain ⟨events, hqueued, hkind⟩ := h
  obtain ⟨rest, hqueued', hkind'⟩ := h'
  refine ⟨events ++ rest, by rw [hqueued', hqueued, List.append_assoc], fun e he => ?_⟩
  exact (List.mem_append.mp he).elim (hkind e) (hkind' e)

/-- The kind of event that a stage emits, if it emits any. -/
def TickStage.emits : TickStage → GameEvent → Bool
  | handleBlockCollisions, .blockDestroyed _ => true
  | handlePowerupCollisions, .powerUpCollected _ _ => true
  | handleEnemyCollisions, .playerDeath _ _ => true
  | handleVoidDeaths, .playerDeath _ _ => true
  | handleGateCollisions, .gateStateChanged _ _ => true
  | _, _ => false

theorem handleBlockCollisions_queues {g g' : GameEngine} (h : g.handleBlockCollisions = .ok g') :
    Queues TickStage.handleBlockCollisions.emits g g' := by
  obtain ⟨⟨blocks, characters, events⟩, hsweep, h⟩ := Fallible.bind_eq_ok.mp h
  cases h
  have hstate := Dict.sweep_state_rel
    (Q := fun _ (out : List GameEvent) _ => ∀ o ∈ out, ∃ position, o = .blockDestroyed position)
    (by simp) (fun h h' o ho => (List.mem_append.mp ho).elim (h o) (h' o))
    (fun _ _ _ _ _ _ hb => (bumpBlocks_spec hb).2.1) hsweep
  refine ⟨events, rfl, fun e he => ?_⟩
  obtain ⟨position, rfl⟩ := hstate e he
  rfl

theorem handlePowerupCollisions_queues {now : ℚ} {g g' : GameEngine}
    (h : g.handlePowerupCollisions now = .ok g') :
    Queues TickStage.handlePowerupCollisions.emits g g' := by
  unfold handlePowerupCollisions at h
  split at h
  · cases h; exact .refl g
  obtain ⟨⟨characters, powerUps, events⟩, hsweep, h⟩ := Fallible.bind_eq_ok.mp h
  cases h
  have hstate := Dict.sweep_state_rel
    (Q := fun _ (out : List GameEvent) _ =>
      ∀ o ∈ out, ∃ powerupId pid, o = .powerUpCollected powerupId pid)
    (by simp) (fun h h' o ho => (List.mem_append.mp ho).elim (h o) (h' o))
    (fun _ _ _ _ _ _ hu => by
      obtain ⟨-, -, rfl⟩ | ⟨pid, p, p', -, -, -, -, rfl⟩ := awardPowerup_cases hu <;> simp) hsweep
  refine ⟨events, rfl, fun e he => ?_⟩
  obtain ⟨powerupId, pid, rfl⟩ := hstate e he
  rfl

theorem queuePlayerDeath_queues {cause : EnemyId} {p : Player}
    (h : kind (.playerDeath p.playerId cause) = true) (now : ℚ) (g : GameEngine) :
    Queues kind g (g.queuePlayerDeath now cause p) :=
  ⟨[.playerDeath p.playerId cause], rfl, by simp [h]⟩

theorem fightEnemy_queues {now : ℚ} {e : Enemy} {l : List (PlayerId × Player)} {g g' : GameEngine}
    (h : fightEnemy now e g l = .ok g') : Queues TickStage.handleEnemyCollisions.emits g g' := by
  induction l generalizing g with
  | nil => cases h; exact .refl _
  | cons entry rest ih =>
    obtain ⟨key, p⟩ := entry
    simp only [fightEnemy] at h
    split at h
    · exact ih h
    split at h
    · -- the enemy is defeated
      obtain ⟨g₁, hdelete, h⟩ := Fallible.bind_eq_ok.mp h
      cases h
      simp only [deleteEnemy] at hdelete
      split at hdelete <;> cases hdelete
      exact queues_nothing rfl
    · exact (queuePlayerDeath_queues rfl _ _).trans (ih h)

theorem stage_queues {args : TickArgs} {stage : TickStage} {g g' : GameEngine}
    (h : stage.run args g = .ok g') : Queues stage.emits g g' := by
  cases stage with
  | handleBlockCollisions => exact handleBlockCollisions_queues h
  | handlePowerupCollisions => exact handlePowerupCollisions_queues h
  | handleEnemyCollisions =>
    simp only [TickStage.run, handleEnemyCollisions] at h
    split at h
    · cases h; exact .refl g
    · exact Fallible.foldlM_rel Queues.refl Queues.trans (fun _ _ _ _ h => fightEnemy_queues h) h
  | handleVoidDeaths =>
    cases h
    unfold handleVoidDeaths
    split
    · exact .refl g
    refine Fallible.foldl_keeps (P := Queues TickStage.handleVoidDeaths.emits g)
      (fun g₁ p _ hg => ?_) (.refl g)
    split
    · exact hg
    · exact hg.trans (queuePlayerDeath_queues rfl _ _)
  | handleGateCollisions =>
    cases h
    refine ⟨_, rfl, fun event he => ?_⟩
    obtain ⟨gate, -, hevent⟩ := List.mem_filterMap.mp he
    obtain ⟨newState, rfl⟩ := updateState_event hevent
    rfl
  | handleVictoryCondition =>
    cases h
    unfold handleVictoryCondition
    split
    · exact .refl g
    · split
      · exact queues_nothing rfl
      · exact .refl g
  | processRespawns =>
    cases h
    unfold processRespawns
    split
    · exact .refl g
    refine Fallible.foldl_keeps (P := Queues TickStage.processRespawns.emits g)
      (fun g₁ timer _ hg => ?_) (.refl g)
    split
    · exact hg.trans (queues_nothing rfl)
    · exact hg
  | _ => cases h; exact queues_nothing rfl

end GameEngine

end DistributedSmb
