import DistributedSmb.Domain.Evolution

/-!
# Runs that resume

A tick counts the sequence number on and queues its events behind those that wait already, and reads
neither. So an engine that resumes at another number and with other events in its queue goes through
the same run, tick by tick.
-/

namespace DistributedSmb

open Library

namespace GameEngine

/-- The engine with a sequence number that is ahead by so much, and with more events in its
queue. -/
def resumed (ahead : ℤ) (waiting : List GameEvent) (g : GameEngine) : GameEngine :=
  { g with
    worldState := { g.worldState with sequenceNumber := g.worldState.sequenceNumber + ahead }
    events := waiting ++ g.events }

variable {ahead : ℤ} {waiting : List GameEvent}

theorem resumed_handleBlockCollisions (g : GameEngine) :
    (g.resumed ahead waiting).handleBlockCollisions =
      resumed ahead waiting <$> g.handleBlockCollisions := by
  simp only [handleBlockCollisions, resumed]
  cases g.worldState.characters.sweep bumpBlocks g.worldState.environment.destructibleBlocks with
  | error e => rfl
  | ok r => simp [Functor.map, Except.map, resumed]

theorem resumed_handlePowerupCollisions (now : ℚ) (g : GameEngine) :
    (g.resumed ahead waiting).handlePowerupCollisions now =
      resumed ahead waiting <$> g.handlePowerupCollisions now := by
  have hauthority : (g.resumed ahead waiting).isAuthoritative = g.isAuthoritative := rfl
  unfold handlePowerupCollisions
  rw [hauthority]
  split
  · rfl
  · simp only [resumed]
    cases g.worldState.environment.powerUps.sweep (awardPowerup now) g.worldState.characters with
    | error e => rfl
    | ok r => simp [Functor.map, Except.map, resumed]

theorem resumed_queuePlayerDeath (now : ℚ) (cause : EnemyId) (g : GameEngine) (p : Player) :
    (g.resumed ahead waiting).queuePlayerDeath now cause p =
      (g.queuePlayerDeath now cause p).resumed ahead waiting := by
  simp [queuePlayerDeath, resumed, WorldState.removePlayer]

theorem resumed_fightEnemy (now : ℚ) (e : Enemy) (g : GameEngine) (l : List (PlayerId × Player)) :
    fightEnemy now e (g.resumed ahead waiting) l =
      resumed ahead waiting <$> fightEnemy now e g l := by
  induction l generalizing g with
  | nil => rfl
  | cons entry rest ih =>
    obtain ⟨key, p⟩ := entry
    simp only [fightEnemy]
    split
    · exact ih g
    split
    · have henvironment : (g.resumed ahead waiting).worldState.environment =
          g.worldState.environment := rfl
      simp only [deleteEnemy, henvironment]
      split <;> rfl
    · rw [resumed_queuePlayerDeath]
      exact ih _

theorem resumed_handleEnemyCollisions (now : ℚ) (g : GameEngine) :
    (g.resumed ahead waiting).handleEnemyCollisions now =
      resumed ahead waiting <$> g.handleEnemyCollisions now := by
  have hauthority : (g.resumed ahead waiting).isAuthoritative = g.isAuthoritative := rfl
  unfold handleEnemyCollisions
  rw [hauthority]
  split
  · rfl
  · exact Fallible.foldlM_comm
      (fun g e _ => resumed_fightEnemy now e g g.worldState.characters.entries) g

theorem resumed_handleVoidDeaths (now : ℚ) (g : GameEngine) :
    (g.resumed ahead waiting).handleVoidDeaths now =
      (g.handleVoidDeaths now).resumed ahead waiting := by
  have hauthority : (g.resumed ahead waiting).isAuthoritative = g.isAuthoritative := rfl
  unfold handleVoidDeaths
  rw [hauthority]
  split
  · rfl
  · refine List.foldl_hom (resumed ahead waiting) ?_
    intro g p
    have hheight : (g.resumed ahead waiting).worldHeight = g.worldHeight := rfl
    rw [hheight]
    split
    · rfl
    · exact resumed_queuePlayerDeath now voidDeathCause g p

theorem resumed_handleGateCollisions (g : GameEngine) :
    (g.resumed ahead waiting).handleGateCollisions =
      g.handleGateCollisions.resumed ahead waiting := by
  simp [handleGateCollisions, resumed, WorldState.shouldBeOpen]

theorem resumed_handleVictoryCondition (g : GameEngine) :
    (g.resumed ahead waiting).handleVictoryCondition =
      g.handleVictoryCondition.resumed ahead waiting := by
  have hsame : (g.resumed ahead waiting).isAuthoritative = g.isAuthoritative ∧
      (g.resumed ahead waiting).worldState.victory = g.worldState.victory ∧
      winner (g.resumed ahead waiting).worldState = winner g.worldState := ⟨rfl, rfl, rfl⟩
  unfold handleVictoryCondition
  rw [hsame.1, hsame.2.1, hsame.2.2]
  split
  · rfl
  split <;> rfl

theorem resumed_processRespawns (now : ℚ) (g : GameEngine) :
    (g.resumed ahead waiting).processRespawns now =
      (g.processRespawns now).resumed ahead waiting := by
  have hauthority : (g.resumed ahead waiting).isAuthoritative = g.isAuthoritative := rfl
  unfold processRespawns
  rw [hauthority]
  split
  · rfl
  · refine List.foldl_hom (resumed ahead waiting) ?_
    intro g timer
    split <;> rfl

/-- No stage reads the sequence number or the queue. -/
theorem resumed_stage (args : TickArgs) (stage : TickStage) (g : GameEngine) :
    stage.run args (g.resumed ahead waiting) = resumed ahead waiting <$> stage.run args g := by
  cases stage with
  | handleBlockCollisions => exact resumed_handleBlockCollisions g
  | handlePowerupCollisions => exact resumed_handlePowerupCollisions args.now g
  | handleEnemyCollisions => exact resumed_handleEnemyCollisions args.now g
  | handleVoidDeaths => exact congrArg Except.ok (resumed_handleVoidDeaths args.now g)
  | handleGateCollisions => exact congrArg Except.ok (resumed_handleGateCollisions g)
  | handleVictoryCondition => exact congrArg Except.ok (resumed_handleVictoryCondition g)
  | processRespawns => exact congrArg Except.ok (resumed_processRespawns args.now g)
  | _ => rfl

theorem resumed_countTick (g : GameEngine) :
    (g.resumed ahead waiting).countTick = g.countTick.resumed ahead waiting := by
  have hcount : g.worldState.sequenceNumber + ahead + 1 =
      g.worldState.sequenceNumber + 1 + ahead := by
    omega
  simp only [countTick, resumed, hcount]

theorem resumed_tick (args : TickArgs) (g : GameEngine) :
    (g.resumed ahead waiting).tick args = resumed ahead waiting <$> g.tick args := by
  have hvictory : (g.resumed ahead waiting).worldState.victory = g.worldState.victory := rfl
  unfold tick
  rw [hvictory]
  split
  · exact congrArg Except.ok (resumed_countTick g)
  · rw [Fallible.foldlM_comm (fun g stage _ => resumed_stage args stage g) g]
    cases tickStages.foldlM (TickStage.run args) g with
    | error e => rfl
    | ok g₁ => exact congrArg Except.ok (resumed_countTick g₁)

/-- Tick by tick, the resumed engine does what the other one does. -/
theorem resumed_run (ticks : List TickArgs) (g : GameEngine) :
    ticks.foldlM tick (g.resumed ahead waiting) =
      resumed ahead waiting <$> ticks.foldlM tick g :=
  Fallible.foldlM_comm (fun g args _ => resumed_tick args g) g

end GameEngine

end DistributedSmb
