import DistributedSmb.Domain.Evolution
import DistributedSmb.Domain.WorldDict

/-!
# Enemies during a tick

A tick moves enemies and removes defeated ones, and leaves who they are alone. The only part of a
tick that can raise is the deletion of a defeated enemy, which is looked up by the id that the enemy
carries: where every enemy is stored under its own id, which is how levels are loaded, no tick
raises.
-/

namespace DistributedSmb

open Library

/-- Every enemy is stored under its own id. -/
def EnvironmentalState.EnemiesKeyed (environment : EnvironmentalState) : Prop :=
  ∀ e ∈ environment.enemies.entries, e.2.enemyId = e.1

/-- What stays the same of an enemy that moves. -/
def Enemy.SameAs (e e' : Enemy) : Prop :=
  e'.enemyId = e.enemyId ∧ e'.movementSpeed = e.movementSpeed

theorem Enemy.update_sameAs (e : Enemy) (dt : ℚ) (command : Option EnemyMovementCommand) :
    e.SameAs (e.update dt command) := by
  have hadvance (e : Enemy) : e.SameAs (e.advance dt) := by
    simp only [advance]
    split_ifs <;> exact ⟨rfl, rfl⟩
  unfold update
  split
  · exact hadvance _
  · exact ⟨rfl, rfl⟩
  · exact hadvance _

theorem Enemy.make_eq_self_iff {e : Enemy} : e.make = e ↔ e.movementSpeed.isSome := by
  obtain ⟨enemyId, x, y, width, height, vx, leftBound, rightBound, movementSpeed, enemyType⟩ := e
  cases movementSpeed <;> simp [make]

namespace GameEngine

def enemies (g : GameEngine) : Dict EnemyId Enemy := g.worldState.environment.enemies

def EnemiesKeyed (g : GameEngine) : Prop := g.worldState.environment.EnemiesKeyed

/-- Every enemy of `g'` is one of `g`, stored under the same id. -/
def EnemiesFrom (g g' : GameEngine) : Prop :=
  ∀ e' ∈ g'.enemies.entries, ∃ e ∈ g.enemies.entries, e.1 = e'.1 ∧ e.2.SameAs e'.2

theorem EnemiesFrom.of_mem {g g' : GameEngine}
    (h : ∀ e ∈ g'.enemies.entries, e ∈ g.enemies.entries) : g.EnemiesFrom g' :=
  fun e he => ⟨e, h e he, rfl, rfl, rfl⟩

theorem EnemiesFrom.of_eq {g g' : GameEngine} (h : g'.enemies = g.enemies) : g.EnemiesFrom g' :=
  .of_mem fun _ he => h ▸ he

theorem EnemiesFrom.trans {g g' g'' : GameEngine} (h : g.EnemiesFrom g')
    (h' : g'.EnemiesFrom g'') : g.EnemiesFrom g'' := by
  intro e'' he''
  obtain ⟨e', he', hkey', hid', hspeed'⟩ := h' e'' he''
  obtain ⟨e, he, hkey, hid, hspeed⟩ := h e' he'
  exact ⟨e, he, hkey.trans hkey', hid'.trans hid, hspeed'.trans hspeed⟩

theorem EnemiesKeyed.mono {g g' : GameEngine} (h : g.EnemiesKeyed) (hg : g.EnemiesFrom g') :
    g'.EnemiesKeyed := by
  intro e' he'
  obtain ⟨e, he, hkey, hid, -⟩ := hg e' he'
  rw [hid, ← hkey]
  exact h e he

theorem constructed_mono {g g' : GameEngine} (h : g.worldState.Constructed)
    (hg : g.EnemiesFrom g') : g'.worldState.Constructed := by
  intro e' he'
  obtain ⟨e, he, -, -, hspeed⟩ := hg e' he'
  rw [Enemy.make_eq_self_iff, hspeed]
  exact Enemy.make_eq_self_iff.mp (h e he)

/-! ## What each stage does -/

theorem deleteEnemy_enemies {g g' : GameEngine} {enemyId : EnemyId}
    (h : g.deleteEnemy enemyId = .ok g') : g'.enemies = g.enemies.erase enemyId := by
  simp only [deleteEnemy] at h
  split at h <;> cases h
  rfl

/-- A fight removes at most the enemy it is about. -/
theorem fightEnemy_enemies {now : ℚ} {e : Enemy} {l : List (PlayerId × Player)} {g g' : GameEngine}
    (h : fightEnemy now e g l = .ok g') :
    g'.enemies = g.enemies ∨ g'.enemies = g.enemies.erase e.enemyId := by
  induction l generalizing g with
  | nil => cases h; exact .inl rfl
  | cons entry rest ih =>
    obtain ⟨key, p⟩ := entry
    simp only [fightEnemy] at h
    split at h
    · exact ih h
    split at h
    · obtain ⟨g₁, hdelete, h⟩ := Fallible.bind_eq_ok.mp h
      cases h
      have herased : g₁.enemies = g.enemies.erase e.enemyId := deleteEnemy_enemies hdelete
      exact .inr herased
    · have hrest : g'.enemies = (g.queuePlayerDeath now e.enemyId _).enemies ∨ _ := ih h
      exact hrest

/-- Every stage but one at most removes enemies. -/
theorem stage_enemies_subset {args : TickArgs} {stage : TickStage} {g g' : GameEngine}
    (other : stage ≠ .updateEnemies) (h : stage.run args g = .ok g') :
    g'.enemies.entries ⊆ g.enemies.entries := by
  cases stage with
  | updateEnemies => exact absurd rfl other
  | handleBlockCollisions =>
    obtain ⟨r, -, h⟩ := Fallible.bind_eq_ok.mp h
    cases h
    exact List.Subset.refl _
  | handlePowerupCollisions =>
    simp only [TickStage.run, handlePowerupCollisions] at h
    split at h
    · cases h; exact List.Subset.refl _
    · obtain ⟨r, -, h⟩ := Fallible.bind_eq_ok.mp h
      cases h
      exact List.Subset.refl _
  | handleEnemyCollisions =>
    simp only [TickStage.run, handleEnemyCollisions] at h
    split at h
    · cases h; exact List.Subset.refl _
    · refine Fallible.foldlM_rel
        (R := fun g g' : GameEngine => g'.enemies.entries ⊆ g.enemies.entries)
        (fun _ => List.Subset.refl _) (fun h h' => List.Subset.trans h' h) (fun g e g' _ h => ?_) h
      rcases fightEnemy_enemies h with hsame | herased
      · exact fun entry hentry => hsame ▸ hentry
      · exact fun entry hentry => (Dict.mem_entries_erase.mp (herased ▸ hentry)).1
  | handleVoidDeaths =>
    cases h
    rw [handleVoidDeaths]
    split
    · exact List.Subset.refl _
    refine Fallible.foldl_keeps
      (P := fun g₁ : GameEngine => g₁.enemies.entries ⊆ g.enemies.entries)
      (fun g₁ p _ h => ?_) (List.Subset.refl _)
    split <;> exact h
  | handleVictoryCondition =>
    cases h
    rw [handleVictoryCondition]
    split
    · exact List.Subset.refl _
    · split <;> exact List.Subset.refl _
  | processRespawns =>
    cases h
    rw [processRespawns]
    split
    · exact List.Subset.refl _
    refine Fallible.foldl_keeps
      (P := fun g₁ : GameEngine => g₁.enemies.entries ⊆ g.enemies.entries)
      (fun g₁ timer _ h => ?_) (List.Subset.refl _)
    split <;> exact h
  | _ => cases h; exact List.Subset.refl _

theorem stage_enemies {args : TickArgs} {stage : TickStage} {g g' : GameEngine}
    (h : stage.run args g = .ok g') : g.EnemiesFrom g' := by
  by_cases hmoves : stage = .updateEnemies
  · subst hmoves
    cases h
    intro e he
    obtain ⟨e, hmem, rfl⟩ := List.mem_map.mp he
    exact ⟨e, hmem, rfl, e.2.update_sameAs args.dt _⟩
  · exact .of_mem fun e he => stage_enemies_subset hmoves h he

theorem tick_enemies {g g' : GameEngine} {args : TickArgs} (h : g.tick args = .ok g') :
    g.EnemiesFrom g' := by
  unfold tick at h
  split at h
  · cases h; exact .of_eq rfl
  · obtain ⟨g₁, hstages, h⟩ := Fallible.bind_eq_ok.mp h
    cases h
    have hfrom : g.EnemiesFrom g₁ := Fallible.foldlM_rel (R := EnemiesFrom)
      (fun _ => .of_eq rfl) EnemiesFrom.trans (fun g stage g' _ h => stage_enemies h) hstages
    exact hfrom

/-- The command of the tick for an enemy. -/
def TickArgs.commandFor (args : TickArgs) (enemyId : EnemyId) : Option EnemyMovementCommand :=
  args.enemyCommands.bind fun commands => commands.get? enemyId

/-- An enemy that survives a tick has moved by its own command and by nothing else. -/
theorem tick_survivor {g g' : GameEngine} {args : TickArgs} (h : g.tick args = .ok g')
    {enemyId : EnemyId} {e' : Enemy} (survives : g'.enemies.get? enemyId = some e') :
    ∃ e, g.enemies.get? enemyId = some e ∧
      e' = if g.worldState.victory then e else e.update args.dt (args.commandFor enemyId) := by
  simp only [Dict.get?_eq_some_iff] at survives ⊢
  unfold tick at h
  split at h
  case isTrue hvictory =>
    cases h
    exact ⟨e', survives, (if_pos hvictory).symm⟩
  case isFalse hplaying =>
    obtain ⟨g₃, hstages, h⟩ := Fallible.bind_eq_ok.mp h
    cases h
    have hsplit : tickStages = tickStages.take 7 ++ .updateEnemies :: tickStages.drop 8 := rfl
    rw [hsplit, List.foldlM_append] at hstages
    obtain ⟨g₁, hbefore, hstages⟩ := Fallible.bind_eq_ok.mp hstages
    rw [List.foldlM_cons] at hstages
    obtain ⟨g₂, hmove, hafter⟩ := Fallible.bind_eq_ok.mp hstages
    have subset (stages : List TickStage) (others : ∀ stage ∈ stages, stage ≠ .updateEnemies)
        {g g' : GameEngine} (h : stages.foldlM (TickStage.run args) g = .ok g') :
        g'.enemies.entries ⊆ g.enemies.entries :=
      Fallible.foldlM_rel (R := fun g g' : GameEngine => g'.enemies.entries ⊆ g.enemies.entries)
        (fun _ => List.Subset.refl _) (fun h h' => List.Subset.trans h' h)
        (fun g stage g' hstage h => stage_enemies_subset (others stage hstage) h) h
    have survives₂ : (enemyId, e') ∈ g₂.enemies.entries :=
      subset _ (by decide) hafter survives
    cases hmove
    obtain ⟨entry, hentry, hmoved⟩ := List.mem_map.mp survives₂
    cases hmoved
    exact ⟨entry.2, subset _ (by decide) hbefore hentry, (if_neg hplaying).symm⟩

/-! ## A tick that does not raise -/

/-- A power-up that is not collected yet can be. -/
theorem awardPowerup_succeeds (now : ℚ) (characters : Dict PlayerId Player) (key : PowerUpId)
    (u : ExclusivePowerUp) : ∃ r, awardPowerup now characters key u = .ok r := by
  unfold awardPowerup
  split
  case isTrue => exact ⟨_, rfl⟩
  case isFalse hcollected =>
    dsimp only
    split
    · exact ⟨_, rfl⟩
    · simp [ExclusivePowerUp.collect, hcollected]

theorem deleteEnemy_succeeds {g : GameEngine} {enemyId : EnemyId} (h : enemyId ∈ g.enemies) :
    ∃ g', g.deleteEnemy enemyId = .ok g' := by
  have hstored : enemyId ∈ g.worldState.environment.enemies := h
  simp only [deleteEnemy, if_pos hstored]
  exact ⟨_, rfl⟩

/-- A fight over a stored enemy ends. -/
theorem fightEnemy_succeeds (now : ℚ) {e : Enemy} (l : List (PlayerId × Player)) {g : GameEngine}
    (he : e.enemyId ∈ g.enemies) : ∃ g', fightEnemy now e g l = .ok g' := by
  induction l generalizing g with
  | nil => exact ⟨g, rfl⟩
  | cons entry rest ih =>
    obtain ⟨key, p⟩ := entry
    simp only [fightEnemy]
    generalize p.hasActivePowerupEffect now = checked
    split
    · exact ih he
    split
    · -- the enemy is defeated
      obtain ⟨g₁, hdelete⟩ := deleteEnemy_succeeds he
      exact ⟨_, by rw [hdelete, Fallible.ok_bind]⟩
    · -- the player dies
      exact ih (g := g.queuePlayerDeath now e.enemyId checked.1) he

/-- The loop goes over the enemies of its start, of which only those already fought may be gone. -/
theorem fightEnemies_succeeds (now : ℚ) {l : List Enemy} {g : GameEngine}
    (distinct : (l.map Enemy.enemyId).Nodup) (stored : ∀ e ∈ l, e.enemyId ∈ g.enemies) :
    ∃ g', l.foldlM (fun g e => fightEnemy now e g g.worldState.characters.entries) g = .ok g' := by
  induction l generalizing g with
  | nil => exact ⟨g, rfl⟩
  | cons e l ih =>
    rw [List.map_cons, List.nodup_cons] at distinct
    obtain ⟨g₁, hfight⟩ := fightEnemy_succeeds now g.worldState.characters.entries
      (stored e List.mem_cons_self)
    have left : ∀ e' ∈ l, e'.enemyId ∈ g₁.enemies := by
      intro e' he'
      have hstored := stored e' (List.mem_cons_of_mem _ he')
      have hne : e'.enemyId ≠ e.enemyId := fun heq =>
        distinct.1 (List.mem_map.mpr ⟨e', he', heq⟩)
      rcases fightEnemy_enemies hfight with h | h <;> rw [h]
      · exact hstored
      · exact Dict.mem_erase.mpr ⟨hstored, hne⟩
    obtain ⟨g', hloop⟩ := ih distinct.2 left
    exact ⟨g', by rw [List.foldlM_cons, hfight, Fallible.ok_bind, hloop]⟩

theorem handleEnemyCollisions_succeeds (now : ℚ) {g : GameEngine} (hg : g.EnemiesKeyed) :
    ∃ g', g.handleEnemyCollisions now = .ok g' := by
  unfold handleEnemyCollisions
  split
  · exact ⟨g, rfl⟩
  have ids : g.enemies.values.map Enemy.enemyId = g.enemies.keys := by
    rw [Dict.values, List.map_map]
    exact List.map_congr_left fun e he => hg e he
  refine fightEnemies_succeeds now (l := g.enemies.values) ?_ fun e he => ?_
  · rw [ids]
    exact g.enemies.nodup
  · rw [Dict.mem_iff, ← ids]
    exact List.mem_map_of_mem he

theorem stage_succeeds_of_keyed (args : TickArgs) (stage : TickStage) {g : GameEngine}
    (hg : g.EnemiesKeyed) : ∃ g', stage.run args g = .ok g' := by
  cases stage with
  | handleBlockCollisions =>
    obtain ⟨⟨blocks, characters, events⟩, hr, -⟩ := Dict.sweep_succeeds (P := fun _ => True)
      (f := bumpBlocks)
      (d := g.worldState.characters)
      (fun blocks pid p _ => (bumpBlocks_succeeds blocks pid p).imp fun _ h => ⟨h, trivial⟩)
      (s := g.worldState.environment.destructibleBlocks) trivial
    simp only [TickStage.run, handleBlockCollisions, hr, Fallible.ok_bind]
    exact ⟨_, rfl⟩
  | handlePowerupCollisions =>
    simp only [TickStage.run, handlePowerupCollisions]
    split
    · exact ⟨g, rfl⟩
    obtain ⟨⟨characters, powerUps, events⟩, hr, -⟩ := Dict.sweep_succeeds
      (f := awardPowerup args.now) (P := fun _ => True) (d := g.worldState.environment.powerUps)
      (fun cs key u _ => (awardPowerup_succeeds args.now cs key u).imp fun _ h => ⟨h, trivial⟩)
      (s := g.worldState.characters) trivial
    simp only [hr, Fallible.ok_bind]
    exact ⟨_, rfl⟩
  | handleEnemyCollisions => exact handleEnemyCollisions_succeeds args.now hg
  | _ => exact ⟨_, rfl⟩

/-- No tick raises, whoever runs it. -/
theorem tick_succeeds_of_keyed {g : GameEngine} (args : TickArgs) (hg : g.EnemiesKeyed) :
    ∃ g', g.tick args = .ok g' ∧ g'.EnemiesKeyed := by
  have hticked : ∃ g', g.tick args = .ok g' := by
    unfold tick
    split
    · exact ⟨_, rfl⟩
    · obtain ⟨g₁, hstages, -⟩ := Fallible.foldlM_succeeds (P := EnemiesKeyed)
        (f := fun g (stage : TickStage) => stage.run args g) (l := tickStages)
        (fun g stage _ hg => by
          obtain ⟨g', h⟩ := stage_succeeds_of_keyed args stage hg
          exact ⟨g', h, hg.mono (stage_enemies h)⟩) hg
      exact ⟨g₁.countTick, by simp [hstages]⟩
  obtain ⟨g', h⟩ := hticked
  exact ⟨g', h, hg.mono (tick_enemies h)⟩

/-- A level stores every enemy under its own id. -/
theorem enemiesKeyed_of_loaded {g : GameEngine} {level : Level}
    (h : ∃ w : WorldState, g.worldState = w.loadLevel level) : g.EnemiesKeyed := by
  obtain ⟨w, hloaded⟩ := h
  intro e he
  rw [hloaded] at he
  obtain ⟨enemy, -, rfl⟩ := List.mem_map.mp (Dict.mem_of_mem_ofList he)
  rfl

theorem ticks_succeed_of_keyed {g : GameEngine} (ticks : List TickArgs) (h : g.EnemiesKeyed) :
    ∃ g', ticks.foldlM tick g = .ok g' ∧ g'.EnemiesKeyed :=
  Fallible.foldlM_succeeds (fun _ args _ hg => tick_succeeds_of_keyed args hg) h

end GameEngine

end DistributedSmb
