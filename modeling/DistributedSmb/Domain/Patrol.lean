import DistributedSmb.Domain.Enemies
import Mathlib.Algebra.Order.Ring.Abs
import Mathlib.Tactic.Linarith

/-!
# Enemies on patrol

An enemy moves between its bounds and turns around at either of them. A command replaces the
direction of a step and leaves the speed alone, so no run of steps, however it is commanded, makes
an enemy faster or slower, and every step in which it moves ends between the bounds.
-/

namespace DistributedSmb

open Library

namespace Enemy

/-- The enemy fits between its bounds. -/
def HasRoom (e : Enemy) : Prop := e.width ≤ e.rightBound - e.leftBound

/-- `left_bound <= x <= right_bound - width`. -/
def InBounds (e : Enemy) : Prop := e.leftBound ≤ e.x ∧ e.x ≤ e.rightBound - e.width

def AtOwnSpeed (e : Enemy) : Prop := e.movementSpeed = some |e.vx|

/-- What no step changes of an enemy's interval. -/
structure SamePatrol (e e' : Enemy) : Prop where
  width : e'.width = e.width
  leftBound : e'.leftBound = e.leftBound
  rightBound : e'.rightBound = e.rightBound
  movementSpeed : e'.movementSpeed = e.movementSpeed

theorem SamePatrol.refl (e : Enemy) : e.SamePatrol e := ⟨rfl, rfl, rfl, rfl⟩

theorem SamePatrol.trans {e e' e'' : Enemy} (h : e.SamePatrol e') (h' : e'.SamePatrol e'') :
    e.SamePatrol e'' where
  width := h'.width.trans h.width
  leftBound := h'.leftBound.trans h.leftBound
  rightBound := h'.rightBound.trans h.rightBound
  movementSpeed := h'.movementSpeed.trans h.movementSpeed

theorem SamePatrol.hasRoom {e e' : Enemy} (h : e.SamePatrol e') (room : e.HasRoom) :
    e'.HasRoom := by
  rw [HasRoom, h.width, h.leftBound, h.rightBound]
  exact room

/-! ## One enemy -/

theorem advance_samePatrol (e : Enemy) (dt : ℚ) : e.SamePatrol (e.advance dt) := by
  simp only [advance]
  split_ifs <;> exact ⟨rfl, rfl, rfl, rfl⟩

/-- Turning around keeps the speed. -/
theorem abs_vx_advance (e : Enemy) (dt : ℚ) : |(e.advance dt).vx| = |e.vx| := by
  simp only [advance]
  split_ifs <;> simp

/-- Either bound stops the enemy inside its interval. -/
theorem inBounds_advance {e : Enemy} (room : e.HasRoom) (dt : ℚ) : (e.advance dt).InBounds := by
  unfold HasRoom at room
  simp only [advance, InBounds]
  split_ifs with left right
  · exact ⟨le_rfl, by linarith⟩
  · exact ⟨by linarith, le_rfl⟩
  · exact ⟨not_lt.mp left, by linarith [not_lt.mp right]⟩

/-- The enemy as a command other than `stop` sets it off. -/
def turned (e : Enemy) (command : EnemyMovementCommand) : Enemy :=
  { e with vx := command.value * e.movementSpeed.getD |e.vx| }

/-- A step stands still or advances the enemy, turned or not. -/
theorem update_cases (e : Enemy) (dt : ℚ) (command : Option EnemyMovementCommand) :
    (command = some .stop ∧ e.update dt command = e) ∨
    (command = none ∧ e.update dt command = e.advance dt) ∨
    (∃ c, command = some c ∧ |c.value| = 1 ∧ e.update dt command = (e.turned c).advance dt) := by
  rcases command with _ | c
  · exact .inr (.inl ⟨rfl, rfl⟩)
  · cases c
    case stop => exact .inl ⟨rfl, rfl⟩
    case moveLeft => exact .inr (.inr ⟨.moveLeft, rfl, by simp [EnemyMovementCommand.value], rfl⟩)
    case moveRight => exact .inr (.inr ⟨.moveRight, rfl, by simp [EnemyMovementCommand.value], rfl⟩)

theorem turned_atOwnSpeed {e : Enemy} (h : e.AtOwnSpeed) {c : EnemyMovementCommand}
    (hc : |c.value| = 1) : (e.turned c).AtOwnSpeed := by
  have hspeed : e.movementSpeed = some |e.vx| := h
  have same : |c.value * (|e.vx|)| = |e.vx| := by rw [abs_mul, hc, one_mul, abs_abs]
  simp only [AtOwnSpeed, turned, hspeed, Option.getD_some, same]

theorem update_samePatrol (e : Enemy) (dt : ℚ) (command : Option EnemyMovementCommand) :
    e.SamePatrol (e.update dt command) := by
  rcases e.update_cases dt command with ⟨-, h⟩ | ⟨-, h⟩ | ⟨c, -, -, h⟩ <;> rw [h]
  · exact .refl e
  · exact e.advance_samePatrol dt
  · have hturned : e.SamePatrol (e.turned c) := ⟨rfl, rfl, rfl, rfl⟩
    exact hturned.trans (advance_samePatrol _ dt)

theorem update_atOwnSpeed {e : Enemy} (h : e.AtOwnSpeed) (dt : ℚ)
    (command : Option EnemyMovementCommand) : (e.update dt command).AtOwnSpeed := by
  have advanced {e : Enemy} (h : e.AtOwnSpeed) : (e.advance dt).AtOwnSpeed := by
    rw [AtOwnSpeed, abs_vx_advance, (e.advance_samePatrol dt).movementSpeed]
    exact h
  rcases e.update_cases dt command with ⟨-, heq⟩ | ⟨-, heq⟩ | ⟨c, -, hc, heq⟩ <;> rw [heq]
  · exact h
  · exact advanced h
  · exact advanced (turned_atOwnSpeed h hc)

/-- A step ends inside the interval exactly if it began there or moved. -/
theorem update_inBounds_iff {e : Enemy} (room : e.HasRoom) (dt : ℚ)
    (command : Option EnemyMovementCommand) :
    (e.update dt command).InBounds ↔ e.InBounds ∨ command ≠ some .stop := by
  rcases e.update_cases dt command with ⟨hcommand, h⟩ | ⟨hcommand, h⟩ | ⟨c, hcommand, hc, h⟩ <;>
    rw [h, hcommand]
  · simp
  · simp [inBounds_advance room dt]
  · have moves : c ≠ .stop := fun hstop => by simp [hstop, EnemyMovementCommand.value] at hc
    have hroom : (e.turned c).HasRoom := room
    simp [inBounds_advance hroom dt, moves]

end Enemy

/-! ## Runs -/

/-- The arguments of one call of `_update_enemies`. -/
structure EnemyStep where
  dt : ℚ
  commands : Option (Dict EnemyId EnemyMovementCommand)

/-- The command, if any, that this step gives to an enemy. -/
def EnemyStep.commandFor (s : EnemyStep) (enemyId : EnemyId) : Option EnemyMovementCommand :=
  s.commands.bind fun commands => commands.get? enemyId

namespace GameEngine

def updateEnemiesAlong (g : GameEngine) (steps : List EnemyStep) : GameEngine :=
  steps.foldl (fun g s => g.updateEnemies s.dt s.commands) g

theorem updateEnemies_get? {g : GameEngine} {enemyId : EnemyId} {e : Enemy}
    (stored : g.enemies.get? enemyId = some e) (s : EnemyStep) :
    (g.updateEnemies s.dt s.commands).enemies.get? enemyId =
      some (e.update s.dt (s.commandFor enemyId)) := by
  rw [Dict.get?_eq_some_iff] at stored ⊢
  exact List.mem_map.mpr ⟨(enemyId, e), stored, rfl⟩

/-- Whatever the steps and their commands, an enemy keeps its interval and its speed, and it is
inside the interval if it was there at the start or moved in any of the steps. -/
theorem patrol_stays_in_bounds {g : GameEngine} {enemyId : EnemyId} {e : Enemy}
    (stored : g.enemies.get? enemyId = some e) (room : e.HasRoom) (steps : List EnemyStep) :
    ∃ e', (g.updateEnemiesAlong steps).enemies.get? enemyId = some e' ∧ e.SamePatrol e' ∧
      (e.AtOwnSpeed → e'.AtOwnSpeed) ∧
      (e'.InBounds ↔ e.InBounds ∨ ∃ s ∈ steps, s.commandFor enemyId ≠ some .stop) := by
  induction steps generalizing g e with
  | nil => exact ⟨e, stored, .refl e, id, by simp⟩
  | cons s steps ih =>
    have same := e.update_samePatrol s.dt (s.commandFor enemyId)
    obtain ⟨e', stored', same', speed, inside⟩ := ih (updateEnemies_get? stored s)
      (same.hasRoom room)
    refine ⟨e', stored', same.trans same', fun h => ?_, ?_⟩
    · exact speed (Enemy.update_atOwnSpeed h s.dt _)
    · rw [inside, Enemy.update_inBounds_iff room, or_assoc, List.exists_mem_cons_iff]

/-- A koopa to the right of its interval. -/
def strayKoopa : Enemy :=
  { enemyId := "koopa-1", x := 300, y := 0, width := 32, height := 32, vx := -50, leftBound := 0,
    rightBound := 200, movementSpeed := some 50 }

def strayPatrol : GameEngine :=
  { worldState := { environment := { enemies := Dict.ofList [("koopa-1", strayKoopa)] } } }

/-- It waits for one step, is then commanded to the left, and patrols on. -/
def strayCommands : List EnemyStep :=
  [⟨1 / 60, some (Dict.ofList [("koopa-1", .stop)])⟩,
    ⟨1 / 60, some (Dict.ofList [("koopa-1", .moveLeft)])⟩, ⟨1 / 60, none⟩]

theorem stray_koopa_returns :
    ∃ e', (strayPatrol.updateEnemiesAlong strayCommands).enemies.get? "koopa-1" = some e' ∧
      e'.InBounds ∧ e'.AtOwnSpeed := by
  have start : strayPatrol.enemies.get? "koopa-1" = some strayKoopa := by decide +kernel
  have room : strayKoopa.HasRoom := by norm_num [Enemy.HasRoom, strayKoopa]
  obtain ⟨e', stored, -, speed, inside⟩ := patrol_stays_in_bounds start room strayCommands
  have moved : ∃ s ∈ strayCommands, s.commandFor "koopa-1" ≠ some .stop :=
    ⟨⟨1 / 60, none⟩, by simp [strayCommands], by decide⟩
  have own : strayKoopa.AtOwnSpeed := by norm_num [Enemy.AtOwnSpeed, strayKoopa]
  exact ⟨e', stored, inside.mpr (.inr moved), speed own⟩

end GameEngine

/-! ## Rounding -/

/-- The position and velocity of an enemy after an uncommanded step, over any type of numbers: the
rationals of `Enemy.advance`, or the binary64 numbers of the code. -/
def patrol {α : Type} [Add α] [Sub α] [Mul α] [Neg α] [LT α] [DecidableLT α]
    (width leftBound rightBound dt : α) : α × α → α × α
  | (x, vx) =>
    let x := x + vx * dt
    if x < leftBound then (leftBound, -vx)
    else if x + width > rightBound then (rightBound - width, -vx)
    else (x, vx)

theorem Enemy.advance_eq_patrol (e : Enemy) (dt : ℚ) :
    ((e.advance dt).x, (e.advance dt).vx) =
      patrol (e.width : ℚ) e.leftBound e.rightBound dt (e.x, e.vx) := by
  simp only [advance, patrol]
  split_ifs <;> rfl

/-- In binary64 the sum `x + width` can be rounded down to `right_bound`, so that the guard fails
for an enemy that is already past `right_bound - width`. -/
theorem rounded_patrol_leaves :
    let step := patrol (51 : Float) 960 1025 (1 / 60)
    (51 : Float) ≤ 1025 - 960 ∧ (960 : Float) ≤ 970 ∧ (970 : Float) ≤ 1025 - 51 ∧
      1025 - 51 < (step (step (step (970, 80)))).1 := by
  decide +kernel

end DistributedSmb
