import DistributedSmb.Agents.Models
import DistributedSmb.Domain.Enemies
import Mathlib.Data.List.Sort
import Mathlib.Data.String.Basic

/-!
# What an enemy sees

`EnemyPerceptor`: the players and obstacles in front of an enemy, within the sight distance and not
hidden by an obstacle. The distance is compared by its square.
-/

namespace DistributedSmb

open Library

def goombaSightDistance : ℚ := 200

theorem goombaSightDistance_nonneg : 0 ≤ goombaSightDistance := by decide +kernel

/-- `__post_init__` raises on a negative distance. -/
structure EnemyPerceptor where
  engine : GameEngine
  sightDistance : ℚ
  nonneg : 0 ≤ sightDistance

namespace EnemyPerceptor

/-- A perceptor that is built without a distance. -/
def ofEngine (g : GameEngine) : EnemyPerceptor where
  engine := g
  sightDistance := goombaSightDistance
  nonneg := goombaSightDistance_nonneg

def obstacleCandidates (s : EnemyPerceptor) : List ObstacleObservation :=
  (s.engine.platforms.map fun p => ⟨.platform, p.x, p.y, p.width, p.height⟩) ++
    (s.engine.worldState.environment.destructibleBlocks.filter fun b => !b.destroyed).map fun b =>
      ⟨.block, b.x, b.y, b.width, b.height⟩

/-- One axis of the intersection: the part of `entry..exit` in which the segment is between
`minimum` and `maximum`. -/
def clip (origin delta minimum maximum : ℚ) : ℚ × ℚ → Option (ℚ × ℚ)
  | (entry, exit) =>
    if delta = 0 then
      if origin < minimum ∨ origin > maximum then none else some (entry, exit)
    else
      let first := (minimum - origin) / delta
      let second := (maximum - origin) / delta
      let entry := max entry (min first second)
      let exit := min exit (max first second)
      if entry > exit then none else some (entry, exit)

/-- The segment parameters inside an axis-aligned rectangle. -/
def segmentRectangleIntersection (start stop : Position) (left top right bottom : ℚ) :
    Option (ℚ × ℚ) := do
  let inside ← clip start.x (stop.x - start.x) left right (0, 1)
  clip start.y (stop.y - start.y) top bottom inside

def blocksLine (origin target : Position) (o : ObstacleObservation) : Bool :=
  match segmentRectangleIntersection origin target o.x o.y (o.x + o.width) (o.y + o.height) with
  | some (entry, exit) => entry < 1 - 1 / 10 ^ 9 ∧ exit > 1 / 10 ^ 9
  | none => false

/-- No obstacle is in the line, apart from the one at the ignored index. -/
def hasClearLine (origin target : Position) (obstacles : List ObstacleObservation)
    (ignoredObstacleIndex : Option ℕ) : Bool :=
  obstacles.zipIdx.all fun (o, index) =>
    some index = ignoredObstacleIndex || !blocksLine origin target o

def isInSight (s : EnemyPerceptor) (origin target : Position) (direction : SightDirection) : Bool :=
  let deltaX := target.x - origin.x
  let deltaY := target.y - origin.y
  let isForward :=
    match direction with
    | .left => decide (deltaX ≤ 0)
    | .right => decide (deltaX ≥ 0)
  isForward && decide (deltaX ^ 2 + deltaY ^ 2 ≤ s.sightDistance ^ 2)

def canSeePlayer (s : EnemyPerceptor) (p : Player) (origin : Position) (direction : SightDirection)
    (obstacles : List ObstacleObservation) : Bool :=
  let target : Position := ⟨p.x + p.width / 2, p.y + p.height / 2⟩
  s.isInSight origin target direction && hasClearLine origin target obstacles none

def perceivePlayer (p : Player) : PlayerPerception :=
  ⟨p.playerId, ⟨p.x, p.y⟩, p.width, p.height⟩

def centerOf (o : ObstacleObservation) : Position := ⟨o.x + o.width / 2, o.y + o.height / 2⟩

def visibleObstacles (s : EnemyPerceptor) (origin : Position) (direction : SightDirection)
    (obstacles : List ObstacleObservation) : List ObstacleObservation :=
  (obstacles.zipIdx.filter fun (o, index) =>
    s.isInSight origin (centerOf o) direction &&
      hasClearLine origin (centerOf o) obstacles (some index)).map Prod.fst

def perceive (s : EnemyPerceptor) (e : Enemy) : GoombaPerception :=
  let obstacles := s.obstacleCandidates
  let origin : Position := ⟨e.x + e.width / 2, e.y + e.height / 2⟩
  let direction := if e.vx < 0 then SightDirection.left else .right
  let players :=
    s.engine.worldState.characters.values.insertionSort fun p q => p.playerId ≤ q.playerId
  { goombaId := e.enemyId
    position := ⟨e.x, e.y⟩
    direction := direction
    visiblePlayers :=
      (players.filter fun p => s.canSeePlayer p origin direction obstacles).map perceivePlayer
    visibleObstacles := s.visibleObstacles origin direction obstacles }

def observe (s : EnemyPerceptor) (enemyId : EnemyId) : Except AgentError GoombaPerception :=
  match s.engine.enemies.get? enemyId with
  | none => .error (.enemyNotFoundError (doesNotExist enemyId))
  | some e => .ok (s.perceive e)

/-- Observing can only fail for want of the enemy. -/
theorem observe_succeeds (s : EnemyPerceptor) {enemyId : EnemyId} (h : enemyId ∈ s.engine.enemies) :
    ∃ perception, s.observe enemyId = .ok perception := by
  cases hfound : s.engine.enemies.get? enemyId with
  | none => exact absurd h (Dict.get?_eq_none_iff.mp hfound)
  | some e => exact ⟨s.perceive e, by rw [observe, hfound]⟩

end EnemyPerceptor

end DistributedSmb
