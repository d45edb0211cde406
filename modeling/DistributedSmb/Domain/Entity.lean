import DistributedSmb.Shared.Config
import Mathlib.Data.Finset.Basic
import Mathlib.Algebra.Order.Ring.Rat

/-!
# Domain entities

The entities of a level and the events the engine emits about them. Integer fields of the source
stay integers; positions and speeds of moving entities are rationals.
-/

namespace DistributedSmb

/-- What the collision code reads of any entity. -/
structure Box where
  x : ℚ
  y : ℚ
  width : ℚ
  height : ℚ
  deriving DecidableEq, Repr

structure Platform where
  x : ℤ
  y : ℤ
  width : ℤ
  height : ℤ
  deriving DecidableEq, Repr

inductive GameEvent where
  | blockDestroyed (position : ℤ × ℤ)
  | powerUpCollected (powerupId : PowerUpId) (playerId : PlayerId)
  | gateStateChanged (gateId : GateId) (newState : String)
  | playerDeath (playerId : PlayerId) (enemyId : EnemyId)
  | levelReset
  deriving DecidableEq, Repr

structure DestructibleBlock where
  x : ℤ
  y : ℤ
  width : ℤ := 32
  height : ℤ := 32
  destroyed : Bool := false
  deriving DecidableEq, Repr

structure ExclusivePowerUp where
  x : ℤ
  y : ℤ
  powerupId : PowerUpId
  width : ℤ := 32
  height : ℤ := 32
  collected : Bool := false
  owner : Option PlayerId := none
  deriving DecidableEq, Repr

structure CooperativeGate where
  x : ℤ
  y : ℤ
  gateId : GateId
  width : ℤ := 32
  height : ℤ := 32
  state : String := "closed"
  contributions : Finset String := ∅
  coinsRequired : ℤ := 0
  blocksRequired : ℤ := 0
  enemiesRequired : ℤ := 0
  isFinal : Bool := true
  deriving DecidableEq

inductive EnemyType where
  | koopa | goomba
  deriving DecidableEq, Repr

/-- `__post_init__` fills a missing `movement_speed` with `abs(vx)`; see `Enemy.make`. -/
structure Enemy where
  enemyId : EnemyId
  x : ℚ
  y : ℚ
  width : ℤ := enemyWidth
  height : ℤ := enemyHeight
  vx : ℚ := 50
  leftBound : ℚ := 0
  rightBound : ℚ := 0
  movementSpeed : Option ℚ := none
  enemyType : EnemyType := .koopa
  deriving DecidableEq, Repr

structure Player where
  playerId : PlayerId
  x : ℚ := 0
  y : ℚ := 0
  vx : ℚ := 0
  vy : ℚ := 0
  width : ℤ := playerWidth
  height : ℤ := playerHeight
  onGround : Bool := false
  isCrouching : Bool := false
  prevX : ℚ := 0
  prevY : ℚ := 0
  joinIndex : ℕ := 0
  powerupEffectExpiresAt : Option ℚ := none
  deriving DecidableEq, Repr

structure InputState where
  left : Bool := false
  right : Bool := false
  jump : Bool := false
  down : Bool := false
  deriving DecidableEq, Repr

def Platform.box (p : Platform) : Box := ⟨p.x, p.y, p.width, p.height⟩
def DestructibleBlock.box (b : DestructibleBlock) : Box := ⟨b.x, b.y, b.width, b.height⟩
def ExclusivePowerUp.box (u : ExclusivePowerUp) : Box := ⟨u.x, u.y, u.width, u.height⟩
def CooperativeGate.box (g : CooperativeGate) : Box := ⟨g.x, g.y, g.width, g.height⟩
def Enemy.box (e : Enemy) : Box := ⟨e.x, e.y, e.width, e.height⟩

/-- `Enemy(...)` including its `__post_init__`. -/
def Enemy.make (e : Enemy) : Enemy :=
  { e with movementSpeed := some (e.movementSpeed.getD |e.vx|) }

namespace DestructibleBlock

def position (b : DestructibleBlock) : ℤ × ℤ := (b.x, b.y)

def destroy (b : DestructibleBlock) : Except PyError (DestructibleBlock × GameEvent) :=
  if b.destroyed then
    .error (.valueError s!"Block at {b.x}, {b.y} is already destroyed")
  else .ok ({ b with destroyed := true }, .blockDestroyed b.position)

end DestructibleBlock

/-- `f"{owner}"` for an optional owner. -/
def ownerText : Option PlayerId → String
  | none => "None"
  | some pid => pid

def ExclusivePowerUp.collect (u : ExclusivePowerUp) (playerId : PlayerId) :
    Except PyError (ExclusivePowerUp × GameEvent) :=
  if u.collected then
    .error (.valueError s!"Power-up {u.powerupId} is already collected by {ownerText u.owner}")
  else
    .ok ({ u with collected := true, owner := some playerId },
      .powerUpCollected u.powerupId playerId)

/-- Only a change of state emits an event. -/
def CooperativeGate.updateState (g : CooperativeGate) (shouldBeOpen : Bool) :
    CooperativeGate × Option GameEvent :=
  let newState := if shouldBeOpen then "open" else "closed"
  if newState = g.state then (g, none)
  else ({ g with state := newState }, some (.gateStateChanged g.gateId newState))

@[simp] theorem CooperativeGate.updateState_state (g : CooperativeGate) (b : Bool) :
    (g.updateState b).1.state = if b then "open" else "closed" := by
  by_cases h : (if b then "open" else "closed") = g.state <;> simp [updateState, h]

end DistributedSmb
