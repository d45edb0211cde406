import DistributedSmb.Domain.Collisions
import DistributedSmb.Domain.World
import DistributedSmb.Library.Sweep
import Mathlib.Algebra.Order.Group.Abs
import Mathlib.Data.Rat.Defs

/-!
# Game engine

`domain/game_engine.py`. A tick reads the wall clock once, as `now`. Its stages run in the order
of the source; the ones that only an authoritative engine runs check the flag themselves.
-/

namespace DistributedSmb

open Library

inductive EnemyMovementCommand where
  | moveLeft | stop | moveRight
  deriving DecidableEq, Repr

def EnemyMovementCommand.value : EnemyMovementCommand → ℚ
  | moveLeft => -1
  | stop => 0
  | moveRight => 1

def voidDeathCause : EnemyId := "void"

structure GameEngine where
  worldState : WorldState := {}
  platforms : List Platform := []
  events : List GameEvent := []
  isAuthoritative : Bool := true
  worldWidth : ℤ := 0
  worldHeight : ℤ := 0
  spawnPoints : List SpawnPoint := []
  respawnJoinIndex : Dict PlayerId ℕ := ∅
  level : Level := {}
  deriving DecidableEq

/-- A new engine, around the level that it has built. -/
def GameEngine.ofLevel (level : Level) : GameEngine where
  worldState := WorldState.loadLevel {} level
  platforms := level.platforms
  worldWidth := level.width
  worldHeight := level.height
  spawnPoints := level.spawnPoints
  level := level

/-! ## Players -/

def Player.recordPrevious (p : Player) : Player := { p with prevX := p.x, prevY := p.y }

def Player.expirePowerupEffect (now : ℚ) (p : Player) : Player :=
  match p.powerupEffectExpiresAt with
  | some due => if due ≤ now then { p with powerupEffectExpiresAt := none } else p
  | none => p

def Player.applyInput (p : Player) (input : InputState) : Player :=
  let jumping := input.jump && p.onGround
  let onGround := p.onGround && !jumping
  { p with
    vx := if input.left then -moveSpeed else if input.right then moveSpeed else 0
    vy := if jumping then jumpForce else p.vy
    onGround := onGround
    isCrouching := input.down && onGround }

def Player.handleCollisions (platforms : List Platform) (p : Player) : Player :=
  platforms.foldl
    (fun p platform => if checkCollision p platform.box then resolveCollision p platform.box else p)
    { p with onGround := false }

/-- A player that reached the block's underside from below. -/
def isHeadBump (p : Player) (b : DestructibleBlock) : Bool :=
  let blockBottom : ℚ := b.y + b.height
  p.x < b.x + b.width ∧ p.x + p.width > b.x ∧
    p.prevY ≥ blockBottom - 4 ∧ p.y ≤ blockBottom ∧ p.y + p.height > b.y

/-- A landing from above: feet over the enemy's head, falling. -/
def isStomp (p : Player) (e : Enemy) : Bool :=
  p.x < e.x + e.width ∧ p.x + p.width > e.x ∧ p.vy > 0 ∧ p.prevY + p.height ≤ e.y + 4

/-- `clampBottom` is off during play: a fall into a pit must not stop at the lower edge. -/
def Player.clampToWorld (worldWidth worldHeight : ℤ) (clampBottom : Bool) (p : Player) : Player :=
  let maxX : ℚ := max 0 (worldWidth - p.width)
  let maxY : ℚ := max 0 (worldHeight - p.height)
  { p with
    x := max 0 (min p.x maxX)
    y := if clampBottom then max 0 (min p.y maxY) else max 0 p.y }

/-- The player after the check and its verdict: an effect that ran out is cleared on the way. -/
def Player.hasActivePowerupEffect (now : ℚ) (p : Player) : Player × Bool :=
  match p.powerupEffectExpiresAt with
  | none => (p, false)
  | some due => if due ≤ now then ({ p with powerupEffectExpiresAt := none }, false) else (p, true)

/-! ## Environment -/

def bumpBlock (p : Player) (b : DestructibleBlock) :
    Except PyError (Player × DestructibleBlock × List GameEvent) :=
  if !b.destroyed && checkCollision p b.box then do
    let (b, events) ←
      if isHeadBump p b then do
        let (b, event) ← b.destroy
        .ok (b, [event])
      else .ok (b, [])
    .ok (resolveCollision p b.box, b, events)
  else .ok (p, b, [])

/-- One player against every block. -/
def bumpBlocks (blocks : List DestructibleBlock) (_ : PlayerId) (p : Player) :
    Except PyError (List DestructibleBlock × Player × List GameEvent) := do
  let (p, blocks, events) ← sweep bumpBlock p blocks
  .ok (blocks, p, events)

def isStarPowerup (u : ExclusivePowerUp) : Bool := "star".toList.isPrefixOf u.powerupId.toList

def isCoin (u : ExclusivePowerUp) : Bool := "coin-".toList.isPrefixOf u.powerupId.toList

/-- One power-up against every player: the lowest join index among the touching players wins. -/
def awardPowerup (now : ℚ) (characters : Dict PlayerId Player) (_ : PowerUpId)
    (u : ExclusivePowerUp) :
    Except PyError (Dict PlayerId Player × ExclusivePowerUp × List GameEvent) :=
  if u.collected then .ok (characters, u, [])
  else
    let colliding := characters.entries.filter fun e => checkCollision e.2 u.box
    match colliding.minOn? fun e => e.2.joinIndex with
    | none => .ok (characters, u, [])
    | some (key, winner) => do
      let (u, event) ← u.collect winner.playerId
      let winner :=
        if isStarPowerup u then { winner with powerupEffectExpiresAt := some (now + starEffectS) }
        else winner
      .ok (characters.set key winner, u, [event])

def WorldState.shouldBeOpen (w : WorldState) (gate : CooperativeGate) : Bool :=
  w.coinsCollected ≥ gate.coinsRequired ∧ w.blocksDestroyed ≥ gate.blocksRequired ∧
    w.enemiesDefeated ≥ gate.enemiesRequired

/-- A closed gate pushes back the players that touch it. -/
def CooperativeGate.pushBack (gate : CooperativeGate) (characters : Dict PlayerId Player) :
    Dict PlayerId Player :=
  if gate.state = "closed" then
    characters.mapValues fun p =>
      if checkCollision p gate.box then resolveCollision p gate.box else p
  else characters

def Enemy.advance (e : Enemy) (dt : ℚ) : Enemy :=
  let x := e.x + e.vx * dt
  if x < e.leftBound then { e with x := e.leftBound, vx := -e.vx }
  else if x + e.width > e.rightBound then { e with x := e.rightBound - e.width, vx := -e.vx }
  else { e with x := x }

def Enemy.update (e : Enemy) (dt : ℚ) : Option EnemyMovementCommand → Enemy
  | none => e.advance dt
  | some .stop => e
  | some command =>
    { e with vx := command.value * e.movementSpeed.getD |e.vx| }.advance dt

namespace GameEngine

/-! ## Stages of a tick -/

def mapPlayers (f : Player → Player) (g : GameEngine) : GameEngine :=
  { g with worldState := { g.worldState with characters := g.worldState.characters.mapValues f } }

/-- An input moves its own player only, so the order of the map does not matter. -/
def applyInputs (inputs : Dict PlayerId InputState) (g : GameEngine) : GameEngine :=
  let move (pid : PlayerId) (p : Player) : Player :=
    match inputs.get? pid with
    | some input => p.applyInput input
    | none => p
  { g with
    worldState := { g.worldState with characters := g.worldState.characters.mapWithKey move } }

/-- Not guarded by `isAuthoritative`: a predicting client breaks its own copy of the blocks. -/
def handleBlockCollisions (g : GameEngine) : Except PyError GameEngine := do
  let (blocks, characters, events) ←
    g.worldState.characters.sweep bumpBlocks g.worldState.environment.destructibleBlocks
  .ok { g with
    worldState :=
      { g.worldState with
        characters := characters
        environment := { g.worldState.environment with destructibleBlocks := blocks } }
    events := g.events ++ events }

def handlePowerupCollisions (now : ℚ) (g : GameEngine) : Except PyError GameEngine :=
  if !g.isAuthoritative then .ok g
  else do
    let (characters, powerUps, events) ←
      g.worldState.environment.powerUps.sweep (awardPowerup now) g.worldState.characters
    .ok { g with
      worldState :=
        { g.worldState with
          characters := characters
          environment := { g.worldState.environment with powerUps := powerUps } }
      events := g.events ++ events }

def updateEnemies (dt : ℚ) (enemyCommands : Option (Dict EnemyId EnemyMovementCommand))
    (g : GameEngine) : GameEngine :=
  let environment := g.worldState.environment
  let update (enemyId : EnemyId) (e : Enemy) : Enemy :=
    e.update dt (enemyCommands.bind fun commands => commands.get? enemyId)
  { g with
    worldState :=
      { g.worldState with
        environment := { environment with enemies := environment.enemies.mapWithKey update } } }

/-- `del enemies[enemy_id]` raises on an absent key. -/
def deleteEnemy (g : GameEngine) (enemyId : EnemyId) : Except PyError GameEngine :=
  let environment := g.worldState.environment
  if enemyId ∈ environment.enemies then
    .ok { g with
      worldState :=
        { g.worldState with
          environment := { environment with enemies := environment.enemies.erase enemyId } } }
  else .error (.keyError enemyId)

def setCharacter (g : GameEngine) (key : PlayerId) (p : Player) : GameEngine :=
  { g with
    worldState := { g.worldState with characters := g.worldState.characters.set key p } }

def queuePlayerDeath (now : ℚ) (cause : EnemyId) (g : GameEngine) (p : Player) : GameEngine :=
  { g with
    events := g.events ++ [.playerDeath p.playerId cause]
    respawnJoinIndex := g.respawnJoinIndex.set p.playerId p.joinIndex
    worldState :=
      { g.worldState.removePlayer p.playerId with
        respawnTimers := g.worldState.respawnTimers.set p.playerId (now + respawnDelayS) } }

/-- One enemy against the players of the frame, until one of them defeats it. -/
def fightEnemy (now : ℚ) (e : Enemy) : GameEngine → List (PlayerId × Player) →
    Except PyError GameEngine
  | g, [] => .ok g
  | g, (key, p) :: rest =>
    if !checkCollision p e.box then fightEnemy now e g rest
    else
      let (p, active) := p.hasActivePowerupEffect now
      if active || isStomp p e then do
        let g ← g.deleteEnemy e.enemyId
        .ok (g.setCharacter key { p with vy := jumpForce * (3 / 5) })
      else fightEnemy now e (g.queuePlayerDeath now e.enemyId p) rest

def handleEnemyCollisions (now : ℚ) (g : GameEngine) : Except PyError GameEngine :=
  if !g.isAuthoritative then .ok g
  else
    g.worldState.environment.enemies.values.foldlM
      (fun g e => fightEnemy now e g g.worldState.characters.entries) g

def handleVoidDeaths (now : ℚ) (g : GameEngine) : GameEngine :=
  if !g.isAuthoritative then g
  else
    g.worldState.characters.values.foldl
      (fun (g : GameEngine) (p : Player) =>
        if p.y + p.height ≤ g.worldHeight then g else g.queuePlayerDeath now voidDeathCause p) g

def syncObjectiveProgress (g : GameEngine) : GameEngine :=
  let environment := g.worldState.environment
  let collectedCoins := environment.powerUps.values.countP fun u => u.collected && isCoin u
  let destroyedBlocks := environment.destructibleBlocks.countP fun b => b.destroyed
  { g with
    worldState :=
      { g.worldState with
        coinsCollected := collectedCoins
        blocksDestroyed := destroyedBlocks
        enemiesDefeated :=
          max 0 (g.worldState.initialEnemyCount - environment.enemies.entries.length) } }

/-- The counters do not move during the loop, so each gate's new state is known beforehand. -/
def handleGateCollisions (g : GameEngine) : GameEngine :=
  let gates := g.worldState.environment.cooperativeGates
  let update (gate : CooperativeGate) := gate.updateState (g.worldState.shouldBeOpen gate)
  { g with
    worldState :=
      { g.worldState with
        characters :=
          gates.values.foldl (fun characters gate => (update gate).1.pushBack characters)
            g.worldState.characters
        environment :=
          { g.worldState.environment with
            cooperativeGates := gates.mapValues fun gate => (update gate).1 } }
    events := g.events ++ gates.values.filterMap fun gate => (update gate).2 }

/-- The player that stands in an open final gate, if any: first gate, then first player. -/
def winner (w : WorldState) : Option PlayerId :=
  w.environment.cooperativeGates.values.findSome? fun gate =>
    if gate.state = "open" ∧ gate.isFinal then
      (w.characters.values.find? fun p => checkCollision p gate.box).map Player.playerId
    else none

def handleVictoryCondition (g : GameEngine) : GameEngine :=
  if !g.isAuthoritative || g.worldState.victory then g
  else
    match winner g.worldState with
    | some pid =>
      { g with worldState := { g.worldState with victory := true, victoryPlayerId := some pid } }
    | none => g

def spawnPositionFor (g : GameEngine) (joinIndex : ℕ) : ℤ × ℤ :=
  match g.spawnPoints[joinIndex % g.spawnPoints.length]? with
  | some point => (point.x, point.y)
  | none => (100, 100)

def spawnPlayer (g : GameEngine) (playerId : PlayerId) (position : ℤ × ℤ) (joinIndex : ℕ) :
    GameEngine :=
  let p : Player :=
    { playerId := playerId, x := position.1, y := position.2, joinIndex := joinIndex }
  { g with worldState := g.worldState.addPlayer (p.clampToWorld g.worldWidth g.worldHeight true) }

/-- `_respawn_join_index.pop(pid, 0)`, the spawn and the deletion of the timer. -/
def respawn (g : GameEngine) (pid : PlayerId) : GameEngine :=
  let joinIndex := g.respawnJoinIndex.getD pid 0
  let g := g.spawnPlayer pid (g.spawnPositionFor joinIndex) joinIndex
  { g with
    respawnJoinIndex := g.respawnJoinIndex.erase pid
    worldState := { g.worldState with respawnTimers := g.worldState.respawnTimers.erase pid } }

def processRespawns (now : ℚ) (g : GameEngine) : GameEngine :=
  if !g.isAuthoritative then g
  else
    g.worldState.respawnTimers.entries.foldl
      (fun g timer => if now ≥ timer.2 then g.respawn timer.1 else g) g

/-! ## The tick -/

structure TickArgs where
  dt : ℚ
  inputs : Dict PlayerId InputState
  enemyCommands : Option (Dict EnemyId EnemyMovementCommand) := none
  now : ℚ

inductive TickStage where
  | recordPrevious | expirePowerupEffects | applyInputs | applyPhysics | handleCollisions
  | handleBlockCollisions | handlePowerupCollisions | updateEnemies | handleEnemyCollisions
  | handleVoidDeaths | syncObjectiveProgress | handleGateCollisions | clampPlayersToWorld
  | handleVictoryCondition | processRespawns
  deriving DecidableEq, Repr

def TickStage.run (args : TickArgs) (g : GameEngine) : TickStage → Except PyError GameEngine
  | recordPrevious => .ok (g.mapPlayers Player.recordPrevious)
  | expirePowerupEffects => .ok (g.mapPlayers (Player.expirePowerupEffect args.now))
  | applyInputs => .ok (g.applyInputs args.inputs)
  | applyPhysics => .ok (g.mapPlayers fun p => DistributedSmb.applyPhysics p args.dt)
  | handleCollisions => .ok (g.mapPlayers (Player.handleCollisions g.platforms))
  | handleBlockCollisions => g.handleBlockCollisions
  | handlePowerupCollisions => g.handlePowerupCollisions args.now
  | updateEnemies => .ok (g.updateEnemies args.dt args.enemyCommands)
  | handleEnemyCollisions => g.handleEnemyCollisions args.now
  | handleVoidDeaths => .ok (g.handleVoidDeaths args.now)
  | syncObjectiveProgress => .ok g.syncObjectiveProgress
  | handleGateCollisions => .ok g.handleGateCollisions
  | clampPlayersToWorld => .ok (g.mapPlayers (Player.clampToWorld g.worldWidth g.worldHeight false))
  | handleVictoryCondition => .ok g.handleVictoryCondition
  | processRespawns => .ok (g.processRespawns args.now)

/-- The order in which `tick` calls them. -/
def tickStages : List TickStage :=
  [.recordPrevious, .expirePowerupEffects, .applyInputs, .applyPhysics, .handleCollisions,
    .handleBlockCollisions, .handlePowerupCollisions, .updateEnemies, .handleEnemyCollisions,
    .handleVoidDeaths, .syncObjectiveProgress, .handleGateCollisions, .clampPlayersToWorld,
    .handleVictoryCondition, .processRespawns]

def countTick (g : GameEngine) : GameEngine :=
  { g with
    worldState := { g.worldState with sequenceNumber := g.worldState.sequenceNumber + 1 } }

/-- After a victory only the sequence number advances. -/
def tick (g : GameEngine) (args : TickArgs) : Except PyError GameEngine :=
  if g.worldState.victory then .ok g.countTick
  else do
    let g ← tickStages.foldlM (TickStage.run args) g
    .ok g.countTick

/-- Reload the level and queue a reset, so that clients drop their stale copies. -/
def resetForNewRun (g : GameEngine) : GameEngine :=
  let restart (p : Player) : Player :=
    { p with
      x := (g.spawnPositionFor p.joinIndex).1
      y := (g.spawnPositionFor p.joinIndex).2
      vx := 0
      vy := 0
      onGround := false
      isCrouching := false
      powerupEffectExpiresAt := none }
  let w := g.worldState.loadLevel g.level
  { g with
    worldState := { w with respawnTimers := ∅, characters := w.characters.mapValues restart }
    respawnJoinIndex := ∅
    events := g.events ++ [.levelReset] }

end GameEngine

end DistributedSmb
