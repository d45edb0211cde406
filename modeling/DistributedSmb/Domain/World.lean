import DistributedSmb.Domain.Entity
import DistributedSmb.Library.Dict

/-!
# World state

The levels a world is loaded from, and the world state every node stores and hosts broadcast.
`WorldState.Keyed` is what `add_player` and `load_level` build: every entity is stored under its
own id.
-/

namespace DistributedSmb

open Library

structure SpawnPoint where
  x : ℤ
  y : ℤ
  deriving DecidableEq, Repr

structure Level where
  platforms : List Platform := []
  blocks : List DestructibleBlock := []
  powerups : List ExclusivePowerUp := []
  enemies : List Enemy := []
  gates : List CooperativeGate := []
  spawnPoints : List SpawnPoint := []
  coinsToWin : ℤ := 5
  blocksToWin : ℤ := 0
  enemiesToWin : ℤ := 0
  width : ℤ := 0
  height : ℤ := 0
  deriving DecidableEq

structure EnvironmentalState where
  destructibleBlocks : List DestructibleBlock := []
  powerUps : Dict PowerUpId ExclusivePowerUp := ∅
  enemies : Dict EnemyId Enemy := ∅
  cooperativeGates : Dict GateId CooperativeGate := ∅
  deriving DecidableEq

structure WorldState where
  sequenceNumber : ℤ := 0
  characters : Dict PlayerId Player := ∅
  environment : EnvironmentalState := {}
  coinsCollected : ℤ := 0
  coinsToWin : ℤ := 5
  blocksDestroyed : ℤ := 0
  blocksToWin : ℤ := 0
  enemiesDefeated : ℤ := 0
  enemiesToWin : ℤ := 0
  initialEnemyCount : ℤ := 0
  victory : Bool := false
  victoryPlayerId : Option PlayerId := none
  respawnTimers : Dict PlayerId ℚ := ∅
  deriving DecidableEq

namespace WorldState

/-- The characters, the sequence number and the respawn timers are not part of the level. -/
def loadLevel (w : WorldState) (level : Level) : WorldState :=
  { w with
    environment :=
      { destructibleBlocks := level.blocks
        powerUps := Dict.ofList (level.powerups.map fun u => (u.powerupId, u))
        enemies := Dict.ofList (level.enemies.map fun e => (e.enemyId, e))
        cooperativeGates := Dict.ofList (level.gates.map fun g => (g.gateId, g)) }
    coinsCollected := 0
    coinsToWin := level.coinsToWin
    blocksDestroyed := 0
    blocksToWin := level.blocksToWin
    enemiesDefeated := 0
    enemiesToWin := level.enemiesToWin
    initialEnemyCount := level.enemies.length
    victory := false
    victoryPlayerId := none }

def addPlayer (w : WorldState) (character : Player) : WorldState :=
  { w with characters := w.characters.set character.playerId character }

def removePlayer (w : WorldState) (playerId : PlayerId) : WorldState :=
  { w with characters := w.characters.erase playerId }

def getPlayer (w : WorldState) (playerId : PlayerId) : Option Player :=
  w.characters.get? playerId

/-- Every character is stored under its own id. -/
def Keyed (w : WorldState) : Prop := ∀ e ∈ w.characters.entries, e.2.playerId = e.1

theorem Keyed.addPlayer {w : WorldState} (h : w.Keyed) (p : Player) : (w.addPlayer p).Keyed := by
  intro e he
  rcases Dict.mem_entries_set.mp he with rfl | ⟨he, -⟩
  · rfl
  · exact h e he

theorem Keyed.removePlayer {w : WorldState} (h : w.Keyed) (pid : PlayerId) :
    (w.removePlayer pid).Keyed :=
  fun e he => h e (Dict.mem_entries_erase.mp he).1

end WorldState

end DistributedSmb
