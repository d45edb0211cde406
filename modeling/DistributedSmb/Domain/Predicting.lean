import DistributedSmb.Domain.Conservation

/-!
# Client and host simulate alike

Where every character is stored under its own id, a death that is announced is that of a character
that leaves the game. So a tick that leaves everybody in the game announces no death, and if it also
collects nothing, defeats no enemy, declares no victory and respawns nobody, it is the tick of a
client as well.
-/

namespace DistributedSmb

open Library

namespace GameEngine

/-- No power-up was collected, no player or enemy was removed, no victory was declared and nobody
was respawned. -/
structure Calm (g g' : GameEngine) : Prop where
  powerUps : ∀ powerupId pid, .powerUpCollected powerupId pid ∉ g.queued g'
  players : ∀ pid ∈ g.worldState.characters, pid ∈ g'.worldState.characters
  enemies : ∀ enemyId ∈ g.enemies, enemyId ∈ g'.enemies
  victory : g'.worldState.victory = true → g.worldState.victory = true
  timers : ∀ pid ∈ g.worldState.respawnTimers, pid ∈ g'.worldState.respawnTimers

/-- Nobody is announced as dead who is still there. -/
theorem Calm.uneventful {g g' : GameEngine} {args : TickArgs} (calm : g.Calm g')
    (keyed : g.worldState.Keyed) (h : g.tick args = .ok g') : g.Uneventful g' := by
  refine ⟨calm.powerUps, fun pid cause hdeath => ?_, calm.enemies, calm.victory, calm.timers⟩
  have announced : 0 < g.deathsOf g' pid :=
    List.countP_pos_iff.mpr ⟨_, hdeath, decide_eq_true rfl⟩
  obtain ⟨living, gone⟩ := tick_deaths keyed h announced.ne'
  exact gone (calm.players pid living)

/-- A tick that collects nothing, removes nobody, decides nothing and respawns nobody is also the
tick of an engine without authority, down to its events. -/
theorem client_ticks_alike {g g' : GameEngine} {args : TickArgs} (keyed : g.worldState.Keyed)
    (h : g.tick args = .ok g') (calm : g.Calm g') : g.predicting.tick args = .ok g'.predicting :=
  tick_predicting h (calm.uneventful keyed h)

/-- The second player waits for its respawn while the first one breaks a block from below. -/
def breakingFrame : GameEngine where
  worldState :=
    { characters := .ofList [("player1", { playerId := "player1", x := 0, y := 40, vy := -300 })]
      environment :=
        { destructibleBlocks := [{ x := 0, y := 0 }]
          powerUps := .ofList [("star", { x := 700, y := 0, powerupId := "star" })]
          enemies := .ofList
            [("koopa", { enemyId := "koopa", x := 500, y := 0, rightBound := 600 })]
          cooperativeGates :=
            .ofList [("goal", { x := 900, y := 0, gateId := "goal", coinsRequired := 1 })] }
      respawnTimers := .ofList [("player2", 10)] }
  worldWidth := 1000
  worldHeight := 600

theorem breakingFrame_ticks_alike : ∃ g',
    breakingFrame.tick ⟨1 / 10, ∅, none, 5⟩ = .ok g' ∧ g'.events = [.blockDestroyed (0, 0)] ∧
      breakingFrame.predicting.tick ⟨1 / 10, ∅, none, 5⟩ = .ok g'.predicting := by
  have keyed : breakingFrame.worldState.Keyed := by
    change ∀ e ∈ breakingFrame.worldState.characters.entries, e.2.playerId = e.1
    decide +kernel
  obtain ⟨g', htick, hcheck⟩ := Fallible.exists_of_okAnd
    (x := breakingFrame.tick ⟨1 / 10, ∅, none, 5⟩)
    (p := fun g' => decide (g'.events = [.blockDestroyed (0, 0)] ∧
      breakingFrame.worldState.characters.keys = g'.worldState.characters.keys ∧
      breakingFrame.enemies.keys = g'.enemies.keys ∧ g'.worldState.victory = false ∧
      breakingFrame.worldState.respawnTimers = g'.worldState.respawnTimers)) (by decide +kernel)
  obtain ⟨hevents, hplayers, henemies, hvictory, htimers⟩ := of_decide_eq_true hcheck
  have hqueued : breakingFrame.queued g' = [.blockDestroyed (0, 0)] := hevents
  refine ⟨g', htick, hevents, client_ticks_alike keyed htick ?_⟩
  constructor
  case powerUps => simp [hqueued]
  case players => exact fun pid hpid => by rwa [Dict.mem_iff, ← hplayers]
  case enemies => exact fun enemyId he => by rwa [Dict.mem_iff, ← henemies]
  case victory => simp [hvictory]
  case timers => simp [htimers]

/-- The host announces the death of another player than the one that falls, which stays in the game:
its tick leaves everybody there, and a client knows nothing of the death. -/
theorem misfiled_death_is_unseen : misfiled.isAuthoritative = true ∧ ∃ g' g'',
    misfiled.tick ⟨1 / 60, ∅, none, 0⟩ = .ok g' ∧
      misfiled.predicting.tick ⟨1 / 60, ∅, none, 0⟩ = .ok g'' ∧ misfiled.Calm g' ∧
      g'.worldState ≠ g''.worldState ∧ g'.events ≠ g''.events := by
  obtain ⟨g', htick, hcheck⟩ := Fallible.exists_of_okAnd
    (x := misfiled.tick ⟨1 / 60, ∅, none, 0⟩)
    (p := fun g' => decide (g'.events = [.playerDeath "player2" voidDeathCause] ∧
      misfiled.worldState.characters.keys = g'.worldState.characters.keys ∧
      g'.worldState.victory = false ∧ "player2" ∈ g'.worldState.respawnTimers)) (by decide +kernel)
  obtain ⟨hevents, hplayers, hvictory, hwaits⟩ := of_decide_eq_true hcheck
  obtain ⟨g'', hclient, hcheck⟩ := Fallible.exists_of_okAnd
    (x := misfiled.predicting.tick ⟨1 / 60, ∅, none, 0⟩)
    (p := fun g'' => decide (g''.events = [] ∧ "player2" ∉ g''.worldState.respawnTimers))
    (by decide +kernel)
  obtain ⟨hsilent, hnobody⟩ := of_decide_eq_true hcheck
  have hqueued : misfiled.queued g' = [.playerDeath "player2" voidDeathCause] := hevents
  refine ⟨rfl, g', g'', htick, hclient, ?_, fun same => hnobody (same ▸ hwaits), ?_⟩
  · constructor
    case powerUps => simp [hqueued]
    case players => exact fun pid hpid => by rwa [Dict.mem_iff, ← hplayers]
    case enemies => exact fun enemyId he => absurd he (List.not_mem_nil)
    case victory => simp [hvictory]
    case timers => exact fun pid hpid => absurd hpid (List.not_mem_nil)
  · rw [hevents, hsilent]
    exact List.cons_ne_nil _ _

end GameEngine

end DistributedSmb
