import DistributedSmb.Domain.Evolution
import DistributedSmb.Shared.Messages

/-!
# Applying the host's events

The part of `_drain_game_events` that changes the local engine. On a level whose blocks have
distinct positions, applying the message of an event does what replaying the event does.
-/

namespace DistributedSmb

open Library

/-- `get_block(position)` and the assignment to what it found: the first block there. -/
def destroyAt (position : ℤ × ℤ) : List DestructibleBlock → List DestructibleBlock
  | [] => []
  | b :: blocks =>
    if b.position = position then { b with destroyed := true } :: blocks
    else b :: destroyAt position blocks

def GameEngine.applyMessage (g : GameEngine) : WsMessage → GameEngine
  | .blockDestroyed position =>
    { g with
      worldState :=
        { g.worldState with
          environment :=
            { g.worldState.environment with
              destructibleBlocks :=
                destroyAt position g.worldState.environment.destructibleBlocks } } }
  | .powerUpCollected powerupId playerId =>
    let collect (u : ExclusivePowerUp) : ExclusivePowerUp :=
      { u with collected := true, owner := some playerId }
    { g with
      worldState :=
        { g.worldState with
          environment :=
            { g.worldState.environment with
              powerUps := g.worldState.environment.powerUps.modify powerupId collect } } }
  | .gateStateChanged gateId newState =>
    let update (gate : CooperativeGate) : CooperativeGate := { gate with state := newState }
    { g with
      worldState :=
        { g.worldState with
          environment :=
            { g.worldState.environment with
              cooperativeGates :=
                g.worldState.environment.cooperativeGates.modify gateId update } } }
  | .playerDeath playerId _ => { g with worldState := g.worldState.removePlayer playerId }
  | .levelReset => g.resetForNewRun
  | _ => g

/-- The message `event_to_message` makes of an event. -/
def GameEvent.message : GameEvent → WsMessage
  | .blockDestroyed position => .blockDestroyed position
  | .powerUpCollected powerupId playerId => .powerUpCollected powerupId playerId
  | .gateStateChanged gateId newState => .gateStateChanged gateId newState
  | .playerDeath playerId enemyId => .playerDeath playerId enemyId
  | .levelReset => .levelReset

theorem checked_eq_ok {m m' : WsMessage} (h : m.checked = .ok m') : m' = m := by
  obtain ⟨_, -, h⟩ := Fallible.bind_eq_ok.mp h
  exact (Except.ok.inj h).symm

theorem eventToMessage_eq_ok {e : GameEvent} {m : WsMessage} (h : eventToMessage e = .ok m) :
    m = e.message := by
  cases e <;> exact checked_eq_ok h

theorem mapM_eventToMessage {events : List GameEvent} {messages : List WsMessage}
    (h : events.mapM eventToMessage = .ok messages) : messages = events.map GameEvent.message := by
  induction events generalizing messages with
  | nil => cases h; rfl
  | cons e events ih =>
    rw [List.mapM_cons] at h
    obtain ⟨m, hm, h⟩ := Fallible.bind_eq_ok.mp h
    obtain ⟨rest, hrest, h⟩ := Fallible.bind_eq_ok.mp h
    rw [← Fallible.pure_eq_ok.mp h, eventToMessage_eq_ok hm, ih hrest, List.map_cons]

theorem destroyAt_eq_map {blocks : List DestructibleBlock} {position : ℤ × ℤ}
    (nodup : (blocks.map DestructibleBlock.position).Nodup) :
    destroyAt position blocks = blocks.map (GameEvent.onBlock (.blockDestroyed position)) := by
  induction blocks with
  | nil => rfl
  | cons b blocks ih =>
    rw [List.map_cons, List.nodup_cons] at nodup
    rw [destroyAt, List.map_cons]
    split
    case isTrue h =>
      have tail : blocks.map (GameEvent.onBlock (.blockDestroyed position)) = blocks := by
        conv_rhs => rw [← List.map_id blocks]
        refine List.map_congr_left fun c hc => ?_
        have hne : c.position ≠ position := fun heq =>
          nodup.1 (List.mem_map.mpr ⟨c, hc, heq.trans h.symm⟩)
        simp [GameEvent.onBlock, hne]
      rw [tail]
      simp [GameEvent.onBlock, h]
    case isFalse h =>
      rw [ih nodup.2]
      simp [GameEvent.onBlock, h]

namespace GameEngine

/-- A message other than a reset does to blocks and power-ups what its event says. -/
theorem applyMessage_env {g : GameEngine} {e : GameEvent}
    (addressed : g.worldState.environment.Addressed) (he : e ≠ .levelReset) :
    (g.applyMessage e.message).worldState.environment.destructibleBlocks =
        g.worldState.environment.destructibleBlocks.map e.onBlock ∧
      (g.applyMessage e.message).worldState.environment.powerUps =
        g.worldState.environment.powerUps.mapWithKey e.onPowerUp := by
  have noBlock (h : ∀ b, e.onBlock b = b) :
      g.worldState.environment.destructibleBlocks.map e.onBlock =
        g.worldState.environment.destructibleBlocks := by
    rw [funext h, List.map_id']
  have noPowerUp (h : ∀ key u, e.onPowerUp key u = u) :
      g.worldState.environment.powerUps.mapWithKey e.onPowerUp =
        g.worldState.environment.powerUps := by
    apply Dict.ext
    simp [Dict.mapWithKey, h]
  cases e with
  | blockDestroyed position =>
    exact ⟨destroyAt_eq_map addressed.positions, (noPowerUp fun _ _ => rfl).symm⟩
  | powerUpCollected powerupId playerId => exact ⟨(noBlock fun _ => rfl).symm, rfl⟩
  | gateStateChanged gateId newState =>
    exact ⟨(noBlock fun _ => rfl).symm, (noPowerUp fun _ _ => rfl).symm⟩
  | playerDeath playerId enemyId =>
    exact ⟨(noBlock fun _ => rfl).symm, (noPowerUp fun _ _ => rfl).symm⟩
  | levelReset => exact absurd rfl he

/-- Applying messages leaves the level and the authority alone. -/
theorem applyMessage_setting (g : GameEngine) (m : WsMessage) :
    (g.applyMessage m).setting = g.setting := by
  cases m <;> rfl

end GameEngine

end DistributedSmb
