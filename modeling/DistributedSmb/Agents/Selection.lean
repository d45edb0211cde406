import DistributedSmb.Agents.Integration

/-!
# Enemies that no agent controls

A tick with agents and a plain tick from the same state step the same simulation under different
commands. An enemy moves by its own command only, and only a controlled enemy is given one.
-/

namespace DistributedSmb

open Library

namespace AgentGameIntegration

variable {s s' : AgentGameIntegration} {c : AgentTick} {g' : GameEngine} {enemyId : EnemyId}

/-- The command under which a tick moves an enemy that is not selected. -/
theorem unselected_not_commanded {plan : Plan} {requests : Dict EnemyId ActionRequest} {n : ℤ}
    {s₁ s₂ : AgentGameIntegration}
    (hloop : (c.order.walk s.controlledIds).foldlM (controlOne c requests n) (s₁, {}) =
      .ok (s₂, plan))
    (unselected : enemyId ∉ s.controllers ∧ enemyId ∉ s.spadeControlledEnemyIds) :
    plan.directions.get? enemyId = none := by
  have other : enemyId ∉ c.order.walk s.controlledIds := fun hwalked =>
    (mem_walk_controlledIds.mp hwalked).elim unselected.1 unselected.2
  rw [controlAll_directions_of_not_mem hloop other]
  rfl

/-- The simulation of a tick is stepped under some commands, none of which is for an enemy that is
not selected. -/
theorem tick_engine (h : s.tick c = .ok s') :
    ∃ commands, s.engine.tick (c.engineArgs commands) = .ok s'.engine ∧
      (s.enabled = false ∨ s.controlledIds = [] → commands = none) ∧
      ∀ enemyId, enemyId ∉ s.controllers ∧ enemyId ∉ s.spadeControlledEnemyIds →
        (c.engineArgs commands).commandFor enemyId = none := by
  cases enabled : s.enabled with
  | false =>
    obtain ⟨requests, -, h⟩ := Fallible.bind_eq_ok.mp h
    rw [if_pos (by simp [enabled])] at h
    exact ⟨none, tickDisabled_engine h, fun _ => rfl, fun _ _ => rfl⟩
  | true =>
    obtain ⟨requests, s₁, plan, plan', -, hloop, hdirections, hengine, h⟩ := tick_enabled enabled h
    have hstep := step_engine h
    rw [hengine] at hstep
    refine ⟨plan'.commands, hstep, fun hnothing => ?_, fun enemyId unselected => ?_⟩
    · have hnobody : c.order.walk s.controlledIds = [] := by
        rw [hnothing.resolve_left (by simp)]
        exact List.perm_nil.mp (c.order.perm [])
      rw [hnobody] at hloop
      cases hloop
      rw [Plan.commands, hdirections]
      rfl
    · rw [commandFor_commands, hdirections]
      exact unselected_not_commanded hloop unselected

/-- An enemy that is not selected and survives both ticks is the same after either. Without agents,
or with nothing selected, the whole world is. -/
theorem agent_control_is_selective (h : s.tick c = .ok s')
    (plain : s.engine.tick (c.engineArgs none) = .ok g') :
    (∀ enemyId e e', enemyId ∉ s.controllers ∧ enemyId ∉ s.spadeControlledEnemyIds →
      s'.engine.enemies.get? enemyId = some e → g'.enemies.get? enemyId = some e' →
      e.x = e'.x ∧ e.y = e'.y ∧ e.vx = e'.vx) ∧
    (s.enabled = false ∨ s.controllers = ∅ ∧ s.spadeControlledEnemyIds = ∅ →
      s'.engine.worldState = g'.worldState) := by
  obtain ⟨commands, hstep, hnobody, hnone⟩ := tick_engine h
  constructor
  · intro enemyId e e' unselected survives survives'
    obtain ⟨e₀, hstored, rfl⟩ := GameEngine.tick_survivor hstep survives
    obtain ⟨e₁, hstored', rfl⟩ := GameEngine.tick_survivor plain survives'
    obtain rfl : e₀ = e₁ := Option.some.inj (hstored.symm.trans hstored')
    rw [hnone enemyId unselected]
    exact ⟨rfl, rfl, rfl⟩
  · intro hidle
    have hidle' : s.enabled = false ∨ s.controlledIds = [] := by
      refine hidle.imp_right fun ⟨hcontrollers, hspade⟩ => ?_
      rw [controlledIds, hcontrollers, hspade]
      rfl
    rw [hnobody hidle', plain] at hstep
    rw [Except.ok.inj hstep]

def koopa (enemyId : EnemyId) (x : ℚ) : Enemy :=
  { enemyId := enemyId, x := x, y := 0, rightBound := 2000, movementSpeed := some 50 }

/-- The first of two koopas is sent to the left. -/
def twoKoopas : AgentGameIntegration where
  engine :=
    { worldState :=
        { environment :=
            { enemies :=
                Dict.ofList
                  [("koopa-1", koopa "koopa-1" 520), ("koopa-2", koopa "koopa-2" 1120)] } } }
  enabled := true
  interval_pos := defaultInterval_pos
  controllers := Dict.ofList [("koopa-1", .action .moveLeft)]
  bridge := .fresh

/-- A request for the second koopa, and one for an enemy that does not exist. -/
def intrusion : AgentTick where
  dt := 1 / 10
  playerInputs := ∅
  actionRequests := some (Dict.ofList
    [("koopa-2", some { enemyId := "koopa-2", action := .enemyAction .stop }),
      ("koopa-9", some { enemyId := "koopa-2", action := .enemyAction .stop })])
  now := 5
  order := .stored
  decide _ _ := .ok none

theorem second_koopa_patrols_on :
    ∃ s' g' e e', twoKoopas.tick intrusion = .ok s' ∧
      twoKoopas.engine.tick (intrusion.engineArgs none) = .ok g' ∧
      s'.engine.enemies.get? "koopa-2" = some e ∧ g'.enemies.get? "koopa-2" = some e' ∧
      e.x = e'.x ∧ e.y = e'.y ∧ e.vx = e'.vx := by
  obtain ⟨s', h, hsurvives⟩ := Fallible.exists_of_okAnd (x := twoKoopas.tick intrusion)
    (p := fun s' => (s'.engine.enemies.get? "koopa-2").isSome) (by decide +kernel)
  obtain ⟨g', plain, hsurvives'⟩ := Fallible.exists_of_okAnd
    (x := twoKoopas.engine.tick (intrusion.engineArgs none))
    (p := fun g' => (g'.enemies.get? "koopa-2").isSome) (by decide +kernel)
  obtain ⟨e, he⟩ := Option.isSome_iff_exists.mp hsurvives
  obtain ⟨e', he'⟩ := Option.isSome_iff_exists.mp hsurvives'
  exact ⟨s', g', e, e', h, plain, he, he',
    (agent_control_is_selective h plain).1 "koopa-2" e e' (by decide +kernel) he he'⟩

end AgentGameIntegration

end DistributedSmb
