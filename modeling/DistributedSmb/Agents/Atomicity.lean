import DistributedSmb.Agents.Integration

/-!
# An agent tick that raises

Everything that can raise, the requests, the controllers and the translation of their answers, comes
before the step of the simulation. The step itself cannot raise where the enemies are stored under
their own ids, and what is read off the world after it asks for no enemy without checking that it is
still there.
-/

namespace DistributedSmb

open Library

namespace AgentGameIntegration

variable {s : AgentGameIntegration} {c : AgentTick}

theorem publishPerceptions_succeeds (s : AgentGameIntegration) (sequence : ℤ) :
    ∃ s', s.publishPerceptions sequence = .ok s' := by
  obtain ⟨s', h, -⟩ := Fallible.foldlM_succeeds (P := fun _ : AgentGameIntegration => True)
    (l := s.spadeControlledEnemyIds.keys.insertionSort (· ≤ ·)) (s := s)
    (f := fun s enemyId =>
      if enemyId ∉ s.engine.enemies then .ok s
      else do
        let perception ← s.perceptor.observe enemyId
        .ok { s with bridge := s.bridge.publish ⟨sequence, perception⟩ })
    (fun s enemyId _ _ => by
      by_cases hthere : enemyId ∈ s.engine.enemies
      · obtain ⟨perception, hobserved⟩ := s.perceptor.observe_succeeds hthere
        exact ⟨_, by rw [if_neg (not_not.mpr hthere), hobserved]; rfl, trivial⟩
      · exact ⟨s, if_pos hthere, trivial⟩) trivial
  exact ⟨s', h⟩

theorem publishAtCadence_succeeds (s : AgentGameIntegration) (sequence : ℤ) :
    ∃ s', s.publishAtCadence sequence = .ok s' := by
  unfold publishAtCadence
  split
  · exact publishPerceptions_succeeds s sequence
  · exact ⟨s, rfl⟩

theorem step_succeeds (keyed : s.engine.EnemiesKeyed) (c : AgentTick) (plan : Plan) :
    ∃ s', s.step c plan = .ok s' := by
  obtain ⟨g, hstep, -⟩ := GameEngine.tick_succeeds_of_keyed (c.engineArgs plan.commands) keyed
  obtain ⟨s', hpublished⟩ :=
    publishAtCadence_succeeds { s with engine := g } g.worldState.sequenceNumber
  simp only [step, hstep, Except.mapError, Fallible.ok_bind, hpublished]
  exact ⟨_, rfl⟩

theorem tickDisabled_succeeds (keyed : s.engine.EnemiesKeyed) (c : AgentTick)
    (requests : Dict EnemyId ActionRequest) : ∃ s', s.tickDisabled c requests = .ok s' := by
  obtain ⟨g, hstep, -⟩ := GameEngine.tick_succeeds_of_keyed (c.engineArgs none) keyed
  exact ⟨_, by rw [tickDisabled, hstep]; rfl⟩

/-- Nothing but the requests and the loop over the controlled enemies can raise. -/
theorem tick_aborts (keyed : s.engine.EnemiesKeyed) (c : AgentTick) :
    Fallible.RaisesOnly (Left fun left => left.engine = s.engine) (s.tick c) := by
  unfold tick
  refine Fallible.raisesOnly_bind.mpr ⟨Fallible.raisesOnly_mapError.mpr fun _ _ => rfl, ?_⟩
  intro requests _
  split
  · obtain ⟨s', h⟩ := tickDisabled_succeeds keyed c requests
    rw [h]
    exact Fallible.raisesOnly_ok s'
  · obtain ⟨hraises, hkeeps⟩ := controlAll_keeps
      (P := fun left : AgentGameIntegration => left.engine = s.engine)
      (fun _ _ _ _ hleft hrequest => (requestFor_remembers hrequest).engine.trans hleft)
      (c.order.walk (s.drainSpadeActions s.engine.worldState.sequenceNumber).controlledIds)
      (drainSpadeActions_engine s s.engine.worldState.sequenceNumber)
    refine Fallible.raisesOnly_bind.mpr ⟨hraises, ?_⟩
    rintro ⟨s₁, plan⟩ hloop
    have hengine : s₁.engine = s.engine := hkeeps s₁ plan hloop
    obtain ⟨s', h⟩ := step_succeeds (s := s₁) (hengine ▸ keyed) c _
    change Fallible.RaisesOnly _ (s₁.step c _)
    rw [h]
    exact Fallible.raisesOnly_ok s'

/-- A tick that raises does so before the simulation is stepped, and leaves it as it was. -/
theorem agent_tick_atomic (keyed : s.engine.EnemiesKeyed) {failure : TickFailure}
    (h : s.tick c = .error failure) :
    ∃ error left, failure = .before error left ∧ left.engine = s.engine := by
  have haborted := tick_aborts keyed c failure h
  cases failure with
  | before error left => exact ⟨error, left, rfl, haborted⟩
  | during error => exact haborted.elim

/-- One koopa, which a controller decides for. -/
def guarded : AgentGameIntegration where
  engine :=
    { worldState :=
        { environment :=
            { enemies :=
                Dict.ofList [("koopa-1",
                  { enemyId := "koopa-1", x := 300, y := 0, rightBound := 600,
                    movementSpeed := some 50 })] } } }
  enabled := true
  interval_pos := defaultInterval_pos
  controllers := Dict.ofList [("koopa-1", .object)]
  bridge := .fresh

/-- The controller raises. -/
def undecided : AgentTick where
  dt := 1 / 60
  playerInputs := ∅
  now := 5
  order := .stored
  decide _ _ := .error (.raised "no plan")

theorem undecided_tick_leaves_the_simulation :
    ∃ error left, guarded.tick undecided = .error (.before error left) ∧
      left.engine = guarded.engine := by
  have keyed : guarded.engine.EnemiesKeyed :=
    show ∀ e ∈ guarded.engine.enemies.entries, e.2.enemyId = e.1 by decide +kernel
  cases h : guarded.tick undecided with
  | ok s' =>
    have raises : Fallible.okAnd (guarded.tick undecided) (fun _ => true) = false := by
      decide +kernel
    rw [h] at raises
    exact absurd raises (by simp [Fallible.okAnd])
  | error failure =>
    obtain ⟨error, left, rfl, same⟩ := agent_tick_atomic keyed h
    exact ⟨error, left, rfl, same⟩

end AgentGameIntegration

end DistributedSmb
