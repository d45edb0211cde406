import DistributedSmb.Domain.Frames

/-!
# Gates during a tick

One stage of a tick moves gates, and each gate it moves emits one event under its own id. The other
stages leave the gates alone and emit nothing about them.
-/

namespace DistributedSmb

open Library

/-- What an event says about one gate. -/
def GameEvent.onGate : GameEvent → GateId → CooperativeGate → CooperativeGate
  | .gateStateChanged gateId newState, key, gate =>
    if key = gateId then { gate with state := newState } else gate
  | _, _, gate => gate

theorem GameEvent.onGate_gateId (e : GameEvent) (key : GateId) (gate : CooperativeGate) :
    (e.onGate key gate).gateId = gate.gateId := by
  cases e with
  | gateStateChanged gateId newState => simp only [onGate]; split <;> rfl
  | _ => rfl

abbrev Gates := Dict GateId CooperativeGate

/-- Every gate is stored under its own id. -/
def GatesKeyed (gates : Gates) : Prop := ∀ e ∈ gates.entries, e.2.gateId = e.1

def replayGates (events : List GameEvent) (gates : Gates) : Gates :=
  gates.mapWithKey fun key => replay (GameEvent.onGate · key) events

theorem replayGates_append (events rest : List GameEvent) (gates : Gates) :
    replayGates (events ++ rest) gates = replayGates rest (replayGates events gates) := by
  apply Dict.ext
  simp [replayGates, Dict.mapWithKey, replay_append]

theorem replayGates_eq_self {events : List GameEvent} {gates : Gates}
    (h : ∀ e ∈ events, ∀ key gate, e.onGate key gate = gate) :
    replayGates events gates = gates := by
  refine Dict.mapWithKey_eq_self fun e _ => ?_
  exact replay_eq_self fun event he => h event he e.1 e.2

theorem GatesKeyed.replay {gates : Gates} (h : GatesKeyed gates) (events : List GameEvent) :
    GatesKeyed (replayGates events gates) := by
  intro e he
  obtain ⟨binding, hmem, rfl⟩ := List.mem_map.mp he
  have keep := replay_keeps (GameEvent.onGate · binding.1)
    (fun event gate => GameEvent.onGate_gateId event binding.1 gate) events binding.2
  exact keep.trans (h binding hmem)

theorem gatesKeyed_ofList (l : List CooperativeGate) :
    GatesKeyed (Dict.ofList (l.map fun gate => (gate.gateId, gate))) := by
  intro e he
  obtain ⟨gate, -, rfl⟩ := List.mem_map.mp (Dict.mem_of_mem_ofList he)
  rfl

/-- Replaying the event of a state update is the update. -/
theorem updateState_replay (gate : CooperativeGate) (b : Bool) :
    replay (GameEvent.onGate · gate.gateId) (gate.updateState b).2.toList gate =
      (gate.updateState b).1 := by
  simp only [CooperativeGate.updateState]
  generalize (if b = true then "open" else "closed") = newState
  split
  · rfl
  · simp [replay, GameEvent.onGate]

/-- No gate hears the event of another one. -/
theorem updateState_own {gate : CooperativeGate} {b : Bool} {event : GameEvent}
    (h : (gate.updateState b).2 = some event) {key : GateId} (hne : key ≠ gate.gateId)
    (other : CooperativeGate) : event.onGate key other = other := by
  obtain ⟨newState, rfl⟩ := GameEngine.updateState_event h
  simp [GameEvent.onGate, hne]

namespace GameEngine

def gates (g : GameEngine) : Gates := g.worldState.environment.cooperativeGates

/-- The events of an evolution account for its effect on the gates. -/
def LogsGates (g g' : GameEngine) (events : List GameEvent) : Prop :=
  g'.events = g.events ++ events ∧ g'.gates = replayGates events g.gates

theorem LogsGates.append {g g' g'' : GameEngine} {events rest : List GameEvent}
    (h : g.LogsGates g' events) (h' : g'.LogsGates g'' rest) : g.LogsGates g'' (events ++ rest) :=
  ⟨by rw [h'.1, h.1, List.append_assoc], by rw [h'.2, h.2, replayGates_append]⟩

/-- A step that leaves the gates alone and emits nothing about them. -/
def SparesGates (g g' : GameEngine) : Prop :=
  g'.gates = g.gates ∧ ∃ events, g'.events = g.events ++ events ∧
    ∀ e ∈ events, ∀ key gate, e.onGate key gate = gate

theorem SparesGates.logs {g g' : GameEngine} (h : g.SparesGates g') :
    ∃ events, g.LogsGates g' events := by
  obtain ⟨hgates, events, hqueued, hquiet⟩ := h
  exact ⟨events, hqueued, by rw [hgates, replayGates_eq_self hquiet]⟩

theorem sparesGates_of_same {g g' : GameEngine} (events : g'.events = g.events)
    (gates : g'.gates = g.gates) : g.SparesGates g' :=
  ⟨gates, [], by rw [events, List.append_nil], by simp⟩

theorem SparesGates.refl (g : GameEngine) : g.SparesGates g := sparesGates_of_same rfl rfl

theorem SparesGates.trans {g g' g'' : GameEngine} (h : g.SparesGates g')
    (h' : g'.SparesGates g'') : g.SparesGates g'' := by
  obtain ⟨hgates, events, hqueued, hquiet⟩ := h
  obtain ⟨hgates', rest, hqueued', hquiet'⟩ := h'
  refine ⟨hgates'.trans hgates, events ++ rest, ?_, ?_⟩
  · rw [hqueued', hqueued, List.append_assoc]
  · intro e he
    exact (List.mem_append.mp he).elim (hquiet e) (hquiet' e)

/-- The stage that moves the gates: an event for each gate that changes, and for no other. -/
theorem handleGateCollisions_logsGates {g : GameEngine} (keyed : GatesKeyed g.gates) :
    ∃ events, g.LogsGates g.handleGateCollisions events := by
  let emit (gate : CooperativeGate) := (gate.updateState (g.worldState.shouldBeOpen gate)).2
  refine ⟨g.gates.values.filterMap emit, rfl, ?_⟩
  apply Dict.ext
  refine List.map_congr_left fun e he => Prod.ext rfl ?_
  have hreplay : replay (GameEvent.onGate · e.1) (g.gates.values.filterMap emit) e.2 =
      replay (GameEvent.onGate · e.1) (emit e.2).toList e.2 :=
    replay_filterMap_own (fun e he event hevent key other hne => by
      have hown : key ≠ e.2.gateId := (keyed e he).symm ▸ hne
      exact updateState_own hevent hown other) he
  change _ = replay (GameEvent.onGate · e.1) (g.gates.values.filterMap emit) e.2
  rw [hreplay, ← keyed e he]
  exact (updateState_replay _ _).symm

theorem onGate_of_emits {stage : TickStage} (other : stage ≠ .handleGateCollisions) {e : GameEvent}
    (h : stage.emits e = true) (key : GateId) (gate : CooperativeGate) :
    e.onGate key gate = gate := by
  cases e with
  | gateStateChanged gateId newState => cases stage <;> simp [TickStage.emits] at h other
  | _ => rfl

/-- Every other stage leaves the gates alone. -/
theorem stage_sparesGates {args : TickArgs} {stage : TickStage} {g g' : GameEngine}
    (other : stage ≠ .handleGateCollisions) (h : stage.run args g = .ok g') : g.SparesGates g' := by
  obtain ⟨events, hqueued, hkind⟩ := stage_queues h
  exact ⟨(stage_leaves h).gates other, events, hqueued,
    fun e he => onGate_of_emits other (hkind e he)⟩

theorem stage_logsGates {args : TickArgs} {stage : TickStage} {g g' : GameEngine}
    (keyed : GatesKeyed g.gates) (h : stage.run args g = .ok g') :
    ∃ events, g.LogsGates g' events := by
  by_cases hstage : stage = .handleGateCollisions
  · subst hstage
    cases h
    exact handleGateCollisions_logsGates keyed
  · exact (stage_sparesGates hstage h).logs

theorem tick_logsGates {args : TickArgs} {g g' : GameEngine} (keyed : GatesKeyed g.gates)
    (h : g.tick args = .ok g') : ∃ events, g.LogsGates g' events := by
  unfold tick at h
  split at h
  · cases h; exact (sparesGates_of_same rfl rfl).logs
  · obtain ⟨g₁, hstages, h⟩ := Fallible.bind_eq_ok.mp h
    cases h
    have hkept := Fallible.foldlM_keeps
      (P := fun g₁ : GameEngine => GatesKeyed g₁.gates ∧ ∃ events, g.LogsGates g₁ events)
      (fun g₁ stage g₂ _ hP hstage => by
        obtain ⟨events, hevents⟩ := hP.2
        obtain ⟨rest, hrest⟩ := stage_logsGates hP.1 hstage
        exact ⟨hrest.2 ▸ hP.1.replay rest, events ++ rest, hevents.append hrest⟩)
      hstages ⟨keyed, (SparesGates.refl g).logs⟩
    exact hkept.2

/-- One list of events accounts for blocks, power-ups and gates. -/
theorem tick_logs {args : TickArgs} {g g' : GameEngine}
    (addressed : g.worldState.environment.Addressed) (keyed : GatesKeyed g.gates)
    (h : g.tick args = .ok g') :
    ∃ events, g.Emits g' events ∧ g'.gates = replayGates events g.gates := by
  obtain ⟨-, events, hemits⟩ := tick_emits addressed h
  obtain ⟨events', hqueued, hgates⟩ := tick_logsGates keyed h
  obtain rfl : events = events' :=
    List.append_cancel_left (hemits.queued.symm.trans hqueued)
  exact ⟨events, hemits, hgates⟩

end GameEngine

end DistributedSmb
