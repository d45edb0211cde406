import DistributedSmb.Domain.Authority
import DistributedSmb.Domain.Gates
import Mathlib.Algebra.Order.Group.Nat
import Mathlib.Order.Basic

/-!
# Objectives

The team's three counters are recomputed in every tick from the power-ups, the blocks and the
enemies, which change in other stages of it. What they count is never taken back, so a gate whose
requirements are met stays open, and a victory is earned at an open gate.
-/

namespace DistributedSmb

open Library

/-! ## Counters -/

/-- The coins, blocks and enemies that a gate asks for. -/
def CooperativeGate.requirements (gate : CooperativeGate) : ℤ × ℤ × ℤ :=
  (gate.coinsRequired, gate.blocksRequired, gate.enemiesRequired)

namespace WorldState

def coinTally (w : WorldState) : ℕ :=
  w.environment.powerUps.values.countP fun u => u.collected && isCoin u

def blockTally (w : WorldState) : ℕ := w.environment.destructibleBlocks.countP fun b => b.destroyed

def enemyTally (w : WorldState) : ℤ :=
  max 0 (w.initialEnemyCount - w.environment.enemies.entries.length)

/-- What the counters are recomputed to. -/
def tallies (w : WorldState) : ℤ × ℤ × ℤ := (w.coinTally, w.blockTally, w.enemyTally)

theorem shouldBeOpen_iff {w : WorldState} {gate : CooperativeGate} :
    w.shouldBeOpen gate = true ↔ gate.requirements ≤ w.counters := by
  simp [shouldBeOpen, CooperativeGate.requirements, counters, Prod.mk_le_mk]

theorem shouldBeOpen_congr {w w' : WorldState} (h : w'.counters = w.counters) :
    w'.shouldBeOpen = w.shouldBeOpen := by
  funext gate
  rw [Bool.eq_iff_iff, shouldBeOpen_iff, shouldBeOpen_iff, h]

end WorldState

def GameEvent.movesGate (gateId : GateId) : GameEvent → Bool
  | .gateStateChanged moved _ => moved = gateId
  | _ => false

theorem GameEvent.movesGate_of_quiet {e : GameEvent} (quiet : ∀ key gate, e.onGate key gate = gate)
    (gateId : GateId) : e.movesGate gateId = false := by
  cases e with
  | gateStateChanged moved newState =>
    -- a gate in another state would hear it
    have heard := quiet moved
      { x := 0, y := 0, gateId := moved, state := if newState = "open" then "closed" else "open" }
    simp only [onGate, if_true, CooperativeGate.mk.injEq] at heard
    by_cases hopen : newState = "open" <;> simp [hopen] at heard
  | _ => rfl

namespace GameEngine

/-- Nothing that counts is taken back. -/
def Gains (g g' : GameEngine) : Prop :=
  g'.worldState.counters = g.worldState.counters ∧ g.worldState.tallies ≤ g'.worldState.tallies

theorem Gains.trans {g g' g'' : GameEngine} (h : g.Gains g') (h' : g'.Gains g'') : g.Gains g'' :=
  ⟨h'.1.trans h.1, h.2.trans h'.2⟩

theorem length_enemies_le {g g' : GameEngine} (h : g.Advances g') :
    g'.enemies.entries.length ≤ g.enemies.entries.length := by
  have hsubset : g'.enemies.keys ⊆ g.enemies.keys := h.enemies
  have hkeys := (g'.enemies.nodup.subperm hsubset).length_le
  simpa [Dict.keys] using hkeys

theorem enemyTally_le {g g' : GameEngine} (h : g.Advances g')
    (initial : g'.worldState.initialEnemyCount = g.worldState.initialEnemyCount) :
    g.worldState.enemyTally ≤ g'.worldState.enemyTally := by
  have hlength : g'.worldState.environment.enemies.entries.length ≤
      g.worldState.environment.enemies.entries.length := length_enemies_le h
  simp only [WorldState.enemyTally, initial]
  omega

theorem bumpBlocks_countP_le {blocks blocks' : List DestructibleBlock} {pid : PlayerId}
    {p p' : Player} {out : List GameEvent} (h : bumpBlocks blocks pid p = .ok (blocks', p', out)) :
    blocks.countP (fun b => b.destroyed) ≤ blocks'.countP fun b => b.destroyed := by
  obtain ⟨⟨q, l, events⟩, hsweep, h⟩ := Fallible.bind_eq_ok.mp h
  cases h
  refine Sweep.countP_le (fun p b p' b' out hb hdestroyed => ?_) hsweep
  rcases bumpBlock_cases p b with heq | heq | heq <;> rw [heq] at hb <;> cases hb
  · exact hdestroyed
  · exact hdestroyed
  · rfl

theorem handleBlockCollisions_gains {g g' : GameEngine} (h : g.handleBlockCollisions = .ok g') :
    g.Gains g' := by
  obtain ⟨⟨blocks, characters, events⟩, hsweep, h⟩ := Fallible.bind_eq_ok.mp h
  cases h
  have hcount : g.worldState.environment.destructibleBlocks.countP (fun b => b.destroyed) ≤
      blocks.countP fun b => b.destroyed :=
    Dict.sweep_state_rel
      (Q := fun (blocks : List DestructibleBlock) (_ : List GameEvent) blocks' =>
        blocks.countP (fun b => b.destroyed) ≤ blocks'.countP fun b => b.destroyed)
      (fun _ => le_rfl) le_trans (fun _ _ _ _ _ _ hb => bumpBlocks_countP_le hb) hsweep
  exact ⟨rfl, le_rfl, Int.ofNat_le.mpr hcount, le_rfl⟩

theorem handlePowerupCollisions_gains {now : ℚ} {g g' : GameEngine}
    (h : g.handlePowerupCollisions now = .ok g') : g.Gains g' := by
  unfold handlePowerupCollisions at h
  split at h
  · cases h; exact ⟨rfl, le_rfl⟩
  obtain ⟨⟨characters, powerUps, events⟩, hsweep, h⟩ := Fallible.bind_eq_ok.mp h
  cases h
  have hcount : g.worldState.environment.powerUps.values.countP
      (fun u => u.collected && isCoin u) ≤
        powerUps.values.countP fun u => u.collected && isCoin u :=
    Dict.countP_values_sweep_le (fun _ _ u _ u' _ hu hcoin => by
      rcases awardPowerup_cases hu with ⟨-, rfl, -⟩ | ⟨_, _, _, _, _, -, rfl, -⟩
      · exact hcoin
      · simpa [isCoin] using (Bool.and_eq_true_iff.mp hcoin).2) hsweep
  exact ⟨rfl, Int.ofNat_le.mpr hcount, le_rfl, le_rfl⟩

/-- Every stage but the one that recomputes the counters leaves them alone. -/
theorem stage_gains {args : TickArgs} {stage : TickStage} {g g' : GameEngine}
    (other : stage ≠ .syncObjectiveProgress) (h : stage.run args g = .ok g') : g.Gains g' := by
  have leaves := stage_leaves h
  by_cases hblocks : stage = .handleBlockCollisions
  · subst hblocks
    exact handleBlockCollisions_gains h
  by_cases hpowerUps : stage = .handlePowerupCollisions
  · subst hpowerUps
    exact handlePowerupCollisions_gains h
  -- at most the enemies became fewer
  have blocks : g'.worldState.environment.destructibleBlocks =
      g.worldState.environment.destructibleBlocks := leaves.blocks hblocks
  have powerUps : g'.worldState.environment.powerUps = g.worldState.environment.powerUps :=
    leaves.powerUps hpowerUps
  refine ⟨leaves.counters other, ?_, ?_, enemyTally_le (stage_advances h) leaves.initialEnemyCount⟩
  · simp [WorldState.tallies, WorldState.coinTally, powerUps]
  · simp [WorldState.tallies, WorldState.blockTally, blocks]

/-! ## Gates -/

/-- How many of the events queued between two states are about one gate. -/
def gateEvents (g g' : GameEngine) (gateId : GateId) : ℕ :=
  (g.queued g').countP (GameEvent.movesGate gateId)

theorem gateEvents_append {g g' : GameEngine} {events : List GameEvent}
    (h : g'.events = g.events ++ events) (gateId : GateId) :
    g.gateEvents g' gateId = events.countP (GameEvent.movesGate gateId) := by
  rw [gateEvents, queued_append h]

theorem gateEvents_trans {g g' g'' : GameEngine} (h : g.events <+: g'.events)
    (h' : g'.events <+: g''.events) (gateId : GateId) :
    g.gateEvents g'' gateId = g.gateEvents g' gateId + g'.gateEvents g'' gateId := by
  rw [gateEvents, queued_trans h h', List.countP_append]
  rfl

theorem SparesGates.prefix {g g' : GameEngine} (h : g.SparesGates g') : g.events <+: g'.events := by
  obtain ⟨-, events, hqueued, -⟩ := h
  exact ⟨events, hqueued.symm⟩

theorem SparesGates.gateEvents_eq {g g' : GameEngine} (h : g.SparesGates g') (gateId : GateId) :
    g.gateEvents g' gateId = 0 := by
  obtain ⟨-, events, hqueued, hquiet⟩ := h
  rw [gateEvents_append hqueued, List.countP_eq_zero]
  intro event he
  simp [GameEvent.movesGate_of_quiet (hquiet event he)]

/-- The gates of this id that an update moves: no more than one, as ids are keys. -/
def movedGates (w : WorldState) (gates : Gates) (gateId : GateId) : ℕ :=
  gates.entries.countP fun e => e.1 = gateId && (e.2.updateState (w.shouldBeOpen e.2)).2.isSome

theorem movedGates_le (w : WorldState) (gates : Gates) (gateId : GateId) :
    movedGates w gates gateId ≤ 1 := by
  have hcount : gates.keys.count gateId ≤ 1 := List.nodup_iff_count_le_one.mp gates.nodup gateId
  refine le_trans ?_ hcount
  rw [Dict.keys, List.count, List.countP_map]
  refine List.countP_mono_left fun e _ he => ?_
  simpa using (Bool.and_eq_true_iff.mp he).1

theorem gateEvents_handleGateCollisions {g : GameEngine} (keyed : GatesKeyed g.gates)
    (gateId : GateId) :
    g.gateEvents g.handleGateCollisions gateId = movedGates g.worldState g.gates gateId := by
  rw [gateEvents_append rfl, List.countP_filterMap, Dict.values, List.countP_map]
  refine List.countP_congr fun e he => ?_
  simp only [Function.comp_apply]
  cases hevent : (e.2.updateState (g.worldState.shouldBeOpen e.2)).2 with
  | none => simp
  | some event =>
    obtain ⟨newState, rfl⟩ := updateState_event hevent
    simp [GameEvent.movesGate, keyed e he, eq_comm]

/-- What a tick does to the objectives when the run is not decided yet. -/
structure Settles (g g' : GameEngine) : Prop where
  events : g.events <+: g'.events
  recounted : g.worldState.tallies ≤ g'.worldState.counters
  counted : g'.worldState.counters ≤ g'.worldState.tallies
  gates : g'.gates = g.gates.mapValues fun gate =>
    (gate.updateState (g'.worldState.shouldBeOpen gate)).1
  moved : GatesKeyed g.gates → ∀ gateId,
    g.gateEvents g' gateId = movedGates g'.worldState g.gates gateId

theorem stages_spare_objectives {args : TickArgs} {stages : List TickStage} {g g' : GameEngine}
    (others : .syncObjectiveProgress ∉ stages ∧ .handleGateCollisions ∉ stages)
    (h : stages.foldlM (TickStage.run args) g = .ok g') : g.SparesGates g' ∧ g.Gains g' := by
  refine Fallible.foldlM_keeps (P := fun g₁ => g.SparesGates g₁ ∧ g.Gains g₁)
    (fun g₁ stage g₂ hstage hg₁ h => ?_) h ⟨.refl g, rfl, le_rfl⟩
  have hsync : stage ≠ .syncObjectiveProgress := fun heq => others.1 (heq ▸ hstage)
  have hgates : stage ≠ .handleGateCollisions := fun heq => others.2 (heq ▸ hstage)
  exact ⟨hg₁.1.trans (stage_sparesGates hgates h), hg₁.2.trans (stage_gains hsync h)⟩

/-- The gates are moved right after the recount, and nothing in the same tick touches either
again. -/
theorem tick_settles {g g' : GameEngine} {args : TickArgs} (running : g.worldState.victory = false)
    (h : g.tick args = .ok g') : g.Settles g' := by
  have hsplit : tickStages = tickStages.take 10 ++
      ([.syncObjectiveProgress, .handleGateCollisions] ++ tickStages.drop 12) := rfl
  rw [tick, if_neg (by simp [running]), hsplit, List.foldlM_append] at h
  obtain ⟨g₃, hstages, h⟩ := Fallible.bind_eq_ok.mp h
  cases h
  obtain ⟨g₁, hbefore, hstages⟩ := Fallible.bind_eq_ok.mp hstages
  rw [List.foldlM_append] at hstages
  obtain ⟨g₂, hmid, hafter⟩ := Fallible.bind_eq_ok.mp hstages
  obtain rfl : g₁.syncObjectiveProgress.handleGateCollisions = g₂ := Except.ok.inj hmid
  obtain ⟨hspares, hgains⟩ := stages_spare_objectives (by decide) hbefore
  obtain ⟨hspares', hgains'⟩ := stages_spare_objectives (by decide) hafter
  have hcounters : g₃.worldState.counters = g₁.worldState.tallies := hgains'.1
  have hopen : g₃.worldState.shouldBeOpen = g₁.syncObjectiveProgress.worldState.shouldBeOpen :=
    WorldState.shouldBeOpen_congr hcounters
  have hgate : g₁.syncObjectiveProgress.events <+:
      g₁.syncObjectiveProgress.handleGateCollisions.events := List.prefix_append _ _
  have hevents : g.events <+: g₁.syncObjectiveProgress.events := hspares.prefix
  exact
    { events := (hevents.trans hgate).trans hspares'.prefix
      recounted := hgains.2.trans hcounters.ge
      counted := hcounters.le.trans hgains'.2
      gates := by
        change g₃.gates = g.gates.mapValues fun gate =>
          (gate.updateState (g₃.worldState.shouldBeOpen gate)).1
        rw [hspares'.1, ← hspares.1, hopen]
        rfl
      moved := fun keyed gateId => by
        have keyed₁ : GatesKeyed g₁.syncObjectiveProgress.gates := hspares.1 ▸ keyed
        have hmoved := gateEvents_handleGateCollisions keyed₁ gateId
        change g.gateEvents g₃ gateId = movedGates g₃.worldState g.gates gateId
        rw [gateEvents_trans (hevents.trans hgate) hspares'.prefix, gateEvents_trans hevents hgate,
          hspares'.gateEvents_eq, hmoved, movedGates, movedGates, hopen, ← hspares.1]
        have hquiet : g.gateEvents g₁.syncObjectiveProgress gateId = 0 :=
          hspares.gateEvents_eq gateId
        rw [hquiet, Nat.zero_add, Nat.add_zero]
        rfl }

theorem winner_spec {w : WorldState} {pid : PlayerId} (h : winner w = some pid) :
    ∃ gate ∈ w.environment.cooperativeGates.values, gate.isFinal = true ∧ gate.state = "open" := by
  obtain ⟨gate, hgate, hwon⟩ := List.exists_of_findSome?_eq_some h
  split at hwon
  case isTrue hfinal => exact ⟨gate, hgate, hfinal.2, hfinal.1⟩
  case isFalse => cases hwon

/-- A run is won at an open final gate. -/
theorem tick_victory {g g' : GameEngine} {args : TickArgs} (running : g.worldState.victory = false)
    (h : g.tick args = .ok g') (won : g'.worldState.victory = true) :
    ∃ gate ∈ g'.gates.values, gate.isFinal = true ∧ gate.state = "open" := by
  have hsplit : tickStages =
      tickStages.take 13 ++ [.handleVictoryCondition, .processRespawns] := rfl
  rw [tick, if_neg (by simp [running]), hsplit, List.foldlM_append] at h
  obtain ⟨g₂, hstages, h⟩ := Fallible.bind_eq_ok.mp h
  cases h
  obtain ⟨g₁, hbefore, hstages⟩ := Fallible.bind_eq_ok.mp hstages
  cases hstages
  have undecided : g₁.worldState.victory = false := by
    refine Fallible.foldlM_keeps (P := fun g₁ : GameEngine => g₁.worldState.victory = false)
      (fun g₁ stage g₂ hstage hg₁ h => ?_) hbefore running
    have hother : stage ≠ .handleVictoryCondition := fun heq =>
      absurd (heq ▸ hstage) (by decide : TickStage.handleVictoryCondition ∉ tickStages.take 13)
    exact ((stage_leaves h).victory hother).trans hg₁
  have hdecide : TickStage.run args g₁ .handleVictoryCondition =
      .ok g₁.handleVictoryCondition := rfl
  have hrespawn : TickStage.run args g₁.handleVictoryCondition .processRespawns =
    .ok (g₁.handleVictoryCondition.processRespawns args.now) := rfl
  have decided : g₁.handleVictoryCondition.worldState.victory = true :=
    ((stage_leaves hrespawn).victory (by decide)).symm.trans won
  have hgates : (g₁.handleVictoryCondition.processRespawns args.now).gates = g₁.gates :=
    ((stage_leaves hrespawn).gates (by decide)).trans ((stage_leaves hdecide).gates (by decide))
  change ∃ gate ∈ (g₁.handleVictoryCondition.processRespawns args.now).gates.values, _
  rw [hgates]
  unfold handleVictoryCondition at decided
  split at decided
  · simp [undecided] at decided
  · split at decided
    case h_1 pid hwinner => exact winner_spec hwinner
    case h_2 => simp [undecided] at decided

/-- After a victory ticks are counted and nothing else. -/
theorem ticks_after_victory {g : GameEngine} (won : g.worldState.victory = true)
    (ticks : List TickArgs) :
    ticks.foldlM tick g = .ok { g with
      worldState :=
        { g.worldState with sequenceNumber := g.worldState.sequenceNumber + ticks.length } } := by
  induction ticks generalizing g with
  | nil => simp [pure, Except.pure]
  | cons args ticks ih =>
    have htick : g.tick args = .ok g.countTick := if_pos won
    have hlength : g.worldState.sequenceNumber + ((args :: ticks).length : ℕ) =
        g.worldState.sequenceNumber + 1 + (ticks.length : ℕ) := by
      rw [List.length_cons]
      omega
    rw [List.foldlM_cons, htick, Fallible.ok_bind, ih (g := g.countTick) won, hlength]
    rfl

/-! ## Runs -/

/-- A level was loaded, and its gates are closed. -/
structure FreshlyLoaded (g : GameEngine) (level : Level) : Prop where
  loaded : ∃ w : WorldState, g.worldState = w.loadLevel level
  closed : ∀ gate ∈ level.gates, gate.state = "closed"

/-- A gate is open because its requirements are met, and what it emitted since the start is the
event of its opening. -/
structure Latched (start g : GameEngine) : Prop where
  events : start.events <+: g.events
  keyed : GatesKeyed g.gates
  counted : g.worldState.counters ≤ g.worldState.tallies
  states : ∀ e ∈ g.gates.entries, e.2.state = "closed" ∨
    e.2.state = "open" ∧ e.2.requirements ≤ g.worldState.counters
  once : ∀ gateId, start.gateEvents g gateId ≤ 1
  silent : ∀ e ∈ g.gates.entries, e.2.state = "closed" → start.gateEvents g e.1 = 0

/-- No counter decreases and no gate closes. -/
structure Latches (g g' : GameEngine) : Prop where
  counters : g.worldState.counters ≤ g'.worldState.counters
  opened : ∀ e ∈ g.gates.entries, e.2.state = "open" →
    ∃ gate, (e.1, gate) ∈ g'.gates.entries ∧ gate.state = "open"

theorem Latches.refl (g : GameEngine) : g.Latches g := ⟨le_rfl, fun e he h => ⟨e.2, he, h⟩⟩

theorem Latches.trans {g g' g'' : GameEngine} (h : g.Latches g') (h' : g'.Latches g'') :
    g.Latches g'' where
  counters := h.counters.trans h'.counters
  opened e he hopen := by
    obtain ⟨gate, hgate, hopen⟩ := h.opened e he hopen
    exact h'.opened (e.1, gate) hgate hopen

theorem FreshlyLoaded.latched {g : GameEngine} {level : Level} (h : g.FreshlyLoaded level) :
    g.Latched g := by
  obtain ⟨w, hloaded⟩ := h.loaded
  have hgates : g.gates = Dict.ofList (level.gates.map fun gate => (gate.gateId, gate)) := by
    rw [gates, hloaded]
    rfl
  have nothing (gateId : GateId) : g.gateEvents g gateId = 0 := by
    rw [gateEvents_append (List.append_nil _).symm, List.countP_nil]
  exact
    { events := List.prefix_rfl
      keyed := hgates ▸ gatesKeyed_ofList level.gates
      counted := by
        have start : g.worldState.counters = (0, 0, 0) := by
          rw [hloaded]
          rfl
        rw [start]
        exact ⟨Int.natCast_nonneg _, Int.natCast_nonneg _, le_max_left _ _⟩
      states := fun e he => by
        obtain ⟨gate, hgate, rfl⟩ := List.mem_map.mp (Dict.mem_of_mem_ofList (hgates ▸ he))
        exact .inl (h.closed gate hgate)
      once := fun gateId => by simp [nothing]
      silent := fun e _ _ => nothing e.1 }

theorem updateState_keeps (gate : CooperativeGate) (b : Bool) :
    (gate.updateState b).1.gateId = gate.gateId ∧
      (gate.updateState b).1.requirements = gate.requirements := by
  simp only [CooperativeGate.updateState]
  generalize (if b = true then "open" else "closed") = newState
  split <;> exact ⟨rfl, rfl⟩

/-- A gate that moves was not in the state it moves to. -/
theorem exists_of_movedGates {w : WorldState} {gates : Gates} {gateId : GateId}
    (h : movedGates w gates gateId ≠ 0) : ∃ gate, (gateId, gate) ∈ gates.entries ∧
      gate.state ≠ if w.shouldBeOpen gate then "open" else "closed" := by
  obtain ⟨⟨id, gate⟩, hmem, hmoved⟩ := List.countP_pos_iff.mp (Nat.pos_of_ne_zero h)
  obtain ⟨hid, hmoved⟩ := Bool.and_eq_true_iff.mp hmoved
  obtain rfl : id = gateId := by simpa using hid
  refine ⟨gate, hmem, fun heq => ?_⟩
  simp [CooperativeGate.updateState, heq] at hmoved

section
variable {start g g' : GameEngine} (h : start.Latched g) (s : g.Settles g')
include h s

theorem Latched.counters_le : g.worldState.counters ≤ g'.worldState.counters :=
  h.counted.trans s.recounted

/-- An open gate had its requirements met, so it still has. -/
theorem Latched.stays_open {e : GateId × CooperativeGate} (he : e ∈ g.gates.entries)
    (hopen : e.2.state = "open") : g'.worldState.shouldBeOpen e.2 = true := by
  rcases h.states e he with hclosed | ⟨-, hmet⟩
  · rw [hopen] at hclosed
    exact absurd hclosed (by decide)
  · exact WorldState.shouldBeOpen_iff.mpr (hmet.trans (h.counters_le s))

/-- Only a closed gate moves, and it opens. -/
theorem Latched.moved_opens {gateId : GateId}
    (hmoved : movedGates g'.worldState g.gates gateId ≠ 0) :
    ∃ gate, (gateId, gate) ∈ g.gates.entries ∧ gate.state = "closed" ∧
      g'.worldState.shouldBeOpen gate = true := by
  obtain ⟨gate, hmem, hne⟩ := exists_of_movedGates hmoved
  rcases h.states _ hmem with hclosed | ⟨hopen, -⟩
  · have hstate : gate.state = "closed" := hclosed
    exact ⟨gate, hmem, hstate, by simpa [hstate] using hne⟩
  · rw [if_pos (h.stays_open s hmem hopen)] at hne
    exact absurd hopen hne

omit h in
theorem Settles.mem_gates {e' : GateId × CooperativeGate} : e' ∈ g'.gates.entries ↔
    ∃ e ∈ g.gates.entries, (e.1, (e.2.updateState (g'.worldState.shouldBeOpen e.2)).1) = e' := by
  rw [s.gates]
  exact List.mem_map

theorem Latched.latches : g.Latches g' := by
  refine ⟨h.counters_le s, fun e he hopen => ?_⟩
  refine ⟨_, s.mem_gates.mpr ⟨e, he, rfl⟩, ?_⟩
  rw [CooperativeGate.updateState_state, if_pos (h.stays_open s he hopen)]

theorem Latched.settle : start.Latched g' := by
  have events (gateId : GateId) : start.gateEvents g' gateId =
      start.gateEvents g gateId + movedGates g'.worldState g.gates gateId := by
    rw [gateEvents_trans h.events s.events, s.moved h.keyed]
  constructor
  case events => exact h.events.trans s.events
  case keyed =>
    intro e' he'
    obtain ⟨e, he, rfl⟩ := s.mem_gates.mp he'
    exact (updateState_keeps _ _).1.trans (h.keyed e he)
  case counted => exact s.counted
  case states =>
    intro e' he'
    obtain ⟨e, he, rfl⟩ := s.mem_gates.mp he'
    rw [CooperativeGate.updateState_state, (updateState_keeps _ _).2]
    by_cases hmet : g'.worldState.shouldBeOpen e.2 = true
    · exact .inr ⟨if_pos hmet, WorldState.shouldBeOpen_iff.mp hmet⟩
    · exact .inl (if_neg hmet)
  case once =>
    intro gateId
    rw [events]
    by_cases hmoved : movedGates g'.worldState g.gates gateId = 0
    · rw [hmoved]
      exact h.once gateId
    · obtain ⟨gate, hmem, hclosed, -⟩ := h.moved_opens s hmoved
      rw [h.silent _ hmem hclosed, Nat.zero_add]
      exact movedGates_le _ _ _
  case silent =>
    intro e' he' hclosed
    obtain ⟨e, he, rfl⟩ := s.mem_gates.mp he'
    have unmet : g'.worldState.shouldBeOpen e.2 ≠ true := fun hmet => by
      simp [hmet] at hclosed
    have hstate : e.2.state = "closed" := by
      rcases h.states e he with hstate | ⟨hopen, -⟩
      · exact hstate
      · exact absurd (h.stays_open s he hopen) unmet
    have unmoved : movedGates g'.worldState g.gates e.1 = 0 := by
      by_contra hmoved
      obtain ⟨gate, hmem, -, hmet⟩ := h.moved_opens s hmoved
      obtain rfl : gate = e.2 := Option.some.inj
        ((Dict.get?_eq_some_iff.mpr hmem).symm.trans (Dict.get?_eq_some_iff.mpr he))
      exact unmet hmet
    rw [events, h.silent e he hstate, unmoved]

end

/-- A tick, before or after the run is decided. -/
theorem Latched.tick {start g g' : GameEngine} {args : TickArgs} (h : start.Latched g)
    (htick : g.tick args = .ok g') : start.Latched g' ∧ g.Latches g' := by
  by_cases won : g.worldState.victory = true
  · rw [GameEngine.tick, if_pos won] at htick
    cases htick
    exact ⟨⟨h.events, h.keyed, h.counted, h.states, h.once, h.silent⟩, le_rfl,
      fun e he hopen => ⟨e.2, he, hopen⟩⟩
  · have settles := tick_settles (by simpa using won) htick
    exact ⟨h.settle settles, h.latches settles⟩

theorem Latched.ticks {start g g' : GameEngine} {ticks : List TickArgs} (h : start.Latched g)
    (hrun : ticks.foldlM GameEngine.tick g = .ok g') : start.Latched g' ∧ g.Latches g' :=
  Fallible.foldlM_keeps (P := fun g₁ => start.Latched g₁ ∧ g.Latches g₁)
    (fun _ _ _ _ hg₁ htick =>
      ⟨(hg₁.1.tick htick).1, hg₁.2.trans (hg₁.1.tick htick).2⟩) hrun ⟨h, .refl g⟩

/-- At any point of a run from a loaded level, around any tick of it: the counters do not decrease,
every gate is open exactly if its requirements are met, an open gate is open for the rest of the
run, no gate emits twice, and a victory is earned at a final gate and ends the play. -/
theorem objectives_latch {g : GameEngine} {level : Level} (fresh : g.FreshlyLoaded level)
    (before : List TickArgs) (args : TickArgs) (after : List TickArgs) :
    ∃ g₁ g₂ g₃, before.foldlM tick g = .ok g₁ ∧ g₁.tick args = .ok g₂ ∧
      after.foldlM tick g₂ = .ok g₃ ∧
      g₁.worldState.counters ≤ g₂.worldState.counters ∧
      (g₁.worldState.victory = false → ∀ gate ∈ g₂.gates.values,
        (gate.state = "open" ↔ gate.requirements ≤ g₂.worldState.counters)) ∧
      (∀ gateId gate, g₂.gates.get? gateId = some gate → gate.state = "open" →
        ∃ gate', g₃.gates.get? gateId = some gate' ∧ gate'.state = "open") ∧
      (∀ gateId, g.gateEvents g₃ gateId ≤ 1) ∧
      (g₁.worldState.victory = false → g₂.worldState.victory = true →
        ∃ gate ∈ g₂.gates.values, gate.isFinal = true ∧
          gate.requirements ≤ g₂.worldState.counters) ∧
      (g₂.worldState.victory = true → g₃ = { g₂ with
        worldState :=
          { g₂.worldState with
            sequenceNumber := g₂.worldState.sequenceNumber + after.length } }) := by
  obtain ⟨g₁, hbefore, hkeyed⟩ := ticks_succeed_of_keyed before
    (enemiesKeyed_of_loaded fresh.loaded)
  obtain ⟨g₂, htick, hkeyed⟩ := tick_succeeds_of_keyed args hkeyed
  obtain ⟨g₃, hafter, -⟩ := ticks_succeed_of_keyed after hkeyed
  obtain ⟨latched₁, -⟩ := fresh.latched.ticks hbefore
  obtain ⟨latched₂, hmid⟩ := latched₁.tick htick
  obtain ⟨latched₃, hrest⟩ := latched₂.ticks hafter
  have exact_gates (running : g₁.worldState.victory = false) : ∀ gate ∈ g₂.gates.values,
      (gate.state = "open" ↔ gate.requirements ≤ g₂.worldState.counters) := by
    intro gate hgate
    obtain ⟨e', he', rfl⟩ := List.mem_map.mp hgate
    obtain ⟨e, -, rfl⟩ := (tick_settles running htick).mem_gates.mp he'
    rw [CooperativeGate.updateState_state, (updateState_keeps _ _).2, ← WorldState.shouldBeOpen_iff]
    by_cases hmet : g₂.worldState.shouldBeOpen e.2 = true <;> simp [hmet]
  refine ⟨g₁, g₂, g₃, hbefore, htick, hafter, hmid.counters, exact_gates, ?_, latched₃.once, ?_, ?_⟩
  · intro gateId gate hgate hopen
    obtain ⟨gate', hmem, hopen'⟩ := hrest.opened _ (Dict.get?_eq_some_iff.mp hgate) hopen
    exact ⟨gate', Dict.get?_eq_some_iff.mpr hmem, hopen'⟩
  · intro running won
    obtain ⟨gate, hgate, hfinal, hopen⟩ := tick_victory running htick won
    exact ⟨gate, hgate, hfinal, (exact_gates running gate hgate).mp hopen⟩
  · intro won
    exact Except.ok.inj (hafter.symm.trans (ticks_after_victory won after))

/-- A coin lies in front of the gate that asks for it. -/
def coinGateLevel : Level where
  powerups := [{ x := 90, y := 500, powerupId := "coin-1" }]
  gates := [{ x := 100, y := 500, gateId := "goal", coinsRequired := 1 }]
  width := 1000
  height := 600

def coinGate : GameEngine where
  worldState := WorldState.loadLevel
    { characters := .ofList [("player1", { playerId := "player1", x := 80, y := 500 })] }
    coinGateLevel
  worldWidth := 1000
  worldHeight := 600
  level := coinGateLevel

/-- The first frame collects the coin, opens the gate and wins; the next two change nothing. -/
theorem coin_gate_latches : ∃ g₂ g₃, coinGate.tick ⟨1 / 60, ∅, none, 0⟩ = .ok g₂ ∧
    [⟨1 / 60, ∅, none, 1⟩, (⟨1 / 60, ∅, none, 2⟩ : TickArgs)].foldlM tick g₂ = .ok g₃ ∧
    g₂.worldState.victory = true ∧ g₃.worldState.counters = g₂.worldState.counters ∧
    g₃.worldState.sequenceNumber = g₂.worldState.sequenceNumber + 2 ∧
    ∀ gateId, coinGate.gateEvents g₃ gateId ≤ 1 := by
  have fresh : coinGate.FreshlyLoaded coinGateLevel := ⟨⟨_, rfl⟩, by simp [coinGateLevel]⟩
  obtain ⟨g₁, g₂, g₃, hbefore, htick, hafter, -, -, -, honce, -, hfrozen⟩ :=
    objectives_latch fresh [] ⟨1 / 60, ∅, none, 0⟩ [⟨1 / 60, ∅, none, 1⟩, ⟨1 / 60, ∅, none, 2⟩]
  obtain rfl : coinGate = g₁ := Except.ok.inj hbefore
  obtain ⟨g', hg', hwon⟩ := Fallible.exists_of_okAnd
    (x := coinGate.tick ⟨1 / 60, ∅, none, 0⟩) (p := fun g' => g'.worldState.victory)
    (by decide +kernel)
  obtain rfl : g' = g₂ := Except.ok.inj (hg'.symm.trans htick)
  refine ⟨g', g₃, htick, hafter, hwon, ?_, ?_, honce⟩
  · rw [hfrozen hwon]
    rfl
  · rw [hfrozen hwon]
    rfl

end GameEngine

end DistributedSmb
