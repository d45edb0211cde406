import DistributedSmb.Reconciliation.Prediction
import Mathlib.Data.List.TakeWhile

/-!
# Replaying a prediction

A predicting tick reads neither the queued events nor the state of the gates, so replaying the
inputs of a prediction from its start, but among the gates of its end, predicts the same. Blocks are
different: the ticks break them, and the replay runs among the broken ones.
-/

namespace DistributedSmb

open Library

/-! ## Ticks do not read gate states -/

theorem CooperativeGate.updateState_fst (gate : CooperativeGate) (b : Bool) :
    (gate.updateState b).1 = { gate with state := if b then "open" else "closed" } := by
  simp only [CooperativeGate.updateState]
  generalize (if b = true then "open" else "closed") = newState
  split
  case isTrue h => rw [h]
  case isFalse => rfl

/-- The gate without its state. -/
def CooperativeGate.stateless (gate : CooperativeGate) : CooperativeGate :=
  { gate with state := "" }

/-- The same gates, up to whether they are open. -/
def SameGates (gates gates' : Dict GateId CooperativeGate) : Prop :=
  gates.mapValues CooperativeGate.stateless = gates'.mapValues CooperativeGate.stateless

theorem SameGates.trans {gates gates' gates'' : Dict GateId CooperativeGate}
    (h : SameGates gates gates') (h' : SameGates gates' gates'') : SameGates gates gates'' :=
  Eq.trans h h'

namespace GameEngine

/-- The engine with other queued events and other gates. -/
def regate (g : GameEngine) (gates : Dict GateId CooperativeGate) (events : List GameEvent) :
    GameEngine :=
  { g with
    events := events
    worldState :=
      { g.worldState with
        environment := { g.worldState.environment with cooperativeGates := gates } } }

/-- `h` is `g` among gates that may stand in another state, after other events. -/
def AgreesUpToGates (g h : GameEngine) : Prop :=
  ∃ gates events, h = g.regate gates events ∧
    SameGates g.worldState.environment.cooperativeGates gates

/-- What updating and passing a gate reads of it, its state apart. -/
def updated (w : WorldState) (gate : CooperativeGate) : CooperativeGate :=
  { gate with state := if w.shouldBeOpen gate then "open" else "closed" }

/-- The players pass the updated gates one after the other. -/
def passGates (w : WorldState) (gates : Dict GateId CooperativeGate) : Dict PlayerId Player :=
  gates.values.foldl (fun characters gate => (updated w gate).pushBack characters) w.characters

theorem handleGateCollisions_eq (g : GameEngine) :
    ∃ events, g.handleGateCollisions =
      GameEngine.regate
        { g with
          worldState :=
            { g.worldState with
              characters := passGates g.worldState g.worldState.environment.cooperativeGates } }
        (g.worldState.environment.cooperativeGates.mapValues (updated g.worldState)) events :=
  ⟨_, by simp only [handleGateCollisions, CooperativeGate.updateState_fst]; rfl⟩

theorem mapValues_updated {gates gates' : Dict GateId CooperativeGate} (h : SameGates gates gates')
    (w : WorldState) : gates.mapValues (updated w) = gates'.mapValues (updated w) := by
  have factor (d : Dict GateId CooperativeGate) :
      d.mapValues (updated w) = (d.mapValues CooperativeGate.stateless).mapValues (updated w) := by
    rw [Dict.mapValues_mapValues]
    rfl
  rw [factor gates, factor gates', h]

/-- The values of a mapped dictionary. -/
theorem values_updated (gates : Dict GateId CooperativeGate) (w : WorldState) :
    (gates.mapValues (updated w)).values = gates.values.map (updated w) := by
  simp [Dict.values, Dict.entries_mapValues, Function.comp_def]

theorem passGates_congr {gates gates' : Dict GateId CooperativeGate} (h : SameGates gates gates')
    (w : WorldState) : passGates w gates = passGates w gates' := by
  have hvalues := congrArg Dict.values (mapValues_updated h w)
  rw [values_updated, values_updated] at hvalues
  have pass (d : Dict GateId CooperativeGate) : passGates w d =
      (d.values.map (updated w)).foldl (fun characters gate => gate.pushBack characters)
        w.characters := by
    rw [passGates, List.foldl_map]
  rw [pass gates, pass gates', hvalues]

theorem stage_agrees {args : TickArgs} {stage : TickStage} {g h g' : GameEngine}
    (hg : g.isAuthoritative = false) (agrees : g.AgreesUpToGates h)
    (hstage : stage.run args g = .ok g') :
    ∃ h', stage.run args h = .ok h' ∧ g'.AgreesUpToGates h' := by
  obtain ⟨gates, events, rfl, same⟩ := agrees
  cases stage with
  | handleBlockCollisions =>
    obtain ⟨⟨blocks, characters, emitted⟩, hsweep, heq⟩ := Fallible.bind_eq_ok.mp hstage
    cases heq
    refine ⟨_, ?_, gates, events ++ emitted, rfl, same⟩
    simp only [TickStage.run, handleBlockCollisions, regate, hsweep, Fallible.ok_bind]
  | handlePowerupCollisions | handleEnemyCollisions | handleVoidDeaths | handleVictoryCondition
  | processRespawns =>
    obtain rfl := eq_of_stage_idle hg rfl hstage
    exact ⟨_, stage_idle args hg rfl, gates, events, rfl, same⟩
  | handleGateCollisions =>
    cases hstage
    obtain ⟨emitted, hg'⟩ := handleGateCollisions_eq g
    obtain ⟨emitted', hh'⟩ := handleGateCollisions_eq (g.regate gates events)
    refine ⟨_, rfl, gates.mapValues (updated g.worldState), emitted', ?_, ?_⟩
    · rw [hg', hh', passGates_congr same]
      rfl
    · rw [hg', ← mapValues_updated same]
      rfl
  | _ =>
    cases hstage
    exact ⟨_, rfl, gates, events, rfl, same⟩

theorem tick_agrees {args : TickArgs} {g h g' : GameEngine} (hg : g.isAuthoritative = false)
    (agrees : g.AgreesUpToGates h) (htick : g.tick args = .ok g') :
    ∃ h', h.tick args = .ok h' ∧ g'.AgreesUpToGates h' := by
  have hvictory : h.worldState.victory = g.worldState.victory := by
    obtain ⟨gates, events, rfl, -⟩ := agrees
    rfl
  have counted {g h : GameEngine} (agrees : g.AgreesUpToGates h) :
      g.countTick.AgreesUpToGates h.countTick := by
    obtain ⟨gates, events, rfl, same⟩ := agrees
    exact ⟨gates, events, rfl, same⟩
  unfold tick at htick ⊢
  rw [hvictory]
  split at htick
  case isTrue hv =>
    cases htick
    exact ⟨h.countTick, by rw [if_pos hv], counted agrees⟩
  case isFalse hv =>
    obtain ⟨g₁, hstages, htick⟩ := Fallible.bind_eq_ok.mp htick
    cases htick
    obtain ⟨h₁, hh₁, -, agrees₁⟩ := Fallible.foldlM_simulates
      (R := fun g h => g.isAuthoritative = false ∧ g.AgreesUpToGates h)
      (g := fun h (stage : TickStage) => stage.run args h)
      (fun g h stage g' _ hR hstage => by
        obtain ⟨h', hh', hR'⟩ := stage_agrees hR.1 hR.2 hstage
        exact ⟨h', hh', (congrArg (fun s => s.2.1) (stage_evolves hstage).setting).trans hR.1, hR'⟩)
      ⟨hg, agrees⟩ hstages
    exact ⟨h₁.countTick, by rw [if_neg hv, hh₁]; rfl, counted agrees₁⟩

/-- What a predicting tick leaves alone, the blocks apart. -/
structure LeavesAlone (g g' : GameEngine) : Prop where
  setting : g'.setting = g.setting
  respawnJoinIndex : g'.respawnJoinIndex = g.respawnJoinIndex
  powerUps : g'.worldState.environment.powerUps = g.worldState.environment.powerUps
  gates : SameGates g.worldState.environment.cooperativeGates
    g'.worldState.environment.cooperativeGates

theorem LeavesAlone.refl (g : GameEngine) : g.LeavesAlone g := ⟨rfl, rfl, rfl, rfl⟩

theorem LeavesAlone.trans {g g' g'' : GameEngine} (h : g.LeavesAlone g')
    (h' : g'.LeavesAlone g'') : g.LeavesAlone g'' where
  setting := h'.setting.trans h.setting
  respawnJoinIndex := h'.respawnJoinIndex.trans h.respawnJoinIndex
  powerUps := h'.powerUps.trans h.powerUps
  gates := h.gates.trans h'.gates

theorem stage_leavesAlone {args : TickArgs} {stage : TickStage} {g g' : GameEngine}
    (hg : g.isAuthoritative = false) (h : stage.run args g = .ok g') : g.LeavesAlone g' := by
  have hsetting := (stage_evolves h).setting
  cases stage with
  | handleBlockCollisions =>
    obtain ⟨⟨blocks, characters, emitted⟩, -, heq⟩ := Fallible.bind_eq_ok.mp h
    cases heq
    exact ⟨rfl, rfl, rfl, rfl⟩
  | handlePowerupCollisions | handleEnemyCollisions | handleVoidDeaths | handleVictoryCondition
  | processRespawns =>
    obtain rfl := eq_of_stage_idle hg rfl h
    exact .refl _
  | handleGateCollisions =>
    cases h
    obtain ⟨emitted, heq⟩ := handleGateCollisions_eq g
    refine ⟨hsetting, rfl, rfl, ?_⟩
    rw [heq, SameGates, regate, Dict.mapValues_mapValues]
    rfl
  | _ =>
    cases h
    exact ⟨rfl, rfl, rfl, rfl⟩

theorem tick_leavesAlone {args : TickArgs} {g g' : GameEngine} (hg : g.isAuthoritative = false)
    (h : g.tick args = .ok g') : g.LeavesAlone g' := by
  unfold tick at h
  split at h
  · cases h; exact ⟨rfl, rfl, rfl, rfl⟩
  · obtain ⟨g₁, hstages, h⟩ := Fallible.bind_eq_ok.mp h
    cases h
    have hkept := Fallible.foldlM_keeps
      (P := fun g₁ => g₁.isAuthoritative = false ∧ g.LeavesAlone g₁)
      (fun g₁ stage g₂ _ hP hstage =>
        ⟨(congrArg (fun s => s.2.1) (stage_evolves hstage).setting).trans hP.1,
          hP.2.trans (stage_leavesAlone hP.1 hstage)⟩) hstages ⟨hg, .refl g⟩
    exact ⟨hkept.2.setting, hkept.2.respawnJoinIndex, hkept.2.powerUps, hkept.2.gates⟩

end GameEngine

/-! ## Predicting and replaying the same inputs -/

namespace PredictionEngine

/-- One prediction and one tick for each input. -/
def predictTicks (p : PredictionEngine) (inputs : List InputState) (dt sentAt now : ℚ) :
    Except PyError PredictionEngine :=
  inputs.foldlM (fun p inputState => p.predictTick inputState dt sentAt now) p

theorem replayPending_leavesAlone {pid : PlayerId} {now : ℚ} {g g' : GameEngine}
    {l : List InputHistoryEntry} (hg : g.isAuthoritative = false)
    (h : replayPending pid now g l = .ok g') : g.LeavesAlone g' := by
  have hkept := Fallible.foldlM_keeps
    (P := fun g₁ : GameEngine => g₁.isAuthoritative = false ∧ g.LeavesAlone g₁)
    (fun g₁ entry g₂ _ hP htick =>
      ⟨(GameEngine.tick_isAuthoritative htick).trans hP.1,
        hP.2.trans (GameEngine.tick_leavesAlone hP.1 htick)⟩) h ⟨hg, .refl g⟩
  exact hkept.2

theorem replayPending_agrees {pid : PlayerId} {now : ℚ} {g h g' : GameEngine}
    {l : List InputHistoryEntry} (hg : g.isAuthoritative = false) (agrees : g.AgreesUpToGates h)
    (hreplay : replayPending pid now g l = .ok g') :
    ∃ h', replayPending pid now h l = .ok h' ∧ g'.AgreesUpToGates h' := by
  obtain ⟨h', hh', -, hR⟩ := Fallible.foldlM_simulates
    (R := fun g h : GameEngine => g.isAuthoritative = false ∧ g.AgreesUpToGates h)
    (fun g h entry g' _ hR htick => by
      obtain ⟨h', hh', hR'⟩ := GameEngine.tick_agrees hR.1 hR.2 htick
      exact ⟨h', hh', (GameEngine.tick_isAuthoritative htick).trans hR.1, hR'⟩)
    ⟨hg, agrees⟩ hreplay
  exact ⟨h', hh', hR⟩

/-- Predicting is replaying the entries that it leaves at the end of the buffer. -/
theorem predictTicks_spec {n : ℤ} {inputs : List InputState} {dt sentAt now : ℚ}
    {p p' : PredictionEngine} (h : p.predictTicks inputs dt sentAt now = .ok p')
    {old done : List InputHistoryEntry} (hbuffer : p.buffer.entries = old ++ done)
    (hold : ∀ entry ∈ old, entry.sequenceNumber ≤ n)
    (hdone : ∀ entry ∈ done, n < entry.sequenceNumber) (hn : n ≤ p.engine.worldState.sequenceNumber)
    (hroom : done.length + inputs.length ≤ p.buffer.capacity) :
    ∃ old' new, p'.buffer.entries = old' ++ (done ++ new) ∧
      (∀ entry ∈ old', entry.sequenceNumber ≤ n) ∧ (∀ entry ∈ new, n < entry.sequenceNumber) ∧
      replayPending p.localPlayerId now p.engine new = .ok p'.engine ∧
      new.length = inputs.length ∧ p'.buffer.capacity = p.buffer.capacity ∧
      p'.localPlayerId = p.localPlayerId := by
  induction inputs generalizing p old done with
  | nil =>
    cases h
    exact ⟨old, [], by simpa using hbuffer, hold, by simp, rfl, rfl, rfl, rfl⟩
  | cons inputState inputs ih =>
    rw [predictTicks, List.foldlM_cons] at h
    obtain ⟨p₁, hfirst, h⟩ := Fallible.bind_eq_ok.mp h
    obtain ⟨g, htick, rfl⟩ := predictTick_spec hfirst
    have hseq := GameEngine.tick_sequenceNumber htick
    rw [List.length_cons] at hroom
    let entry : InputHistoryEntry :=
      ⟨p.engine.worldState.sequenceNumber + 1, inputState, dt, sentAt⟩
    let surplus := (p.buffer.entries ++ [entry]).length - p.buffer.capacity
    have hpushed : ((p.buffer.push entry).entries) = old.drop surplus ++ (done ++ [entry]) := by
      have hle : surplus ≤ old.length := by
        simp only [surplus, hbuffer, List.length_append, List.length_singleton]
        omega
      change (p.buffer.entries ++ [entry]).drop surplus = _
      rw [hbuffer, List.append_assoc, List.drop_append_of_le_length hle]
    obtain ⟨old', new, hbuffer', hold', hnew, hreplay, hlen, hcap, hpid⟩ := ih h hpushed
      (fun e he => hold e (List.mem_of_mem_drop he))
      (by
        intro e he
        rcases List.mem_append.mp he with he | he
        · exact hdone e he
        · rw [List.mem_singleton.mp he]
          change n < p.engine.worldState.sequenceNumber + 1
          omega)
      (by change n ≤ g.worldState.sequenceNumber; omega)
      (by
        rw [List.length_append, List.length_singleton]
        change _ ≤ p.buffer.capacity
        omega)
    refine ⟨old', entry :: new, by simpa using hbuffer', hold', ?_, ?_, by simp [hlen], hcap, hpid⟩
    · intro e he
      rcases List.mem_cons.mp he with rfl | he
      · change n < p.engine.worldState.sequenceNumber + 1
        omega
      · exact hnew e he
    · rw [replayPending, List.foldlM_cons, htick]
      exact hreplay

/-- Adopting the start of a prediction that broke no block is the start, among other gates. -/
theorem adopt_eq_regate {p : PredictionEngine} {g : GameEngine} (h : g.LeavesAlone p.engine)
    (hblocks : p.engine.worldState.environment.destructibleBlocks =
      g.worldState.environment.destructibleBlocks) :
    p.adopt g.worldState =
      g.regate p.engine.worldState.environment.cooperativeGates p.engine.events := by
  obtain ⟨hsetting, hrespawn, hpowerUps, -⟩ := h
  simp only [GameEngine.setting, Prod.mk.injEq] at hsetting
  obtain ⟨hplatforms, hauth, hwidth, hheight, hspawn, hlevel⟩ := hsetting
  simp only [adopt, GameEngine.regate, hplatforms, hauth, hwidth, hheight, hspawn, hlevel, hrespawn,
    hpowerUps, hblocks]

/-- Reconciling with this snapshot leaves what was predicted. -/
def Stands (p' : PredictionEngine) (snapshot : WorldStateSnapshot) (now : ℚ) : Prop :=
  ∃ p'', p'.reconcile snapshot now = .ok p'' ∧
    p''.engine.worldState.characters = p'.engine.worldState.characters ∧
    p''.engine.worldState.environment.enemies = p'.engine.worldState.environment.enemies ∧
    p''.engine.worldState.sequenceNumber = p'.engine.worldState.sequenceNumber

/-- When no predicted tick broke a block, reconciling with the state the prediction started from
changes nothing of it. -/
theorem prediction_stands {p p' : PredictionEngine} {inputs : List InputState} {dt sentAt now : ℚ}
    {snapshot : WorldStateSnapshot} (hp : p.engine.isAuthoritative = false)
    (hold : ∀ entry ∈ p.buffer.entries,
      entry.sequenceNumber ≤ p.engine.worldState.sequenceNumber)
    (hroom : inputs.length ≤ p.buffer.capacity)
    (hpredict : p.predictTicks inputs dt sentAt now = .ok p')
    (hsnapshot : snapshot.worldState = p.engine.worldState)
    (hblocks : p'.engine.worldState.environment.destructibleBlocks =
      p.engine.worldState.environment.destructibleBlocks) :
    p'.Stands snapshot now := by
  obtain ⟨old, new, hbuffer, hold', hnew, hreplay, hlen, hcap, hpid⟩ :=
    predictTicks_spec hpredict (List.append_nil _).symm hold (by simp) le_rfl
      (by simpa using hroom)
  have halone := replayPending_leavesAlone hp hreplay
  have hseq := replayPending_sequenceNumber hreplay
  have hretained : (p'.retained snapshot.worldState).entries = new := by
    rw [retained_of_near (by rw [hsnapshot, hseq, hlen, hcap]; omega), hsnapshot]
    simp only [InputHistoryBuffer.acknowledge, hbuffer, List.nil_append]
    rw [List.dropWhile_append_of_pos fun e he => by simpa using hold' e he,
      List.dropWhile_eq_self_iff]
    intro hpos
    simpa using hnew _ (List.getElem_mem hpos)
  obtain ⟨h', hh', gates, events, rfl, -⟩ := replayPending_agrees hp
    ⟨_, _, adopt_eq_regate halone hblocks, halone.gates⟩ hreplay
  refine ⟨⟨p'.engine.regate gates events, p'.localPlayerId, p'.retained snapshot.worldState⟩, ?_,
    rfl, rfl, rfl⟩
  rw [reconcile, hretained, hpid, hsnapshot]
  simp only [hh', Fallible.ok_bind]

/-- A player on the way up, and one block. -/
def jumpingClient (block : DestructibleBlock) : PredictionEngine where
  engine :=
    { isAuthoritative := false
      worldWidth := 1000
      worldHeight := 600
      worldState :=
        { characters := Dict.ofList
            [("player-2", { playerId := "player-2", x := 100, y := 238, vy := -600 })]
          environment := { destructibleBlocks := [block] } } }
  localPlayerId := "player-2"
  buffer := .empty 60

/-- Away from the block the prediction stands. -/
theorem prediction_stands_in_the_open :
    ∃ p', (jumpingClient { x := 600, y := 204 }).predictTicks [{}] tickInterval 0 0 = .ok p' ∧
      p'.Stands ⟨0, (jumpingClient { x := 600, y := 204 }).engine.worldState⟩ 0 := by
  obtain ⟨p', hpredict, hblocks⟩ := Fallible.exists_of_okAnd
    (x := (jumpingClient { x := 600, y := 204 }).predictTicks [{}] tickInterval 0 0)
    (p := fun p' => p'.engine.worldState.environment.destructibleBlocks = [{ x := 600, y := 204 }])
    (by decide +kernel)
  refine ⟨p', hpredict, prediction_stands rfl ?_ ?_ hpredict rfl (of_decide_eq_true hblocks)⟩
  · simp [jumpingClient, InputHistoryBuffer.empty]
  · decide

/-- Under the block the predicted tick breaks it, and the replay flies through where it was. -/
theorem broken_block_is_corrected :
    ¬ ∀ (p p' : PredictionEngine) (inputs : List InputState) (dt sentAt now : ℚ)
      (snapshot : WorldStateSnapshot), p.engine.isAuthoritative = false →
      (∀ entry ∈ p.buffer.entries, entry.sequenceNumber ≤ p.engine.worldState.sequenceNumber) →
      inputs.length ≤ p.buffer.capacity → p.predictTicks inputs dt sentAt now = .ok p' →
      snapshot.worldState = p.engine.worldState → p'.Stands snapshot now := by
  intro stands
  let p := jumpingClient { x := 100, y := 204 }
  obtain ⟨p', hpredict, hcheck⟩ := Fallible.exists_of_okAnd
    (x := p.predictTicks [{}] tickInterval 0 0)
    (p := fun p' => Fallible.okAnd (p'.reconcile ⟨0, p.engine.worldState⟩ 0) fun p'' =>
      decide (p''.engine.worldState.characters ≠ p'.engine.worldState.characters))
    (by decide +kernel)
  obtain ⟨p₁, hrec₁, hdiffer⟩ := Fallible.exists_of_okAnd hcheck
  obtain ⟨p₂, hrec₂, hsame, -⟩ := stands p p' [{}] tickInterval 0 0 ⟨0, p.engine.worldState⟩ rfl
    (by simp [p, jumpingClient, InputHistoryBuffer.empty]) (by decide) hpredict rfl
  obtain rfl : p₁ = p₂ := Except.ok.inj (hrec₁.symm.trans hrec₂)
  exact of_decide_eq_true hdiffer hsame

end PredictionEngine

end DistributedSmb
