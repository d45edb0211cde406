import DistributedSmb.Election.Effects
import Mathlib.Algebra.Order.Group.Abs
import Mathlib.Logic.Relation
import Mathlib.Tactic.Linarith

/-!
# The prediction lead

A client frame measures how many of its inputs the host has not acknowledged, and the next frame
skips a tick or doubles it to pull that lead back to the baseline. The correction comes one frame
late, so the lead can leave the tolerance band by the one tick of that frame, but by no more.
-/

namespace DistributedSmb

open Library

/-- What reconciling does to the input history. -/
inductive HistoryOp where
  | acknowledge (sequenceNumber : ℤ)
  | clear
  deriving DecidableEq

def InputHistoryBuffer.apply (b : InputHistoryBuffer) : HistoryOp → InputHistoryBuffer
  | .acknowledge sequenceNumber => (b.acknowledge sequenceNumber).2
  | .clear => b.clear

theorem InputHistoryBuffer.length_push_le (b : InputHistoryBuffer) (entry : InputHistoryEntry) :
    (b.push entry).entries.length ≤ b.entries.length + 1 := by
  simp only [push, List.length_drop, List.length_append, List.length_singleton]
  omega

theorem InputHistoryBuffer.length_apply_le (b : InputHistoryBuffer) (op : HistoryOp) :
    (b.apply op).entries.length ≤ b.entries.length := by
  cases op with
  | acknowledge sequenceNumber => exact (List.dropWhile_sublist _).length_le
  | clear => exact Nat.zero_le _

namespace Node

/-- The inputs in flight: predicted and not yet acknowledged. -/
def pendingCount (n : Node) : ℕ := n.prediction.pendingCount

/-- The ticks that the next frame predicts: one, corrected for the drift. -/
def nextTicks (n : Node) : ℕ := (1 + n.pendingTickAdjustment).toNat

/-- The drift correction and what it is measured against are the same. -/
structure SamePace (n m : Node) : Prop where
  adjustment : m.pendingTickAdjustment = n.pendingTickAdjustment
  baseline : m.predictionLeadBaseline = n.predictionLeadBaseline
  remaining : m.predictionLeadCalibrationRemaining = n.predictionLeadCalibrationRemaining

theorem SamePace.refl (n : Node) : n.SamePace n := ⟨rfl, rfl, rfl⟩

theorem SamePace.trans {n m k : Node} (h : n.SamePace m) (h' : m.SamePace k) : n.SamePace k :=
  ⟨h'.adjustment.trans h.adjustment, h'.baseline.trans h.baseline, h'.remaining.trans h.remaining⟩

/-! ## The three parts of a frame -/

theorem predictTick_paces {n m : Node} {localInput : InputState} {sentAt now : ℚ}
    (h : n.predictTick localInput sentAt now = .ok m) :
    n.SamePace m ∧ m.pendingCount ≤ n.pendingCount + 1 := by
  obtain ⟨p, hpredict, h⟩ := Fallible.bind_eq_ok.mp h
  cases h
  obtain ⟨g, -, rfl⟩ := PredictionEngine.predictTick_spec hpredict
  exact ⟨⟨rfl, rfl, rfl⟩, InputHistoryBuffer.length_push_le _ _⟩

theorem predictTicks_paces {n m : Node} {localInput : InputState} {sentAt now : ℚ}
    {ticks : List Unit}
    (h : ticks.foldlM (fun (n : Node) _ => n.predictTick localInput sentAt now) n = .ok m) :
    n.SamePace m ∧ m.pendingCount ≤ n.pendingCount + ticks.length := by
  induction ticks generalizing n with
  | nil => cases h; exact ⟨.refl _, le_rfl⟩
  | cons _ ticks ih =>
    rw [List.foldlM_cons] at h
    obtain ⟨n₁, htick, h⟩ := Fallible.bind_eq_ok.mp h
    obtain ⟨same₁, hle₁⟩ := predictTick_paces htick
    obtain ⟨same, hle⟩ := ih h
    refine ⟨same₁.trans same, ?_⟩
    rw [List.length_cons]
    omega

/-- The frame pushes at most as many inputs as it ticks, and uses its correction up. -/
theorem runPredictedTicks_paces {n m : Node} {localInput : InputState} {sentAt now : ℚ}
    (h : n.runPredictedTicks localInput sentAt now = .ok m) :
    m.pendingTickAdjustment = 0 ∧ m.predictionLeadBaseline = n.predictionLeadBaseline ∧
      m.predictionLeadCalibrationRemaining = n.predictionLeadCalibrationRemaining ∧
      m.pendingCount ≤ n.pendingCount + n.nextTicks := by
  obtain ⟨same, hle⟩ := predictTicks_paces h
  rw [List.length_replicate] at hle
  exact ⟨same.adjustment, same.baseline, same.remaining, hle⟩

/-- Acknowledgements and clears, in any number and any order, around any change of the world. -/
structure Drains (n m : Node) : Prop extends n.SamePace m where
  history : ∃ ops : List HistoryOp, m.inputHistory = ops.foldl .apply n.inputHistory

theorem Drains.refl (n : Node) : n.Drains n := { SamePace.refl n with history := ⟨[], rfl⟩ }

theorem Drains.trans {n m k : Node} (h : n.Drains m) (h' : m.Drains k) : n.Drains k := by
  obtain ⟨ops, hops⟩ := h.history
  obtain ⟨ops', hops'⟩ := h'.history
  refine ⟨h.toSamePace.trans h'.toSamePace, ops ++ ops', ?_⟩
  rw [List.foldl_append, ← hops, hops']

theorem Drains.pendingCount_le {n m : Node} (h : n.Drains m) : m.pendingCount ≤ n.pendingCount := by
  obtain ⟨ops, hops⟩ := h.history
  change m.inputHistory.entries.length ≤ n.inputHistory.entries.length
  rw [hops]
  refine Library.Fallible.foldl_keeps
    (P := fun b : InputHistoryBuffer => b.entries.length ≤ n.inputHistory.entries.length)
    (fun b op _ hb => (b.length_apply_le op).trans hb) le_rfl

theorem onSnapshot_drains {n m : Node} {snapshot : WorldStateSnapshot} {now : ℚ}
    (h : n.onSnapshot snapshot now = .ok m) : n.Drains m := by
  unfold onSnapshot at h
  split at h
  case isTrue => cases h; exact ⟨.refl n, [], rfl⟩
  case isFalse =>
    obtain ⟨p, hreconcile, h⟩ := Fallible.bind_eq_ok.mp h
    cases h
    obtain ⟨g, -, rfl⟩ := PredictionEngine.reconcile_spec hreconcile
    refine ⟨⟨rfl, rfl, rfl⟩, ?_⟩
    by_cases hfar : n.prediction.engine.worldState.sequenceNumber >
      snapshot.worldState.sequenceNumber + n.prediction.buffer.capacity
    · exact ⟨[.acknowledge snapshot.worldState.sequenceNumber, .clear], if_pos hfar⟩
    · exact ⟨[.acknowledge snapshot.worldState.sequenceNumber], if_neg hfar⟩

/-- A lead too long orders a skipped tick for the next frame, one too short a doubled one. -/
theorem adjustPredictionLead_cases (n : Node) :
    let deviation : ℚ := n.pendingCount - n.predictionLeadBaseline
    deviation > predictionLeadDriftTolerance ∧
        n.adjustPredictionLead.pendingTickAdjustment = -1 ∧
        n.adjustPredictionLead.predictionLeadBaseline = n.predictionLeadBaseline ∨
      deviation < -predictionLeadDriftTolerance ∧
        n.adjustPredictionLead.pendingTickAdjustment = 1 ∧
        n.adjustPredictionLead.predictionLeadBaseline = n.predictionLeadBaseline ∨
      |deviation| ≤ predictionLeadDriftTolerance ∧
        n.adjustPredictionLead.pendingTickAdjustment = n.pendingTickAdjustment ∧
        n.adjustPredictionLead.predictionLeadBaseline =
          if n.predictionLeadCalibrationRemaining > 0 then
            n.predictionLeadBaseline + deviation * predictionLeadEwmaAlpha
          else n.predictionLeadBaseline := by
  intro deviation
  have measured : (n.prediction.pendingCount : ℚ) - n.predictionLeadBaseline = deviation := rfl
  by_cases hlong : deviation > predictionLeadDriftTolerance
  · refine .inl ⟨hlong, ?_⟩
    simp only [adjustPredictionLead, measured, if_pos hlong, and_self]
  by_cases hshort : deviation < -predictionLeadDriftTolerance
  · refine .inr (.inl ⟨hshort, ?_⟩)
    simp only [adjustPredictionLead, measured, if_neg hlong, if_pos hshort, and_self]
  · refine .inr (.inr ⟨abs_le.mpr ⟨not_lt.mp hshort, not_lt.mp hlong⟩, ?_⟩)
    simp only [adjustPredictionLead, measured, if_neg hlong, if_neg hshort]
    split <;> exact ⟨rfl, rfl⟩

theorem adjustPredictionLead_eq (n : Node) :
    ∃ adjustment baseline, n.adjustPredictionLead =
      { n with
        pendingTickAdjustment := adjustment
        predictionLeadBaseline := baseline
        predictionLeadCalibrationRemaining := n.predictionLeadCalibrationRemaining - 1 } := by
  have counted (m : Node) (h : ∃ adjustment baseline, m =
      { n with pendingTickAdjustment := adjustment, predictionLeadBaseline := baseline }) :
      ∃ adjustment baseline,
        { m with
          predictionLeadCalibrationRemaining := m.predictionLeadCalibrationRemaining - 1 } =
        { n with
          pendingTickAdjustment := adjustment
          predictionLeadBaseline := baseline
          predictionLeadCalibrationRemaining := n.predictionLeadCalibrationRemaining - 1 } := by
    obtain ⟨adjustment, baseline, rfl⟩ := h
    exact ⟨adjustment, baseline, rfl⟩
  refine counted _ ?_
  split_ifs <;> exact ⟨_, _, rfl⟩

theorem adjustPredictionLead_pendingCount (n : Node) :
    n.adjustPredictionLead.pendingCount = n.pendingCount := by
  obtain ⟨adjustment, baseline, h⟩ := n.adjustPredictionLead_eq
  rw [h]
  rfl

theorem adjustPredictionLead_remaining (n : Node) :
    n.adjustPredictionLead.predictionLeadCalibrationRemaining =
      n.predictionLeadCalibrationRemaining - 1 := by
  obtain ⟨adjustment, baseline, h⟩ := n.adjustPredictionLead_eq
  rw [h]

/-- The longest lead a correction still leaves alone, and one tick. -/
def leadLimit (n : Node) : ℚ := n.predictionLeadBaseline + predictionLeadDriftTolerance + 1

/-- Whatever is measured, the ticks of the next frame lengthen a lead at most up to the limit. -/
theorem adjustPredictionLead_next {n : Node} (spent : n.pendingTickAdjustment = 0) :
    (n.pendingCount + n.adjustPredictionLead.nextTicks : ℚ) ≤
      max (n.pendingCount : ℚ) n.adjustPredictionLead.leadLimit := by
  simp only [leadLimit, nextTicks]
  rcases n.adjustPredictionLead_cases with ⟨-, hskip, -⟩ | ⟨hshort, hdouble, hbaseline⟩ |
    ⟨hnear, hplain, hbaseline⟩
  · rw [hskip]
    simp
  · rw [hdouble, hbaseline]
    refine le_max_of_le_right ?_
    simp only [predictionLeadDriftTolerance] at hshort ⊢
    have two : ((Int.toNat (1 + 1) : ℕ) : ℚ) = 2 := rfl
    linarith
  · rw [hplain, hbaseline, spent]
    refine le_max_of_le_right ?_
    obtain ⟨-, hle⟩ := abs_le.mp hnear
    have one : ((Int.toNat (1 + 0) : ℕ) : ℚ) = 1 := rfl
    simp only [predictionLeadDriftTolerance, predictionLeadEwmaAlpha] at hle ⊢
    split
    · rw [one]
      linarith
    · linarith

/-! ## Frames -/

/-- A frame that measures: the predicted ticks, what the queues bring, and the measurement. A
reconnection restarts the calibration and is not part of such a frame. -/
def LeadFrame (n n' : Node) : Prop :=
  ∃ localInput sentAt now n₁ m m', n.Drains n₁ ∧
    n₁.runPredictedTicks localInput sentAt now = .ok m ∧ m.Drains m' ∧ n' = m'.adjustPredictionLead

theorem LeadFrame.measured {n n' : Node} (h : n.LeadFrame n') :
    ∃ m : Node, n' = m.adjustPredictionLead ∧ m.pendingTickAdjustment = 0 ∧
      m.predictionLeadBaseline = n.predictionLeadBaseline ∧
      m.predictionLeadCalibrationRemaining = n.predictionLeadCalibrationRemaining ∧
      m.pendingCount ≤ n.pendingCount + n.nextTicks := by
  obtain ⟨localInput, sentAt, now, n₁, m, m', before, hrun, drains, rfl⟩ := h
  obtain ⟨hspent, hbaseline, hremaining, hle⟩ := runPredictedTicks_paces hrun
  refine ⟨m', rfl, drains.adjustment.trans hspent, ?_, ?_, ?_⟩
  · exact drains.baseline.trans (hbaseline.trans before.baseline)
  · exact drains.remaining.trans (hremaining.trans before.remaining)
  · have hticks : n₁.nextTicks = n.nextTicks := by rw [nextTicks, before.adjustment, nextTicks]
    rw [hticks] at hle
    have hpending := before.pendingCount_le
    have hdrained := drains.pendingCount_le
    omega

/-- The baseline moves within the calibration window and the tolerance only. -/
theorem LeadFrame.baseline_cases {n n' : Node} (h : n.LeadFrame n') :
    n'.predictionLeadBaseline = n.predictionLeadBaseline ∨
      0 < n.predictionLeadCalibrationRemaining ∧
        |(n'.pendingCount : ℚ) - n.predictionLeadBaseline| ≤ predictionLeadDriftTolerance := by
  obtain ⟨m, rfl, -, hbaseline, hremaining, -⟩ := h.measured
  rw [adjustPredictionLead_pendingCount, ← hbaseline, ← hremaining]
  rcases m.adjustPredictionLead_cases with ⟨-, -, hsame⟩ | ⟨-, -, hsame⟩ | ⟨hnear, -, hmoved⟩
  · exact .inl hsame
  · exact .inl hsame
  · by_cases hwindow : m.predictionLeadCalibrationRemaining > 0
    · exact .inr ⟨hwindow, hnear⟩
    · exact .inl (hmoved.trans (if_neg hwindow))

/-- Between two frames after the calibration: no more than `limit` is in flight, nor will be after
the next ticks. -/
structure Paced (limit : ℚ) (n : Node) : Prop where
  calibrated : n.predictionLeadCalibrationRemaining = 0
  limited : n.leadLimit ≤ limit
  pending : n.pendingCount ≤ limit
  next : n.pendingCount + n.nextTicks ≤ limit

theorem adjustPredictionLead_paced {n : Node} {limit : ℚ} (spent : n.pendingTickAdjustment = 0)
    (calibrated : n.adjustPredictionLead.predictionLeadCalibrationRemaining = 0)
    (limited : n.adjustPredictionLead.leadLimit ≤ limit) (pending : n.pendingCount ≤ limit) :
    n.adjustPredictionLead.Paced limit where
  calibrated := calibrated
  limited := limited
  pending := by rwa [adjustPredictionLead_pendingCount]
  next := by
    rw [adjustPredictionLead_pendingCount]
    exact (adjustPredictionLead_next spent).trans (max_le pending limited)

theorem LeadFrame.paced {n n' : Node} {limit : ℚ} (h : n.LeadFrame n') (paced : n.Paced limit) :
    n'.Paced limit := by
  have hsame := h.baseline_cases.resolve_right fun hwindow =>
    absurd hwindow.1 (by rw [paced.calibrated]; exact lt_irrefl 0)
  obtain ⟨m, rfl, hspent, -, hremaining, hle⟩ := h.measured
  refine adjustPredictionLead_paced hspent ?_ ?_ ?_
  · rw [adjustPredictionLead_remaining, hremaining, paced.calibrated]
  · rw [leadLimit, hsame]
    exact paced.limited
  · have hle' : (m.pendingCount : ℚ) ≤ n.pendingCount + n.nextTicks := by exact_mod_cast hle
    exact hle'.trans paced.next

/-- After the calibration the lead never exceeds the one it started from or the limit, whatever is
acknowledged when; and no frame moves the baseline unless it measures a lead within the tolerance
during the calibration. -/
theorem prediction_lead_bounded (n : Node) :
    (∀ n₀ n' : Node, n₀.LeadFrame n → n.predictionLeadCalibrationRemaining = 0 →
      Relation.ReflTransGen LeadFrame n n' → n'.pendingCount ≤ max (n.pendingCount : ℚ)
        (n.predictionLeadBaseline + predictionLeadDriftTolerance + 1)) ∧
    ∀ m m' : Node, Relation.ReflTransGen LeadFrame n m → m.LeadFrame m' →
      m'.predictionLeadBaseline ≠ m.predictionLeadBaseline →
        0 < m.predictionLeadCalibrationRemaining ∧
          |(m'.pendingCount : ℚ) - m.predictionLeadBaseline| ≤ predictionLeadDriftTolerance := by
  constructor
  · intro n₀ n' hstart hcalibrated hrun
    have start : n.Paced (max (n.pendingCount : ℚ) n.leadLimit) := by
      obtain ⟨m, rfl, hspent, -⟩ := hstart.measured
      refine adjustPredictionLead_paced hspent hcalibrated (le_max_right _ _) ?_
      rw [adjustPredictionLead_pendingCount]
      exact le_max_left _ _
    have paced : n'.Paced (max (n.pendingCount : ℚ) n.leadLimit) := by
      induction hrun with
      | refl => exact start
      | tail _ hframe ih => exact hframe.paced ih
    exact paced.pending
  · intro m m' _ hframe hmoved
    exact hframe.baseline_cases.resolve_left hmoved

/-- A client that lags by eight inputs behind a baseline of three. -/
def laggingClient : Node where
  engine := { isAuthoritative := false, worldState := { sequenceNumber := 8 } }
  roster := {}
  sessionId := "session"
  localIp := "10.0.0.2"
  localPlayerId := "player-2"
  remoteHost := "10.0.0.1"
  predictionLeadBaseline := 3
  predictionLeadCalibrationRemaining := 0
  inputHistory :=
    { capacity := 60
      entries := [⟨1, {}, tickInterval, 0⟩, ⟨2, {}, tickInterval, 0⟩, ⟨3, {}, tickInterval, 0⟩,
        ⟨4, {}, tickInterval, 0⟩, ⟨5, {}, tickInterval, 0⟩, ⟨6, {}, tickInterval, 0⟩,
        ⟨7, {}, tickInterval, 0⟩, ⟨8, {}, tickInterval, 0⟩]
      bounded := by decide }

theorem runPredictedTicks_leadFrame {n m : Node} {localInput : InputState} {sentAt now : ℚ}
    (h : n.runPredictedTicks localInput sentAt now = .ok m) : n.LeadFrame m.adjustPredictionLead :=
  ⟨localInput, sentAt, now, n, m, m, .refl n, h, .refl m, rfl⟩

/-- Two frames without an acknowledgement: the first ends nine inputs ahead, the second does not
tick. -/
theorem lagging_client_skips : ∃ n n' : Node, laggingClient.LeadFrame n ∧ n.LeadFrame n' ∧
    n.pendingCount = 9 ∧
    (n'.pendingCount : ℚ) ≤ max (9 : ℚ) (3 + predictionLeadDriftTolerance + 1) ∧
    n'.predictionLeadBaseline = n.predictionLeadBaseline := by
  obtain ⟨m, hrun, hahead⟩ := Fallible.exists_of_okAnd
    (x := laggingClient.runPredictedTicks {} 0 0)
    (p := fun m => decide (m.adjustPredictionLead.pendingCount = 9 ∧
      m.adjustPredictionLead.predictionLeadBaseline = 3 ∧
      m.adjustPredictionLead.predictionLeadCalibrationRemaining = 0) &&
      Fallible.okAnd (m.adjustPredictionLead.runPredictedTicks {} 0 0) fun _ => true)
    (by decide +kernel)
  rw [Bool.and_eq_true] at hahead
  obtain ⟨hnine, hthree, hcalibrated⟩ := of_decide_eq_true hahead.1
  obtain ⟨m', hskipped, -⟩ := Fallible.exists_of_okAnd hahead.2
  have first : laggingClient.LeadFrame m.adjustPredictionLead := runPredictedTicks_leadFrame hrun
  have second : m.adjustPredictionLead.LeadFrame m'.adjustPredictionLead :=
    runPredictedTicks_leadFrame hskipped
  obtain ⟨bounded, moves⟩ := prediction_lead_bounded m.adjustPredictionLead
  refine ⟨_, _, first, second, hnine, ?_, ?_⟩
  · rw [← hthree, ← Nat.cast_ofNat (n := 9), ← hnine]
    exact bounded _ _ first hcalibrated (.single second)
  · by_contra hmoved
    have window := (moves _ _ .refl second hmoved).1
    rw [hcalibrated] at window
    exact lt_irrefl 0 window

/-! ## Client frames -/

/-- What the lead is measured by, and corrected with. -/
def lead (n : Node) : ℤ × ℚ × ℕ × InputHistoryBuffer :=
  (n.pendingTickAdjustment, n.predictionLeadBaseline, n.predictionLeadCalibrationRemaining,
    n.inputHistory)

theorem drains_of_same {n m : Node} (same : m.lead = n.lead) : n.Drains m := by
  simp only [lead, Prod.mk.injEq] at same
  obtain ⟨hadjustment, hbaseline, hremaining, hhistory⟩ := same
  exact ⟨⟨hadjustment, hbaseline, hremaining⟩, [], hhistory⟩

/-- A calibration has begun anew. -/
structure Recalibrates (n : Node) : Prop where
  baseline : n.predictionLeadBaseline = 0
  remaining : n.predictionLeadCalibrationRemaining = predictionLeadCalibrationFrames

/-- The calls between the ticks and the measurement drain the history, if they do not reconnect. -/
def Paces (n m : Node) : Prop := n.Drains m ∨ m.Recalibrates

theorem Paces.trans {n m k : Node} (h : n.Paces m) (h' : m.Paces k) : n.Paces k := by
  rcases h' with drains | restarted
  · rcases h with before | ⟨hbaseline, hremaining⟩
    · exact .inl (before.trans drains)
    · exact .inr ⟨drains.baseline.trans hbaseline, drains.remaining.trans hremaining⟩
  · exact .inr restarted

theorem evictHost_lead (n : Node) : n.evictHost.lead = n.lead := by
  unfold evictHost
  split <;> rfl

theorem restoreWorld_lead (n : Node) : n.restoreWorld.lead = n.lead := by
  unfold restoreWorld
  split <;> rfl

theorem promoteToHost_lead {n m : Node} {now : ℚ} (h : n.promoteToHost now = .ok m) :
    m.lead = n.lead := by
  rcases promoteToHost_spec h with ⟨-, rfl⟩ | ⟨-, out, rfl, -⟩
  · rfl
  · exact (evictHost_lead _).trans (restoreWorld_lead _)

theorem onReconnectionAck_paces (n : Node) (ack : ReconnectionAck) :
    n.Paces (n.onReconnectionAck ack) := by
  unfold onReconnectionAck
  split
  · exact .inl (.refl n)
  · exact .inr ⟨rfl, rfl⟩

theorem ElectionPart.paces {n m : Node} (h : n.ElectionPart m) : n.Paces m := by
  cases h with
  | fields only => exact .inl (drains_of_same (by rw [only]; rfl))
  | sends out => exact .inl (drains_of_same rfl)
  | evicts pid => exact .inl (drains_of_same rfl)
  | promotes now h => exact .inl (drains_of_same (promoteToHost_lead h))
  | reconnects ack => exact onReconnectionAck_paces n ack

theorem ElectionParts.paces {n m : Node} (h : n.ElectionParts m) : n.Paces m := by
  induction h with
  | refl => exact .inl (.refl n)
  | tail _ last ih => exact ih.trans last.paces

theorem onDatagram_paces {n m : Node} {payload : Except PyError UdpMessage} {now : ℚ}
    (h : n.onDatagram payload now = .ok m) : n.Paces m := by
  obtain ⟨message, -, h⟩ := Fallible.bind_eq_ok.mp h
  cases message with
  | election message => exact (onElectionMessage_parts h).paces
  | hostIdentityResponse response =>
    cases h
    refine .inl (drains_of_same ?_)
    unfold onHostIdentityResponse
    split
    · rfl
    · split <;> rfl
  | worldState snapshot => exact .inl (onSnapshot_drains h)
  | playerInput _ | hostDiscoveryProbe _ => cases h; exact .inl (.refl n)

theorem onGameEvent_paces {n m : Node} {message : WsMessage} {now : ℚ}
    (h : n.onGameEvent now message = .ok m) : n.Paces m := by
  cases message with
  | playerLeft pid =>
    cases h
    refine .inl (drains_of_same ?_)
    split <;> rfl
  | rosterUpdate roster =>
    obtain ⟨merged, rfl, -, -⟩ := mergeRoster_spec h
    exact .inl (drains_of_same rfl)
  | election message => exact (onElectionMessage_parts h).paces
  | _ => cases h; exact .inl (drains_of_same rfl)

theorem onLobbyMessage_lead (n : Node) (message : WsMessage) :
    (n.onLobbyMessage message).lead = n.lead := by
  unfold onLobbyMessage
  split <;> rfl

theorem ensureElectionComponents_lead (n : Node) : n.ensureElectionComponents.lead = n.lead := by
  unfold ensureElectionComponents
  split <;> rfl

/-- What a client frame calls before its predicted ticks. -/
def earlyCalls (f : FrameInput) : List ClientCall :=
  [.ensureElectionComponents] ++ f.lobby.map .lobbyMessage ++ [.sendInputPacket f.localInput]

/-- What it calls between its ticks and the measurement. -/
def lateCalls (f : FrameInput) : List ClientCall :=
  [.clearEvents] ++ f.datagrams.map (fun d => .datagram d.1) ++ f.gameEvents.map .gameEvent ++
    [.tickElectionState f.foundIp]

theorem clientCall_drains {n m : Node} {now : ℚ} {f : FrameInput} {call : ClientCall}
    (early : call ∈ earlyCalls f) (h : n.clientCall now call = .ok m) : n.Drains m := by
  simp only [earlyCalls, List.mem_cons, List.mem_append, List.mem_map, List.not_mem_nil, or_false]
    at early
  rcases early with (rfl | ⟨message, -, rfl⟩) | rfl
  · cases h
    exact drains_of_same n.ensureElectionComponents_lead
  · cases h
    exact drains_of_same (n.onLobbyMessage_lead message)
  · obtain ⟨packet, -, h⟩ := Fallible.bind_eq_ok.mp h
    cases h
    exact drains_of_same rfl

theorem clientCall_paces {n m : Node} {now : ℚ} {f : FrameInput} {call : ClientCall}
    (late : call ∈ lateCalls f) (h : n.clientCall now call = .ok m) : n.Paces m := by
  simp only [lateCalls, List.mem_cons, List.mem_append, List.mem_map, List.not_mem_nil, or_false]
    at late
  rcases late with ((rfl | ⟨d, -, rfl⟩) | ⟨message, -, rfl⟩) | rfl
  · cases h
    exact .inl (drains_of_same rfl)
  · exact onDatagram_paces h
  · exact onGameEvent_paces h
  · exact (tickElectionState_parts h).paces

/-- Every client frame is one that measures, unless a reconnection in it restarts the
calibration. -/
theorem clientFrame_leadFrame {n n' : Node} {f : FrameInput} (client : n.role = .client)
    (h : n.processFrame f = .ok n') :
    n.LeadFrame n' ∨ ∃ m : Node, m.Recalibrates ∧ n' = m.adjustPredictionLead := by
  let timed (call : ClientCall) : TimedCall := ⟨f.now, .client call⟩
  have hcalls : f.calls .client = (earlyCalls f).map timed ++
      (timed (.runPredictedTicks f.localInput f.sentAt) :: (lateCalls f).map timed ++
        [timed .adjustPredictionLead]) := by
    simp [FrameInput.calls, FrameInput.clientCalls, earlyCalls, lateCalls, timed]
  rw [processFrame, client, hcalls, run, List.foldlM_append] at h
  obtain ⟨n₁, hbefore, h⟩ := Fallible.bind_eq_ok.mp h
  rw [List.foldlM_append] at h
  obtain ⟨m', h, hmeasure⟩ := Fallible.bind_eq_ok.mp h
  rw [List.foldlM_cons] at h
  obtain ⟨m, hticks, hafter⟩ := Fallible.bind_eq_ok.mp h
  obtain rfl : m'.adjustPredictionLead = n' := by
    rw [List.foldlM_cons] at hmeasure
    exact Except.ok.inj hmeasure
  have before : n.Drains n₁ := by
    refine Fallible.foldlM_keeps (P := fun m : Node => n.Drains m)
      (fun m c m' hc hm hstep => ?_) hbefore (.refl n)
    obtain ⟨call, early, rfl⟩ := List.mem_map.mp hc
    exact hm.trans (clientCall_drains early hstep)
  have after : m.Paces m' := by
    refine Fallible.foldlM_keeps (P := fun k : Node => m.Paces k)
      (fun k c k' hc hk hstep => ?_) hafter (.inl (.refl m))
    obtain ⟨call, late, rfl⟩ := List.mem_map.mp hc
    exact hk.trans (clientCall_paces late hstep)
  rcases after with drains | restarted
  · exact .inl ⟨f.localInput, f.sentAt, f.now, n₁, m, m', before, hticks, drains, rfl⟩
  · exact .inr ⟨m', restarted, rfl⟩

end Node

end DistributedSmb
