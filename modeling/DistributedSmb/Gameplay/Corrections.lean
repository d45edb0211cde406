import DistributedSmb.Gameplay.VisualState

/-!
# Corrections of the local player

A reconciliation moves the local player, and the display follows by gliding. The offset between the
two lives across frames; only a reconnection drops it at once.
-/

namespace DistributedSmb

open Library

namespace Node

/-! ## The offset during the calls -/

/-- The calls leave the offset alone, if they do not reconnect. -/
def KeepsOffset (n m : Node) : Prop :=
  m.visualCorrectionOffset = n.visualCorrectionOffset ∧
      m.election.reconnected = n.election.reconnected ∨
    n.election.reconnected = false ∧ m.election.reconnected = true

theorem KeepsOffset.refl (n : Node) : n.KeepsOffset n := .inl ⟨rfl, rfl⟩

theorem KeepsOffset.trans {n m k : Node} (h : n.KeepsOffset m) (h' : m.KeepsOffset k) :
    n.KeepsOffset k := by
  rcases h with ⟨hoffset, hsame⟩ | ⟨hbefore, hafter⟩
  · rcases h' with ⟨hoffset', hsame'⟩ | ⟨hbefore, hafter⟩
    · exact .inl ⟨hoffset'.trans hoffset, hsame'.trans hsame⟩
    · exact .inr ⟨hsame.symm.trans hbefore, hafter⟩
  · rcases h' with ⟨-, hsame⟩ | ⟨hopen, -⟩
    · exact .inr ⟨hbefore, hsame.trans hafter⟩
    · exact absurd (hopen.symm.trans hafter) Bool.false_ne_true

theorem Quiet.keepsOffset {n m : Node} {left : Option PlayerId} (h : n.Quiet left m)
    (offset : m.visualCorrectionOffset = n.visualCorrectionOffset) : n.KeepsOffset m :=
  .inl ⟨offset, h.reconnected⟩

theorem promoteToHost_offset {n m : Node} {now : ℚ} (h : n.promoteToHost now = .ok m) :
    m.visualCorrectionOffset = n.visualCorrectionOffset := by
  rcases promoteToHost_spec h with ⟨-, rfl⟩ | ⟨-, out, rfl, -⟩
  · rfl
  have hevict (n : Node) : n.evictHost.visualCorrectionOffset = n.visualCorrectionOffset := by
    unfold evictHost
    split <;> rfl
  have hrestore (n : Node) : n.restoreWorld.visualCorrectionOffset = n.visualCorrectionOffset := by
    unfold restoreWorld
    split <;> rfl
  exact (hevict _).trans (hrestore _)

theorem ElectionPart.keepsOffset {n m : Node} (h : n.ElectionPart m) : n.KeepsOffset m := by
  cases h with
  | fields only reconnected => exact .inl ⟨by rw [only], reconnected⟩
  | sends out => exact .inl ⟨rfl, rfl⟩
  | evicts pid => exact .inl ⟨rfl, rfl⟩
  | promotes now h =>
    refine .inl ⟨promoteToHost_offset h, ?_⟩
    rcases promoteToHost_cases h with ⟨-, rfl⟩ | ⟨-, promoted⟩
    · rfl
    · rw [promoted.election]
  | reconnects ack =>
    rcases onReconnectionAck_cases n ack with ⟨hsame, -⟩ | ⟨hopen, -, reset⟩
    · rw [hsame]
      exact .refl n
    · exact .inr ⟨hopen, by rw [reset.election, rearmed]⟩

theorem ElectionParts.keepsOffset {n m : Node} (h : n.ElectionParts m) : n.KeepsOffset m := by
  induction h with
  | refl => exact .refl n
  | tail _ last ih => exact ih.trans last.keepsOffset

theorem onDatagram_keepsOffset {n m : Node} {payload : Except PyError UdpMessage} {now : ℚ}
    (h : n.onDatagram payload now = .ok m) : n.KeepsOffset m := by
  obtain ⟨message, -, h⟩ := Fallible.bind_eq_ok.mp h
  cases message with
  | election message => exact (onElectionMessage_parts h).keepsOffset
  | hostIdentityResponse response =>
    cases h
    refine (onHostIdentityResponse_quiet n response now).keepsOffset ?_
    unfold onHostIdentityResponse
    split
    · rfl
    · split <;> rfl
  | worldState snapshot =>
    refine (onSnapshot_quiet h).keepsOffset ?_
    simp only [onSnapshot] at h
    split at h
    · cases h; rfl
    · obtain ⟨p, -, h⟩ := Fallible.bind_eq_ok.mp h
      cases h
      rfl
  | playerInput _ | hostDiscoveryProbe _ => cases h; exact .refl n

theorem onGameEvent_keepsOffset {n m : Node} {message : WsMessage} {now : ℚ}
    (h : n.onGameEvent now message = .ok m) : n.KeepsOffset m := by
  cases message with
  | playerLeft pid =>
    cases h
    split <;> exact .inl ⟨rfl, rfl⟩
  | rosterUpdate roster =>
    obtain ⟨merged, rfl, -, -⟩ := mergeRoster_spec h
    exact .inl ⟨rfl, rfl⟩
  | election message => exact (onElectionMessage_parts h).keepsOffset
  | _ => cases h; exact .inl ⟨rfl, rfl⟩

theorem runPredictedTicks_offset {n m : Node} {localInput : InputState} {sentAt now : ℚ}
    (h : n.runPredictedTicks localInput sentAt now = .ok m) :
    m.visualCorrectionOffset = n.visualCorrectionOffset := by
  refine Fallible.foldlM_keeps
    (P := fun k : Node => k.visualCorrectionOffset = n.visualCorrectionOffset)
    (fun k _ k' _ hk hstep => ?_) h rfl
  obtain ⟨p, -, hstep⟩ := Fallible.bind_eq_ok.mp hstep
  cases hstep
  exact hk

theorem adjustPredictionLead_offset (n : Node) :
    n.adjustPredictionLead.visualCorrectionOffset = n.visualCorrectionOffset := by
  simp only [adjustPredictionLead]
  split_ifs <;> rfl

theorem clientCall_keepsOffset {n m : Node} {now : ℚ} {call : ClientCall}
    (h : n.clientCall now call = .ok m) : n.KeepsOffset m := by
  cases call with
  | ensureElectionComponents =>
    cases h
    unfold ensureElectionComponents
    split <;> exact .inl ⟨rfl, rfl⟩
  | lobbyMessage message =>
    cases h
    cases message <;> exact .inl ⟨rfl, rfl⟩
  | sendInputPacket localInput =>
    obtain ⟨packet, -, h⟩ := Fallible.bind_eq_ok.mp h
    cases h
    exact .inl ⟨rfl, rfl⟩
  | runPredictedTicks localInput sentAt =>
    exact (runPredictedTicks_quiet h).keepsOffset (runPredictedTicks_offset h)
  | clearEvents => cases h; exact .inl ⟨rfl, rfl⟩
  | datagram payload => exact onDatagram_keepsOffset h
  | gameEvent message => exact onGameEvent_keepsOffset h
  | tickElectionState foundIp => exact (tickElectionState_parts h).keepsOffset
  | adjustPredictionLead =>
    cases h
    exact n.adjustPredictionLead_quiet.keepsOffset n.adjustPredictionLead_offset

theorem runClient_keepsOffset {n m : Node} {now : ℚ} {calls : List ClientCall}
    (h : n.runClient now calls = .ok m) : n.KeepsOffset m :=
  Fallible.foldlM_rel KeepsOffset.refl (fun h h' => h.trans h')
    (fun _ _ _ _ hcall => clientCall_keepsOffset hcall) h

end Node

/-! ## Frames that show the local player -/

/-- The places of the local player in one frame, before and after the reconciliation, the offset
that is left, and where it is displayed. -/
structure LocalTrace where
  predicted : ℚ × ℚ
  reconciled : ℚ × ℚ
  offset : ℚ × ℚ
  displayed : ℚ × ℚ
  view : WorldState

/-- There is a trace if the player exists before and after the reconciliation. -/
def ClientFrame.localTrace (r : ClientFrame) : Option LocalTrace := do
  let predicted ← r.preReconcilePos
  let reconciled ← r.node.localPosition
  let visual ← r.localVisualState
  some ⟨predicted, reconciled, r.node.visualCorrectionOffset, (visual.x, visual.y), r.view⟩

namespace Node

/-- A client frame with the local player before and after its reconciliation. -/
def LocalFrame (n : Node) (l : LocalTrace) (n' : Node) : Prop :=
  n.role = .client ∧ ∃ f shadowCopies displayedAt r,
    n.processClientFrame f shadowCopies displayedAt = .ok r ∧ r.node = n' ∧ r.localTrace = some l

end Node

inductive Axis where
  | x | y

def Axis.of : Axis → ℚ × ℚ → ℚ
  | x, p => p.1
  | y, p => p.2

/-- What the reconciliation of a frame moves. -/
def LocalTrace.correction (l : LocalTrace) (axis : Axis) : ℚ :=
  axis.of l.reconciled - axis.of l.predicted

namespace Node

theorem LocalFrame.offset_eq {n n' : Node} {l : LocalTrace} (h : n.LocalFrame l n') :
    n'.visualCorrectionOffset = l.offset := by
  obtain ⟨-, f, copies, displayedAt, r, -, rfl, hl⟩ := h
  simp only [ClientFrame.localTrace, Option.bind_eq_bind, Option.bind_eq_some_iff,
    Option.some.injEq] at hl
  obtain ⟨_, -, _, -, _, -, rfl⟩ := hl
  rfl

/-- The smoothing of a frame, axis by axis. -/
theorem smoothed_axis {n n' : Node} {p : Player} {pre reconciled : ℚ × ℚ}
    (h : n.smoothedLocalVisualState (some pre) = (n', some p))
    (hreconciled : n.localPosition = some reconciled) (axis : Axis) :
    axis.of n'.visualCorrectionOffset = remaining reconcileGlideRate reconcileMaxGlidePx
        (axis.of n.visualCorrectionOffset + (axis.of reconciled - axis.of pre)) ∧
      axis.of (p.x, p.y) = axis.of reconciled - axis.of n'.visualCorrectionOffset := by
  obtain ⟨player, hplayer, rfl⟩ := Option.map_eq_some_iff.mp hreconciled
  simp only [smoothedLocalVisualState, hplayer, Prod.mk.injEq, Option.some.injEq] at h
  obtain ⟨rfl, rfl⟩ := h
  cases axis <;> exact ⟨rfl, rfl⟩

/-- A frame without a reconnection absorbs its correction. -/
theorem LocalFrame.absorbs {n n' : Node} {l : LocalTrace} (h : n.LocalFrame l n')
    (connected : n'.election.reconnected = n.election.reconnected) (axis : Axis) :
    axis.of l.offset = remaining reconcileGlideRate reconcileMaxGlidePx
        (axis.of n.visualCorrectionOffset + l.correction axis) ∧
      axis.of l.displayed = axis.of l.reconciled - axis.of l.offset := by
  obtain ⟨-, f, copies, displayedAt, r, hframe, rfl, hl⟩ := h
  obtain ⟨predicted, drained, hpredict, -, hdrain, hsmooth, -⟩ := processClientFrame_spec hframe
  simp only [ClientFrame.localTrace, Option.bind_eq_bind, Option.bind_eq_some_iff,
    Option.some.injEq] at hl
  obtain ⟨pre, hpre, reconciled, hreconciled, visual, hvisual, rfl⟩ := hl
  rw [hpre, hvisual] at hsmooth
  obtain ⟨⟨offset, hnode⟩, -⟩ := drained.smoothedLocalVisualState_spec (some pre)
  replace hnode : r.node = { drained with visualCorrectionOffset := offset } := by
    rw [hsmooth] at hnode
    exact hnode
  have hkept : n.KeepsOffset drained :=
    (runClient_keepsOffset hpredict).trans (runClient_keepsOffset hdrain)
  have hsame : drained.visualCorrectionOffset = n.visualCorrectionOffset := by
    rcases hkept with ⟨hsame, -⟩ | ⟨hbefore, hafter⟩
    · exact hsame
    · have hreconnected : r.node.election.reconnected = true := by rw [hnode]; exact hafter
      rw [connected, hbefore] at hreconnected
      exact absurd hreconnected Bool.false_ne_true
  rw [hnode] at hreconciled
  rw [← hsame]
  exact smoothed_axis hsmooth hreconciled axis

/-- A local player that is not dead is displayed in the view. -/
theorem LocalFrame.getPlayer_view {n n' : Node} {l : LocalTrace} (h : n.LocalFrame l n')
    (alive : n'.localPlayerId ∉ n'.engine.worldState.respawnTimers) :
    (l.view.getPlayer n'.localPlayerId).map (fun p => (p.x, p.y)) = some l.displayed := by
  obtain ⟨-, f, copies, displayedAt, r, hframe, rfl, hl⟩ := h
  obtain ⟨_, _, -, -, -, -, hview⟩ := processClientFrame_spec hframe
  simp only [ClientFrame.localTrace, Option.bind_eq_bind, Option.bind_eq_some_iff,
    Option.some.injEq] at hl
  obtain ⟨_, -, _, -, visual, hvisual, rfl⟩ := hl
  rw [hvisual] at hview
  rw [getPlayer_buildVisualWorldState hview (decide_eq_false alive)]
  rfl

/-! ## Runs of frames -/

theorem reconcileGlideRate_nonneg : 0 ≤ reconcileGlideRate := by decide +kernel
theorem reconcileGlideRate_lt_one : reconcileGlideRate < 1 := by decide +kernel
theorem reconcileMaxGlidePx_nonneg : 0 ≤ reconcileMaxGlidePx := by decide +kernel

/-- In consecutive frames without a reconnection the display follows the predicted motion and
glides by a bounded step, whatever the corrections are; and while no correction comes, the offset
keeps its sign and shrinks by the rate or by the largest step. -/
theorem corrections_are_absorbed {k : ℕ} (s : ℕ → Node) (l : ℕ → LocalTrace)
    (frames : ∀ t < k, (s t).LocalFrame (l t) (s (t + 1)))
    (connected : ∀ t < k, (s (t + 1)).election.reconnected = (s t).election.reconnected)
    (axis : Axis) :
    (∀ t < k, (s (t + 1)).localPlayerId ∉ (s (t + 1)).engine.worldState.respawnTimers →
      ((l t).view.getPlayer (s (t + 1)).localPlayerId).map (fun p => (p.x, p.y)) =
        some (l t).displayed) ∧
    (∀ t, t + 1 < k → ∃ glide, |glide| ≤ reconcileMaxGlidePx ∧
      axis.of (l (t + 1)).displayed = axis.of (l t).displayed +
        (axis.of (l (t + 1)).predicted - axis.of (l t).reconciled) + glide) ∧
    ∀ start stop, start ≤ stop → stop < k →
      (∀ t, start < t → t ≤ stop → (l t).correction axis = 0) →
      SignType.sign (axis.of (l stop).offset) = SignType.sign (axis.of (l start).offset) ∧
      |axis.of (l stop).offset| ≤ |axis.of (l start).offset| ∧
      ∀ t, start ≤ t → t < stop →
        |axis.of (l (t + 1)).offset| = max ((1 - reconcileGlideRate) * |axis.of (l t).offset|)
          (|axis.of (l t).offset| - reconcileMaxGlidePx) := by
  have hoffset (t : ℕ) (ht : t + 1 < k) : axis.of (l (t + 1)).offset =
      remaining reconcileGlideRate reconcileMaxGlidePx
        (axis.of (l t).offset + (l (t + 1)).correction axis) := by
    rw [← (frames t (Nat.lt_of_succ_lt ht)).offset_eq]
    exact ((frames (t + 1) ht).absorbs (connected (t + 1) ht) axis).1
  have hdisplayed (t : ℕ) (ht : t < k) :
      axis.of (l t).displayed = axis.of (l t).reconciled - axis.of (l t).offset :=
    ((frames t ht).absorbs (connected t ht) axis).2
  refine ⟨fun t ht => (frames t ht).getPlayer_view, fun t ht => ?_, ?_⟩
  · refine ⟨glide reconcileGlideRate reconcileMaxGlidePx
      (axis.of (l t).offset + (l (t + 1)).correction axis),
      abs_glide_le reconcileMaxGlidePx_nonneg _, ?_⟩
    have hplace : axis.of (l (t + 1)).reconciled = axis.of (l t).reconciled +
        (axis.of (l (t + 1)).predicted - axis.of (l t).reconciled) +
        (l (t + 1)).correction axis := by
      rw [LocalTrace.correction]
      ring
    rw [hdisplayed (t + 1) ht, hdisplayed t (Nat.lt_of_succ_lt ht), hoffset t ht, hplace]
    exact displayed_step _ _ _ _
  · intro start stop hle hstop quiet
    have hstep (t : ℕ) (hstart : start ≤ t) (ht : t < stop) : axis.of (l (t + 1)).offset =
        remaining reconcileGlideRate reconcileMaxGlidePx (axis.of (l t).offset) := by
      have hnext := hoffset t (lt_of_le_of_lt ht hstop)
      rwa [quiet (t + 1) (Nat.lt_succ_of_le hstart) ht, add_zero] at hnext
    obtain ⟨hsign, hgrowth⟩ := offset_settles reconcileGlideRate_nonneg reconcileMaxGlidePx_nonneg
      reconcileGlideRate_lt_one (fun t => axis.of (l t).offset) hle hstep
    refine ⟨hsign, hgrowth, fun t hstart ht => ?_⟩
    rw [hstep t hstart ht]
    exact abs_remaining reconcileGlideRate_nonneg reconcileMaxGlidePx_nonneg
      reconcileGlideRate_lt_one.le _

/-- A client whose player stands at 1000. -/
def standingClient : Node where
  engine :=
    { isAuthoritative := false
      worldWidth := 5000
      worldHeight := 5000
      worldState :=
        { characters := Dict.ofList [("player2", { playerId := "player2", x := 1000, y := 0 })] } }
  roster := {}
  sessionId := "session"
  localIp := "10.0.0.2"
  localPlayerId := "player2"
  remoteHost := "10.0.0.1"

/-- The host has the player a hundred pixels further. -/
def correctingFrame : FrameInput where
  now := 0
  datagrams :=
    [(.ok (.worldState
        { sequenceNumber := 1
          worldState :=
            { sequenceNumber := 1
              characters :=
                Dict.ofList [("player2", { playerId := "player2", x := 1100, y := 0 })] } }),
      "10.0.0.1", hostUdpPort)]

def reconnectingFrame : FrameInput where
  now := 1 / 60
  datagrams :=
    [(.ok (.election (.reconnectionAck ⟨"10.0.0.3", hostUdpPort, gameEventWsPort, "session"⟩)),
      "10.0.0.3", hostUdpPort)]

/-- A run of two frames, from a check of the two. -/
theorem exists_twoFrames {f : FrameInput} {p : ClientFrame → ClientFrame → Bool}
    (h : Fallible.okAnd (standingClient.processClientFrame correctingFrame ∅ 0) (fun r =>
      Fallible.okAnd (r.node.processClientFrame f ∅ 0) fun r' =>
        decide (r.node.role = .client) && r.localTrace.isSome && r'.localTrace.isSome && p r r')) :
    ∃ (s : ℕ → Node) (l : ℕ → LocalTrace) (r r' : ClientFrame), p r r' = true ∧
      s 0 = standingClient ∧ s 1 = r.node ∧ s 2 = r'.node ∧ r.localTrace = some (l 0) ∧
      r'.localTrace = some (l 1) ∧ ∀ t < 2, (s t).LocalFrame (l t) (s (t + 1)) := by
  obtain ⟨r, hr, h⟩ := Fallible.exists_of_okAnd h
  obtain ⟨r', hr', h⟩ := Fallible.exists_of_okAnd h
  simp only [Bool.and_eq_true, decide_eq_true_eq, Option.isSome_iff_exists] at h
  obtain ⟨⟨⟨hclient, l, hl⟩, l', hl'⟩, hp⟩ := h
  refine ⟨fun t => if t = 0 then standingClient else if t = 1 then r.node else r'.node,
    fun t => if t = 0 then l else l', r, r', hp, rfl, rfl, rfl, hl, hl', fun t ht => ?_⟩
  obtain rfl | rfl : t = 0 ∨ t = 1 := by omega
  · exact ⟨rfl, correctingFrame, ∅, 0, r, hr, rfl, hl⟩
  · exact ⟨hclient, f, ∅, 0, r', hr', rfl, hl'⟩

/-- Eight pixels in the frame of the correction, eight in the next. -/
theorem corrected_client_glides : ∃ (s : ℕ → Node) (l : ℕ → LocalTrace),
    (∀ t < 2, (s t).LocalFrame (l t) (s (t + 1))) ∧
      (l 0).displayed.1 = 1008 ∧ (l 1).displayed.1 = 1016 ∧
      ∃ glide, |glide| ≤ reconcileMaxGlidePx ∧
        (l 1).displayed.1 =
          (l 0).displayed.1 + ((l 1).predicted.1 - (l 0).reconciled.1) + glide := by
  obtain ⟨s, l, r, r', hp, h0, h1, h2, hl, hl', frames⟩ := exists_twoFrames
    (f := { now := 1 / 60 })
    (p := fun r r' => decide (r.node.election.reconnected = false ∧
      r'.node.election.reconnected = false ∧
      r.localTrace.map (fun l => l.displayed.1) = some 1008 ∧
      r'.localTrace.map (fun l => l.displayed.1) = some 1016)) (by decide +kernel)
  obtain ⟨hopen, hopen', hfirst, hsecond⟩ := of_decide_eq_true hp
  rw [hl] at hfirst
  rw [hl'] at hsecond
  have connected : ∀ t < 2, (s (t + 1)).election.reconnected = (s t).election.reconnected := by
    intro t ht
    obtain rfl | rfl : t = 0 ∨ t = 1 := by omega
    · rw [h0, h1, hopen]
      rfl
    · rw [h1, h2, hopen, hopen']
  exact ⟨s, l, frames, Option.some.inj hfirst, Option.some.inj hsecond,
    (corrections_are_absorbed s l frames connected .x).2.1 0 (by decide)⟩

/-- In the frame of a reconnection the display jumps by the whole offset. -/
theorem reconnection_snaps : ¬ ∀ (k : ℕ) (s : ℕ → Node) (l : ℕ → LocalTrace),
    (∀ t < k, (s t).LocalFrame (l t) (s (t + 1))) → ∀ axis : Axis, ∀ t, t + 1 < k →
      ∃ glide, |glide| ≤ reconcileMaxGlidePx ∧
        axis.of (l (t + 1)).displayed = axis.of (l t).displayed +
          (axis.of (l (t + 1)).predicted - axis.of (l t).reconciled) + glide := by
  intro hall
  obtain ⟨s, l, r, r', hp, -, -, -, hl, hl', frames⟩ := exists_twoFrames
    (f := reconnectingFrame)
    (p := fun r r' => decide
      (r.localTrace.map (fun l => (l.reconciled.1, l.displayed.1)) = some (1100, 1008) ∧
        r'.localTrace.map (fun l => (l.predicted.1, l.displayed.1)) = some (1100, 1100)))
    (by decide +kernel)
  obtain ⟨hfirst, hsecond⟩ := of_decide_eq_true hp
  rw [hl] at hfirst
  rw [hl'] at hsecond
  obtain ⟨hreconciled, hdisplayed⟩ := Prod.mk.inj (Option.some.inj hfirst)
  obtain ⟨hpredicted, hdisplayed'⟩ := Prod.mk.inj (Option.some.inj hsecond)
  obtain ⟨glide, hle, heq⟩ := hall 2 s l frames .x 0 (by decide)
  simp only [Axis.of, hreconciled, hdisplayed, hpredicted, hdisplayed'] at heq
  have hjump : glide = 92 := by linarith
  rw [hjump] at hle
  exact absurd hle (by decide +kernel)

end Node

end DistributedSmb
