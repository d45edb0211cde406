import DistributedSmb.Domain.ShadowCopy
import DistributedSmb.Gameplay.PredictionLead
import DistributedSmb.Library.Gliding

/-!
# What a client shows

`_process_client_frame` to its end. The local player is shown at its place before the
reconciliation, from where it glides to its place after it; the others are shown as their shadow
copies say. The copies are an input, read at one time.
-/

namespace DistributedSmb

open Library

/-- The calls before the reconciliation. -/
def FrameInput.predictionCalls (f : FrameInput) : List ClientCall :=
  Node.earlyCalls f ++ [.runPredictedTicks f.localInput f.sentAt]

/-- The calls from the reconciliation on. -/
def FrameInput.drainCalls (f : FrameInput) : List ClientCall :=
  Node.lateCalls f ++ [.adjustPredictionLead]

theorem FrameInput.clientCalls_split (f : FrameInput) :
    f.clientCalls = f.predictionCalls ++ f.drainCalls := by
  simp [clientCalls, predictionCalls, drainCalls, Node.earlyCalls, Node.lateCalls]

namespace Node

def runClient (n : Node) (now : ℚ) (calls : List ClientCall) : Except PyError Node :=
  calls.foldlM (fun n call => n.clientCall now call) n

/-- A client up to the capture before the reconciliation. -/
def predictFrame (n : Node) (f : FrameInput) : Except PyError Node :=
  n.runClient f.now f.predictionCalls

def drainFrame (n : Node) (f : FrameInput) : Except PyError Node := n.runClient f.now f.drainCalls

def localPlayer (n : Node) : Option Player := n.engine.worldState.getPlayer n.localPlayerId

def localPosition (n : Node) : Option (ℚ × ℚ) := n.localPlayer.map fun p => (p.x, p.y)

def glideStep (offset : ℚ) : ℚ := glide reconcileGlideRate reconcileMaxGlidePx offset

/-- The visual state with the node whose offset it has changed; there is none without a player. -/
def smoothedLocalVisualState (n : Node) (preReconcilePos : Option (ℚ × ℚ)) : Node × Option Player :=
  match n.localPlayer, preReconcilePos with
  | some player, some pre =>
    let offsetX := n.visualCorrectionOffset.1 + (player.x - pre.1)
    let offsetY := n.visualCorrectionOffset.2 + (player.y - pre.2)
    let offsetX := offsetX - glideStep offsetX
    let offsetY := offsetY - glideStep offsetY
    ({ n with visualCorrectionOffset := (offsetX, offsetY) },
      some { player with x := player.x - offsetX, y := player.y - offsetY })
  | player, _ => (n, player)

def localPlayerRespawning (n : Node) : Bool := n.localPlayerId ∈ n.engine.worldState.respawnTimers

/-- The visual state of one character of the world. -/
def visualCharacter (n : Node) (shadowCopies : Dict PlayerId ShadowCopy)
    (localVisualState : Option Player) (displayedAt : ℚ) (pid : PlayerId) (character : Player) :
    Except PyError Player :=
  let displayState : Except PyError Player :=
    match shadowCopies.get? pid with
    | none => .ok character
    | some shadowCopy => do
      let visualState ← shadowCopy.getVisualState displayedAt
      .ok (visualState.getD character)
  match localVisualState with
  | none => displayState
  | some visual =>
    if pid = n.localPlayerId ∧ n.localPlayerRespawning = false then .ok visual else displayState

/-- A render-only snapshot. A local player that is missing from the world is added, unless it is
dead. -/
def buildVisualWorldState (n : Node) (shadowCopies : Dict PlayerId ShadowCopy)
    (localVisualState : Option Player) (displayedAt : ℚ) : Except PyError WorldState := do
  let draw (_ : Unit) (pid : PlayerId) (character : Player) :
      Except PyError (Unit × Player × List Unit) := do
    let visual ← n.visualCharacter shadowCopies localVisualState displayedAt pid character
    .ok ((), visual, [])
  let (_, visualCharacters, _) ← n.engine.worldState.characters.sweep draw ()
  let visualCharacters :=
    match localVisualState with
    | none => visualCharacters
    | some visual =>
      if n.localPlayerRespawning = false ∧ n.localPlayerId ∉ visualCharacters then
        visualCharacters.set n.localPlayerId visual
      else visualCharacters
  .ok { n.engine.worldState with characters := visualCharacters }

end Node

/-- What a frame leaves behind, what it knows of the local player, and the view that it returns. -/
structure ClientFrame where
  node : Node
  preReconcilePos : Option (ℚ × ℚ)
  localVisualState : Option Player
  view : WorldState

/-- `_process_client_frame` -/
def Node.processClientFrame (n : Node) (f : FrameInput) (shadowCopies : Dict PlayerId ShadowCopy)
    (displayedAt : ℚ) : Except PyError ClientFrame := do
  let predicted ← n.predictFrame f
  let preReconcilePos := predicted.localPosition
  let drained ← predicted.drainFrame f
  let (node, localVisualState) := drained.smoothedLocalVisualState preReconcilePos
  let view ← node.buildVisualWorldState shadowCopies localVisualState displayedAt
  .ok ⟨node, preReconcilePos, localVisualState, view⟩

/-! ## The calls of a frame -/

theorem Node.runClient_append {n n' : Node} {now : ℚ} {calls calls' : List ClientCall} :
    n.runClient now (calls ++ calls') = .ok n' ↔
      ∃ m, n.runClient now calls = .ok m ∧ m.runClient now calls' = .ok n' := by
  rw [runClient, List.foldlM_append, Fallible.bind_eq_ok]
  rfl

theorem Node.processClientFrame_spec {n : Node} {f : FrameInput}
    {shadowCopies : Dict PlayerId ShadowCopy} {displayedAt : ℚ} {r : ClientFrame}
    (h : n.processClientFrame f shadowCopies displayedAt = .ok r) :
    ∃ predicted drained : Node, n.predictFrame f = .ok predicted ∧
      r.preReconcilePos = predicted.localPosition ∧ predicted.drainFrame f = .ok drained ∧
      drained.smoothedLocalVisualState r.preReconcilePos = (r.node, r.localVisualState) ∧
      r.node.buildVisualWorldState shadowCopies r.localVisualState displayedAt = .ok r.view := by
  obtain ⟨predicted, hpredict, h⟩ := Fallible.bind_eq_ok.mp h
  obtain ⟨drained, hdrain, h⟩ := Fallible.bind_eq_ok.mp h
  obtain ⟨view, hview, h⟩ := Fallible.bind_eq_ok.mp h
  cases h
  exact ⟨predicted, drained, hpredict, rfl, hdrain, rfl, hview⟩

namespace Node

/-- The smoothing changes the offset only, and shows a player if there is one. -/
theorem smoothedLocalVisualState_spec (n : Node) (preReconcilePos : Option (ℚ × ℚ)) :
    (∃ offset, (n.smoothedLocalVisualState preReconcilePos).1 =
        { n with visualCorrectionOffset := offset }) ∧
      ((n.smoothedLocalVisualState preReconcilePos).2.isSome ↔
        n.localPlayerId ∈ n.engine.worldState.characters) := by
  have hplayer : n.localPlayer.isSome ↔ n.localPlayerId ∈ n.engine.worldState.characters := by
    rw [← not_iff_not, ← Dict.get?_eq_none_iff, Option.not_isSome_iff_eq_none]
    rfl
  rw [← hplayer]
  unfold smoothedLocalVisualState
  split
  case h_1 _ _ hsome => exact ⟨⟨_, rfl⟩, by simp [hsome]⟩
  case h_2 => exact ⟨⟨_, rfl⟩, Iff.rfl⟩

/-- Up to the smoothing, a client's frame is the one that runs its calls. -/
theorem processClientFrame_calls {n : Node} {f : FrameInput}
    {shadowCopies : Dict PlayerId ShadowCopy} {displayedAt : ℚ} {r : ClientFrame}
    (client : n.role = .client) (h : n.processClientFrame f shadowCopies displayedAt = .ok r) :
    ∃ drained offset, n.processFrame f = .ok drained ∧
      r.node = { drained with visualCorrectionOffset := offset } := by
  obtain ⟨predicted, drained, hpredict, -, hdrain, hsmooth, -⟩ := processClientFrame_spec h
  obtain ⟨⟨offset, hnode⟩, -⟩ := drained.smoothedLocalVisualState_spec r.preReconcilePos
  rw [hsmooth] at hnode
  refine ⟨drained, offset, ?_, hnode⟩
  have hrun : n.runClient f.now f.clientCalls = .ok drained := by
    rw [f.clientCalls_split, runClient_append]
    exact ⟨predicted, hpredict, hdrain⟩
  rw [processFrame, client, run, FrameInput.calls, List.foldlM_map]
  exact hrun

/-! ## The view -/

section
variable {n : Node} {shadowCopies : Dict PlayerId ShadowCopy} {localVisualState : Option Player}
  {displayedAt : ℚ} {view : WorldState}

/-- Nobody is left out of the view, and nobody but the local player is added. -/
theorem mem_buildVisualWorldState
    (h : n.buildVisualWorldState shadowCopies localVisualState displayedAt = .ok view)
    (pid : PlayerId) :
    pid ∈ view.characters ↔ pid ∈ n.engine.worldState.characters ∨
      (pid = n.localPlayerId ∧ localVisualState.isSome ∧ n.localPlayerRespawning = false) := by
  obtain ⟨⟨_, visual, _⟩, hsweep, h⟩ := Fallible.bind_eq_ok.mp h
  cases h
  have hkeys (k : PlayerId) : k ∈ visual ↔ k ∈ n.engine.worldState.characters := by
    rw [Dict.mem_iff, Dict.keys_sweep hsweep, Dict.mem_iff]
  cases localVisualState with
  | none => simp [hkeys]
  | some p =>
    simp only [Option.isSome_some, true_and]
    split
    case isTrue hadded => simp [hkeys, hadded.1, or_comm]
    case isFalse hkept =>
      rw [hkeys]
      refine ⟨.inl, ?_⟩
      rintro (hpid | ⟨rfl, hrespawning⟩)
      · exact hpid
      · by_contra hmissing
        exact hkept ⟨hrespawning, fun hmem => hmissing ((hkeys _).mp hmem)⟩

/-- A local player that is not dead is shown as its visual state. -/
theorem getPlayer_buildVisualWorldState {p : Player}
    (h : n.buildVisualWorldState shadowCopies (some p) displayedAt = .ok view)
    (alive : n.localPlayerRespawning = false) : view.getPlayer n.localPlayerId = some p := by
  obtain ⟨⟨_, visual, _⟩, hsweep, h⟩ := Fallible.bind_eq_ok.mp h
  cases h
  simp only [WorldState.getPlayer, alive, true_and]
  split
  case isTrue hadded => exact Dict.get?_set_self _ _ _
  case isFalse hkept =>
    have hmem : n.localPlayerId ∈ n.engine.worldState.characters := by
      rw [Dict.mem_iff, ← Dict.keys_sweep hsweep]
      exact not_not.mp hkept
    obtain ⟨character, hcharacter⟩ := Dict.exists_of_mem hmem
    obtain ⟨_, _, shown, _, -, hdraw, hshown⟩ := Dict.sweep_visits (P := fun _ => True)
      (fun _ _ _ _ _ _ _ _ => trivial) hsweep trivial hcharacter
    obtain ⟨visual', hvisual, hdraw⟩ := Fallible.bind_eq_ok.mp hdraw
    cases hdraw
    rw [visualCharacter] at hvisual
    simp only [alive, and_self, if_true] at hvisual
    cases hvisual
    exact Dict.get?_eq_some_iff.mpr hshown

end

end Node

end DistributedSmb
