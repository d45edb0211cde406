import DistributedSmb.Gameplay.RemoteEvents
import DistributedSmb.Reconciliation.Replay

/-!
# Blocks and power-ups of host and client

A host and one predicting client. The client applies the host's events in order, but its own ticks
break blocks as well, and `reconcile` keeps its copies. A replica that only applies the events is
between the two: the host is the replica after the events still on their way, and the client is the
replica with the blocks that the client broke itself marked on top.
-/

namespace DistributedSmb

open Library

/-! ## The view of a replica -/

/-- The blocks and power-ups of an environment. -/
@[ext] structure EnvView where
  blocks : List DestructibleBlock
  powerUps : Dict PowerUpId ExclusivePowerUp

def GameEngine.view (g : GameEngine) : EnvView :=
  ⟨g.worldState.environment.destructibleBlocks, g.worldState.environment.powerUps⟩

def Level.view (level : Level) : EnvView :=
  ⟨level.blocks, Dict.ofList (level.powerups.map fun u => (u.powerupId, u))⟩

namespace EnvView

/-- What an event makes of the view; a reset goes back to the level. -/
def step (level : Level) (v : EnvView) : GameEvent → EnvView
  | .levelReset => level.view
  | e => ⟨v.blocks.map e.onBlock, v.powerUps.mapWithKey e.onPowerUp⟩

def replay (level : Level) (v : EnvView) (events : List GameEvent) : EnvView :=
  events.foldl (step level) v

theorem step_of_ne (level : Level) (v : EnvView) {e : GameEvent} (he : e ≠ .levelReset) :
    v.step level e = ⟨v.blocks.map e.onBlock, v.powerUps.mapWithKey e.onPowerUp⟩ := by
  cases e with
  | levelReset => exact absurd rfl he
  | _ => rfl

theorem replay_append (level : Level) (v : EnvView) (events rest : List GameEvent) :
    v.replay level (events ++ rest) = (v.replay level events).replay level rest :=
  List.foldl_append

theorem replay_of_noReset (level : Level) {events : List GameEvent} (h : .levelReset ∉ events)
    (v : EnvView) :
    v.replay level events = ⟨replayBlocks events v.blocks, replayPowerUps events v.powerUps⟩ := by
  induction events generalizing v with
  | nil => simp [replay]
  | cons e events ih =>
    simp only [List.mem_cons, not_or] at h
    rw [replay, List.foldl_cons, ← replay, ih h.2, step_of_ne level v (Ne.symm h.1)]
    apply EnvView.ext
    · simp [replayBlocks, Library.replay]
    · apply Dict.ext
      simp [replayPowerUps, Dict.mapWithKey, Library.replay]

end EnvView

/-- The block as destroyed, if it stands at one of the positions. -/
def markBroken (positions : List (ℤ × ℤ)) (b : DestructibleBlock) : DestructibleBlock :=
  if b.position ∈ positions then { b with destroyed := true } else b

def EnvView.mark (positions : List (ℤ × ℤ)) (v : EnvView) : EnvView :=
  ⟨v.blocks.map (markBroken positions), v.powerUps⟩

@[simp] theorem markBroken_nil (b : DestructibleBlock) : markBroken [] b = b := by
  simp [markBroken]

@[simp] theorem markBroken_position (positions : List (ℤ × ℤ)) (b : DestructibleBlock) :
    (markBroken positions b).position = b.position := by
  unfold markBroken
  split <;> rfl

theorem markBroken_singleton (position : ℤ × ℤ) :
    markBroken [position] = (GameEvent.blockDestroyed position).onBlock := by
  funext b
  simp [markBroken, GameEvent.onBlock]

theorem markBroken_append (positions rest : List (ℤ × ℤ)) (b : DestructibleBlock) :
    markBroken (positions ++ rest) b = markBroken rest (markBroken positions b) := by
  have hposition := markBroken_position positions b
  by_cases hp : b.position ∈ positions <;> by_cases hr : b.position ∈ rest <;>
    simp_all [markBroken]

/-- Events and marks commute: both only ever set the flag. -/
theorem onBlock_markBroken (e : GameEvent) (positions : List (ℤ × ℤ)) (b : DestructibleBlock) :
    e.onBlock (markBroken positions b) = markBroken positions (e.onBlock b) := by
  have hevent := GameEvent.onBlock_position e b
  have hmark := markBroken_position positions b
  cases e with
  | blockDestroyed position =>
    by_cases hp : b.position = position <;> by_cases hm : b.position ∈ positions <;>
      simp_all [markBroken, GameEvent.onBlock]
  | _ => rfl

theorem EnvView.step_mark (level : Level) (v : EnvView) (positions : List (ℤ × ℤ)) {e : GameEvent}
    (he : e ≠ .levelReset) : (v.mark positions).step level e = (v.step level e).mark positions := by
  rw [step_of_ne _ _ he, step_of_ne _ _ he]
  simp only [mark, EnvView.mk.injEq, List.map_map, and_true]
  exact List.map_congr_left fun b _ => onBlock_markBroken e positions b

/-- The positions of the blocks that a list of events breaks. -/
def brokenPositions (events : List GameEvent) : List (ℤ × ℤ) :=
  events.filterMap fun
    | .blockDestroyed position => some position
    | _ => none

theorem replayBlocks_eq_mark (events : List GameEvent) (blocks : List DestructibleBlock) :
    replayBlocks events blocks = blocks.map (markBroken (brokenPositions events)) := by
  induction events generalizing blocks with
  | nil => simp [brokenPositions, funext markBroken_nil]
  | cons e events ih =>
    have hcons : replayBlocks (e :: events) blocks =
        replayBlocks events (blocks.map e.onBlock) := by
      simp [replayBlocks, Library.replay]
    rw [hcons, ih, List.map_map]
    refine List.map_congr_left fun b _ => ?_
    cases e with
    | blockDestroyed position =>
      change markBroken _ _ = markBroken ([position] ++ brokenPositions events) b
      rw [markBroken_append, markBroken_singleton]
    | _ => rfl

namespace GameEngine

/-- A tick replays its events on the view. -/
theorem emits_view {g g' : GameEngine} {events : List GameEvent}
    (h : g.Emits g' events) (level : Level) : g'.view = g.view.replay level events := by
  rw [EnvView.replay_of_noReset level h.noReset]
  exact EnvView.ext h.blocks h.powerUps

/-- A freshly loaded level addresses its power-ups by their ids. -/
theorem reset_addressed {g : GameEngine}
    (distinct : (g.level.blocks.map DestructibleBlock.position).Nodup) :
    g.resetForNewRun.worldState.environment.Addressed where
  positions := distinct
  powerupIds := by
    refine Fallible.foldl_keeps (P := fun d : Dict PowerUpId ExclusivePowerUp =>
      ∀ e ∈ d.entries, e.2.powerupId = e.1) (fun d binding hmem hd e he => ?_)
      (fun e he => absurd he List.not_mem_nil)
    obtain ⟨u, -, rfl⟩ := List.mem_map.mp hmem
    rcases Dict.mem_entries_set.mp he with rfl | ⟨he, -⟩
    · rfl
    · exact hd e he

theorem applyMessage_addressed {g : GameEngine} {e : GameEvent}
    (addressed : g.worldState.environment.Addressed) (he : e ≠ .levelReset) :
    (g.applyMessage e.message).worldState.environment.Addressed := by
  obtain ⟨hblocks, hpowerUps⟩ := applyMessage_env addressed he
  have := addressed.replay [e] (g.applyMessage e.message).worldState.environment.enemies
    (g.applyMessage e.message).worldState.environment.cooperativeGates
  exact ⟨by rw [hblocks]; exact this.positions, by rw [hpowerUps]; exact this.powerupIds⟩

end GameEngine

/-! ## Host, client, and the messages between them -/

structure SyncState where
  host : GameEngine
  client : PredictionEngine
  /-- Messages the host sent and the client has not applied, oldest first. -/
  inFlight : List WsMessage := []
  published : List WorldStateSnapshot := []
  lastReconciled : Option WorldStateSnapshot := none
  /-- Positions of the blocks that the client's own ticks broke since its last applied reset. -/
  broken : List (ℤ × ℤ) := []

inductive SyncAction where
  | hostFrame (args : GameEngine.TickArgs)
  | hostReset
  | predicted (inputState : InputState) (dt sentAt now : ℚ)
  | reconciled (index : ℕ) (now : ℚ)
  | applied

namespace SyncState

/-- The client after a step that ticked its engine, and what those ticks broke. -/
def withClient (s : SyncState) (client : PredictionEngine) : SyncState :=
  { s with
    client := client
    broken := s.broken ++
      brokenPositions (client.engine.events.drop s.client.engine.events.length) }

def step (s : SyncState) : SyncAction → Except PyError SyncState
  | .hostFrame args => do
    let host ← s.host.tick args
    let messages ← host.events.mapM eventToMessage
    .ok { s with
      host := { host with events := [] }
      inFlight := s.inFlight ++ messages
      published := s.published ++ [⟨host.worldState.sequenceNumber, host.worldState⟩] }
  | .hostReset => .ok { s with host := s.host.resetForNewRun }
  | .predicted inputState dt sentAt now => do
    let client ← s.client.predictTick inputState dt sentAt now
    .ok (s.withClient client)
  | .reconciled index now =>
    match s.published[index]? with
    | none => .ok s
    | some snapshot => do
      let client ← s.client.reconcile snapshot now
      .ok { s.withClient client with lastReconciled := some snapshot }
  | .applied =>
    match s.inFlight with
    | [] => .ok s
    | message :: rest =>
      .ok { s with
        client := { s.client with engine := s.client.engine.applyMessage message }
        inFlight := rest
        broken := if message = .levelReset then [] else s.broken }

def run (s : SyncState) (actions : List SyncAction) : Except PyError SyncState :=
  actions.foldlM step s

/-- Both sides are on the same level with the same blocks and power-ups. -/
structure Start (s : SyncState) : Prop where
  hostAuthoritative : s.host.isAuthoritative = true
  clientPredicts : s.client.engine.isAuthoritative = false
  sameLevel : s.client.engine.level = s.host.level
  sameView : s.client.engine.view = s.host.view
  distinctBlocks : (s.host.level.blocks.map DestructibleBlock.position).Nodup
  addressed : s.host.worldState.environment.Addressed
  nothingQueued : s.host.events = []
  nothingSent : s.inFlight = []
  nothingBroken : s.broken = []

/-- The client has applied every event and reconciled with the latest snapshot, nothing pending. -/
structure CaughtUp (s : SyncState) : Prop where
  queued : s.host.events = []
  sent : s.inFlight = []
  reconciled : s.lastReconciled = s.published.getLast?
  pending : s.client.pendingCount = 0

/-- The flags and owners that prediction must not leave diverged. -/
def Agree (s : SyncState) : Prop :=
  s.client.engine.view.blocks.map DestructibleBlock.destroyed =
      s.host.view.blocks.map DestructibleBlock.destroyed ∧
    s.client.engine.view.powerUps.mapValues (fun u => (u.collected, u.owner)) =
      s.host.view.powerUps.mapValues fun u => (u.collected, u.owner)

/-! ### The replica between them -/

structure Replicates (s : SyncState) (replica : EnvView) (pending : List GameEvent) : Prop where
  sent : s.inFlight = pending.map GameEvent.message
  host : s.host.view = replica.replay s.host.level (pending ++ s.host.events)
  client : s.client.engine.view = replica.mark s.broken
  clientPredicts : s.client.engine.isAuthoritative = false
  sameLevel : s.client.engine.level = s.host.level
  distinctBlocks : (s.host.level.blocks.map DestructibleBlock.position).Nodup
  hostAddressed : s.host.worldState.environment.Addressed
  clientAddressed : s.client.engine.worldState.environment.Addressed

theorem start_replicates {s : SyncState} (h : s.Start) : s.Replicates s.host.view [] where
  sent := by rw [h.nothingSent]; rfl
  host := by rw [h.nothingQueued]; rfl
  client := by
    rw [h.nothingBroken, h.sameView]
    simp [EnvView.mark, funext markBroken_nil]
  clientPredicts := h.clientPredicts
  sameLevel := h.sameLevel
  distinctBlocks := h.distinctBlocks
  hostAddressed := h.addressed
  clientAddressed := by
    have hsame := h.sameView
    simp only [GameEngine.view, EnvView.mk.injEq] at hsame
    exact ⟨by rw [hsame.1]; exact h.addressed.positions,
      by rw [hsame.2]; exact h.addressed.powerupIds⟩

/-- The client's own ticks only add marks. -/
theorem Replicates.withClient {s : SyncState} {replica : EnvView} {pending events : List GameEvent}
    (client : PredictionEngine) (hs : s.Replicates replica pending)
    (hemits : s.client.engine.Emits client.engine events)
    (halone : s.client.engine.LeavesAlone client.engine) :
    (s.withClient client).Replicates replica pending where
  sent := hs.sent
  host := hs.host
  client := by
    have hdrop : client.engine.events.drop s.client.engine.events.length = events := by
      rw [hemits.queued, List.drop_left]
    have hview := hs.client
    simp only [GameEngine.view, EnvView.mark, EnvView.mk.injEq, SyncState.withClient, hdrop] at *
    refine ⟨?_, halone.powerUps.trans hview.2⟩
    rw [hemits.blocks, replayBlocks_eq_mark, hview.1, List.map_map]
    exact List.map_congr_left fun b _ => (markBroken_append _ _ b).symm
  clientPredicts :=
    (congrArg (fun setting => setting.2.1) halone.setting).trans hs.clientPredicts
  sameLevel :=
    (GameEngine.level_of_setting halone.setting).trans hs.sameLevel
  distinctBlocks := hs.distinctBlocks
  hostAddressed := hs.hostAddressed
  clientAddressed := hemits.addressed hs.clientAddressed

theorem replayPending_emits {pid : PlayerId} {now : ℚ} {g g' : GameEngine}
    {l : List InputHistoryEntry} (addressed : g.worldState.environment.Addressed)
    (h : PredictionEngine.replayPending pid now g l = .ok g') : ∃ events, g.Emits g' events := by
  have hkept := Fallible.foldlM_keeps
    (P := fun g₁ : GameEngine => g₁.worldState.environment.Addressed ∧ ∃ events, g.Emits g₁ events)
    (fun g₁ entry g₂ _ hP htick => by
      obtain ⟨haddressed, rest, hrest⟩ := GameEngine.tick_emits hP.1 htick
      obtain ⟨events, hevents⟩ := hP.2
      exact ⟨haddressed, events ++ rest, hevents.append hrest⟩) h
    ⟨addressed, GameEngine.emits_nothing rfl rfl rfl⟩
  exact hkept.2

section
variable {s s' : SyncState} {replica : EnvView} {pending : List GameEvent}

/-- What a tick of the host changes is on its way to the client. -/
theorem Replicates.hostFrame {args : GameEngine.TickArgs} (hs : s.Replicates replica pending)
    (h : s.step (.hostFrame args) = .ok s') : ∃ pending', s'.Replicates replica pending' := by
  obtain ⟨host, htick, h⟩ := Fallible.bind_eq_ok.mp h
  obtain ⟨messages, hmessages, h⟩ := Fallible.bind_eq_ok.mp h
  cases h
  obtain ⟨haddressed, events, hemits⟩ := GameEngine.tick_emits hs.hostAddressed htick
  have hlevel : host.level = s.host.level :=
    GameEngine.level_of_setting (GameEngine.tick_setting htick)
  refine ⟨pending ++ host.events, ?_⟩
  exact
    { sent := by simp [hs.sent, mapM_eventToMessage hmessages]
      host := by
        change host.view = replica.replay host.level (pending ++ host.events ++ [])
        rw [List.append_nil, hemits.queued, ← List.append_assoc, EnvView.replay_append, hlevel,
          ← hs.host]
        exact GameEngine.emits_view hemits _
      client := hs.client
      clientPredicts := hs.clientPredicts
      sameLevel := hs.sameLevel.trans hlevel.symm
      distinctBlocks := hlevel ▸ hs.distinctBlocks
      hostAddressed := haddressed
      clientAddressed := hs.clientAddressed }

/-- A reset of the host is one more event that the replica has yet to apply. -/
theorem Replicates.hostReset (hs : s.Replicates replica pending)
    (h : s.step .hostReset = .ok s') : s'.Replicates replica pending := by
  cases h
  exact
    { sent := hs.sent
      host := by
        change s.host.level.view =
          replica.replay s.host.level (pending ++ (s.host.events ++ [.levelReset]))
        rw [← List.append_assoc, EnvView.replay_append]
        rfl
      client := hs.client
      clientPredicts := hs.clientPredicts
      sameLevel := hs.sameLevel
      distinctBlocks := hs.distinctBlocks
      hostAddressed := GameEngine.reset_addressed hs.distinctBlocks
      clientAddressed := hs.clientAddressed }

theorem Replicates.predicted {inputState : InputState} {dt sentAt now : ℚ}
    (hs : s.Replicates replica pending)
    (h : s.step (.predicted inputState dt sentAt now) = .ok s') :
    s'.Replicates replica pending := by
  obtain ⟨client, hpredict, h⟩ := Fallible.bind_eq_ok.mp h
  cases h
  obtain ⟨g, htick, rfl⟩ := PredictionEngine.predictTick_spec hpredict
  obtain ⟨-, events, hemits⟩ := GameEngine.tick_emits hs.clientAddressed htick
  exact hs.withClient _ hemits (GameEngine.tick_leavesAlone hs.clientPredicts htick)

/-- The adopted world keeps the client's blocks and power-ups, and the replay ticks on them. -/
theorem Replicates.reconciled {index : ℕ} {now : ℚ} (hs : s.Replicates replica pending)
    (h : s.step (.reconciled index now) = .ok s') : s'.Replicates replica pending := by
  simp only [step] at h
  split at h
  case h_1 => cases h; exact hs
  case h_2 snapshot _ =>
    obtain ⟨client, hrec, h⟩ := Fallible.bind_eq_ok.mp h
    cases h
    obtain ⟨g, hreplay, rfl⟩ := PredictionEngine.reconcile_spec hrec
    have haddressed : (s.client.adopt snapshot.worldState).worldState.environment.Addressed :=
      ⟨hs.clientAddressed.positions, hs.clientAddressed.powerupIds⟩
    obtain ⟨events, hemits⟩ := replayPending_emits haddressed hreplay
    have hpredicts : (s.client.adopt snapshot.worldState).isAuthoritative = false :=
      hs.clientPredicts
    have halone := PredictionEngine.replayPending_leavesAlone hpredicts hreplay
    have hs' := hs.withClient
      { s.client with engine := g, buffer := s.client.retained snapshot.worldState }
      ⟨hemits.queued, hemits.noReset, hemits.blocks, hemits.powerUps⟩
      ⟨halone.setting, halone.respawnJoinIndex, halone.powerUps, halone.gates⟩
    exact ⟨hs'.sent, hs'.host, hs'.client, hs'.clientPredicts, hs'.sameLevel,
      hs'.distinctBlocks, hs'.hostAddressed, hs'.clientAddressed⟩

theorem Replicates.sent_cons {message : WsMessage} {rest : List WsMessage}
    (hs : s.Replicates replica pending) (hsent : s.inFlight = message :: rest) :
    ∃ e tail, pending = e :: tail ∧ message = e.message ∧ rest = tail.map GameEvent.message := by
  have hmap := hs.sent
  rw [hsent] at hmap
  cases pending with
  | nil => cases hmap
  | cons e tail => exact ⟨e, tail, rfl, (List.cons.inj hmap).1, (List.cons.inj hmap).2⟩

/-- The client after its oldest message. -/
def applyNext (s : SyncState) (message : WsMessage) (rest : List WsMessage) : SyncState :=
  { s with
    client := { s.client with engine := s.client.engine.applyMessage message }
    inFlight := rest
    broken := if message = .levelReset then [] else s.broken }

/-- A reset puts the client back on the level, without marks. -/
theorem Replicates.applyReset {tail : List GameEvent}
    (hs : s.Replicates replica (.levelReset :: tail)) :
    (s.applyNext .levelReset (tail.map GameEvent.message)).Replicates
      (replica.step s.host.level .levelReset) tail where
  sent := rfl
  host := hs.host
  client := by
    change s.client.engine.level.view = _
    rw [hs.sameLevel]
    simp [applyNext, EnvView.step, EnvView.mark, funext markBroken_nil]
  clientPredicts := hs.clientPredicts
  sameLevel := hs.sameLevel
  distinctBlocks := hs.distinctBlocks
  hostAddressed := hs.hostAddressed
  clientAddressed := GameEngine.reset_addressed (hs.sameLevel ▸ hs.distinctBlocks)

/-- Any other event commutes with the marks. -/
theorem Replicates.applyEvent {e : GameEvent} {tail : List GameEvent}
    (hs : s.Replicates replica (e :: tail)) (he : e ≠ .levelReset) :
    (s.applyNext e.message (tail.map GameEvent.message)).Replicates
      (replica.step s.host.level e) tail := by
  have hmessage : e.message ≠ .levelReset := by
    cases e with
    | levelReset => exact absurd rfl he
    | _ => exact WsMessage.noConfusion
  have hsetting := GameEngine.applyMessage_setting s.client.engine e.message
  obtain ⟨hblocks, hpowerUps⟩ := GameEngine.applyMessage_env hs.clientAddressed he
  exact
    { sent := rfl
      host := hs.host
      client := by
        change (s.client.engine.applyMessage e.message).view = _
        rw [applyNext, if_neg hmessage, ← EnvView.step_mark _ _ _ he, ← hs.client,
          EnvView.step_of_ne _ _ he]
        exact EnvView.ext hblocks hpowerUps
      clientPredicts := (congrArg (fun setting => setting.2.1) hsetting).trans hs.clientPredicts
      sameLevel := (GameEngine.level_of_setting hsetting).trans hs.sameLevel
      distinctBlocks := hs.distinctBlocks
      hostAddressed := hs.hostAddressed
      clientAddressed := GameEngine.applyMessage_addressed hs.clientAddressed he }

theorem Replicates.applied (hs : s.Replicates replica pending)
    (h : s.step .applied = .ok s') : ∃ replica' pending', s'.Replicates replica' pending' := by
  simp only [step] at h
  split at h
  case h_1 => cases h; exact ⟨replica, pending, hs⟩
  case h_2 message rest hsent =>
    cases h
    obtain ⟨e, tail, rfl, rfl, rfl⟩ := hs.sent_cons hsent
    by_cases he : e = .levelReset
    · subst he
      exact ⟨_, tail, hs.applyReset⟩
    · exact ⟨_, tail, hs.applyEvent he⟩

theorem step_replicates {action : SyncAction} (hs : s.Replicates replica pending)
    (h : s.step action = .ok s') : ∃ replica' pending', s'.Replicates replica' pending' := by
  cases action with
  | hostFrame args => exact ⟨replica, hs.hostFrame h⟩
  | hostReset => exact ⟨replica, pending, hs.hostReset h⟩
  | predicted inputState dt sentAt now => exact ⟨replica, pending, hs.predicted h⟩
  | reconciled index now => exact ⟨replica, pending, hs.reconciled h⟩
  | applied => exact hs.applied h

end

theorem run_replicates {actions : List SyncAction} {s s' : SyncState} {replica : EnvView}
    {pending : List GameEvent} (hs : s.Replicates replica pending) (h : s.run actions = .ok s') :
    ∃ replica' pending', s'.Replicates replica' pending' :=
  Fallible.foldlM_keeps (P := fun s => ∃ replica pending, Replicates s replica pending)
    (fun _ _ _ _ hP hstep => by
      obtain ⟨replica, pending, hs⟩ := hP
      exact step_replicates hs hstep) h ⟨replica, pending, hs⟩

/-- Caught up, the client shows the host's environment with its own breaks marked on top. -/
theorem caughtUp_view {s : SyncState} {replica : EnvView} {pending : List GameEvent}
    (hs : s.Replicates replica pending) (caught : s.CaughtUp) :
    s.client.engine.view = s.host.view.mark s.broken := by
  have hnil : pending = [] := by
    have hsent := hs.sent
    rw [caught.sent] at hsent
    exact List.map_eq_nil_iff.mp hsent.symm
  have hhost := hs.host
  rw [hnil, caught.queued] at hhost
  rw [hs.client, hhost]
  rfl

/-- Whenever the client has caught up, its flags and owners equal the host's exactly when every
block that its own ticks broke since its last reset is broken on the host too. -/
theorem environment_agrees_iff {s s' : SyncState} {actions : List SyncAction} (start : s.Start)
    (hrun : s.run actions = .ok s') (caught : s'.CaughtUp) :
    s'.Agree ↔ ∀ b ∈ s'.host.view.blocks, b.position ∈ s'.broken → b.destroyed = true := by
  obtain ⟨replica, pending, hs⟩ := run_replicates (start_replicates start) hrun
  have hview := caughtUp_view hs caught
  rw [Agree, hview]
  simp only [EnvView.mark, and_true, List.map_map]
  rw [List.map_inj_left]
  refine forall₂_congr fun b _ => ?_
  by_cases hmem : b.position ∈ s'.broken
  · simp only [Function.comp_apply, markBroken, hmem, true_imp_iff]
    exact eq_comm
  · simp [markBroken, hmem]

/-! ### A block that only the client breaks -/

/-- A player on the ground right under a block, on both sides. -/
def underBlock : SyncState :=
  let level : Level :=
    { platforms := [⟨0, 313, 1000, 50⟩], blocks := [{ x := 100, y := 204 }] }
  let world : WorldState :=
    { characters := Dict.ofList
        [("player-2", { playerId := "player-2", x := 100, y := 238, onGround := true })]
      environment := { destructibleBlocks := level.blocks } }
  let engine : GameEngine :=
    { worldState := world, platforms := level.platforms, worldWidth := 1000, worldHeight := 600,
      level := level }
  { host := engine
    client :=
      { engine := { engine with isAuthoritative := false }
        localPlayerId := "player-2"
        buffer := .empty 60 } }

theorem underBlock_start : underBlock.Start := by
  constructor <;> first | rfl | decide | skip
  exact ⟨by decide, by decide⟩

/-- The client predicts an input, the host ticks with what it received, the client reconciles. -/
def exchange (predicted : InputState) (received : Dict PlayerId InputState) : List SyncAction :=
  [.predicted predicted tickInterval 0 0, .hostFrame ⟨tickInterval, received, none, 0⟩,
    .reconciled 0 0]

theorem caughtUp_of_check {s : SyncState}
    (h : (s.host.events = [] ∧ s.inFlight = [] ∧ s.lastReconciled = s.published.getLast? ∧
      s.client.pendingCount = 0)) : s.CaughtUp := ⟨h.1, h.2.1, h.2.2.1, h.2.2.2⟩

/-- Standing still breaks nothing, and both sides agree. -/
theorem environment_agrees_standing :
    ∃ s', underBlock.run (exchange {} ∅) = .ok s' ∧ s'.CaughtUp ∧ s'.Agree := by
  obtain ⟨s', hrun, hcheck⟩ := Fallible.exists_of_okAnd (x := underBlock.run (exchange {} ∅))
    (p := fun s => s.broken = [] ∧ s.host.events = [] ∧ s.inFlight = [] ∧
      s.lastReconciled = s.published.getLast? ∧ s.client.pendingCount = 0) (by decide +kernel)
  obtain ⟨hbroken, hcaught⟩ := of_decide_eq_true hcheck
  have caught := caughtUp_of_check hcaught
  refine ⟨s', hrun, caught, (environment_agrees_iff underBlock_start hrun caught).mpr ?_⟩
  simp [hbroken]

/-- The client predicts a jump whose input never reaches the host. -/
theorem mispredicted_jump_diverges :
    ¬ ∀ (s s' : SyncState) (actions : List SyncAction), s.Start → s.run actions = .ok s' →
      s'.CaughtUp → s'.Agree := by
  intro agree
  obtain ⟨s', hrun, hcheck⟩ := Fallible.exists_of_okAnd
    (x := underBlock.run (exchange { jump := true } ∅))
    (p := fun s => s.client.engine.view.blocks.map DestructibleBlock.destroyed ≠
        s.host.view.blocks.map DestructibleBlock.destroyed ∧
      s.host.events = [] ∧ s.inFlight = [] ∧
      s.lastReconciled = s.published.getLast? ∧ s.client.pendingCount = 0) (by decide +kernel)
  obtain ⟨hdiffer, hcaught⟩ := of_decide_eq_true hcheck
  exact hdiffer (agree _ _ _ underBlock_start hrun (caughtUp_of_check hcaught)).1

end SyncState

end DistributedSmb
