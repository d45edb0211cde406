import DistributedSmb.Election.Effects
import DistributedSmb.Gameplay.EventRelay

/-!
# What a client does to its environment by itself

A client that stays a client changes its blocks, power-ups and gates in its own ticks, and otherwise
only as the messages of the relay and of the lobby tell it.
-/

namespace DistributedSmb

open Library

/-- What a client does by itself: no message of the lobby or of the relay, and no other host. -/
def ClientCall.IsOwn : ClientCall → Prop
  | .lobbyMessage _ | .gameEvent _ | .datagram (.ok (.election _)) => False
  | .tickElectionState foundIp => foundIp = none
  | _ => True

theorem ClientCall.IsOwn.electionMessage {call : ClientCall} (own : call.IsOwn) :
    call.electionMessage = none := by
  cases call with
  | datagram payload =>
    rcases payload with _ | (_ | _ | _ | _ | _)
    all_goals first | rfl | exact own.elim
  | gameEvent => exact own.elim
  | _ => rfl

instance ClientCall.decidableIsOwn (call : ClientCall) : Decidable call.IsOwn := by
  unfold IsOwn
  split <;> infer_instance

/-! ## Events as messages -/

theorem WsMessage.eq_message {message : WsMessage} {e : GameEvent} (h : message.event = some e) :
    message = e.message := by
  cases message <;> cases h <;> rfl

/-- The message of an event keeps the addresses. -/
theorem GameEngine.applyMessage_indexed {g : GameEngine}
    (distinct : (g.level.blocks.map DestructibleBlock.position).Nodup)
    (hg : g.worldState.environment.Indexed) (e : GameEvent) :
    (g.applyMessage e.message).worldState.environment.Indexed := by
  by_cases he : e = .levelReset
  · subst he
    exact ⟨reset_addressed distinct, gatesKeyed_ofList g.level.gates⟩
  · refine ⟨applyMessage_addressed hg.addressed he, ?_⟩
    have hlog := LogState.applyMessage_log hg.addressed rfl e
    rw [EnvLog.step_of_ne _ _ he] at hlog
    have hgates : (g.applyMessage e.message).gates = g.gates.mapWithKey e.onGate :=
      congrArg EnvLog.gates hlog
    have hreplay : g.gates.mapWithKey e.onGate = replayGates [e] g.gates :=
      Dict.ext (by simp [replayGates, Dict.mapWithKey, Library.replay])
    change GatesKeyed (g.applyMessage e.message).gates
    rw [hgates, hreplay]
    exact hg.keyed.replay [e]

namespace Node

/-- The node is a host by now, or nothing has changed in its scene. -/
def SameScene (n n' : Node) : Prop := n'.role = .host ∨ n'.scene = n.scene ∧ n'.role = n.role

theorem SameScene.trans {n n' n'' : Node} (h : n.SameScene n') (h' : n'.SameScene n'') :
    n.SameScene n'' := by
  rcases h' with hhost | ⟨hscene, hrole⟩
  · exact .inl hhost
  rcases h with hhost | ⟨hscene', hrole'⟩
  · exact .inl (hrole.trans hhost)
  · exact .inr ⟨hscene.trans hscene', hrole.trans hrole'⟩

theorem sameScene_of_eq {n n' : Node} (scene : n'.scene = n.scene) (role : n'.role = n.role) :
    n.SameScene n' := .inr ⟨scene, role⟩

theorem resendHostVerifyProbe_sameScene {n n' : Node} {now : ℚ}
    (h : n.resendHostVerifyProbe now = .ok n') : n.SameScene n' := by
  obtain ⟨probe, -, h⟩ := Fallible.bind_eq_ok.mp h
  cases h
  exact sameScene_of_eq rfl rfl

theorem promoteToHost_sameScene {n n' : Node} {now : ℚ} (h : n.promoteToHost now = .ok n') :
    n.SameScene n' := by
  rcases promoteToHost_cases h with ⟨-, rfl⟩ | ⟨-, hpromoted⟩
  · exact sameScene_of_eq rfl rfl
  · exact .inl hpromoted.role

/-- Without another host to follow, a client that stays one only watches. -/
theorem tickElectionState_sameScene {n n' : Node} {now : ℚ}
    (h : n.tickElectionState none now = .ok n') : n.SameScene n' := by
  rcases tickElectionState_cases h with ⟨rfl, -⟩ | ⟨_, _, n₁, -, -, htimeout, hrest⟩
  · exact sameScene_of_eq rfl rfl
  have hwatched : n.SameScene n₁ := by
    cases tickHostTimeout_watches htimeout with
    | rests | hears | confirms => exact sameScene_of_eq rfl rfl
    | suspects _ _ _ probe =>
      have hset : n.SameScene (n.withHostVerifyDeadline (now + hostVerifyTimeoutS)) :=
        sameScene_of_eq rfl rfl
      exact hset.trans (resendHostVerifyProbe_sameScene probe)
    | probes _ probe => exact resendHostVerifyProbe_sameScene probe
  rcases hrest with ⟨-, rfl⟩ | ⟨-, n₂, n₃, hcoordinator, hclaim, hfallback⟩
  · exact hwatched
  have hcoordinated : n₁.SameScene n₂ := by
    rcases tickCoordinator_cases hcoordinator with
      rfl | ⟨coordinator, -, -, ⟨-, rfl⟩ | ⟨-, hpromotes⟩⟩
    · exact sameScene_of_eq rfl rfl
    · exact sameScene_of_eq rfl rfl
    · have hset : n₁.SameScene (n₁.withCoordinator { coordinator with state := .claimed }) :=
        sameScene_of_eq rfl rfl
      exact hset.trans (promoteToHost_sameScene hpromotes)
  have hclaimed : n₂.SameScene n₃ := by
    rcases tickClaimDeadline_cases hclaim with rfl | ⟨-, hpromoted⟩
    · exact sameScene_of_eq rfl rfl
    · exact .inl hpromoted.role
  have hasked : n₃.SameScene n' := by
    rcases tickReconnectionFallback_cases hfallback with rfl | rfl | ⟨hfound, -⟩
    · exact sameScene_of_eq rfl rfl
    · exact sameScene_of_eq rfl rfl
    · exact absurd rfl hfound
  exact hwatched.trans (hcoordinated.trans (hclaimed.trans hasked))

/-! ## Calls -/

/-- A node that is still a client has replayed these events and queued some of them. -/
structure Predicts (n n' : Node) (events : List GameEvent) : Prop where
  role : n'.role = n.role
  log : ∀ level, n'.engine.log = n.engine.log.replay level events
  queued : n'.engine.events.drop n.engine.events.length = events
  noReset : .levelReset ∉ events
  indexed : n'.engine.worldState.environment.Indexed
  setting : n'.engine.setting = n.engine.setting

theorem predicts_of_accounts {n n' : Node} {events : List GameEvent}
    (hn : n.engine.worldState.environment.Indexed) (role : n'.role = n.role)
    (accounts : n.engine.Accounts n'.engine events) : n.Predicts n' events where
  role := role
  log := accounts.log
  queued := by rw [accounts.emits.queued, List.drop_left]
  noReset := accounts.emits.noReset
  indexed := accounts.indexed hn
  setting := accounts.setting

/-- A call in which nothing happens to the environment. -/
theorem predicts_nothing {n n' : Node} (hn : n.engine.worldState.environment.Indexed)
    (role : n'.role = n.role)
    (environment : n'.engine.worldState.environment = n.engine.worldState.environment)
    (queued : n'.engine.events.drop n.engine.events.length = [])
    (setting : n'.engine.setting = n.engine.setting) : n.Predicts n' [] where
  role := role
  log level := by
    rw [GameEngine.log_congr environment]
    rfl
  queued := queued
  noReset := List.not_mem_nil
  indexed := environment ▸ hn
  setting := setting

theorem predicts_of_scene {n n' : Node} (hn : n.engine.worldState.environment.Indexed)
    (role : n'.role = n.role) (scene : n'.scene = n.scene) : n.Predicts n' [] := by
  obtain ⟨henvironment, hscene⟩ := Prod.mk.inj scene
  obtain ⟨hqueued, hsetting⟩ := Prod.mk.inj hscene
  exact predicts_nothing hn role henvironment (by rw [hqueued, List.drop_length]) hsetting

theorem onSnapshot_predicts {n n' : Node} {snapshot : WorldStateSnapshot} {now : ℚ}
    (hn : n.engine.worldState.environment.Indexed) (h : n.onSnapshot snapshot now = .ok n') :
    ∃ events, n.Predicts n' events := by
  simp only [onSnapshot] at h
  split at h
  · cases h
    exact ⟨[], predicts_of_scene hn rfl rfl⟩
  · obtain ⟨p, hreconcile, h⟩ := Fallible.bind_eq_ok.mp h
    cases h
    obtain ⟨g, hreplay, rfl⟩ := PredictionEngine.reconcile_spec hreconcile
    -- the adopted world keeps the client's own blocks, power-ups and gates
    have hadopted : (n.prediction.adopt snapshot.worldState).worldState.environment.Indexed :=
      ⟨⟨hn.addressed.positions, hn.addressed.powerupIds⟩, hn.keyed⟩
    obtain ⟨events, haccounts⟩ := GameEngine.foldlM_accounts id
      (fun _ _ _ hg htick => GameEngine.tick_accounts hg htick) hadopted hreplay
    refine ⟨events, predicts_of_accounts hn rfl ⟨?_, haccounts.gates, haccounts.setting⟩⟩
    exact ⟨haccounts.emits.queued, haccounts.emits.noReset, haccounts.emits.blocks,
      haccounts.emits.powerUps⟩

theorem runPredictedTicks_predicts {n n' : Node} {localInput : InputState} {sentAt now : ℚ}
    (hn : n.engine.worldState.environment.Indexed)
    (h : n.runPredictedTicks localInput sentAt now = .ok n') : ∃ events, n.Predicts n' events := by
  have hrole : n'.role = n.role :=
    Fallible.foldlM_keeps (P := fun m : Node => m.role = n.role)
      (fun m _ m' _ hm hstep => by
        obtain ⟨p, -, hstep⟩ := Fallible.bind_eq_ok.mp hstep
        cases hstep
        exact hm) h rfl
  obtain ⟨events, haccounts⟩ := GameEngine.foldlM_accounts Node.engine
    (fun m _ m' hm hstep => by
      obtain ⟨p, hpredict, hstep⟩ := Fallible.bind_eq_ok.mp hstep
      cases hstep
      obtain ⟨g, htick, rfl⟩ := PredictionEngine.predictTick_spec hpredict
      exact GameEngine.tick_accounts hm htick)
    (s := { n with pendingTickAdjustment := 0 }) hn h
  exact ⟨events, predicts_of_accounts hn hrole haccounts⟩

/-- The events that a client queues in a call of its own account for what happens to its
environment, unless it becomes a host. -/
theorem clientCall_predicts {n n' : Node} {now : ℚ} {call : ClientCall} (own : call.IsOwn)
    (hn : n.engine.worldState.environment.Indexed) (h : n.clientCall now call = .ok n') :
    n'.role = .host ∨ ∃ events, n.Predicts n' events := by
  cases call with
  | ensureElectionComponents =>
    cases h
    refine .inr ⟨[], predicts_of_scene hn ?_ ?_⟩ <;>
    · unfold ensureElectionComponents
      split <;> rfl
  | lobbyMessage | gameEvent => exact own.elim
  | sendInputPacket localInput =>
    obtain ⟨packet, -, h⟩ := Fallible.bind_eq_ok.mp h
    cases h
    exact .inr ⟨[], predicts_of_scene hn rfl rfl⟩
  | runPredictedTicks localInput sentAt => exact .inr (runPredictedTicks_predicts hn h)
  | clearEvents =>
    cases h
    exact .inr ⟨[], predicts_nothing hn rfl rfl List.drop_nil rfl⟩
  | datagram payload =>
    obtain ⟨message, rfl, h⟩ := Fallible.bind_eq_ok.mp h
    cases message with
    | election message => exact own.elim
    | hostIdentityResponse response =>
      cases h
      refine .inr ⟨[], predicts_of_scene hn ?_ ?_⟩ <;>
      · unfold onHostIdentityResponse
        split
        · rfl
        · split <;> rfl
    | worldState snapshot => exact .inr (onSnapshot_predicts hn h)
    | playerInput | hostDiscoveryProbe =>
      cases h
      exact .inr ⟨[], predicts_of_scene hn rfl rfl⟩
  | tickElectionState foundIp =>
    obtain rfl := own
    exact (tickElectionState_sameScene h).imp_right fun ⟨hscene, hrole⟩ =>
      ⟨[], predicts_of_scene hn hrole hscene⟩
  | adjustPredictionLead =>
    cases h
    refine .inr ⟨[], predicts_of_scene hn ?_ ?_⟩ <;>
    · unfold adjustPredictionLead
      dsimp only
      split_ifs <;> rfl

/-- A node that stays a client was one before. -/
theorem clientCall_role {n n' : Node} {now : ℚ} {call : ClientCall} (own : call.IsOwn)
    (h : n.clientCall now call = .ok n') : n'.role = .host ∨ n'.role = n.role := by
  cases clientCall_effect h with
  | ensured =>
    right
    unfold ensureElectionComponents
    split <;> rfl
  | delivered carries =>
    rw [own.electionMessage] at carries
    cases carries
  | ticked h =>
    obtain rfl := own
    exact (tickElectionState_sameScene h).imp_right And.right
  | quiet h => exact .inr h.role

/-! ## Messages of the relay -/

/-- What is said about players does not concern the environment. -/
theorem onGameEvent_scene {n n' : Node} {now : ℚ} {message : WsMessage} (inGame : message.InGame)
    (aside : message.event = none) (h : n.onGameEvent now message = .ok n') :
    n'.role = n.role ∧ n'.scene = n.scene := by
  cases message with
  | playerLeft pid =>
    cases h
    split <;> exact ⟨rfl, rfl⟩
  | rosterUpdate roster =>
    obtain ⟨merged, rfl, -⟩ := mergeRoster_spec h
    exact ⟨rfl, rfl⟩
  | election message => exact absurd rfl (inGame message)
  | session | initialStateSync | playerDisconnected => cases h; exact ⟨rfl, rfl⟩
  | blockDestroyed | powerUpCollected | gateStateChanged | playerDeath | levelReset => cases aside

theorem onGameEvent_message {n n' : Node} {now : ℚ} {e : GameEvent}
    (h : n.onGameEvent now e.message = .ok n') :
    n'.role = n.role ∧ n'.engine = n.engine.applyMessage e.message := by
  cases e <;> cases h <;> exact ⟨rfl, rfl⟩

end Node

end DistributedSmb
