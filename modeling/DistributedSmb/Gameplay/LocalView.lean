import DistributedSmb.Gameplay.Corrections

/-!
# The local player in the view

A frame returns a view of its client. The view has the characters of the engine's world and nobody
else: the smoothing returns nothing for a missing player, so the view builder never gets to add it.
Whether the local player is there depends on what the frame has drained.
-/

namespace DistributedSmb

open Library

/-- The snapshot that reconciling this datagram takes in. -/
def acceptedSnapshot (lastSequence : ℤ) : Except PyError UdpMessage → Option WorldStateSnapshot
  | .ok (.worldState snapshot) =>
    if snapshot.sequenceNumber ≤ lastSequence then none else some snapshot
  | _ => none

/-- The snapshot that is reconciled last. -/
def lastReconciled : ℤ → List (Except PyError UdpMessage × Ip × ℕ) → Option WorldStateSnapshot
  | _, [] => none
  | lastSequence, d :: rest =>
    match acceptedSnapshot lastSequence d.1 with
    | some snapshot => some ((lastReconciled snapshot.sequenceNumber rest).getD snapshot)
    | none => lastReconciled lastSequence rest

theorem acceptedSnapshot_eq_some {lastSequence : ℤ} {payload : Except PyError UdpMessage}
    {snapshot : WorldStateSnapshot} (h : acceptedSnapshot lastSequence payload = some snapshot) :
    payload = .ok (.worldState snapshot) ∧ lastSequence < snapshot.sequenceNumber := by
  unfold acceptedSnapshot at h
  split at h
  · split at h
    · cases h
    case isFalse hnewer =>
      cases h
      exact ⟨rfl, not_le.mp hnewer⟩
  · cases h

/-- What a frame drains keeps a player in the world: the snapshot that is reconciled last has it, if
there is one, and no event reports its death. -/
def FrameInput.Keeps (f : FrameInput) (pid : PlayerId) (lastSequence : ℤ) : Prop :=
  (∀ snapshot ∈ lastReconciled lastSequence f.datagrams, pid ∈ snapshot.worldState.characters) ∧
    ∀ cause, .playerDeath pid cause ∉ f.gameEvents

namespace GameEngine

/-- Who is in the world of an engine without authority does not depend on ticks. -/
theorem stage_keys {args : TickArgs} {stage : TickStage} {g g' : GameEngine}
    (hg : g.isAuthoritative = false) (h : stage.run args g = .ok g') :
    g'.worldState.characters.keys = g.worldState.characters.keys := by
  cases stage with
  | applyInputs => cases h; exact Dict.keys_mapWithKey _ _
  | handleBlockCollisions =>
    obtain ⟨⟨blocks, characters, events⟩, hsweep, h⟩ := Fallible.bind_eq_ok.mp h
    cases h
    exact Dict.keys_sweep hsweep
  | handlePowerupCollisions | handleEnemyCollisions | handleVoidDeaths | handleVictoryCondition
  | processRespawns =>
    rw [eq_of_stage_idle hg rfl h]
  | handleGateCollisions =>
    cases h
    exact g.handleGateCollisions_sameCharacters.1
  | updateEnemies => cases h; rfl
  | syncObjectiveProgress => cases h; rfl
  | _ => cases h; exact Dict.keys_mapValues _ _

theorem tick_keys {args : TickArgs} {g g' : GameEngine} (hg : g.isAuthoritative = false)
    (h : g.tick args = .ok g') :
    g'.worldState.characters.keys = g.worldState.characters.keys := by
  unfold tick at h
  split at h
  · cases h; rfl
  · obtain ⟨g₁, hstages, h⟩ := Fallible.bind_eq_ok.mp h
    cases h
    have hkept := Fallible.foldlM_keeps
      (P := fun g₁ : GameEngine => g₁.isAuthoritative = false ∧
        g₁.worldState.characters.keys = g.worldState.characters.keys)
      (fun g₁ stage g₂ _ hP hstage =>
        ⟨(congrArg (fun s => s.2.1) (stage_evolves hstage).setting).trans hP.1,
          (stage_keys hP.1 hstage).trans hP.2⟩) hstages ⟨hg, rfl⟩
    exact hkept.2

end GameEngine

/-- Reconciling leaves the characters of the snapshot. -/
theorem PredictionEngine.reconcile_keys {p p' : PredictionEngine} {snapshot : WorldStateSnapshot}
    {now : ℚ} (hp : p.engine.isAuthoritative = false) (h : p.reconcile snapshot now = .ok p') :
    p'.engine.isAuthoritative = false ∧
      p'.engine.worldState.characters.keys = snapshot.worldState.characters.keys := by
  obtain ⟨engine, hreplay, h⟩ := Fallible.bind_eq_ok.mp h
  cases h
  exact Fallible.foldlM_keeps
    (P := fun g : GameEngine => g.isAuthoritative = false ∧
      g.worldState.characters.keys = snapshot.worldState.characters.keys)
    (fun g entry g' _ hg htick =>
      ⟨(GameEngine.tick_isAuthoritative htick).trans hg.1,
        (GameEngine.tick_keys hg.1 htick).trans hg.2⟩) hreplay ⟨hp, rfl⟩

namespace Node

/-! ## Calls without an election -/

/-- `P` holds, unless the client reconnects or is promoted on the way from `n` to `m`. -/
structure UnlessElected (n m : Node) (P : Prop) : Prop where
  reconnected : n.election.reconnected = true → m.election.reconnected = true
  promotionDone : n.election.promotionDone = true → m.election.promotionDone = true
  holds : m.election.reconnected = n.election.reconnected →
    m.election.promotionDone = n.election.promotionDone → P

theorem unlessElected_of_same {n m : Node} {P : Prop}
    (reconnected : m.election.reconnected = n.election.reconnected)
    (promotionDone : m.election.promotionDone = n.election.promotionDone) (h : P) :
    n.UnlessElected m P :=
  ⟨fun hn => reconnected.trans hn, fun hn => promotionDone.trans hn, fun _ _ => h⟩

/-- A flag that is only ever set and ends as it began has not changed in between. -/
theorem flag_between {a b c : Bool} (h : a = true → b = true) (h' : b = true → c = true)
    (same : c = a) : b = a ∧ c = b := by
  subst same
  cases b with
  | true => exact ⟨(h' rfl).symm, h' rfl⟩
  | false =>
    cases c with
    | true => exact absurd (h rfl) Bool.false_ne_true
    | false => exact ⟨rfl, rfl⟩

theorem UnlessElected.trans {n m k : Node} {P Q R : Prop} (h : n.UnlessElected m P)
    (h' : m.UnlessElected k Q) (both : P → Q → R) : n.UnlessElected k R where
  reconnected hn := h'.reconnected (h.reconnected hn)
  promotionDone hn := h'.promotionDone (h.promotionDone hn)
  holds hreconnected hpromoted := by
    obtain ⟨hfirst, hsecond⟩ := flag_between h.reconnected h'.reconnected hreconnected
    obtain ⟨hfirst', hsecond'⟩ := flag_between h.promotionDone h'.promotionDone hpromoted
    exact both (h.holds hfirst hfirst') (h'.holds hsecond hsecond')

/-- The world and what snapshots are accepted by. -/
structure Untouched (n m : Node) : Prop where
  engine : m.engine = n.engine
  lastSnapshotSequence : m.lastSnapshotSequence = n.lastSnapshotSequence
  localPlayerId : m.localPlayerId = n.localPlayerId

theorem Untouched.refl (n : Node) : n.Untouched n := ⟨rfl, rfl, rfl⟩

theorem Untouched.trans {n m k : Node} (h : n.Untouched m) (h' : m.Untouched k) : n.Untouched k :=
  ⟨h'.engine.trans h.engine, h'.lastSnapshotSequence.trans h.lastSnapshotSequence,
    h'.localPlayerId.trans h.localPlayerId⟩

/-- From `n` to `m` nothing but an election touches the world. -/
def Spared (n m : Node) : Prop := n.UnlessElected m (n.Untouched m)

theorem Spared.refl (n : Node) : n.Spared n := unlessElected_of_same rfl rfl (.refl n)

theorem Spared.trans {n m k : Node} (h : n.Spared m) (h' : m.Spared k) : n.Spared k :=
  UnlessElected.trans h h' Untouched.trans

theorem Promoted.spared {n m : Node} (waiting : n.election.promotionDone = false)
    (h : n.Promoted m) : n.Spared m where
  reconnected hn := by rw [h.election]; exact hn
  promotionDone _ := by rw [h.election]
  holds _ same := by
    rw [h.election, waiting] at same
    exact absurd same.symm Bool.false_ne_true

theorem promoteToHost_spared {n m : Node} {now : ℚ} (h : n.promoteToHost now = .ok m) :
    n.Spared m := by
  rcases promoteToHost_cases h with ⟨-, rfl⟩ | ⟨waiting, promoted⟩
  · exact .refl m
  · exact promoted.spared waiting

theorem onReconnectionAck_spared (n : Node) (ack : ReconnectionAck) :
    n.Spared (n.onReconnectionAck ack) := by
  rcases onReconnectionAck_cases n ack with ⟨same, -⟩ | ⟨hopen, -, reset⟩
  · rw [same]
    exact .refl n
  refine ⟨fun _ => ?_, fun hn => ?_, fun same _ => ?_⟩
  · rw [reset.election, rearmed]
  · rw [reset.election]
    exact hn
  · rw [reset.election, rearmed, hopen] at same
    exact absurd same.symm Bool.false_ne_true

theorem withPendingAcks_spared (n : Node) (pending : List Ip) :
    n.Spared (n.withPendingAcks pending) := unlessElected_of_same rfl rfl ⟨rfl, rfl, rfl⟩

theorem onElectionMessage_spared {n m : Node} {now : ℚ} {message : ElectionMessage}
    (h : n.onElectionMessage now message = .ok m) : n.Spared m := by
  cases message with
  | newHostClaim claim =>
    rcases onNewHostClaim_cases h with ⟨rfl, -⟩ | ⟨coordinator, -, -, rfl⟩
    · exact .refl m
    · exact unlessElected_of_same rfl rfl ⟨rfl, rfl, rfl⟩
  | electionAck ack =>
    rcases onElectionAck_cases h with rfl | ⟨waiting, -, ⟨rfl, -⟩ | ⟨-, promoted⟩⟩
    · exact .refl m
    · exact withPendingAcks_spared n _
    · exact (withPendingAcks_spared n []).trans (promoted.spared waiting)
  | reconnectionAck ack =>
    cases h
    exact onReconnectionAck_spared n ack

theorem resendHostVerifyProbe_spared {n m : Node} {now : ℚ}
    (h : n.resendHostVerifyProbe now = .ok m) : n.Spared m := by
  obtain ⟨probe, -, h⟩ := Fallible.bind_eq_ok.mp h
  cases h
  exact unlessElected_of_same rfl rfl ⟨rfl, rfl, rfl⟩

theorem tickHostTimeout_spared {n m : Node} {coordinator : ElectionCoordinator}
    {watcher : HostTimeoutWatcher} {now : ℚ}
    (h : n.tickHostTimeout coordinator watcher now = .ok m) : n.Spared m := by
  cases tickHostTimeout_watches h with
  | rests => exact .refl n
  | suspects _ _ _ probe =>
    have hset : n.Spared (n.withHostVerifyDeadline (now + hostVerifyTimeoutS)) :=
      unlessElected_of_same rfl rfl ⟨rfl, rfl, rfl⟩
    exact hset.trans (resendHostVerifyProbe_spared probe)
  | hears => exact unlessElected_of_same rfl rfl ⟨rfl, rfl, rfl⟩
  | confirms => exact unlessElected_of_same rfl rfl ⟨rfl, rfl, rfl⟩
  | probes _ probe => exact resendHostVerifyProbe_spared probe

theorem tickCoordinator_spared {n m : Node} {now : ℚ} (h : n.tickCoordinator now = .ok m) :
    n.Spared m := by
  rcases tickCoordinator_cases h with rfl | ⟨c, -, -, ⟨-, rfl⟩ | ⟨-, hpromote⟩⟩
  · exact .refl m
  · exact unlessElected_of_same rfl rfl ⟨rfl, rfl, rfl⟩
  · have hclaimed : n.Spared (n.withCoordinator { c with state := .claimed }) :=
      unlessElected_of_same rfl rfl ⟨rfl, rfl, rfl⟩
    exact hclaimed.trans (promoteToHost_spared hpromote)

theorem tickElectionState_spared {n m : Node} {foundIp : Option Ip} {now : ℚ}
    (h : n.tickElectionState foundIp now = .ok m) : n.Spared m := by
  rcases tickElectionState_cases h with ⟨rfl, -⟩ | ⟨_, _, n₁, -, -, htimeout, hrest⟩
  · exact .refl m
  have hwatched := tickHostTimeout_spared htimeout
  rcases hrest with ⟨-, rfl⟩ | ⟨-, n₂, n₃, helect, hdeadline, hfallback⟩
  · exact hwatched
  have hclaim : n₂.Spared n₃ := by
    rcases tickClaimDeadline_cases hdeadline with rfl | ⟨expired, promoted⟩
    · exact .refl n₃
    · exact (withPendingAcks_spared n₂ []).trans (promoted.spared expired.1)
  have hfound : n₃.Spared m := by
    have same (since : ℚ) (following : Option Ip) : n₃.Spared (n₃.withFollowing since following) :=
      unlessElected_of_same rfl rfl ⟨rfl, rfl, rfl⟩
    obtain rfl | rfl | ⟨-, ack, rfl⟩ := tickReconnectionFallback_cases hfallback
    · exact .refl m
    · exact same _ _
    · exact (same _ _).trans (onReconnectionAck_spared _ ack)
  exact ((hwatched.trans (tickCoordinator_spared helect)).trans hclaim).trans hfound

theorem adjustPredictionLead_spared (n : Node) : n.Spared n.adjustPredictionLead := by
  have quiet := n.adjustPredictionLead_quiet
  refine unlessElected_of_same quiet.reconnected quiet.promotionDone ?_
  constructor <;> simp only [adjustPredictionLead] <;> split_ifs <;> rfl

/-! ## The local player during the drains -/

def InWorld (n : Node) : Prop := n.localPlayerId ∈ n.engine.worldState.characters

/-- The same client without authority, whose player is in the world under this condition. -/
structure Sees (n m : Node) (present : Prop) : Prop where
  predicts : m.engine.isAuthoritative = false
  localPlayerId : m.localPlayerId = n.localPlayerId
  present : m.InWorld ↔ present

theorem Untouched.sees {n m : Node} (h : n.Untouched m) (hn : n.engine.isAuthoritative = false) :
    n.Sees m n.InWorld :=
  ⟨h.engine ▸ hn, h.localPlayerId, by rw [InWorld, h.engine, h.localPlayerId, InWorld]⟩

theorem Sees.trans {n m k : Node} {P Q : Prop} (h : n.Sees m P) (h' : m.Sees k Q) : n.Sees k Q :=
  ⟨h'.predicts, h'.localPlayerId.trans h.localPlayerId, h'.present⟩

theorem Sees.imp {n m : Node} {P Q : Prop} (h : n.Sees m P) (same : P ↔ Q) : n.Sees m Q :=
  ⟨h.predicts, h.localPlayerId, h.present.trans same⟩

theorem onDatagram_refused {n m : Node} {payload : Except PyError UdpMessage} {now : ℚ}
    (refused : acceptedSnapshot n.lastSnapshotSequence payload = none)
    (h : n.onDatagram payload now = .ok m) : n.Spared m := by
  obtain ⟨message, rfl, h⟩ := Fallible.bind_eq_ok.mp h
  cases message with
  | election message => exact onElectionMessage_spared h
  | hostIdentityResponse response =>
    cases h
    have quiet := onHostIdentityResponse_quiet n response now
    refine unlessElected_of_same quiet.reconnected quiet.promotionDone ?_
    unfold onHostIdentityResponse
    split
    · exact .refl n
    · split <;> exact ⟨rfl, rfl, rfl⟩
  | worldState snapshot =>
    replace h : n.onSnapshot snapshot now = .ok m := h
    unfold onSnapshot at h
    split at h
    case isTrue => cases h; exact .refl n
    case isFalse hnewer => simp [acceptedSnapshot, hnewer] at refused
  | playerInput _ | hostDiscoveryProbe _ => cases h; exact .refl n

theorem onDatagram_accepted {n m : Node} {payload : Except PyError UdpMessage} {now : ℚ}
    {snapshot : WorldStateSnapshot} (hn : n.engine.isAuthoritative = false)
    (accepted : acceptedSnapshot n.lastSnapshotSequence payload = some snapshot)
    (h : n.onDatagram payload now = .ok m) :
    m.lastSnapshotSequence = snapshot.sequenceNumber ∧
      n.Sees m (n.localPlayerId ∈ snapshot.worldState.characters) := by
  obtain ⟨rfl, hnewer⟩ := acceptedSnapshot_eq_some accepted
  obtain ⟨_, hmessage, h⟩ := Fallible.bind_eq_ok.mp h
  cases hmessage
  replace h : n.onSnapshot snapshot now = .ok m := h
  rw [onSnapshot, if_neg (not_le.mpr hnewer)] at h
  obtain ⟨p, hreconcile, h⟩ := Fallible.bind_eq_ok.mp h
  cases h
  obtain ⟨hauthority, hkeys⟩ := PredictionEngine.reconcile_keys (p := n.prediction) hn hreconcile
  refine ⟨rfl, hauthority, rfl, ?_⟩
  rw [Dict.mem_iff, ← hkeys, ← Dict.mem_iff]
  rfl

/-- Reconciling the snapshots leaves the characters of the last one. -/
theorem datagrams_see {n m : Node} {now : ℚ}
    {datagrams : List (Except PyError UdpMessage × Ip × ℕ)}
    (h : n.runClient now (datagrams.map fun d => .datagram d.1) = .ok m) :
    n.UnlessElected m (n.engine.isAuthoritative = false →
      n.Sees m ((lastReconciled n.lastSnapshotSequence datagrams).elim n.InWorld
        fun snapshot => n.localPlayerId ∈ snapshot.worldState.characters)) := by
  induction datagrams generalizing n with
  | nil =>
    cases h
    exact unlessElected_of_same rfl rfl fun hn => (Untouched.refl _).sees hn
  | cons d rest ih =>
    rw [List.map_cons, runClient, List.foldlM_cons] at h
    obtain ⟨m₁, hcall, h⟩ := Fallible.bind_eq_ok.mp h
    have hrest := ih h
    cases hd : acceptedSnapshot n.lastSnapshotSequence d.1 with
    | none =>
      refine UnlessElected.trans (onDatagram_refused hd hcall) hrest fun untouched hsees hn => ?_
      have hfirst := untouched.sees hn
      refine (hfirst.trans (hsees hfirst.predicts)).imp ?_
      simp only [lastReconciled, hd, untouched.lastSnapshotSequence, untouched.localPlayerId]
      rw [propext hfirst.present]
    | some snapshot =>
      obtain ⟨hpayload, -⟩ := acceptedSnapshot_eq_some hd
      have quiet : n.Quiet none m₁ := by
        rw [clientCall, hpayload] at hcall
        exact onSnapshot_quiet hcall
      have hfirst : n.UnlessElected m₁ (n.engine.isAuthoritative = false → _) :=
        unlessElected_of_same quiet.reconnected quiet.promotionDone fun hn =>
          onDatagram_accepted hn hd hcall
      refine hfirst.trans hrest fun hfirst hsees hn => ?_
      obtain ⟨hlast, hfirst⟩ := hfirst hn
      refine (hfirst.trans (hsees hfirst.predicts)).imp ?_
      simp only [lastReconciled, hd, hlast, hfirst.localPlayerId]
      cases lastReconciled snapshot.sequenceNumber rest with
      | none => exact hfirst.present
      | some last => exact Iff.rfl

theorem onGameEvent_sees {n m : Node} {message : WsMessage} {now : ℚ}
    (h : n.onGameEvent now message = .ok m) :
    n.UnlessElected m (n.engine.isAuthoritative = false →
      n.Sees m (n.InWorld ∧ ∀ cause, message ≠ .playerDeath n.localPlayerId cause)) := by
  have alive {m : Node} (hm : ∀ cause, message ≠ .playerDeath n.localPlayerId cause)
      (h : n.Sees m n.InWorld) :
      n.Sees m (n.InWorld ∧ ∀ cause, message ≠ .playerDeath n.localPlayerId cause) :=
    h.imp (and_iff_left hm).symm
  cases message with
  | playerLeft pid =>
    cases h
    split
    · exact unlessElected_of_same rfl rfl fun hn => alive (by simp) ((Untouched.refl n).sees hn)
    case isFalse hne =>
      refine unlessElected_of_same rfl rfl fun hn => alive (by simp) ⟨hn, rfl, ?_⟩
      exact Dict.mem_erase.trans (and_iff_left (Ne.symm hne))
  | rosterUpdate roster =>
    obtain ⟨merged, rfl, -, -⟩ := mergeRoster_spec h
    exact unlessElected_of_same rfl rfl fun hn => alive (by simp) ⟨hn, rfl, Iff.rfl⟩
  | election message =>
    have spared := onElectionMessage_spared h
    exact ⟨spared.reconnected, spared.promotionDone, fun hreconnected hpromoted hn =>
      alive (by simp) ((spared.holds hreconnected hpromoted).sees hn)⟩
  | levelReset =>
    cases h
    refine unlessElected_of_same rfl rfl fun hn => alive (by simp) ⟨hn, rfl, ?_⟩
    exact Dict.mem_mapWithKey
  | playerDeath pid cause =>
    cases h
    refine unlessElected_of_same rfl rfl fun hn => ⟨hn, rfl, ?_⟩
    change n.localPlayerId ∈ n.engine.worldState.characters.erase pid ↔ _
    simp [InWorld, eq_comm]
  | _ =>
    cases h
    exact unlessElected_of_same rfl rfl fun hn => alive (by simp) ⟨hn, rfl, Iff.rfl⟩

/-- Only a death among the events takes the local player out. -/
theorem gameEvents_see {n m : Node} {now : ℚ} {messages : List WsMessage}
    (h : n.runClient now (messages.map .gameEvent) = .ok m) :
    n.UnlessElected m (n.engine.isAuthoritative = false →
      n.Sees m (n.InWorld ∧ ∀ cause, .playerDeath n.localPlayerId cause ∉ messages)) := by
  induction messages generalizing n with
  | nil =>
    cases h
    exact unlessElected_of_same rfl rfl fun hn => ((Untouched.refl _).sees hn).imp (by simp)
  | cons message rest ih =>
    rw [List.map_cons, runClient, List.foldlM_cons] at h
    obtain ⟨m₁, hcall, h⟩ := Fallible.bind_eq_ok.mp h
    refine (onGameEvent_sees hcall).trans (ih h) fun hfirst hsees hn => ?_
    have hfirst := hfirst hn
    refine (hfirst.trans (hsees hfirst.predicts)).imp ?_
    rw [hfirst.present, hfirst.localPlayerId, and_assoc, ← forall_and]
    refine and_congr_right fun _ => forall_congr' fun cause => ?_
    rw [List.mem_cons, not_or, ne_comm, ne_eq]

theorem drainFrame_sees {n m : Node} {f : FrameInput} (h : n.drainFrame f = .ok m) :
    n.UnlessElected m (n.engine.isAuthoritative = false → n.InWorld →
      n.Sees m (f.Keeps n.localPlayerId n.lastSnapshotSequence)) := by
  have hcalls : f.drainCalls = .clearEvents :: (f.datagrams.map fun d => .datagram d.1) ++
      (f.gameEvents.map .gameEvent ++ [.tickElectionState f.foundIp, .adjustPredictionLead]) := by
    simp [FrameInput.drainCalls, lateCalls]
  rw [drainFrame, hcalls, runClient_append] at h
  obtain ⟨m₁, hdatagrams, h⟩ := h
  obtain ⟨m₂, hevents, h⟩ := runClient_append.mp h
  have hrest : m₂.Spared m := by
    rw [runClient, List.foldlM_cons] at h
    obtain ⟨m₃, htick, h⟩ := Fallible.bind_eq_ok.mp h
    cases h
    exact (tickElectionState_spared htick).trans m₃.adjustPredictionLead_spared
  have hcleared : n.UnlessElected n.clearEvents True := unlessElected_of_same rfl rfl trivial
  have hsnapshots := hcleared.trans (datagrams_see (n := n.clearEvents) hdatagrams) fun _ h => h
  refine (hsnapshots.trans (gameEvents_see hevents) fun h h' => And.intro h h').trans hrest ?_
  rintro ⟨hsnapshots, hevents⟩ untouched hn hin
  have hstart : n.Sees n.clearEvents n.InWorld := ⟨hn, rfl, Iff.rfl⟩
  have hfirst := hstart.trans (hsnapshots hn)
  have hsecond := hevents hfirst.predicts
  refine ((hfirst.trans hsecond).trans (untouched.sees hsecond.predicts)).imp ?_
  rw [hsecond.present, hfirst.present, hfirst.localPlayerId, FrameInput.Keeps]
  refine and_congr_left fun _ => ?_
  cases hlast : lastReconciled n.lastSnapshotSequence f.datagrams with
  | none => simpa [clearEvents, hlast, InWorld] using hin
  | some snapshot => simp [clearEvents, hlast]

/-! ## The view of a frame -/

theorem processClientFrame_view {n : Node} {f : FrameInput}
    {shadowCopies : Dict PlayerId ShadowCopy} {displayedAt : ℚ} {r : ClientFrame}
    (h : n.processClientFrame f shadowCopies displayedAt = .ok r) (pid : PlayerId) :
    pid ∈ r.view.characters ↔ pid ∈ r.node.engine.worldState.characters := by
  obtain ⟨_, drained, -, -, -, hsmooth, hview⟩ := processClientFrame_spec h
  obtain ⟨⟨offset, hnode⟩, hsome⟩ := drained.smoothedLocalVisualState_spec r.preReconcilePos
  rw [hsmooth] at hnode hsome
  replace hnode : r.node = { drained with visualCorrectionOffset := offset } := hnode
  rw [mem_buildVisualWorldState hview, or_iff_left_iff_imp]
  rintro ⟨rfl, hshown, -⟩
  rw [hnode]
  exact hsome.mp hshown

/-- The view of a client has its player if and only if the engine's world still has it after the
drains. In a frame without a reconnection or a promotion that depends on what is drained: the
snapshot that is reconciled last has the player, if there is one, and no event reports its death. -/
theorem local_player_shown_iff {n predicted : Node} {f : FrameInput}
    {shadowCopies : Dict PlayerId ShadowCopy} {displayedAt : ℚ} {r : ClientFrame}
    (hpredict : n.predictFrame f = .ok predicted)
    (h : n.processClientFrame f shadowCopies displayedAt = .ok r)
    (there : predicted.localPlayerId ∈ predicted.engine.worldState.characters) :
    (r.node.localPlayerId ∈ r.view.characters ↔
      r.node.localPlayerId ∈ r.node.engine.worldState.characters) ∧
    (predicted.engine.isAuthoritative = false →
      r.node.election.reconnected = predicted.election.reconnected →
      r.node.election.promotionDone = predicted.election.promotionDone →
      (r.node.localPlayerId ∈ r.view.characters ↔
        f.Keeps predicted.localPlayerId predicted.lastSnapshotSequence)) := by
  have hview := processClientFrame_view h r.node.localPlayerId
  refine ⟨hview, fun hclient hreconnected hpromoted => ?_⟩
  obtain ⟨_, drained, hpredict', -, hdrain, hsmooth, -⟩ := processClientFrame_spec h
  obtain rfl := Except.ok.inj (hpredict.symm.trans hpredict')
  obtain ⟨⟨offset, hnode⟩, -⟩ := drained.smoothedLocalVisualState_spec r.preReconcilePos
  rw [hsmooth] at hnode
  replace hnode : r.node = { drained with visualCorrectionOffset := offset } := hnode
  rw [hnode] at hview hreconnected hpromoted ⊢
  exact hview.trans ((drainFrame_sees hdrain).holds hreconnected hpromoted hclient there).present

theorem corrected_client_shown : ∃ (predicted : Node) (r : ClientFrame),
    standingClient.predictFrame correctingFrame = .ok predicted ∧
    standingClient.processClientFrame correctingFrame ∅ 0 = .ok r ∧
      (r.node.localPlayerId ∈ r.view.characters ↔
        correctingFrame.Keeps predicted.localPlayerId predicted.lastSnapshotSequence) := by
  obtain ⟨predicted, hpredict, hcheck⟩ := Fallible.exists_of_okAnd
    (x := standingClient.predictFrame correctingFrame)
    (p := fun predicted =>
      decide (predicted.localPlayerId ∈ predicted.engine.worldState.characters ∧
        predicted.engine.isAuthoritative = false ∧ predicted.election.reconnected = false ∧
        predicted.election.promotionDone = false) &&
      Fallible.okAnd (standingClient.processClientFrame correctingFrame ∅ 0) fun r =>
        decide (r.node.election.reconnected = false ∧ r.node.election.promotionDone = false))
    (by decide +kernel)
  rw [Bool.and_eq_true] at hcheck
  obtain ⟨there, hclient, hbefore, hbefore'⟩ := of_decide_eq_true hcheck.1
  obtain ⟨r, hframe, hflags⟩ := Fallible.exists_of_okAnd hcheck.2
  obtain ⟨hafter, hafter'⟩ := of_decide_eq_true hflags
  exact ⟨predicted, r, hpredict, hframe, (local_player_shown_iff hpredict hframe there).2 hclient
    (hafter.trans hbefore.symm) (hafter'.trans hbefore'.symm)⟩

/-- A snapshot in which the local player is neither alive nor dead. -/
def droppingFrame : FrameInput where
  now := 0
  datagrams :=
    [(.ok (.worldState { sequenceNumber := 1, worldState := { sequenceNumber := 1 } }), "10.0.0.1",
      hostUdpPort)]

/-- A living player that a reconciliation drops is not in the view. -/
theorem dropped_player_hidden : ¬ ∀ (n predicted : Node) (f : FrameInput)
    (shadowCopies : Dict PlayerId ShadowCopy) (displayedAt : ℚ) (r : ClientFrame),
    n.role = .client → n.predictFrame f = .ok predicted →
    n.processClientFrame f shadowCopies displayedAt = .ok r →
    predicted.localPlayerId ∈ predicted.engine.worldState.characters →
    r.node.localPlayerId ∉ r.node.engine.worldState.respawnTimers →
    r.node.localPlayerId ∈ r.view.characters := by
  intro hall
  obtain ⟨predicted, hpredict, hcheck⟩ := Fallible.exists_of_okAnd
    (x := standingClient.predictFrame droppingFrame)
    (p := fun predicted =>
      decide (predicted.localPlayerId ∈ predicted.engine.worldState.characters) &&
      Fallible.okAnd (standingClient.processClientFrame droppingFrame ∅ 0) fun r =>
        decide (r.node.localPlayerId ∉ r.node.engine.worldState.respawnTimers ∧
          r.node.localPlayerId ∉ r.view.characters))
    (by decide +kernel)
  rw [Bool.and_eq_true] at hcheck
  obtain ⟨r, hframe, halive⟩ := Fallible.exists_of_okAnd hcheck.2
  obtain ⟨alive, hidden⟩ := of_decide_eq_true halive
  exact hidden (hall _ _ _ _ _ _ rfl hpredict hframe (of_decide_eq_true hcheck.1) alive)

end Node

end DistributedSmb
