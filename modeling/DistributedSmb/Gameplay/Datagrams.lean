import DistributedSmb.Domain.Enemies
import DistributedSmb.Election.Cluster
import DistributedSmb.Network.DecodeErrors

/-!
# Draining the socket

The loops of `_drain_remote_input_packets` and `_drain_snapshot_packets` over the bytes that wait in
the socket. Neither loop catches what the decoder raises.
-/

namespace DistributedSmb

open Library Fallible

/-- A packet of the socket's queue, with the clock at which it is handled. -/
structure Datagram where
  payload : ByteArray
  host : Ip
  port : ℕ
  now : ℚ

section
variable (text : JsonText) (py : Runtime)

namespace Datagram

/-- The decoder returns a message. -/
def decodes (d : Datagram) : Bool := (text.decodeMessage py d.payload).isOk

/-- A probe for this session, which a host answers. -/
def Probes (sessionId : String) (d : Datagram) : Prop :=
  ∃ requesterIp, text.decodeMessage py d.payload =
    .ok (some (.hostDiscoveryProbe ⟨sessionId, requesterIp⟩))

/-- If the datagram is a snapshot, its attributes are of the declared types and its enemies are
stored under their own ids. -/
def WellFormed (d : Datagram) : Prop :=
  ∀ decoded, text.decodeMessage py d.payload = .ok decoded →
    ∃ m, decoded = some m ∧
      ∀ snapshot, m = .worldState snapshot → snapshot.worldState.environment.EnemiesKeyed

end Datagram

namespace Node

/-- A host ignores every snapshot, also one whose attributes are not of the declared types. -/
def receiveRemoteInput (n : Node) (d : Datagram) : Except PyError Node := do
  match ← text.decodeMessage py d.payload with
  | some m => n.onRemoteInput (.ok m) d.host d.port d.now
  | none => .ok n

def drainRemoteInputPackets (n : Node) (queue : List Datagram) : Except PyError Node :=
  queue.foldlM (receiveRemoteInput text py) n

variable (untyped : Node → Datagram → Except PyError Node)

/-- What a snapshot does whose attributes are not of the declared types is left open. -/
def receiveSnapshot (n : Node) (d : Datagram) : Except PyError Node := do
  match ← text.decodeMessage py d.payload with
  | some m => n.onDatagram (.ok m) d.now
  | none => untyped n d

def drainSnapshotPackets (n : Node) (queue : List Datagram) : Except PyError Node :=
  queue.foldlM (receiveSnapshot text py untyped) n

end Node

/-! ## The decoder -/

variable {text py}

theorem Datagram.decodes_iff {d : Datagram} :
    d.decodes text py = true ↔ ∃ decoded, text.decodeMessage py d.payload = .ok decoded := by
  rw [Datagram.decodes]
  cases text.decodeMessage py d.payload <;> simp [Except.isOk, Except.toBool]

theorem decodes_of_bind {β : Type} {d : Datagram}
    {rest : Option UdpMessage → Except PyError β} {b : β}
    (h : text.decodeMessage py d.payload >>= rest = .ok b) : d.decodes text py = true := by
  obtain ⟨decoded, hdecoded, -⟩ := bind_eq_ok.mp h
  exact Datagram.decodes_iff.mpr ⟨decoded, hdecoded⟩

theorem builtUdp_postInit {m m' : UdpMessage} (h : builtUdp m = .ok (some m')) :
    m'.postInit = .ok () := by
  obtain ⟨_, hpost, h⟩ := bind_eq_ok.mp h
  cases h
  exact hpost

/-- Whatever is decoded has passed the check of its class. -/
theorem decodeUdp_postInit {data : Dict String Json} {m : UdpMessage}
    (h : decodeUdp py data = .ok (some m)) : m.postInit = .ok () := by
  unfold decodeUdp at h
  dsimp only at h
  split at h
  case h_1 =>
    obtain ⟨_, -, h⟩ := bind_eq_ok.mp h
    obtain ⟨_, -, h⟩ := bind_eq_ok.mp h
    exact builtUdp_postInit h
  case h_2 =>
    obtain ⟨_, -, h⟩ := bind_eq_ok.mp h
    obtain ⟨w, -, h⟩ := bind_eq_ok.mp h
    obtain ⟨w, -, rfl⟩ := Option.map_eq_some_iff.mp (Except.ok.inj h)
    rfl
  case h_8 => cases h
  all_goals
    obtain ⟨_, -, h⟩ := bind_eq_ok.mp h
    exact builtUdp_postInit h

theorem JsonText.decodeMessage_postInit {payload : ByteArray} {m : UdpMessage}
    (h : text.decodeMessage py payload = .ok (some m)) : m.postInit = .ok () := by
  obtain ⟨document, -, h⟩ := bind_eq_ok.mp h
  unfold DistributedSmb.decodeMessage at h
  split at h
  · exact decodeUdp_postInit h
  · cases h

end

/-! ## Handlers that do not raise -/

theorem ElectionAck.checked_succeeds {ip : Ip} {sessionId : String} (hip : ip ≠ "")
    (hsession : sessionId ≠ "") : ElectionAck.checked ⟨ip, sessionId⟩ = .ok ⟨ip, sessionId⟩ := by
  simp only [checked, requireText_succeeds _ hip, requireText_succeeds _ hsession, ok_bind]

theorem ReconnectionAck.checked_succeeds {ip : Ip} {sessionId : String} (hip : ip ≠ "")
    (hsession : sessionId ≠ "") :
    ReconnectionAck.checked ⟨ip, hostUdpPort, gameEventWsPort, sessionId⟩ =
      .ok ⟨ip, hostUdpPort, gameEventWsPort, sessionId⟩ := by
  have hudp (message : String) : requirePort message hostUdpPort = .ok () := if_pos (by decide)
  have hevents (message : String) : requirePort message gameEventWsPort = .ok () :=
    if_pos (by decide)
  simp only [checked, requireText_succeeds _ hip, hudp, hevents, requireText_succeeds _ hsession,
    ok_bind]

/-- The replay starts from the enemies of the snapshot, on an authoritative engine too. -/
theorem PredictionEngine.reconcile_succeeds_of_keyed {snapshot : WorldStateSnapshot}
    (p : PredictionEngine) (now : ℚ) (keyed : snapshot.worldState.environment.EnemiesKeyed) :
    ∃ p', p.reconcile snapshot now = .ok p' := by
  obtain ⟨g, hg, -⟩ := foldlM_succeeds (P := GameEngine.EnemiesKeyed)
    (f := fun (g : GameEngine) (entry : InputHistoryEntry) =>
      g.tick (tickArgs p.localPlayerId entry.inputState entry.dt now))
    (l := (p.retained snapshot.worldState).entries)
    (fun g entry _ hg => GameEngine.tick_succeeds_of_keyed _ hg)
    (s := p.adopt snapshot.worldState) keyed
  exact ⟨_, by rw [reconcile]; simp only [replayPending, hg, ok_bind]; rfl⟩

namespace Node

section
variable {n : Node} (hip : n.localIp ≠ "") (hsession : n.sessionId ≠ "")
include hip hsession

theorem announcePromotion_succeeds : ∃ n', n.announcePromotion = .ok n' := by
  unfold announcePromotion
  split
  · exact ⟨n, rfl⟩
  · rw [ReconnectionAck.checked_succeeds hip hsession]
    exact ⟨_, rfl⟩

theorem promoteToHost_succeeds (now : ℚ) : ∃ n', n.promoteToHost now = .ok n' := by
  have hframe : n.assumeHostRole.frame = n.takeAuthority.frame :=
    (evictHost_frame _).trans (restoreWorld_frame _)
  simp only [frame, identity, Prod.mk.injEq] at hframe
  obtain ⟨-, ⟨-, hip', hsession', -⟩, -⟩ := hframe
  unfold promoteToHost
  split
  · exact ⟨n, rfl⟩
  · obtain ⟨n', h⟩ := announcePromotion_succeeds (n := n.assumeHostRole)
      (hip'.trans_ne hip) (hsession'.trans_ne hsession)
    exact ⟨_, by rw [h, ok_bind]⟩

theorem onNewHostClaim_succeeds (msg : NewHostClaim) (now : ℚ) :
    ∃ n', n.onNewHostClaim msg now = .ok n' := by
  unfold onNewHostClaim
  split
  · exact ⟨n, rfl⟩
  split
  · exact ⟨n, rfl⟩
  split
  · dsimp only
    rw [ElectionAck.checked_succeeds, ok_bind]
    · exact ⟨_, rfl⟩
    · exact hip
    · exact hsession
  · exact ⟨n, rfl⟩

theorem onElectionAck_succeeds (msg : ElectionAck) (now : ℚ) :
    ∃ n', n.onElectionAck msg now = .ok n' := by
  unfold onElectionAck
  split
  · exact ⟨n, rfl⟩
  split
  · exact ⟨n, rfl⟩
  dsimp only
  generalize n.election.pendingElectionAcks.filter (· ≠ msg.fromIp) = pending
  split
  · exact promoteToHost_succeeds (n := n.withPendingAcks pending) hip hsession now
  · exact ⟨_, rfl⟩

end

theorem onSnapshot_succeeds {snapshot : WorldStateSnapshot} (n : Node) (now : ℚ)
    (keyed : snapshot.worldState.environment.EnemiesKeyed) :
    ∃ n', n.onSnapshot snapshot now = .ok n' := by
  unfold onSnapshot
  split
  · exact ⟨n, rfl⟩
  · obtain ⟨p, hp⟩ := PredictionEngine.reconcile_succeeds_of_keyed n.prediction now keyed
    exact ⟨_, by rw [hp, ok_bind]⟩

theorem onDatagram_succeeds {n : Node} {m : UdpMessage} (hip : n.localIp ≠ "")
    (hsession : n.sessionId ≠ "")
    (keyed : ∀ snapshot, m = .worldState snapshot → snapshot.worldState.environment.EnemiesKeyed)
    (now : ℚ) : ∃ n', n.onDatagram (.ok m) now = .ok n' := by
  cases m with
  | playerInput packet => exact ⟨n, rfl⟩
  | worldState snapshot => exact onSnapshot_succeeds n now (keyed snapshot rfl)
  | hostDiscoveryProbe probe => exact ⟨n, rfl⟩
  | hostIdentityResponse response => exact ⟨_, rfl⟩
  | election message =>
    cases message with
    | newHostClaim claim => exact onNewHostClaim_succeeds hip hsession claim now
    | electionAck ack => exact onElectionAck_succeeds hip hsession ack now
    | reconnectionAck ack => exact ⟨_, rfl⟩

theorem onDatagram_names {n n' : Node} {m : UdpMessage} {now : ℚ}
    (h : n.onDatagram (.ok m) now = .ok n') : n'.names = n.names :=
  step_names (c := ⟨now, .client (.datagram (.ok m))⟩) h

/-- A host answers a probe in its own name, so it must have one. -/
theorem onRemoteInput_succeeds_iff {n : Node} {m : UdpMessage} {host : Ip} {port : ℕ} {now : ℚ}
    (hpost : m.postInit = .ok ()) :
    (∃ n', n.onRemoteInput (.ok m) host port now = .ok n') ↔
      ∀ probe, m = .hostDiscoveryProbe probe → probe.sessionId = n.sessionId → n.localIp ≠ "" := by
  cases m with
  | hostDiscoveryProbe probe =>
    have hprobe : probe.sessionId ≠ "" := by
      intro hempty
      simp [UdpMessage.postInit, HostDiscoveryProbe.checked, requireText, hempty] at hpost
    by_cases hsession : probe.sessionId = n.sessionId
    · by_cases hip : n.localIp = "" <;>
        simp [onRemoteInput, HostIdentityResponse.checked, requireText, hsession, hip,
          hsession ▸ hprobe]
    · simp [onRemoteInput, hsession]
  | playerInput packet =>
    simp only [onRemoteInput, ok_bind, reduceCtorEq, IsEmpty.forall_iff, implies_true, iff_true]
    split <;> exact ⟨_, rfl⟩
  | _ => simp [onRemoteInput]

theorem onRemoteInput_names {n n' : Node} {m : UdpMessage} {host : Ip} {port : ℕ} {now : ℚ}
    (h : n.onRemoteInput (.ok m) host port now = .ok n') : n'.names = n.names :=
  step_names (c := ⟨now, .host (.remoteInput (.ok m) host port)⟩) h

/-! ## The loops -/

section
variable {text : JsonText} {py : Runtime} {untyped : Node → Datagram → Except PyError Node}

theorem receiveRemoteInput_decodes {n n' : Node} {d : Datagram}
    (h : n.receiveRemoteInput text py d = .ok n') : d.decodes text py = true := decodes_of_bind h

theorem receiveSnapshot_decodes {n n' : Node} {d : Datagram}
    (h : n.receiveSnapshot text py untyped d = .ok n') : d.decodes text py = true :=
  decodes_of_bind h

theorem remoteInputs_skip {n : Node} {queue : List Datagram} :
    Skips (receiveRemoteInput text py) (Datagram.decodes text py) n queue ↔
      (∀ d ∈ queue, d.decodes text py = true) ∧
        ∃ n', n.drainRemoteInputPackets text py queue = .ok n' :=
  skips_iff fun _ _ _ => receiveRemoteInput_decodes

theorem snapshots_skip {n : Node} {queue : List Datagram} :
    Skips (receiveSnapshot text py untyped) (Datagram.decodes text py) n queue ↔
      (∀ d ∈ queue, d.decodes text py = true) ∧
        ∃ n', n.drainSnapshotPackets text py untyped queue = .ok n' :=
  skips_iff fun _ _ _ => receiveSnapshot_decodes

theorem receiveRemoteInput_names {n n' : Node} {d : Datagram}
    (h : n.receiveRemoteInput text py d = .ok n') : n'.names = n.names := by
  obtain ⟨decoded, -, h⟩ := bind_eq_ok.mp h
  cases decoded with
  | none => cases h; rfl
  | some m => exact onRemoteInput_names h

/-- A decoded datagram is handled, unless it is a probe that asks for an address nobody gave. -/
theorem receiveRemoteInput_succeeds_iff {n : Node} {d : Datagram} :
    (∃ n', n.receiveRemoteInput text py d = .ok n') ↔
      d.decodes text py = true ∧ (d.Probes text py n.sessionId → n.localIp ≠ "") := by
  cases hdecode : text.decodeMessage py d.payload with
  | error e => simp [receiveRemoteInput, Datagram.decodes_iff, hdecode]
  | ok decoded =>
    cases decoded with
    | none => simp [receiveRemoteInput, Datagram.decodes_iff, Datagram.Probes, hdecode]
    | some m =>
      have hpost := JsonText.decodeMessage_postInit hdecode
      have hhandled : n.receiveRemoteInput text py d =
          n.onRemoteInput (.ok m) d.host d.port d.now := by
        rw [receiveRemoteInput, hdecode, ok_bind]
      have hprobes : d.Probes text py n.sessionId ↔
          ∃ probe, m = .hostDiscoveryProbe probe ∧ probe.sessionId = n.sessionId := by
        constructor
        · rintro ⟨ip, h⟩
          rw [hdecode] at h
          exact ⟨_, Option.some.inj (Except.ok.inj h), rfl⟩
        · rintro ⟨⟨_, ip⟩, rfl, rfl⟩
          exact ⟨ip, hdecode⟩
      rw [hhandled, onRemoteInput_succeeds_iff hpost, hprobes, Datagram.decodes_iff, hdecode]
      simp

theorem drainRemoteInputPackets_skips_iff {n : Node} {queue : List Datagram} :
    Skips (receiveRemoteInput text py) (Datagram.decodes text py) n queue ↔
      (∀ d ∈ queue, d.decodes text py = true) ∧
        ((∃ d ∈ queue, d.Probes text py n.sessionId) → n.localIp ≠ "") := by
  have hnames {n' : Node} (h : n'.names = n.names) :
      n'.localIp = n.localIp ∧ n'.sessionId = n.sessionId := by
    simp only [names, Prod.mk.injEq] at h
    exact h.2
  rw [remoteInputs_skip]
  refine and_congr_right fun hdecodes => ⟨?_, ?_⟩
  · rintro ⟨n', h⟩ ⟨d, hd, hprobes⟩
    have hanswers := foldlM_ok_forall (P := fun m : Node => m.names = n.names)
      (q := fun d => d.Probes text py n.sessionId → n.localIp ≠ "")
      (fun m d m' hm hstep => by
        refine ⟨fun hprobes => ?_, (receiveRemoteInput_names hstep).trans hm⟩
        rw [← (hnames hm).2] at hprobes
        rw [← (hnames hm).1]
        exact (receiveRemoteInput_succeeds_iff.mp ⟨m', hstep⟩).2 hprobes) h rfl
    exact hanswers d hd hprobes
  · intro hip
    obtain ⟨n', h, -⟩ := foldlM_succeeds (P := fun m : Node => m.names = n.names) (l := queue)
      (f := receiveRemoteInput text py)
      (fun m d hd hm => by
        obtain ⟨m', hstep⟩ := receiveRemoteInput_succeeds_iff.mpr
          ⟨hdecodes d hd, fun hprobes => by
            rw [(hnames hm).2] at hprobes
            rw [(hnames hm).1]
            exact hip ⟨d, hd, hprobes⟩⟩
        exact ⟨m', hstep, (receiveRemoteInput_names hstep).trans hm⟩) rfl
    exact ⟨n', h⟩

theorem receiveSnapshot_succeeds {n : Node} {d : Datagram} (hip : n.localIp ≠ "")
    (hsession : n.sessionId ≠ "") (hdecodes : d.decodes text py = true)
    (wellFormed : d.WellFormed text py) :
    ∃ n', n.receiveSnapshot text py untyped d = .ok n' ∧ n'.names = n.names := by
  obtain ⟨decoded, hdecoded⟩ := Datagram.decodes_iff.mp hdecodes
  obtain ⟨m, rfl, keyed⟩ := wellFormed decoded hdecoded
  obtain ⟨n', h⟩ := onDatagram_succeeds hip hsession keyed d.now
  refine ⟨n', ?_, onDatagram_names h⟩
  rw [receiveSnapshot, hdecoded]
  exact h

theorem drainSnapshotPackets_skips {n : Node} {queue : List Datagram} (hip : n.localIp ≠ "")
    (hsession : n.sessionId ≠ "") (hdecodes : ∀ d ∈ queue, d.decodes text py = true)
    (wellFormed : ∀ d ∈ queue, d.WellFormed text py) :
    Skips (receiveSnapshot text py untyped) (Datagram.decodes text py) n queue := by
  rw [snapshots_skip]
  refine ⟨hdecodes, ?_⟩
  obtain ⟨n', h, -⟩ := foldlM_succeeds (P := fun m : Node => m.localIp ≠ "" ∧ m.sessionId ≠ "")
    (l := queue) (f := receiveSnapshot text py untyped)
    (fun m d hd hm => by
      obtain ⟨m', hstep, hnames⟩ := receiveSnapshot_succeeds hm.1 hm.2
        (hdecodes d hd) (wellFormed d hd)
      simp only [names, Prod.mk.injEq] at hnames
      exact ⟨m', hstep, hnames.2.1.trans_ne hm.1, hnames.2.2.trans_ne hm.2⟩) ⟨hip, hsession⟩
  exact ⟨n', h⟩

end

/-! ## What a bad datagram swallows -/

section
variable (text : JsonText) (py : Runtime) (untyped : Node → Datagram → Except PyError Node)

/-- The host's loop ends as it does without the datagrams that are no message. -/
def InputsSurvive (n : Node) (queue : List Datagram) : Prop :=
  ∃ n', n.drainRemoteInputPackets text py queue = .ok n' ∧
    n.drainRemoteInputPackets text py (queue.filter (Datagram.decodes text py)) = .ok n'

/-- The client's loop does. -/
def SnapshotsSurvive (n : Node) (queue : List Datagram) : Prop :=
  ∃ n', n.drainSnapshotPackets text py untyped queue = .ok n' ∧
    n.drainSnapshotPackets text py untyped (queue.filter (Datagram.decodes text py)) = .ok n'

/-- Both loops tolerate exactly the queues without undecodable datagrams, if the node has the names
it answers with and, on a client, the snapshots are well formed. -/
theorem datagrams_survive_iff (n : Node) (queue : List Datagram) :
    (n.InputsSurvive text py queue ↔
      (∀ d ∈ queue, d.decodes text py = true) ∧
        ((∃ d ∈ queue, d.Probes text py n.sessionId) → n.localIp ≠ "")) ∧
    (n.SnapshotsSurvive text py untyped queue → ∀ d ∈ queue, d.decodes text py = true) ∧
    (n.localIp ≠ "" → n.sessionId ≠ "" → (∀ d ∈ queue, d.WellFormed text py) →
      (n.SnapshotsSurvive text py untyped queue ↔ ∀ d ∈ queue, d.decodes text py = true)) := by
  have hnecessary (h : n.SnapshotsSurvive text py untyped queue) :
      ∀ d ∈ queue, d.decodes text py = true := (snapshots_skip.mp h).1
  refine ⟨drainRemoteInputPackets_skips_iff, hnecessary, fun hip hsession wellFormed => ?_⟩
  exact ⟨hnecessary, fun hdecodes => drainSnapshotPackets_skips hip hsession hdecodes wellFormed⟩

end

/-! ## A datagram of another program -/

def strayText : String := "\x7b\x7d"

def claimMessage : UdpMessage := .election (.newHostClaim ⟨"10.0.0.1", 0, "session"⟩)

def claimText : String :=
  "\x7b\"claimer_ip\": \"10.0.0.1\", \"claimer_join_index\": 0, \"session_id\": \"session\", " ++
    "\"message_type\": \"new_host_claim\"\x7d"

def pressText : String :=
  "\x7b\"player_id\": \"player-3\", \"sequence_number\": 7, \"input_state\": " ++
    "\x7b\"left\": false, \"right\": false, \"jump\": true, \"down\": false\x7d, " ++
    "\"message_type\": \"player_input\"\x7d"

def pressMessage : UdpMessage := .playerInput ⟨"player-3", 7, { jump := true }⟩

/-- The texts of these three datagrams. -/
def strayTexts : JsonText where
  dumps _ := strayText
  loads string :=
    if string = strayText then .ok (.obj [])
    else if string = claimText then .ok (encodeMessage sortedOrder claimMessage)
    else .ok (encodeMessage sortedOrder pressMessage)
  loads_error string e h := by
    split at h
    · cases h
    · split at h <;> cases h

def datagramOf (text : String) : Datagram where
  payload := text.toUTF8
  host := "10.0.0.3"
  port := 50012
  now := 0

/-- A client in its first frame; the host of this run has the same fields. -/
def listener : Node :=
  (clientOf threePlayers ⟨"player-2", "10.0.0.2", 50011, 1, .connected, false⟩
    "10.0.0.1").ensureElectionComponents

theorem decodeMessage_claimText :
    strayTexts.decodeMessage strictRuntime claimText.toUTF8 = .ok (some claimMessage) := by
  rw [JsonText.decodeMessage, JsonText.decode_toUTF8]
  rfl

theorem claim_alone_survives :
    listener.SnapshotsSurvive strayTexts strictRuntime (fun n _ => .ok n)
      [datagramOf claimText] := by
  refine ((datagrams_survive_iff strayTexts strictRuntime (fun n _ => .ok n) listener
    [datagramOf claimText]).2.2 (by decide) (by decide) ?_).mpr ?_
  · intro d hd decoded hdecoded
    rw [List.mem_singleton.mp hd] at hdecoded
    have hclaim := decodeMessage_claimText.symm.trans hdecoded
    exact ⟨claimMessage, (Except.ok.inj hclaim).symm, fun snapshot h => nomatch h⟩
  · intro d hd
    rw [List.mem_singleton.mp hd]
    exact Datagram.decodes_iff.mpr ⟨_, decodeMessage_claimText⟩

/-- An unsupported datagram ends both loops, and hides the input or the claim behind it. -/
theorem stray_datagram_aborts :
    ¬ listener.InputsSurvive strayTexts strictRuntime
      [datagramOf strayText, datagramOf pressText] ∧
    (∃ n', listener.drainRemoteInputPackets strayTexts strictRuntime [datagramOf pressText] =
      .ok n' ∧ n'.cachedRemoteInputs.get? "player-3" = some { jump := true }) ∧
    ¬ listener.SnapshotsSurvive strayTexts strictRuntime (fun n _ => .ok n)
      [datagramOf strayText, datagramOf claimText] ∧
    ∃ n', listener.drainSnapshotPackets strayTexts strictRuntime (fun n _ => .ok n)
      [datagramOf claimText] = .ok n' ∧ n'.election.followingHostIp = some "10.0.0.1" := by
  have hstray : strayTexts.decodeMessage strictRuntime strayText.toUTF8 =
      .error (.deserializationError "Unsupported UDP message type: None") := by
    rw [JsonText.decodeMessage, JsonText.decode_toUTF8]
    rfl
  have hpress : strayTexts.decodeMessage strictRuntime pressText.toUTF8 =
      .ok (some pressMessage) := by
    rw [JsonText.decodeMessage, JsonText.decode_toUTF8]
    rfl
  have hclaim := decodeMessage_claimText
  unfold datagramOf
  generalize strayText.toUTF8 = stray at hstray ⊢
  generalize pressText.toUTF8 = press at hpress ⊢
  generalize claimText.toUTF8 = claim at hclaim ⊢
  refine ⟨?_, ?_, ?_, ?_⟩
  · rintro ⟨n', h, -⟩
    simp [drainRemoteInputPackets, receiveRemoteInput, hstray] at h
  · simp only [drainRemoteInputPackets, List.foldlM_cons, receiveRemoteInput, hpress]
    exact ⟨_, rfl, by decide⟩
  · rintro ⟨n', h, -⟩
    simp [drainSnapshotPackets, receiveSnapshot, hstray] at h
  · simp only [drainSnapshotPackets, List.foldlM_cons, receiveSnapshot, hclaim]
    exact ⟨_, rfl, by decide⟩

end Node

end DistributedSmb
