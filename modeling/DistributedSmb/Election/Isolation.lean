import DistributedSmb.Election.Cluster

/-!
# Two sessions on one network

Election and recovery messages name their session. A host answers probes for its own session only,
and a client believes identity responses for its own session only; the three election handlers do
not look. So a message of another session is without effect exactly when its handler would have
ignored it whatever its session.
-/

namespace DistributedSmb

open Library

def ElectionMessage.sessionId : ElectionMessage → String
  | newHostClaim claim => claim.sessionId
  | electionAck ack => ack.sessionId
  | reconnectionAck ack => ack.sessionId

/-- The session that a datagram names; inputs and snapshots name none. -/
def UdpMessage.sessionId : UdpMessage → Option String
  | hostDiscoveryProbe probe => some probe.sessionId
  | hostIdentityResponse response => some response.sessionId
  | election message => some message.sessionId
  | playerInput _ | worldState _ => none

/-- The session that an election message on the relay names. -/
def WsMessage.sessionId : WsMessage → Option String
  | election message => some message.sessionId
  | _ => none

/-- A session is named, and it is not this one. -/
def isForeign (sessionId : String) (named : Option String) : Bool := named.any (· ≠ sessionId)

def Call.sessionId : Call → Option String
  | .client (.datagram (.ok message)) => message.sessionId
  | .client (.gameEvent message) => message.sessionId
  | .host (.remoteInput (.ok message) _ _) => message.sessionId
  | _ => none

def Call.Foreign (c : Call) (sessionId : String) : Prop := isForeign sessionId c.sessionId = true

instance (c : Call) (sessionId : String) : Decidable (c.Foreign sessionId) :=
  inferInstanceAs (Decidable (_ = _))

def isForeignDatagram (sessionId : String) : Except PyError UdpMessage → Bool
  | .ok message => isForeign sessionId message.sessionId
  | .error _ => false

/-- What a frame finds when nothing of another session reaches the node. -/
def FrameInput.without (sessionId : String) (f : FrameInput) : FrameInput :=
  { f with
    datagrams := f.datagrams.filter fun d => !isForeignDatagram sessionId d.1
    gameEvents := f.gameEvents.filter fun m => !isForeign sessionId m.sessionId }

namespace Node

/-- What makes a client ignore an election message, whatever its session. -/
def IgnoresElection (n : Node) : ElectionMessage → Prop
  | .newHostClaim claim => ¬ n.Yields claim
  | .electionAck ack =>
    n.election.promotionDone = true ∨ ack.fromIp ∉ n.election.pendingElectionAcks
  | .reconnectionAck _ => n.election.reconnected = true ∨ n.election.promotionDone = true

/-- A client hands on election messages only, a host none. -/
def Ignores (n : Node) : Call → Prop
  | .client call => ∀ message ∈ call.electionMessage, n.IgnoresElection message
  | .host _ => True

instance (n : Node) : DecidablePred n.IgnoresElection
  | .newHostClaim claim => inferInstanceAs (Decidable (¬ n.Yields claim))
  | .electionAck _ => inferInstanceAs (Decidable (_ ∨ _))
  | .reconnectionAck _ => inferInstanceAs (Decidable (_ ∨ _))

instance (n : Node) : DecidablePred n.Ignores
  | .client call => inferInstanceAs (Decidable (∀ message ∈ call.electionMessage, _))
  | .host _ => .isTrue trivial

/-! ## One message -/

theorem onNewHostClaim_ignored {n : Node} {claim : NewHostClaim} (h : ¬ n.Yields claim) (now : ℚ) :
    n.onNewHostClaim claim now = .ok n := by
  unfold onNewHostClaim
  by_cases echo : claim.claimerJoinIndex = n.joinIndex
  · rw [if_pos echo]
  · rw [if_neg echo]
    cases hsome : n.election.coordinator with
    | none => rfl
    | some c =>
      have hle : c.joinIndex ≤ claim.claimerJoinIndex := by
        by_contra hlt
        exact h ⟨c, hsome, echo, not_le.mp hlt⟩
      simp only [ElectionCoordinator.onNewHostClaim, ge_iff_le, if_pos hle]

/-- A claim that is followed is acknowledged. -/
theorem onNewHostClaim_same_iff (n : Node) (claim : NewHostClaim) (now : ℚ) :
    n.onNewHostClaim claim now = .ok n ↔ ¬ n.Yields claim := by
  constructor
  · intro h yields
    obtain ⟨-, hignored⟩ | ⟨c, -, -, hfollowed⟩ := onNewHostClaim_cases h
    · exact hignored yields
    · have hlength := congrArg (fun m => m.outbox.length) hfollowed
      simp [followed, follow, broadcastElection, send] at hlength
  · intro hignored
    exact onNewHostClaim_ignored hignored now

/-- An ack that is awaited is no longer awaited afterwards, or it promotes. -/
theorem onElectionAck_same_iff (n : Node) (ack : ElectionAck) (now : ℚ) :
    n.onElectionAck ack now = .ok n ↔
      n.election.promotionDone = true ∨ ack.fromIp ∉ n.election.pendingElectionAcks := by
  by_cases done : n.election.promotionDone = true
  · simp [onElectionAck, done]
  by_cases awaited : ack.fromIp ∈ n.election.pendingElectionAcks
  · refine iff_of_false ?_ (by simp [done, awaited])
    intro h
    obtain hpending | hpromoted : n.election.pendingElectionAcks =
        n.election.pendingElectionAcks.filter (· ≠ ack.fromIp) ∨
          n.election.promotionDone = true := by
      unfold onElectionAck at h
      rw [if_neg done, if_neg (not_not.mpr awaited)] at h
      dsimp only at h
      split at h
      · have waiting : n.election.promotionDone = false := Bool.not_eq_true _ ▸ done
        have hpromoted := promoted_of_waiting (by simpa [withPendingAcks] using waiting) h
        exact .inr (congrArg ElectionFields.promotionDone hpromoted.election)
      · have hsame := congrArg (fun m => m.election.pendingElectionAcks) (Except.ok.inj h)
        exact .inl hsame.symm
    · rw [hpending] at awaited
      simp at awaited
    · exact done hpromoted
  · simp [onElectionAck, done, awaited]

theorem onReconnectionAck_same_iff (n : Node) (ack : ReconnectionAck) :
    n.onReconnectionAck ack = n ↔
      n.election.reconnected = true ∨ n.election.promotionDone = true := by
  obtain ⟨hsame, hclosed⟩ | ⟨hopen, waiting, hreset⟩ := onReconnectionAck_cases n ack
  · exact iff_of_true hsame hclosed
  · refine iff_of_false ?_ (by simp [hopen, waiting])
    intro hsame
    have hreconnected : n.election.reconnected = true := by
      rw [← hsame, hreset.election]
      rfl
    simp [hopen] at hreconnected

theorem onElectionMessage_same_iff (n : Node) (message : ElectionMessage) (now : ℚ) :
    n.onElectionMessage now message = .ok n ↔ n.IgnoresElection message := by
  cases message with
  | newHostClaim claim => exact onNewHostClaim_same_iff n claim now
  | electionAck ack => exact onElectionAck_same_iff n ack now
  | reconnectionAck ack =>
    exact Iff.trans ⟨Except.ok.inj, congrArg _⟩ (onReconnectionAck_same_iff n ack)

theorem onHostIdentityResponse_foreign {n : Node} {response : HostIdentityResponse}
    (foreign : response.sessionId ≠ n.sessionId) (now : ℚ) :
    n.onHostIdentityResponse response now = n := by
  unfold onHostIdentityResponse
  rw [if_pos foreign, ite_self]

theorem onRemoteInput_foreign {n : Node} {message : UdpMessage}
    (foreign : isForeign n.sessionId message.sessionId = true) (host : Ip) (port : ℕ) (now : ℚ) :
    n.onRemoteInput (.ok message) host port now = .ok n := by
  cases message with
  | hostDiscoveryProbe probe =>
    have hne : probe.sessionId ≠ n.sessionId := by
      simpa [isForeign, UdpMessage.sessionId] using foreign
    exact if_pos hne
  | hostIdentityResponse response => rfl
  | election message => rfl
  | playerInput packet => simp [isForeign, UdpMessage.sessionId] at foreign
  | worldState snapshot => simp [isForeign, UdpMessage.sessionId] at foreign

/-- A client keeps its state when a foreign message is none of an election. -/
theorem clientCall_foreign {n : Node} {call : ClientCall}
    (foreign : (Call.client call).Foreign n.sessionId) (hcarries : call.electionMessage = none)
    (now : ℚ) : n.clientCall now call = .ok n := by
  cases call with
  | datagram payload =>
    cases payload with
    | error e => simp [Call.Foreign, isForeign, Call.sessionId] at foreign
    | ok message =>
      cases message with
      | hostDiscoveryProbe probe => rfl
      | hostIdentityResponse response =>
        have hne : response.sessionId ≠ n.sessionId := by
          simpa [Call.Foreign, isForeign, Call.sessionId, UdpMessage.sessionId] using foreign
        exact congrArg _ (onHostIdentityResponse_foreign hne now)
      | election message => simp [ClientCall.electionMessage] at hcarries
      | _ => simp [Call.Foreign, isForeign, Call.sessionId, UdpMessage.sessionId] at foreign
  | gameEvent message =>
    cases message with
    | election message => simp [ClientCall.electionMessage] at hcarries
    | _ => simp [Call.Foreign, isForeign, Call.sessionId, WsMessage.sessionId] at foreign
  | _ => simp [Call.Foreign, isForeign, Call.sessionId] at foreign

theorem hostCall_foreign {n : Node} {call : HostCall}
    (foreign : (Call.host call).Foreign n.sessionId) (now : ℚ) : n.hostCall now call = .ok n := by
  cases call with
  | remoteInput payload host port =>
    cases payload with
    | error e => simp [Call.Foreign, isForeign, Call.sessionId] at foreign
    | ok message => exact onRemoteInput_foreign foreign host port now
  | _ => simp [Call.Foreign, isForeign, Call.sessionId] at foreign

/-- A foreign message leaves a node as it is exactly when the node ignores it anyway. -/
theorem step_foreign_iff {n : Node} {c : TimedCall} (foreign : c.call.Foreign n.sessionId) :
    n.step c = .ok n ↔ n.Ignores c.call := by
  obtain ⟨now, call | call⟩ := c
  · cases hcarries : call.electionMessage with
    | some message =>
      have hstep : n.step ⟨now, .client call⟩ = n.onElectionMessage now message :=
        clientCall_of_electionMessage hcarries n now
      rw [hstep, onElectionMessage_same_iff]
      simp [Ignores, hcarries]
    | none =>
      exact iff_of_true (clientCall_foreign foreign hcarries now) (by simp [Ignores, hcarries])
  · exact iff_of_true (hostCall_foreign foreign now) trivial

/-! ## Two runs -/

/-- Whatever is foreign in a frame is ignored when it is its turn. -/
def IgnoresForeign (n : Node) (f : FrameInput) : Prop :=
  Fallible.Along step (fun m c => c.call.Foreign m.sessionId → m.Ignores c.call) n (f.calls n.role)

instance decidableIgnoresForeign (n : Node) (f : FrameInput) : Decidable (n.IgnoresForeign f) :=
  inferInstanceAs (Decidable (Fallible.Along _ _ _ _))

theorem foreign_datagram (sessionId : String) (payload : Except PyError UdpMessage) :
    isForeign sessionId (Call.client (.datagram payload)).sessionId =
      isForeignDatagram sessionId payload := by
  cases payload <;> rfl

theorem foreign_remoteInput (sessionId : String) (payload : Except PyError UdpMessage) (host : Ip)
    (port : ℕ) :
    isForeign sessionId (Call.host (.remoteInput payload host port)).sessionId =
      isForeignDatagram sessionId payload := by
  cases payload <;> rfl

theorem calls_without (f : FrameInput) (sessionId : String) (role : PlayerRole) :
    (f.without sessionId).calls role =
      (f.calls role).filter fun c => !isForeign sessionId c.call.sessionId := by
  -- the filter passes every call that carries no message
  cases role with
  | client =>
    simp only [FrameInput.calls, FrameInput.clientCalls, FrameInput.without, List.map_append,
      List.filter_append, List.map_map, List.filter_map, Function.comp_def, foreign_datagram]
    simp [Call.sessionId, isForeign]
  | host =>
    simp only [FrameInput.calls, FrameInput.hostCalls, FrameInput.without, List.map_append,
      List.filter_append, List.map_map, List.filter_map, Function.comp_def, foreign_remoteInput]
    simp [Call.sessionId, isForeign]

/-- A frame that ignores what is foreign could have done without it. -/
theorem processFrame_without {n : Node} {f : FrameInput} (h : n.IgnoresForeign f) :
    n.processFrame (f.without n.sessionId) = n.processFrame f := by
  have hidle : Fallible.Along step
      (fun m c => (!isForeign n.sessionId c.call.sessionId) = false → m.step c = .ok m) n
      (f.calls n.role) := by
    refine h.imp (P := fun m => m.sessionId = n.sessionId) ?_ ?_ rfl
    · intro m c m' hm hstep
      exact (step_sessionId hstep).trans hm
    · intro m c hm hignores hforeign
      have foreign : c.call.Foreign m.sessionId := by
        rw [hm]
        simpa [Call.Foreign] using hforeign
      exact (step_foreign_iff foreign).mpr (hignores foreign)
  rw [processFrame, calls_without]
  exact Fallible.foldlM_filter_along hidle

theorem processFrame_sessionId {n n' : Node} {f : FrameInput} (h : n.processFrame f = .ok n') :
    n'.sessionId = n.sessionId :=
  Fallible.foldlM_keeps (P := fun m => m.sessionId = n.sessionId)
    (fun _ _ _ _ hm hstep => (step_sessionId hstep).trans hm) h rfl

theorem run_without {n : Node} {frames : List FrameInput}
    (h : Fallible.Along processFrame IgnoresForeign n frames) :
    (frames.map (·.without n.sessionId)).foldlM processFrame n = frames.foldlM processFrame n := by
  have hsame : Fallible.Along processFrame
      (fun m f => m.processFrame (f.without n.sessionId) = m.processFrame f) n frames := by
    refine h.imp (P := fun m => m.sessionId = n.sessionId) ?_ ?_ rfl
    · intro m f m' hm hstep
      exact (processFrame_sessionId hstep).trans hm
    · intro m f hm hignores
      rw [← hm]
      exact processFrame_without hignores
  rw [List.foldlM_map]
  exact Fallible.foldlM_congr_along hsame

/-- A foreign message changes nothing exactly when its handler ignores it whatever its session. Two
runs that differ only in foreign messages, all of them ignored, go through the same states. -/
theorem foreign_messages_ignored_iff (n : Node) :
    (∀ c : TimedCall, c.call.Foreign n.sessionId → (n.step c = .ok n ↔ n.Ignores c.call)) ∧
      ∀ frames frames' : List FrameInput,
        frames.map (·.without n.sessionId) = frames'.map (·.without n.sessionId) →
        Fallible.Along processFrame IgnoresForeign n frames →
        Fallible.Along processFrame IgnoresForeign n frames' →
        ∀ k, (frames.take k).foldlM processFrame n = (frames'.take k).foldlM processFrame n := by
  refine ⟨fun c foreign => step_foreign_iff foreign, ?_⟩
  intro frames frames' hsame hignores hignores' k
  rw [← run_without (hignores.take k), ← run_without (hignores'.take k), List.map_take,
    List.map_take, hsame]

/-- A host and a player of another session speak up while the third player waits for its host. -/
def noisyFrames : List FrameInput :=
  [{ now := 1,
     datagrams := [(.ok (.worldState ⟨1, { sequenceNumber := 1 }⟩), "10.0.0.1", 50010)] },
    { now := 7,
      datagrams :=
        [(.ok (.election (.newHostClaim ⟨"10.0.0.9", 3, "other"⟩)), "10.0.0.9", 50010)] },
    { now := 17,
      datagrams := [(.ok (.hostIdentityResponse ⟨"other", "10.0.0.8"⟩), "10.0.0.8", 50010)] },
    { now := 18 }]

/-- The noise is gone from the frames without foreign messages. -/
theorem thirdPlayer_ignores_noise :
    noisyFrames.foldlM processFrame thirdPlayer =
      (framesUntil 18).foldlM processFrame thirdPlayer :=
  (foreign_messages_ignored_iff thirdPlayer).2 noisyFrames (framesUntil 18) rfl
    (by decide +kernel) (by decide +kernel) 4

/-- A claim of another session, below the third player's join index. -/
def foreignClaim : TimedCall :=
  ⟨18, .client (.datagram (.ok (.election (.newHostClaim ⟨"10.0.0.9", 1, "other"⟩))))⟩

/-- The third player follows a claimer of another session. -/
theorem foreign_claim_is_followed :
    ¬ ∀ (n₀ n : Node) (frames : List FrameInput) (c : TimedCall), n₀.ClientStart →
      frames.foldlM processFrame n₀ = .ok n → c.call.Foreign n.sessionId → n.step c = .ok n := by
  intro ignored
  obtain ⟨n, hn, hcheck⟩ := Fallible.exists_of_okAnd
    (x := (framesUntil 18).foldlM processFrame thirdPlayer)
    (p := fun n => foreignClaim.call.Foreign n.sessionId ∧ ¬ n.Ignores foreignClaim.call)
    (by decide +kernel)
  obtain ⟨foreign, followed⟩ := of_decide_eq_true hcheck
  have hsame := ignored thirdPlayer n (framesUntil 18) foreignClaim ⟨rfl, rfl⟩ hn foreign
  exact followed ((step_foreign_iff foreign).mp hsame)

end Node

end DistributedSmb
