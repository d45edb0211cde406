import DistributedSmb.Node.Controller

/-!
# Claiming the host role

`election/mixin.py`: a node that elected itself claims the role from its peers, collects their acks
and promotes itself once all are in or the claim's deadline has passed. Each handler has one lemma
that says everything it can do.
-/

namespace DistributedSmb

open Library

namespace Node

def bootstrapFromSnapshot (n : Node) (snapshot : WorldStateSnapshot) : Node :=
  { n with
    engine := { n.engine with worldState := snapshot.worldState }
    lastSnapshotSequence := snapshot.sequenceNumber }

/-- Without the flag the engine would stay a predicting client's after the promotion. -/
def takeAuthority (n : Node) : Node :=
  { n with
    election := { n.election with promotionDone := true }
    engine := { n.engine with isAuthoritative := true } }

def restoreWorld (n : Node) : Node :=
  match n.bufferedSnapshot with
  | some snapshot => n.bootstrapFromSnapshot snapshot
  | none => n

/-- Evict the player that the roster flags as host, if any. -/
def evictHost (n : Node) : Node :=
  match n.roster.getHost with
  | some crashed => n.evictPlayer crashed.playerId
  | none => n

def promoteInRoster (n : Node) (pid : PlayerId) : Node :=
  { n with roster := n.roster.promoteHost pid }

/-- Nothing is sent when no peer is left. -/
def announcePromotion (n : Node) : Except PyError Node :=
  if n.peers = [] then .ok n
  else do
    let ack ← ReconnectionAck.checked ⟨n.localIp, hostUdpPort, gameEventWsPort, n.sessionId⟩
    .ok (n.broadcastElection (.reconnectionAck ack) none)

/-- The peers get a fresh grace period for their inputs. -/
def finishPromotion (n : Node) (now : ℚ) : Node :=
  { n with
    lastInputTime := n.peers.foldl (fun times e => times.set e.playerId now) n.lastInputTime
    role := .host }

/-- The state before the announcement: authority, the buffered world, the roster without the
crashed host. -/
def assumeHostRole (n : Node) : Node :=
  n.takeAuthority.restoreWorld.evictHost.promoteInRoster n.localPlayerId

def promoteToHost (n : Node) (now : ℚ) : Except PyError Node :=
  if n.election.promotionDone then .ok n
  else do
    let n ← n.assumeHostRole.announcePromotion
    .ok (n.finishPromotion now)

def onSelfElected (n : Node) (now : ℚ) : Except PyError Node :=
  let peers := n.knownClientPeers
  if peers = [] then n.promoteToHost now
  else do
    let claim ← NewHostClaim.checked ⟨n.localIp, n.joinIndex, n.sessionId⟩
    let n := n.broadcastElection (.newHostClaim claim) (some peers)
    .ok { n with
      election :=
        { n.election with
          pendingElectionAcks := peers
          electionClaimDeadline := now + electionClaimTimeoutS } }

def withPendingAcks (n : Node) (pending : List Ip) : Node :=
  { n with election := { n.election with pendingElectionAcks := pending } }

/-- The ack names its sender only, so it counts for whatever claim is pending here. -/
def onElectionAck (n : Node) (msg : ElectionAck) (now : ℚ) : Except PyError Node :=
  if n.election.promotionDone then .ok n
  else if msg.fromIp ∉ n.election.pendingElectionAcks then .ok n
  else
    let pending := n.election.pendingElectionAcks.filter (· ≠ msg.fromIp)
    if pending = [] then (n.withPendingAcks pending).promoteToHost now
    else .ok (n.withPendingAcks pending)

def follow (n : Node) (coordinator : ElectionCoordinator) (claimerIp : Ip) (now : ℚ) : Node :=
  { n with
    election :=
      { n.election with
        coordinator := some coordinator
        followingHostIp := some claimerIp
        followingSince := now } }

/-- Following leaves the node's own pending acks, claim deadline and host verification alone. -/
def onNewHostClaim (n : Node) (msg : NewHostClaim) (now : ℚ) : Except PyError Node :=
  if msg.claimerJoinIndex = n.joinIndex then .ok n
  else
    match n.election.coordinator with
    | none => .ok n
    | some coordinator =>
      match coordinator.onNewHostClaim msg.claimerJoinIndex msg.claimerIp with
      | (coordinator, some (.followingHost _ _)) => do
        let n := n.follow coordinator msg.claimerIp now
        let ack ← ElectionAck.checked ⟨n.localIp, n.sessionId⟩
        .ok (n.broadcastElection (.electionAck ack) (some [msg.claimerIp]))
      | _ => .ok n

/-- The first entry of a peer at this address. -/
def silentPeer (n : Node) (ip : Ip) : Option RosterEntry := n.peers.find? fun e => e.host = ip

def evictSilentPeer (n : Node) (ip : Ip) : Node :=
  match n.silentPeer ip with
  | some entry => n.evictPlayer entry.playerId
  | none => n

/-- A claim is pending and its deadline has passed. -/
def ClaimExpired (n : Node) (now : ℚ) : Prop :=
  n.election.promotionDone = false ∧ n.election.pendingElectionAcks ≠ [] ∧
    n.election.electionClaimDeadline ≠ 0 ∧ n.election.electionClaimDeadline ≤ now

instance (n : Node) (now : ℚ) : Decidable (n.ClaimExpired now) :=
  inferInstanceAs (Decidable (_ ∧ _))

def tickClaimDeadline (n : Node) (now : ℚ) : Except PyError Node :=
  if n.election.promotionDone || n.election.pendingElectionAcks = [] then .ok n
  else if n.election.electionClaimDeadline = 0 || now < n.election.electionClaimDeadline then .ok n
  else
    let n := n.election.pendingElectionAcks.foldl evictSilentPeer n
    (n.withPendingAcks []).promoteToHost now

/-! ## What the handlers can do -/

/-- The claim that a node would follow. -/
def Yields (n : Node) (msg : NewHostClaim) : Prop :=
  ∃ coordinator, n.election.coordinator = some coordinator ∧ msg.claimerJoinIndex ≠ n.joinIndex ∧
    msg.claimerJoinIndex < coordinator.joinIndex

instance (n : Node) (msg : NewHostClaim) : Decidable (n.Yields msg) :=
  decidable_of_iff (n.election.coordinator.any fun coordinator =>
    msg.claimerJoinIndex ≠ n.joinIndex ∧ msg.claimerJoinIndex < coordinator.joinIndex)
    (by simp [Yields, Option.any_eq_true])

@[simp] theorem bootstrapFromSnapshot_election (n : Node) (snapshot : WorldStateSnapshot) :
    (n.bootstrapFromSnapshot snapshot).election = n.election := rfl

@[simp] theorem restoreWorld_election (n : Node) : n.restoreWorld.election = n.election := by
  unfold restoreWorld
  split <;> rfl

@[simp] theorem evictHost_election (n : Node) : n.evictHost.election = n.election := by
  unfold evictHost
  split <;> rfl

theorem announcePromotion_spec {n n' : Node} (h : n.announcePromotion = .ok n') :
    ∃ out, n' = n.send out ∧
      ∀ o ∈ out, ∃ ack, o = .relay (.election (.reconnectionAck ack)) ∨
        ∃ host port, o = .udp (.election (.reconnectionAck ack)) host port := by
  unfold announcePromotion at h
  split at h
  · cases h
    exact ⟨[], by simp [send], by simp⟩
  · obtain ⟨ack, -, h⟩ := Fallible.bind_eq_ok.mp h
    cases h
    refine ⟨_, rfl, fun o ho => ⟨ack, ?_⟩⟩
    rcases List.mem_cons.mp ho with rfl | ho
    · exact .inl rfl
    · obtain ⟨e, -, rfl⟩ := List.mem_map.mp ho
      exact .inr ⟨_, _, rfl⟩

/-- A promotion assumes the role, announces it and finishes. -/
theorem promoteToHost_spec {n n' : Node} {now : ℚ} (h : n.promoteToHost now = .ok n') :
    (n.election.promotionDone = true ∧ n' = n) ∨
      (n.election.promotionDone = false ∧
        ∃ out, n' = (n.assumeHostRole.send out).finishPromotion now ∧
          ∀ o ∈ out, ∃ ack, o = .relay (.election (.reconnectionAck ack)) ∨
            ∃ host port, o = .udp (.election (.reconnectionAck ack)) host port) := by
  unfold promoteToHost at h
  split at h
  case isTrue done => cases h; exact .inl ⟨done, rfl⟩
  case isFalse done =>
    obtain ⟨n₁, hannounce, h⟩ := Fallible.bind_eq_ok.mp h
    cases h
    obtain ⟨out, rfl, hout⟩ := announcePromotion_spec hannounce
    exact .inr ⟨by simpa using done, out, rfl, hout⟩

end Node

end DistributedSmb
