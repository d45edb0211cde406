import DistributedSmb.Gameplay.HostWorld

/-!
# What a call does to an election

Each call of a frame either takes no part in an election, which is `Quiet`, or has one of the few
effects below: it follows a claim, counts an ack, claims, promotes, reconnects or confirms the
host's timeout. `tickElectionState` chains several of them, and keeps what
each of them keeps.
-/

namespace DistributedSmb

open Library

/-- The election message that is being sent, if it is one. -/
def Outgoing.election : Outgoing → Option ElectionMessage
  | .udp (.election message) _ _ => some message
  | .relay (.election message) => some message
  | _ => none

namespace Node

def identity (n : Node) : PlayerId × Ip × String × ℕ :=
  (n.localPlayerId, n.localIp, n.sessionId, n.joinIndex)

/-- From `n` to `n'` only election messages with this property are sent. -/
def Sends (n n' : Node) (P : ElectionMessage → Prop) : Prop :=
  ∃ out, n'.outbox = n.outbox ++ out ∧ ∀ o ∈ out, ∀ m, o.election = some m → P m

/-- No part in the election; the roster keeps all entries but those of the player that left. -/
structure Quiet (n : Node) (left : Option PlayerId) (n' : Node) : Prop where
  coordinator : n'.election.coordinator = n.election.coordinator
  triggered : n'.election.electionTriggered = n.election.electionTriggered
  reconnected : n'.election.reconnected = n.election.reconnected
  pending : n'.election.pendingElectionAcks = n.election.pendingElectionAcks
  claimDeadline : n'.election.electionClaimDeadline = n.election.electionClaimDeadline
  promotionDone : n'.election.promotionDone = n.election.promotionDone
  verified : n.election.electionTriggered = true → n.election.hostVerifyDeadline = 0 →
    n'.election.hostVerifyDeadline = 0
  identity : n'.identity = n.identity
  role : n'.role = n.role
  keeps : ∀ e ∈ n.roster.players, some e.playerId ≠ left → e ∈ n'.roster.players
  sends : n.Sends n' fun _ => False

theorem Sends.refl (n : Node) (P : ElectionMessage → Prop) : n.Sends n P := ⟨[], by simp, by simp⟩

theorem Sends.trans {n n' n'' : Node} {P : ElectionMessage → Prop} (h : n.Sends n' P)
    (h' : n'.Sends n'' P) : n.Sends n'' P := by
  obtain ⟨out, hout, hP⟩ := h
  obtain ⟨out', hout', hP'⟩ := h'
  refine ⟨out ++ out', by rw [hout', hout, List.append_assoc], fun o ho => ?_⟩
  exact (List.mem_append.mp ho).elim (hP o) (hP' o)

theorem sends_send (n : Node) (out : List Outgoing) {P : ElectionMessage → Prop}
    (h : ∀ o ∈ out, ∀ m, o.election = some m → P m) : n.Sends (n.send out) P := ⟨out, rfl, h⟩

/-- A broadcast sends one message over both transports. -/
theorem sends_broadcastElection (n : Node) (message : ElectionMessage)
    (onlyHosts : Option (List Ip)) :
    n.Sends (n.broadcastElection message onlyHosts) fun m => m = message := by
  refine sends_send n _ fun o ho m hm => ?_
  rcases List.mem_cons.mp ho with rfl | ho
  · exact (Option.some.inj hm).symm
  · obtain ⟨e, -, rfl⟩ := List.mem_map.mp ho
    exact (Option.some.inj hm).symm

theorem Quiet.refl (n : Node) (left : Option PlayerId) : n.Quiet left n :=
  ⟨rfl, rfl, rfl, rfl, rfl, rfl, fun _ h => h, rfl, rfl, fun _ he _ => he, .refl n _⟩

theorem Quiet.trans {n n' n'' : Node} {left : Option PlayerId} (h : n.Quiet left n')
    (h' : n'.Quiet left n'') : n.Quiet left n'' where
  coordinator := h'.coordinator.trans h.coordinator
  triggered := h'.triggered.trans h.triggered
  reconnected := h'.reconnected.trans h.reconnected
  pending := h'.pending.trans h.pending
  claimDeadline := h'.claimDeadline.trans h.claimDeadline
  promotionDone := h'.promotionDone.trans h.promotionDone
  verified htriggered hverify :=
    h'.verified (h.triggered.trans htriggered) (h.verified htriggered hverify)
  identity := h'.identity.trans h.identity
  role := h'.role.trans h.role
  keeps e he hleft := h'.keeps e (h.keeps e he hleft) hleft
  sends := h.sends.trans h'.sends

/-- Leaving the election fields and the roster alone is quiet. -/
theorem quiet_of_same {n n' : Node} (election : n'.election = n.election)
    (identity : n'.identity = n.identity) (role : n'.role = n.role) (roster : n'.roster = n.roster)
    (sends : n.Sends n' fun _ => False) : n.Quiet none n' := by
  refine ⟨?_, ?_, ?_, ?_, ?_, ?_, fun _ h => ?_, identity, role, fun e he _ => roster ▸ he, sends⟩
  all_goals rw [election]
  exact h

/-! ## Promotion -/

/-- Everything but the engine, the roster and the input caches. -/
def frame (n : Node) : ElectionFields × (PlayerId × Ip × String × ℕ) × PlayerRole ×
    List Outgoing × Ip × ℕ :=
  (n.election, n.identity, n.role, n.outbox, n.remoteHost, n.remotePort)

theorem evictHost_frame (n : Node) : n.evictHost.frame = n.frame := by
  unfold evictHost
  split <;> rfl

/-- What a promotion does to the election. -/
structure Promoted (n n' : Node) : Prop where
  election : n'.election = { n.election with promotionDone := true }
  identity : n'.identity = n.identity
  role : n'.role = .host
  sends : n.Sends n' fun m => ∃ ack, m = .reconnectionAck ack

theorem restoreWorld_frame (n : Node) : n.restoreWorld.frame = n.frame := by
  unfold restoreWorld
  split <;> rfl

/-- A node that has been promoted before stays as it is. -/
theorem promoteToHost_cases {n n' : Node} {now : ℚ} (h : n.promoteToHost now = .ok n') :
    (n.election.promotionDone = true ∧ n' = n) ∨
      (n.election.promotionDone = false ∧ n.Promoted n') := by
  rcases promoteToHost_spec h with ⟨done, rfl⟩ | ⟨waiting, out, rfl, hout⟩
  · exact .inl ⟨done, rfl⟩
  refine .inr ⟨waiting, ?_⟩
  have hframe : n.assumeHostRole.frame = n.takeAuthority.frame :=
    (evictHost_frame _).trans (restoreWorld_frame _)
  simp only [frame, Prod.mk.injEq] at hframe
  obtain ⟨helection, hidentity, -, houtbox, -, -⟩ := hframe
  refine ⟨helection, hidentity, rfl, out, ?_, fun o ho m hm => ?_⟩
  · change n.assumeHostRole.outbox ++ out = _
    rw [houtbox]
    rfl
  · obtain ⟨ack, rfl | ⟨host, port, rfl⟩⟩ := hout o ho <;>
      exact ⟨ack, (Option.some.inj hm).symm⟩

theorem Promoted.of_frame {n m n' : Node} (hframe : m.frame = n.frame) (h : m.Promoted n') :
    n.Promoted n' := by
  simp only [frame, Prod.mk.injEq] at hframe
  obtain ⟨helection, hidentity, -, houtbox, -, -⟩ := hframe
  obtain ⟨out, hout, hP⟩ := h.sends
  exact ⟨helection ▸ h.election, h.identity.trans hidentity, h.role, out, houtbox ▸ hout, hP⟩

theorem promoted_of_waiting {n n' : Node} {now : ℚ} (waiting : n.election.promotionDone = false)
    (h : n.promoteToHost now = .ok n') : n.Promoted n' := by
  rcases promoteToHost_cases h with ⟨done, -⟩ | ⟨-, hpromoted⟩
  · simp [done] at waiting
  · exact hpromoted

theorem foldl_evictSilentPeer_frame (pending : List Ip) (n : Node) :
    (pending.foldl evictSilentPeer n).frame = n.frame := by
  refine Fallible.foldl_keeps (P := fun m : Node => m.frame = n.frame) (fun m ip _ hm => ?_) rfl
  rw [← hm, evictSilentPeer]
  split <;> rfl

/-! ## The handlers -/

/-- The node as the follower of a claimer. -/
def followed (n : Node) (coordinator : ElectionCoordinator) (msg : NewHostClaim) (now : ℚ) : Node :=
  (n.follow
    { coordinator with
      state := .follower
      currentHostIp := some msg.claimerIp
      currentHostJoinIndex := some msg.claimerJoinIndex
      electionTimerExpiry := none } msg.claimerIp now).broadcastElection
    (.electionAck ⟨n.localIp, n.sessionId⟩) (some [msg.claimerIp])

/-- A claim is ignored, or it is followed and acknowledged. -/
theorem onNewHostClaim_cases {n n' : Node} {msg : NewHostClaim} {now : ℚ}
    (h : n.onNewHostClaim msg now = .ok n') :
    (n' = n ∧ ¬ n.Yields msg) ∨
      ∃ coordinator, n.election.coordinator = some coordinator ∧ n.Yields msg ∧
        n' = n.followed coordinator msg now := by
  unfold onNewHostClaim at h
  split at h
  case isTrue echo =>
    cases h
    exact .inl ⟨rfl, fun ⟨_, _, hne, _⟩ => hne echo⟩
  case isFalse echo =>
    split at h
    case h_1 hnone =>
      cases h
      exact .inl ⟨rfl, fun ⟨_, hsome, _, _⟩ => by simp [hnone] at hsome⟩
    case h_2 coordinator hsome =>
      by_cases hlower : msg.claimerJoinIndex < coordinator.joinIndex
      · simp only [ElectionCoordinator.onNewHostClaim, ge_iff_le, not_le.mpr hlower, if_false] at h
        obtain ⟨ack, hack, h⟩ := Fallible.bind_eq_ok.mp h
        obtain ⟨_, -, hack⟩ := Fallible.bind_eq_ok.mp hack
        obtain ⟨_, -, hack⟩ := Fallible.bind_eq_ok.mp hack
        cases hack
        cases h
        exact .inr ⟨coordinator, hsome, ⟨coordinator, hsome, echo, hlower⟩, rfl⟩
      · simp only [ElectionCoordinator.onNewHostClaim, ge_iff_le, not_lt.mp hlower, if_true] at h
        cases h
        refine .inl ⟨rfl, fun ⟨c, hc, _, hlt⟩ => hlower ?_⟩
        rw [hsome] at hc
        exact Option.some.inj hc ▸ hlt

/-- An ack is ignored, or it leaves other acks pending, or it was the last one. -/
theorem onElectionAck_cases {n n' : Node} {msg : ElectionAck} {now : ℚ}
    (h : n.onElectionAck msg now = .ok n') :
    n' = n ∨
      (n.election.promotionDone = false ∧ msg.fromIp ∈ n.election.pendingElectionAcks ∧
        ((n' = n.withPendingAcks (n.election.pendingElectionAcks.filter (· ≠ msg.fromIp)) ∧
            n.election.pendingElectionAcks.filter (· ≠ msg.fromIp) ≠ []) ∨
          ((∀ ip ∈ n.election.pendingElectionAcks, ip = msg.fromIp) ∧
            (n.withPendingAcks []).Promoted n'))) := by
  unfold onElectionAck at h
  split at h
  · cases h; exact .inl rfl
  case isFalse waiting =>
    split at h
    · cases h; exact .inl rfl
    case isFalse hpending =>
      refine .inr ⟨by simpa using waiting, not_not.mp hpending, ?_⟩
      dsimp only at h
      split at h
      case isTrue hempty =>
        rw [hempty] at h
        refine .inr ⟨fun ip hip => ?_,
          promoted_of_waiting (by simpa [withPendingAcks] using waiting) h⟩
        simpa using List.filter_eq_nil_iff.mp hempty ip hip
      case isFalse hleft =>
        cases h
        exact .inl ⟨rfl, hleft⟩

/-- The election fields after a reconnection. -/
def rearmed (e : ElectionFields) : ElectionFields :=
  { e with
    reconnected := true
    electionTriggered := false
    pendingElectionAcks := []
    electionClaimDeadline := 0
    coordinator := none
    timeoutWatcher := some {}
    hostVerifyDeadline := 0 }

/-- What a reconnection leaves of the node. -/
structure Reset (n : Node) (ack : ReconnectionAck) (n' : Node) : Prop where
  election : n'.election = rearmed n.election
  identity : n'.identity = n.identity
  role : n'.role = n.role
  outbox : n'.outbox = n.outbox
  remote : n'.remoteHost = ack.newHostIp ∧ n'.remotePort = ack.udpPort
  roster : n'.roster = (n.repointRosterAt ack.newHostIp).roster

theorem resyncEnvironmentFromBuffer_spec (n : Node) :
    n.resyncEnvironmentFromBuffer.frame = n.frame ∧
      n.resyncEnvironmentFromBuffer.roster = n.roster := by
  unfold resyncEnvironmentFromBuffer
  split <;> exact ⟨rfl, rfl⟩

theorem evictHost_roster (n : Node) :
    n.evictHost.roster = match n.roster.getHost with
      | some crashed => n.roster.removePlayer crashed.playerId
      | none => n.roster := by
  cases hhost : n.roster.getHost <;> simp [evictHost, hhost]

theorem repointRosterAt_frame (n : Node) (ip : Ip) : (n.repointRosterAt ip).frame = n.frame := by
  unfold repointRosterAt
  dsimp only
  split
  · exact evictHost_frame n
  · exact evictHost_frame n

/-- Which roster comes out depends on the roster only. -/
theorem repointRosterAt_congr {n m : Node} (h : n.roster = m.roster) (ip : Ip) :
    (n.repointRosterAt ip).roster = (m.repointRosterAt ip).roster := by
  have hevict : n.evictHost.roster = m.evictHost.roster := by
    rw [evictHost_roster, evictHost_roster, h]
  simp only [repointRosterAt, hevict]
  split
  · simp only [promoteInRoster, hevict]
  · exact hevict

/-- The last two steps of a reconnection. -/
theorem reset_of_frame {n m : Node} {ack : ReconnectionAck}
    (hframe : m.frame = (n.reconnectTo ack).frame)
    (hroster : m.roster = (n.repointRosterAt ack.newHostIp).roster) :
    n.Reset ack m.resetElectionState.recalibratePredictionLead := by
  simp only [frame, Prod.mk.injEq] at hframe
  obtain ⟨helection, hidentity, hrole, houtbox, hhost, hport⟩ := hframe
  refine ⟨?_, hidentity, hrole, houtbox, ⟨hhost, hport⟩, hroster⟩
  simp only [recalibratePredictionLead, resetElectionState, helection, reconnectTo, rearmed]

/-- An ack is ignored once reconnected or promoted; the first one resets the election. -/
theorem onReconnectionAck_cases (n : Node) (ack : ReconnectionAck) :
    (n.onReconnectionAck ack = n ∧
        (n.election.reconnected = true ∨ n.election.promotionDone = true)) ∨
      (n.election.reconnected = false ∧ n.election.promotionDone = false ∧
        n.Reset ack (n.onReconnectionAck ack)) := by
  by_cases hguard : (n.election.reconnected || n.election.promotionDone) = true
  · exact .inl ⟨by rw [onReconnectionAck, if_pos hguard], by simpa using hguard⟩
  · have hopen : n.election.reconnected = false ∧ n.election.promotionDone = false := by
      simpa using hguard
    refine .inr ⟨hopen.1, hopen.2, ?_⟩
    rw [onReconnectionAck, if_neg hguard]
    obtain ⟨hresync, hresyncRoster⟩ := resyncEnvironmentFromBuffer_spec (n.reconnectTo ack)
    set m := (n.reconnectTo ack).resyncEnvironmentFromBuffer.forgetSnapshotSequence
    have hframe : (m.repointRosterAt ack.newHostIp).frame = (n.reconnectTo ack).frame :=
      (repointRosterAt_frame m ack.newHostIp).trans hresync
    have hroster : (m.repointRosterAt ack.newHostIp).roster =
        (n.repointRosterAt ack.newHostIp).roster :=
      repointRosterAt_congr (show m.roster = n.roster from hresyncRoster) _
    exact reset_of_frame hframe hroster

/-! ## The parts of `tickElectionState` -/

/-- The host's verification ends here without an answer. -/
def ConfirmsTimeout (n : Node) (now : ℚ) : Prop :=
  n.election.hostVerifyDeadline ≠ 0 ∧ n.election.hostVerifyDeadline ≤ now ∧
    ∃ watcher ∈ n.election.timeoutWatcher, watcher.tick now = true

instance (n : Node) (now : ℚ) : Decidable (n.ConfirmsTimeout now) :=
  inferInstanceAs (Decidable (_ ∧ _))

theorem resendHostVerifyProbe_quiet {n n' : Node} {now : ℚ}
    (h : n.resendHostVerifyProbe now = .ok n') :
    n.Quiet none n' ∧ n'.election.hostVerifyDeadline = n.election.hostVerifyDeadline := by
  obtain ⟨probe, -, h⟩ := Fallible.bind_eq_ok.mp h
  cases h
  refine ⟨⟨rfl, rfl, rfl, rfl, rfl, rfl, fun _ h => h, rfl, rfl, fun _ he _ => he, ?_⟩, rfl⟩
  exact ⟨[_], rfl, by simp [Outgoing.election]⟩

theorem withHostVerifyDeadline_quiet {n : Node} {deadline : ℚ}
    (h : n.election.electionTriggered = true → deadline = 0) :
    n.Quiet none (n.withHostVerifyDeadline deadline) :=
  ⟨rfl, rfl, rfl, rfl, rfl, rfl, fun htriggered _ => h htriggered, rfl, rfl, fun _ he _ => he,
    [], by simp [withHostVerifyDeadline], by simp⟩

/-- What a tick does about the host: nothing, a suspicion with its first probe, the end of one, an
election, or another probe. -/
inductive WatchesHost (n : Node) (coordinator : ElectionCoordinator) (watcher : HostTimeoutWatcher)
    (now : ℚ) : Node → Prop
  | rests (silent : n.election.hostVerifyDeadline ≠ 0 → watcher.tick now = true) :
    WatchesHost n coordinator watcher now n
  | suspects {n' : Node} (unset : n.election.hostVerifyDeadline = 0)
    (idle : n.election.electionTriggered = false) (silent : watcher.tick now = true)
    (probe : (n.withHostVerifyDeadline (now + hostVerifyTimeoutS)).resendHostVerifyProbe now =
      .ok n') : WatchesHost n coordinator watcher now n'
  | hears : WatchesHost n coordinator watcher now (n.withHostVerifyDeadline 0)
  | confirms (set : n.election.hostVerifyDeadline ≠ 0)
    (due : n.election.hostVerifyDeadline ≤ now) (silent : watcher.tick now = true) :
    WatchesHost n coordinator watcher now (n.startElection coordinator now)
  | probes {n' : Node} (silent : watcher.tick now = true)
    (probe : n.resendHostVerifyProbe now = .ok n') : WatchesHost n coordinator watcher now n'

theorem tickHostTimeout_watches {n n' : Node} {coordinator : ElectionCoordinator}
    {watcher : HostTimeoutWatcher} {now : ℚ}
    (h : n.tickHostTimeout coordinator watcher now = .ok n') :
    n.WatchesHost coordinator watcher now n' := by
  unfold tickHostTimeout at h
  split at h
  case isTrue hunset =>
    split at h
    case isTrue hsuspect =>
      simp only [Bool.and_eq_true, Bool.not_eq_true'] at hsuspect
      exact .suspects hunset hsuspect.1 hsuspect.2 h
    case isFalse => cases h; exact .rests fun hset => absurd hunset hset
  case isFalse hset =>
    unfold tickHostVerify at h
    split at h
    · cases h; exact .hears
    case isFalse hsilent =>
      have hticks : watcher.tick now = true := by simpa using hsilent
      split at h
      case isTrue hdue => cases h; exact .confirms hset hdue hticks
      case isFalse =>
        split at h
        · exact .probes hticks h
        · cases h; exact .rests fun _ => hticks

theorem tickHostTimeout_cases {n n' : Node} {coordinator : ElectionCoordinator}
    {watcher : HostTimeoutWatcher} {now : ℚ} (hwatcher : n.election.timeoutWatcher = some watcher)
    (h : n.tickHostTimeout coordinator watcher now = .ok n') :
    n.Quiet none n' ∨ (n.ConfirmsTimeout now ∧ n' = n.startElection coordinator now) := by
  cases tickHostTimeout_watches h with
  | rests => exact .inl (.refl n none)
  | suspects _ idle _ probe =>
    have hset : n.Quiet none (n.withHostVerifyDeadline (now + hostVerifyTimeoutS)) :=
      withHostVerifyDeadline_quiet fun htriggered => by simp [idle] at htriggered
    exact .inl (hset.trans (resendHostVerifyProbe_quiet probe).1)
  | hears => exact .inl (withHostVerifyDeadline_quiet fun _ => rfl)
  | confirms set due silent => exact .inr ⟨⟨set, due, watcher, hwatcher, silent⟩, rfl⟩
  | probes _ probe => exact .inl (resendHostVerifyProbe_quiet probe).1

def withCoordinator (n : Node) (coordinator : ElectionCoordinator) : Node :=
  { n with election := { n.election with coordinator := some coordinator } }

/-- The node after its claim has gone out to its peers. -/
def claiming (n : Node) (now : ℚ) : Node :=
  let sent := n.broadcastElection (.newHostClaim ⟨n.localIp, n.joinIndex, n.sessionId⟩)
    (some n.knownClientPeers)
  { sent with
    election :=
      { sent.election with
        pendingElectionAcks := n.knownClientPeers
        electionClaimDeadline := now + electionClaimTimeoutS } }

theorem tickCoordinator_cases {n n' : Node} {now : ℚ} (h : n.tickCoordinator now = .ok n') :
    n' = n ∨ ∃ coordinator, n.election.coordinator = some coordinator ∧
      coordinator.state = .electionPending ∧
      ((n.knownClientPeers ≠ [] ∧
          n' = (n.withCoordinator { coordinator with state := .claimed }).claiming now) ∨
        (n.knownClientPeers = [] ∧
          (n.withCoordinator { coordinator with state := .claimed }).promoteToHost now =
            .ok n')) := by
  unfold tickCoordinator at h
  split at h
  · cases h; exact .inl rfl
  case h_2 coordinator hsome =>
    obtain ⟨⟨ticked, event⟩, htick, h⟩ := Fallible.bind_eq_ok.mp h
    rcases ElectionCoordinator.tick_cases htick with ⟨rfl, rfl⟩ | ⟨hpending, rfl, rfl⟩
    · cases h
      refine .inl ?_
      rw [← hsome]
    · refine .inr ⟨coordinator, hsome, hpending, ?_⟩
      change (n.withCoordinator { coordinator with state := .claimed }).onSelfElected now = _ at h
      simp only [onSelfElected] at h
      split at h
      case isTrue halone => exact .inr ⟨halone, h⟩
      case isFalse hpeers =>
        obtain ⟨claim, hclaim, h⟩ := Fallible.bind_eq_ok.mp h
        obtain ⟨_, -, hclaim⟩ := Fallible.bind_eq_ok.mp hclaim
        obtain ⟨_, -, hclaim⟩ := Fallible.bind_eq_ok.mp hclaim
        cases hclaim
        cases h
        exact .inl ⟨hpeers, rfl⟩

theorem tickClaimDeadline_cases {n n' : Node} {now : ℚ} (h : n.tickClaimDeadline now = .ok n') :
    n' = n ∨ (n.ClaimExpired now ∧ (n.withPendingAcks []).Promoted n') := by
  unfold tickClaimDeadline at h
  split at h
  · cases h; exact .inl rfl
  case isFalse hwaiting =>
    split at h
    · cases h; exact .inl rfl
    case isFalse hdue =>
      simp only [Bool.or_eq_true, decide_eq_true_eq, not_or, not_lt, Bool.not_eq_true]
        at hwaiting hdue
      refine .inr ⟨⟨hwaiting.1, hwaiting.2, hdue.1, hdue.2⟩, ?_⟩
      -- the evictions touch nothing that the election reads
      have hframe := foldl_evictSilentPeer_frame n.election.pendingElectionAcks n
      set evicted := n.election.pendingElectionAcks.foldl evictSilentPeer n
      simp only [frame, Prod.mk.injEq] at hframe
      obtain ⟨helection, hidentity, hrole, houtbox, hhost, hport⟩ := hframe
      refine Promoted.of_frame (m := evicted.withPendingAcks []) ?_ (promoted_of_waiting ?_ h)
      · simp only [frame, withPendingAcks, identity, Prod.mk.injEq] at hidentity ⊢
        simp only [helection, hidentity, hrole, houtbox, hhost, hport, and_self]
      · simp [withPendingAcks, helection, hwaiting.1]

/-- Since when the node has followed this host. -/
def withFollowing (n : Node) (since : ℚ) (following : Option Ip) : Node :=
  { n with
    election :=
      { n.election with
        followingSince := since
        followingHostIp := following } }

/-- The fallback does nothing, or it asks around, or what it finds stands in for the ack of the
followed host. -/
theorem tickReconnectionFallback_cases {n n' : Node} {foundIp : Option Ip} {now : ℚ}
    (h : n.tickReconnectionFallback foundIp now = .ok n') :
    n' = n ∨ n' = n.withFollowing now n.election.followingHostIp ∨
      (foundIp ≠ none ∧ ∃ ack, n' = (n.withFollowing now none).onReconnectionAck ack) := by
  unfold tickReconnectionFallback at h
  split at h
  · cases h; exact .inl rfl
  · split at h
    · cases h; exact .inl rfl
    · split at h
      · cases h; exact .inr (.inl rfl)
      case h_2 ip =>
        obtain ⟨ack, -, h⟩ := Fallible.bind_eq_ok.mp h
        cases h
        exact .inr (.inr ⟨Option.some_ne_none ip, ack, rfl⟩)

theorem tickReconnectionFallback_quiet {n n' : Node} {foundIp : Option Ip} {now : ℚ}
    (h : n.tickReconnectionFallback foundIp now = .ok n') :
    n.Quiet none n' ∨ (foundIp ≠ none ∧ ∃ m ack, n.Quiet none m ∧
      n' = m.onReconnectionAck ack) := by
  have same (since : ℚ) (following : Option Ip) : n.Quiet none (n.withFollowing since following) :=
    ⟨rfl, rfl, rfl, rfl, rfl, rfl, fun _ h => h, rfl, rfl, fun _ he _ => he, .refl n _⟩
  obtain rfl | rfl | ⟨hfound, ack, rfl⟩ := tickReconnectionFallback_cases h
  · exact .inl (.refl n' none)
  · exact .inl (same _ _)
  · exact .inr ⟨hfound, _, ack, same _ _, rfl⟩

/-- A tick of the election: nothing without the components, else the host's timeout and, in an
election, the three parts that follow it. -/
theorem tickElectionState_cases {n n' : Node} {foundIp : Option Ip} {now : ℚ}
    (h : n.tickElectionState foundIp now = .ok n') :
    (n' = n ∧ (n.election.coordinator = none ∨ n.election.timeoutWatcher = none)) ∨
      ∃ coordinator watcher n₁, n.election.coordinator = some coordinator ∧
        n.election.timeoutWatcher = some watcher ∧
        n.tickHostTimeout coordinator watcher now = .ok n₁ ∧
        ((n₁.election.electionTriggered = false ∧ n' = n₁) ∨
          (n₁.election.electionTriggered = true ∧ ∃ n₂ n₃, n₁.tickCoordinator now = .ok n₂ ∧
            n₂.tickClaimDeadline now = .ok n₃ ∧
            n₃.tickReconnectionFallback foundIp now = .ok n')) := by
  unfold tickElectionState at h
  split at h
  case h_1 coordinator watcher hcoordinator hwatcher =>
    obtain ⟨n₁, htimeout, h⟩ := Fallible.bind_eq_ok.mp h
    refine .inr ⟨coordinator, watcher, n₁, hcoordinator, hwatcher, htimeout, ?_⟩
    split at h
    case isTrue htriggered =>
      obtain ⟨n₂, helect, h⟩ := Fallible.bind_eq_ok.mp h
      obtain ⟨n₃, hdeadline, h⟩ := Fallible.bind_eq_ok.mp h
      exact .inr ⟨htriggered, n₂, n₃, helect, hdeadline, h⟩
    case isFalse hidle =>
      cases h
      exact .inl ⟨by simpa using hidle, rfl⟩
  case h_2 hmissing =>
    cases h
    refine .inl ⟨rfl, ?_⟩
    cases hcoordinator : n.election.coordinator with
    | none => exact .inl rfl
    | some coordinator =>
      cases hwatcher : n.election.timeoutWatcher with
      | none => exact .inr rfl
      | some watcher => exact absurd hwatcher (hmissing coordinator watcher hcoordinator)

/-! ## Elections in small parts -/

/-- What handlers of elections do to a node, one thing at a time. -/
inductive ElectionPart (n : Node) : Node → Prop where
  | fields {n' : Node} (only : n' = { n with election := n'.election })
    (reconnected : n'.election.reconnected = n.election.reconnected)
    (promotionDone : n'.election.promotionDone = n.election.promotionDone) : ElectionPart n n'
  | sends (out : List Outgoing) (elsewhere : ∀ o ∈ out, ∀ message, o ≠ .lobby message) :
    ElectionPart n (n.send out)
  | evicts (pid : PlayerId) : ElectionPart n (n.evictPlayer pid)
  | promotes {n' : Node} (now : ℚ) (h : n.promoteToHost now = .ok n') : ElectionPart n n'
  | reconnects (ack : ReconnectionAck) : ElectionPart n (n.onReconnectionAck ack)

/-- One part after the other. -/
def ElectionParts : Node → Node → Prop := Relation.ReflTransGen ElectionPart

theorem withPendingAcks_part (n : Node) (pending : List Ip) :
    n.ElectionPart (n.withPendingAcks pending) := .fields rfl rfl rfl

theorem withHostVerifyDeadline_part (n : Node) (deadline : ℚ) :
    n.ElectionPart (n.withHostVerifyDeadline deadline) := .fields rfl rfl rfl

theorem withCoordinator_part (n : Node) (coordinator : ElectionCoordinator) :
    n.ElectionPart (n.withCoordinator coordinator) := .fields rfl rfl rfl

theorem withFollowing_part (n : Node) (since : ℚ) (following : Option Ip) :
    n.ElectionPart (n.withFollowing since following) := .fields rfl rfl rfl

theorem follow_part (n : Node) (coordinator : ElectionCoordinator) (claimerIp : Ip) (now : ℚ) :
    n.ElectionPart (n.follow coordinator claimerIp now) := .fields rfl rfl rfl

theorem broadcastElection_part (n : Node) (message : ElectionMessage)
    (onlyHosts : Option (List Ip)) : n.ElectionPart (n.broadcastElection message onlyHosts) := by
  refine .sends _ fun o ho m => ?_
  rcases List.mem_cons.mp ho with rfl | ho
  · simp
  · obtain ⟨e, -, rfl⟩ := List.mem_map.mp ho
    simp

theorem claiming_parts (n : Node) (now : ℚ) : n.ElectionParts (n.claiming now) :=
  .tail (.single (broadcastElection_part n _ _)) (.fields rfl rfl rfl)

theorem resendHostVerifyProbe_parts {n n' : Node} {now : ℚ}
    (h : n.resendHostVerifyProbe now = .ok n') : n.ElectionParts n' := by
  obtain ⟨probe, -, h⟩ := Fallible.bind_eq_ok.mp h
  cases h
  exact .tail (.single (.sends [_] (by simp))) (.fields rfl rfl rfl)

theorem tickHostTimeout_parts {n n' : Node} {coordinator : ElectionCoordinator}
    {watcher : HostTimeoutWatcher} {now : ℚ}
    (h : n.tickHostTimeout coordinator watcher now = .ok n') : n.ElectionParts n' := by
  cases tickHostTimeout_watches h with
  | rests => exact .refl
  | suspects _ _ _ probe =>
    exact .head (withHostVerifyDeadline_part n _) (resendHostVerifyProbe_parts probe)
  | hears => exact .single (withHostVerifyDeadline_part n 0)
  | confirms => exact .single (.fields rfl rfl rfl)
  | probes _ probe => exact resendHostVerifyProbe_parts probe

theorem tickCoordinator_parts {n n' : Node} {now : ℚ} (h : n.tickCoordinator now = .ok n') :
    n.ElectionParts n' := by
  rcases tickCoordinator_cases h with rfl | ⟨c, -, -, ⟨-, rfl⟩ | ⟨-, hpromote⟩⟩
  · exact .refl
  · exact .head (withCoordinator_part n _) (claiming_parts _ now)
  · exact .tail (.single (withCoordinator_part n _)) (.promotes now hpromote)

theorem tickClaimDeadline_parts {n n' : Node} {now : ℚ} (h : n.tickClaimDeadline now = .ok n') :
    n.ElectionParts n' := by
  unfold tickClaimDeadline at h
  split at h
  · cases h; exact .refl
  split at h
  · cases h; exact .refl
  have hevicted : n.ElectionParts (n.election.pendingElectionAcks.foldl evictSilentPeer n) := by
    refine Fallible.foldl_keeps (P := fun m : Node => n.ElectionParts m) (fun m ip _ hm => ?_) .refl
    unfold evictSilentPeer
    split
    case h_1 entry _ => exact hm.tail (.evicts entry.playerId)
    case h_2 => exact hm
  exact (hevicted.tail (withPendingAcks_part _ [])).tail (.promotes now h)

theorem tickReconnectionFallback_parts {n n' : Node} {foundIp : Option Ip} {now : ℚ}
    (h : n.tickReconnectionFallback foundIp now = .ok n') : n.ElectionParts n' := by
  obtain rfl | rfl | ⟨-, ack, rfl⟩ := tickReconnectionFallback_cases h
  · exact .refl
  · exact .single (withFollowing_part n now _)
  · exact .tail (.single (withFollowing_part n now none)) (.reconnects ack)

theorem tickElectionState_parts {n n' : Node} {foundIp : Option Ip} {now : ℚ}
    (h : n.tickElectionState foundIp now = .ok n') : n.ElectionParts n' := by
  rcases tickElectionState_cases h with ⟨rfl, -⟩ | ⟨_, _, n₁, -, -, htimeout, hrest⟩
  · exact .refl
  have hwatched := tickHostTimeout_parts htimeout
  rcases hrest with ⟨-, rfl⟩ | ⟨-, n₂, n₃, hcoordinator, hclaim, hfallback⟩
  · exact hwatched
  · exact hwatched.trans ((tickCoordinator_parts hcoordinator).trans
      ((tickClaimDeadline_parts hclaim).trans (tickReconnectionFallback_parts hfallback)))

theorem onElectionMessage_parts {n n' : Node} {now : ℚ} {message : ElectionMessage}
    (h : n.onElectionMessage now message = .ok n') : n.ElectionParts n' := by
  cases message with
  | newHostClaim claim =>
    rcases onNewHostClaim_cases h with ⟨rfl, -⟩ | ⟨coordinator, -, -, rfl⟩
    · exact .refl
    · exact .tail (.single (follow_part n _ _ now)) (broadcastElection_part _ _ _)
  | electionAck ack =>
    simp only [onElectionMessage, onElectionAck] at h
    split at h
    · cases h; exact .refl
    split at h
    · cases h; exact .refl
    split at h
    · exact .tail (.single (withPendingAcks_part n _)) (.promotes now h)
    · cases h; exact .single (withPendingAcks_part n _)
  | reconnectionAck ack =>
    cases h
    exact .single (.reconnects ack)

/-- A deadline that has passed after the first two parts had passed before them: a claim that has
just gone out has its whole time left. -/
theorem claimExpired_of_tick {n n₁ n₂ : Node} {coordinator : ElectionCoordinator}
    {watcher : HostTimeoutWatcher} {now : ℚ} (hwatcher : n.election.timeoutWatcher = some watcher)
    (htimeout : n.tickHostTimeout coordinator watcher now = .ok n₁)
    (helect : n₁.tickCoordinator now = .ok n₂) (expired : n₂.ClaimExpired now) :
    n.ClaimExpired now := by
  have hback : n₁.ClaimExpired now → n.ClaimExpired now := by
    rcases tickHostTimeout_cases hwatcher htimeout with hquiet | ⟨-, rfl⟩
    · simp only [ClaimExpired, hquiet.promotionDone, hquiet.pending, hquiet.claimDeadline, imp_self]
    · exact id
  rcases tickCoordinator_cases helect with rfl | ⟨c, -, -, ⟨-, rfl⟩ | ⟨-, hpromote⟩⟩
  · exact hback expired
  · have hdue : now + electionClaimTimeoutS ≤ now := expired.2.2.2
    exact absurd hdue (not_le.mpr (lt_add_of_pos_right now (by decide +kernel)))
  · rcases promoteToHost_cases hpromote with ⟨-, rfl⟩ | ⟨-, hpromoted⟩
    · exact hback expired
    · have hwaiting := expired.1
      simp [hpromoted.election] at hwaiting

/-- A tick keeps what each of its parts keeps. -/
theorem tick_keeps {P : Node → Prop} {n n' : Node} {foundIp : Option Ip} {now : ℚ}
    (h : n.tickElectionState foundIp now = .ok n') (hn : P n)
    (quiet : ∀ m m', m.Quiet none m' → P m → P m')
    (confirms : ∀ c, n.ConfirmsTimeout now → P (n.startElection c now))
    (elected : ∀ m c, m.election.coordinator = some c → c.state = .electionPending → P m →
      P (m.withCoordinator { c with state := .claimed }))
    (claims : ∀ m c, m.election.coordinator = some c → c.state = .claimed →
      m.election.electionTriggered = true → P m → P (m.claiming now))
    (alone : ∀ m m' c, m.election.coordinator = some c → c.state = .claimed →
      m.election.electionTriggered = true → m.election.promotionDone = false →
      m.knownClientPeers = [] → m.Promoted m' → P m → P m')
    (expires : ∀ m m', n.ClaimExpired now → m.ClaimExpired now →
      (m.withPendingAcks []).Promoted m' → P m → P m')
    (reconnects : ∀ m ack, foundIp ≠ none → P m → P (m.onReconnectionAck ack)) : P n' := by
  rcases tickElectionState_cases h with ⟨rfl, -⟩ | ⟨c, w, n₁, -, hwatcher, htimeout, hrest⟩
  · exact hn
  have hn₁ : P n₁ := by
    rcases tickHostTimeout_cases hwatcher htimeout with hquiet | ⟨hconfirms, rfl⟩
    · exact quiet n n₁ hquiet hn
    · exact confirms c hconfirms
  rcases hrest with ⟨-, rfl⟩ | ⟨triggered, n₂, n₃, helect, hdeadline, hfallback⟩
  · exact hn₁
  have hn₂ : P n₂ := by
    rcases tickCoordinator_cases helect with rfl | ⟨c, hsome, hpending, hnext⟩
    · exact hn₁
    have helected := elected n₁ c hsome hpending hn₁
    set m := n₁.withCoordinator { c with state := .claimed }
    rcases hnext with ⟨-, rfl⟩ | ⟨hpeers, hpromote⟩
    · exact claims m _ rfl rfl triggered helected
    · rcases promoteToHost_cases hpromote with ⟨-, rfl⟩ | ⟨hwaiting, hpromoted⟩
      · exact helected
      · exact alone m n₂ _ rfl rfl triggered hwaiting hpeers hpromoted helected
  have hn₃ : P n₃ := by
    rcases tickClaimDeadline_cases hdeadline with rfl | ⟨hexpired, hpromoted⟩
    · exact hn₂
    · exact expires n₂ n₃ (claimExpired_of_tick hwatcher htimeout helect hexpired) hexpired
        hpromoted hn₂
  rcases tickReconnectionFallback_quiet hfallback with hquiet | ⟨hfound, m, ack, hquiet, rfl⟩
  · exact quiet n₃ n' hquiet hn₃
  · exact reconnects m ack hfound (quiet n₃ m hquiet hn₃)

/-! ## Client calls without a part in an election -/

theorem quiet_engine (n : Node) (engine : GameEngine) : n.Quiet none { n with engine := engine } :=
  quiet_of_same rfl rfl rfl rfl (.refl n _)

theorem evictPlayer_quiet (n : Node) (pid : PlayerId) : n.Quiet (some pid) (n.evictPlayer pid) where
  coordinator := rfl
  triggered := rfl
  reconnected := rfl
  pending := rfl
  claimDeadline := rfl
  promotionDone := rfl
  verified _ h := h
  identity := rfl
  role := rfl
  keeps e he hne := by
    rw [evictPlayer_roster, GlobalRoster.mem_removePlayer]
    exact ⟨he, fun heq => hne (heq ▸ rfl)⟩
  sends := .refl n _

theorem mergeRoster_quiet {n n' : Node} {roster : GlobalRoster}
    (h : n.mergeRoster roster = .ok n') : n.Quiet none n' := by
  obtain ⟨merged, rfl, hkeeps, -⟩ := mergeRoster_spec h
  exact ⟨rfl, rfl, rfl, rfl, rfl, rfl, fun _ h => h, rfl, rfl, fun e he _ => hkeeps e he,
    .refl n _⟩

theorem sendInputPacket_quiet {n n' : Node} {localInput : InputState}
    (h : n.sendInputPacket localInput = .ok n') : n.Quiet none n' := by
  obtain ⟨packet, -, h⟩ := Fallible.bind_eq_ok.mp h
  cases h
  exact quiet_of_same rfl rfl rfl rfl ⟨[_], rfl, by simp [Outgoing.election]⟩

theorem runPredictedTicks_quiet {n n' : Node} {localInput : InputState} {sentAt now : ℚ}
    (h : n.runPredictedTicks localInput sentAt now = .ok n') : n.Quiet none n' := by
  refine Fallible.foldlM_keeps (P := fun m => n.Quiet none m) (fun m _ m' _ hm hstep => ?_) h
    (quiet_of_same rfl rfl rfl rfl (.refl n _))
  obtain ⟨p, -, hstep⟩ := Fallible.bind_eq_ok.mp hstep
  cases hstep
  exact hm.trans (quiet_of_same rfl rfl rfl rfl (.refl m _))

theorem onSnapshot_quiet {n n' : Node} {snapshot : WorldStateSnapshot} {now : ℚ}
    (h : n.onSnapshot snapshot now = .ok n') : n.Quiet none n' := by
  unfold onSnapshot at h
  split at h
  · cases h; exact .refl n none
  · obtain ⟨p, -, h⟩ := Fallible.bind_eq_ok.mp h
    cases h
    exact ⟨rfl, rfl, rfl, rfl, rfl, rfl, fun _ h => h, rfl, rfl, fun _ he _ => he, .refl n _⟩

theorem onHostIdentityResponse_quiet (n : Node) (msg : HostIdentityResponse) (now : ℚ) :
    n.Quiet none (n.onHostIdentityResponse msg now) := by
  unfold onHostIdentityResponse
  split
  · exact .refl n none
  · split
    · exact .refl n none
    · exact ⟨rfl, rfl, rfl, rfl, rfl, rfl, fun _ _ => rfl, rfl, rfl, fun _ he _ => he, .refl n _⟩

theorem onLobbyMessage_quiet (n : Node) (message : WsMessage) :
    n.Quiet none (n.onLobbyMessage message) := by
  cases message with
  | initialStateSync w => exact quiet_of_same rfl rfl rfl rfl (.refl n _)
  | _ => exact .refl n none

theorem adjustPredictionLead_quiet (n : Node) : n.Quiet none n.adjustPredictionLead := by
  have same (m : Node) (remaining : ℕ) (h : n.Quiet none m) :
      n.Quiet none { m with predictionLeadCalibrationRemaining := remaining } :=
    h.trans (quiet_of_same rfl rfl rfl rfl (.refl m _))
  refine same _ _ ?_
  split
  · exact quiet_of_same rfl rfl rfl rfl (.refl n _)
  · split
    · exact quiet_of_same rfl rfl rfl rfl (.refl n _)
    · split
      · exact quiet_of_same rfl rfl rfl rfl (.refl n _)
      · exact .refl n none

end Node

/-- The election message that a call delivers. -/
def ClientCall.electionMessage : ClientCall → Option ElectionMessage
  | .datagram (.ok (.election message)) => some message
  | .gameEvent (.election message) => some message
  | _ => none

/-- The player whose departure a call reports. -/
def ClientCall.departed : ClientCall → Option PlayerId
  | .gameEvent (.playerLeft pid) => some pid
  | _ => none

namespace Node

/-- The four kinds of client calls, as far as an election is concerned. -/
inductive CallEffect (n : Node) (now : ℚ) : ClientCall → Node → Prop where
  | ensured : CallEffect n now .ensureElectionComponents n.ensureElectionComponents
  | delivered {call : ClientCall} {message : ElectionMessage} {n' : Node}
    (carries : call.electionMessage = some message) (h : n.onElectionMessage now message = .ok n') :
    CallEffect n now call n'
  | ticked {foundIp : Option Ip} {n' : Node} (h : n.tickElectionState foundIp now = .ok n') :
    CallEffect n now (.tickElectionState foundIp) n'
  | quiet {call : ClientCall} {n' : Node} (h : n.Quiet call.departed n') : CallEffect n now call n'

theorem clientCall_effect {n n' : Node} {now : ℚ} {call : ClientCall}
    (h : n.clientCall now call = .ok n') : n.CallEffect now call n' := by
  cases call with
  | ensureElectionComponents => cases h; exact .ensured
  | lobbyMessage message => cases h; exact .quiet (onLobbyMessage_quiet n message)
  | sendInputPacket localInput => exact .quiet (sendInputPacket_quiet h)
  | runPredictedTicks localInput sentAt => exact .quiet (runPredictedTicks_quiet h)
  | clearEvents => cases h; exact .quiet (quiet_engine n _)
  | datagram payload =>
    obtain ⟨message, hpayload, h⟩ := Fallible.bind_eq_ok.mp h
    subst hpayload
    cases message with
    | election message => exact .delivered rfl h
    | hostIdentityResponse response =>
      cases h; exact .quiet (onHostIdentityResponse_quiet n response now)
    | worldState snapshot => exact .quiet (onSnapshot_quiet h)
    | playerInput packet => cases h; exact .quiet (.refl n _)
    | hostDiscoveryProbe probe => cases h; exact .quiet (.refl n _)
  | gameEvent message =>
    cases message with
    | playerLeft pid =>
      cases h
      refine .quiet ?_
      split
      · exact .refl n _
      · exact evictPlayer_quiet n pid
    | rosterUpdate roster => exact .quiet (mergeRoster_quiet h)
    | election message => exact .delivered rfl h
    | levelReset =>
      cases h
      exact .quiet (quiet_of_same rfl rfl rfl rfl (.refl n _))
    | _ => cases h; exact .quiet (quiet_engine n _)
  | tickElectionState foundIp => exact .ticked h
  | adjustPredictionLead => cases h; exact .quiet (adjustPredictionLead_quiet n)

end Node

end DistributedSmb
