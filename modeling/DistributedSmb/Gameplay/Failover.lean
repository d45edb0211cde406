import DistributedSmb.Election.FailureDetector
import DistributedSmb.Election.Staggered
import DistributedSmb.Gameplay.Replaying

/-!
# A silent host is replaced in time

A client that hears no host, and no claim that it would follow, is host itself after a bounded time,
whatever else arrives and whoever is in its roster. It watches the host, verifies its suspicion,
waits for its turn, claims, and promotes itself. Each of these waits has a time at which it is due,
and the first frame from then on ends it.
-/

namespace DistributedSmb

open Library ElectionCoordinator

/-! ## Waiting for the next step -/

/-- The waits of a failover. -/
inductive FailoverWait where
  | watching | verifying | electing | claiming
  deriving DecidableEq

/-- How long it takes from the time at which the wait is due until the node is host. -/
def FailoverWait.rest (joinIndex : ℕ) (gap : ℚ) : FailoverWait → ℚ
  | watching => hostVerifyTimeoutS + electionWait joinIndex + electionClaimTimeoutS + 4 * gap
  | verifying => electionWait joinIndex + electionClaimTimeoutS + 3 * gap
  | electing => electionClaimTimeoutS + 2 * gap
  | claiming => gap

theorem electionWait_pos (joinIndex : ℕ) : 0 < electionWait joinIndex := by
  unfold electionWait tElectionBaseS tElectionDeltaS
  positivity

theorem FailoverWait.gap_le_rest {joinIndex : ℕ} {gap : ℚ} (hgap : 0 ≤ gap) (w : FailoverWait) :
    gap ≤ w.rest joinIndex gap := by
  have hwait := electionWait_pos joinIndex
  have hverify : 0 < hostVerifyTimeoutS := by decide +kernel
  have hclaim : 0 < electionClaimTimeoutS := by decide +kernel
  cases w <;> simp only [rest] <;> linarith

namespace ElectionFields

/-- What stays while the node waits. -/
structure Bereft (joinIndex : ℕ) (heard : ℚ) (e : ElectionFields) : Prop where
  waiting : e.promotionDone = false
  coordinator : ∃ c, e.coordinator = some c ∧ c.Staggered joinIndex
  watcher : e.timeoutWatcher = some { lastSnapshotTime := some heard }
  unled : e.reconnected = true ∨ e.followingHostIp = none

/-- The node waits like this until `due`. -/
def Awaits (heard due : ℚ) (e : ElectionFields) : FailoverWait → Prop
  | .watching =>
    e.electionTriggered = false ∧ e.hostVerifyDeadline = 0 ∧ due = heard + hostTimeoutS
  | .verifying => e.electionTriggered = false ∧ e.hostVerifyDeadline = due ∧ due ≠ 0
  | .electing =>
    e.electionTriggered = true ∧ e.hostVerifyDeadline = 0 ∧
      ∃ c, e.coordinator = some c ∧ c.state = .electionPending ∧ c.electionTimerExpiry = some due
  | .claiming =>
    e.electionTriggered = true ∧ e.hostVerifyDeadline = 0 ∧
      (∃ c, e.coordinator = some c ∧ c.state ≠ .electionPending) ∧
      e.pendingElectionAcks ≠ [] ∧ e.electionClaimDeadline = due ∧ due ≠ 0

end ElectionFields

namespace Node

/-- At `now` the node waits for something that was due no longer than `slack` ago, and from which on
it is host by `latest`. -/
structure FailsOver (joinIndex : ℕ) (heard gap slack now latest : ℚ) (n : Node) (w : FailoverWait)
    (due : ℚ) : Prop where
  bereft : n.election.Bereft joinIndex heard
  awaits : n.election.Awaits heard due w
  suspected : w ≠ .watching → heard + hostTimeoutS < now
  pending : now ≤ due + slack
  soon : due + w.rest joinIndex gap ≤ latest

variable {joinIndex : ℕ} {heard gap slack now latest due : ℚ} {n n' : Node} {w : FailoverWait}

/-! ## The parts of a tick -/

theorem resendHostVerifyProbe_election (h : n.resendHostVerifyProbe now = .ok n') :
    n'.election =
      { n.election with hostVerifyNextProbe := now + hostVerifyResendIntervalS } := by
  obtain ⟨probe, -, h⟩ := Fallible.bind_eq_ok.mp h
  cases h
  rfl

theorem silent_iff : ({ lastSnapshotTime := some heard } : HostTimeoutWatcher).tick now = true ↔
    heard + hostTimeoutS < now := by
  simp [HostTimeoutWatcher.tick, lt_sub_iff_add_lt']

/-- A silence that is long enough starts the verification. -/
theorem FailsOver.watches {coordinator : ElectionCoordinator}
    (h : n.FailsOver joinIndex heard gap gap now latest .watching due) (start : 0 ≤ heard)
    (htick : n.tickHostTimeout coordinator { lastSnapshotTime := some heard } now = .ok n') :
    n'.election.electionTriggered = false ∧
      ∃ w due, n'.FailsOver joinIndex heard gap 0 now latest w due := by
  obtain ⟨bereft, ⟨idle, unset, rfl⟩, suspected, pending, soon⟩ := h
  have hhost : 0 < hostTimeoutS := by decide +kernel
  have hverify : 0 < hostVerifyTimeoutS := by decide +kernel
  rw [Node.tickHostTimeout, if_pos unset, idle] at htick
  by_cases hsilent : heard + hostTimeoutS < now
  · rw [silent_iff.mpr hsilent] at htick
    have helection := resendHostVerifyProbe_election htick
    have hdue : now + hostVerifyTimeoutS ≠ 0 := by linarith
    refine ⟨by rw [helection]; exact idle, .verifying, now + hostVerifyTimeoutS, ?_⟩
    refine ⟨?_, ?_, fun _ => hsilent, by linarith, ?_⟩
    · rw [helection]
      exact ⟨bereft.waiting, bereft.coordinator, bereft.watcher, bereft.unled⟩
    · rw [helection]
      exact ⟨idle, rfl, hdue⟩
    · simp only [FailoverWait.rest] at soon ⊢
      linarith
  · rw [Bool.eq_false_iff.mpr fun hs => hsilent (silent_iff.mp hs)] at htick
    cases htick
    exact ⟨idle, .watching, _, bereft, ⟨idle, unset, rfl⟩, suspected, by linarith, soon⟩

/-- A verification that nobody answers starts the election. -/
theorem FailsOver.verifies {coordinator : ElectionCoordinator}
    (h : n.FailsOver joinIndex heard gap gap now latest .verifying due) (hgap : 0 ≤ gap)
    (hcoordinator : n.election.coordinator = some coordinator)
    (htick : n.tickHostTimeout coordinator { lastSnapshotTime := some heard } now = .ok n') :
    (n'.election.electionTriggered = false ∧
        n'.FailsOver joinIndex heard gap 0 now latest .verifying due) ∨
      (n'.election.electionTriggered = true ∧
        n'.FailsOver joinIndex heard gap gap now latest .electing
          (now + electionWait joinIndex)) := by
  obtain ⟨bereft, ⟨idle, hset, hdue⟩, suspected, pending, soon⟩ := h
  have hwait := electionWait_pos joinIndex
  have hsilent := suspected (by simp)
  rw [Node.tickHostTimeout, if_neg (hset ▸ hdue), tickHostVerify, silent_iff.mpr hsilent, hset,
    if_neg (by simp)] at htick
  by_cases hpassed : due ≤ now
  · rw [if_pos hpassed] at htick
    cases htick
    obtain ⟨c, hc, staggered⟩ := bereft.coordinator
    obtain rfl : c = coordinator := Option.some.inj (hc.symm.trans hcoordinator)
    refine .inr ⟨rfl, ⟨bereft.waiting, ?_, bereft.watcher, bereft.unled⟩, ?_, fun _ => hsilent,
      by linarith, ?_⟩
    · exact ⟨_, rfl, staggered.index, staggered.base, staggered.delta⟩
    · refine ⟨rfl, rfl, _, rfl, rfl, ?_⟩
      simp only [setElectionTimer, ElectionCoordinator.startElection, electionWait,
        staggered.index, staggered.base, staggered.delta]
    · simp only [FailoverWait.rest] at soon ⊢
      linarith
  · rw [if_neg hpassed] at htick
    have kept : ∃ next, n'.election = { n.election with hostVerifyNextProbe := next } := by
      split at htick
      · exact ⟨_, resendHostVerifyProbe_election htick⟩
      · cases htick
        exact ⟨_, rfl⟩
    obtain ⟨next, helection⟩ := kept
    refine .inl ⟨by rw [helection]; exact idle, ?_, ?_, fun _ => hsilent, by linarith, soon⟩
    · rw [helection]
      exact ⟨bereft.waiting, bereft.coordinator, bereft.watcher, bereft.unled⟩
    · rw [helection]
      exact ⟨idle, hset, hdue⟩

/-- The watch of the host and the verification end when they are due. -/
theorem FailsOver.tickHostTimeout {coordinator : ElectionCoordinator}
    (h : n.FailsOver joinIndex heard gap gap now latest w due) (start : 0 ≤ heard) (hgap : 0 ≤ gap)
    (hcoordinator : n.election.coordinator = some coordinator)
    (htick : n.tickHostTimeout coordinator { lastSnapshotTime := some heard } now = .ok n') :
    (n'.election.electionTriggered = false ∧
        ∃ w due, n'.FailsOver joinIndex heard gap 0 now latest w due) ∨
      (n'.election.electionTriggered = true ∧
        ∃ w due, n'.FailsOver joinIndex heard gap gap now latest w due) := by
  cases w with
  | watching => exact .inl (h.watches start htick)
  | verifying =>
    obtain ⟨hidle, hwaits⟩ | ⟨htriggered, hwaits⟩ := h.verifies hgap hcoordinator htick
    · exact .inl ⟨hidle, _, _, hwaits⟩
    · exact .inr ⟨htriggered, _, _, hwaits⟩
  | electing | claiming =>
    obtain ⟨triggered, unset, -⟩ := h.awaits
    rw [Node.tickHostTimeout, if_pos unset, triggered] at htick
    cases htick
    exact .inr ⟨triggered, _, _, h⟩

/-- The timer ends in a claim, or at once in the promotion of a sole survivor. -/
theorem FailsOver.elects (h : n.FailsOver joinIndex heard gap gap now latest .electing due)
    (start : 0 ≤ heard) (hgap : 0 ≤ gap) (hpassed : due ≤ now)
    (htick : n.tickCoordinator now = .ok n') :
    n'.role = .host ∨ n'.election.electionTriggered = true ∧
      n'.FailsOver joinIndex heard gap gap now latest .claiming (now + electionClaimTimeoutS) := by
  obtain ⟨bereft, ⟨triggered, unset, c, hc, hstate, htimer⟩, suspected, pending, soon⟩ := h
  have hclaim : 0 < electionClaimTimeoutS := by decide +kernel
  have hhost : 0 < hostTimeoutS := by decide +kernel
  obtain ⟨c', hc', staggered⟩ := bereft.coordinator
  obtain rfl : c' = c := Option.some.inj (hc'.symm.trans hc)
  have hsilent := suspected (by simp)
  simp only [Node.tickCoordinator, hc] at htick
  rw [tick_elects hstate htimer hpassed] at htick
  change (n.withCoordinator { c' with state := .claimed }).onSelfElected now = .ok n' at htick
  rw [onSelfElected] at htick
  dsimp only at htick
  split at htick
  case isTrue =>
    have hwaiting : (n.withCoordinator { c' with state := .claimed }).election.promotionDone =
        false := bereft.waiting
    exact .inl (promoted_of_waiting hwaiting htick).role
  case isFalse hpeers =>
    obtain ⟨claim, -, htick⟩ := Fallible.bind_eq_ok.mp htick
    cases htick
    refine .inr ⟨triggered, ?_, ?_, fun _ => hsilent, by linarith, ?_⟩
    · exact ⟨bereft.waiting, ⟨_, rfl, staggered.index, staggered.base, staggered.delta⟩,
        bereft.watcher, bereft.unled⟩
    · have hdue : now + electionClaimTimeoutS ≠ 0 := by linarith
      exact ⟨triggered, unset, ⟨_, rfl, by simp⟩, hpeers, rfl, hdue⟩
    · simp only [FailoverWait.rest] at soon ⊢
      linarith

/-- A coordinator that emits nothing has not changed. -/
theorem tickCoordinator_unchanged {c : ElectionCoordinator} (hc : n.election.coordinator = some c)
    (hidle : c.tick now = .ok (c, none)) (htick : n.tickCoordinator now = .ok n') : n' = n := by
  simp only [Node.tickCoordinator, hc, hidle] at htick
  cases htick
  rw [← hc]

/-- The tick of the coordinator ends the election when it is due. -/
theorem FailsOver.tickCoordinator (h : n.FailsOver joinIndex heard gap gap now latest w due)
    (start : 0 ≤ heard) (hgap : 0 ≤ gap) (triggered : n.election.electionTriggered = true)
    (htick : n.tickCoordinator now = .ok n') :
    n'.role = .host ∨ ∃ w due, n'.FailsOver joinIndex heard gap gap now latest w due ∧
      n'.election.electionTriggered = true ∧ (w = .electing → now ≤ due) := by
  cases w with
  | watching | verifying => simp [h.awaits.1] at triggered
  | electing =>
    by_cases hpassed : due ≤ now
    · refine (h.elects start hgap hpassed htick).imp_right fun ⟨htriggered, hwaits⟩ => ?_
      exact ⟨_, _, hwaits, htriggered, by simp⟩
    · obtain ⟨-, -, c, hc, hstate, htimer⟩ := h.awaits
      obtain rfl :=
        tickCoordinator_unchanged hc (tick_waits hstate htimer (not_le.mp hpassed)) htick
      exact .inr ⟨_, _, h, triggered, fun _ => (not_le.mp hpassed).le⟩
  | claiming =>
    obtain ⟨-, -, ⟨c, hc, hstate⟩, -⟩ := h.awaits
    obtain rfl := tickCoordinator_unchanged hc (tick_settled hstate now) htick
    exact .inr ⟨_, _, h, triggered, by simp⟩

theorem ClaimExpired.promotes (h : n.ClaimExpired now) (htick : n.tickClaimDeadline now = .ok n') :
    n'.role = .host := by
  obtain ⟨waiting, pending, set, due⟩ := h
  unfold Node.tickClaimDeadline at htick
  rw [if_neg (by simp [waiting, pending]), if_neg (by simp [set, due])] at htick
  have hframe := foldl_evictSilentPeer_frame n.election.pendingElectionAcks n
  simp only [frame, Prod.mk.injEq] at hframe
  have hwaiting : ((n.election.pendingElectionAcks.foldl evictSilentPeer n).withPendingAcks
      []).election.promotionDone = false := by
    simp only [withPendingAcks, hframe.1, waiting]
  exact (promoted_of_waiting hwaiting htick).role

/-- A claim that nobody answers in time ends in the promotion as well. -/
theorem FailsOver.tickClaimDeadline (h : n.FailsOver joinIndex heard gap gap now latest w due)
    (early : w = .electing → now ≤ due) (triggered : n.election.electionTriggered = true)
    (htick : n.tickClaimDeadline now = .ok n') :
    n'.role = .host ∨ n' = n ∧ n.FailsOver joinIndex heard gap 0 now latest w due := by
  by_cases hexpired : n.ClaimExpired now
  · exact .inl (hexpired.promotes htick)
  obtain rfl | ⟨hexpires, -⟩ := tickClaimDeadline_cases htick
  · obtain ⟨bereft, awaits, suspected, pending, soon⟩ := h
    refine .inr ⟨rfl, bereft, awaits, suspected, ?_, soon⟩
    rw [add_zero]
    cases w with
    | watching => simp [awaits.1] at triggered
    | verifying => simp [awaits.1] at triggered
    | electing => exact early rfl
    | claiming =>
      obtain ⟨-, -, -, hpending, rfl, hdue⟩ := awaits
      by_contra hpassed
      exact hexpired ⟨bereft.waiting, hpending, hdue, (not_le.mp hpassed).le⟩
  · exact absurd hexpires hexpired

theorem Recasts.isHost (h : n.Recasts n') (host : n.role = .host) : n'.role = .host := by
  obtain hsame | hpromoted := h
  · exact (congrArg Prod.snd hsame).trans host
  · exact congrArg Prod.snd hpromoted

/-- Who follows nobody has nothing to fall back from. -/
theorem tickReconnectionFallback_unled {foundIp : Option Ip}
    (unled : n.election.reconnected = true ∨ n.election.followingHostIp = none)
    (h : n.tickReconnectionFallback foundIp now = .ok n') : n' = n := by
  unfold tickReconnectionFallback at h
  rw [if_pos (by rcases unled with hr | hf <;> simp [*])] at h
  cases h
  rfl

theorem FailsOver.tickElectionState {foundIp : Option Ip}
    (h : n.FailsOver joinIndex heard gap gap now latest w due) (start : 0 ≤ heard) (hgap : 0 ≤ gap)
    (htick : n.tickElectionState foundIp now = .ok n') :
    n'.role = .host ∨ ∃ w due, n'.FailsOver joinIndex heard gap 0 now latest w due := by
  obtain ⟨c, hc, -⟩ := h.bereft.coordinator
  obtain ⟨-, hnone | hnone⟩ | ⟨coordinator, watcher, n₁, hcoordinator, hwatcher, htimeout, hrest⟩ :=
    tickElectionState_cases htick
  · simp [hc] at hnone
  · simp [h.bereft.watcher] at hnone
  obtain rfl : { lastSnapshotTime := some heard } = watcher :=
    Option.some.inj (h.bereft.watcher.symm.trans hwatcher)
  obtain ⟨hidle, hwaits⟩ | ⟨htriggered, w₁, due₁, h₁⟩ :=
    h.tickHostTimeout start hgap hcoordinator htimeout
  · obtain ⟨-, rfl⟩ | ⟨htriggered, -⟩ := hrest
    · exact .inr hwaits
    · simp [hidle] at htriggered
  obtain ⟨hidle, -⟩ | ⟨-, n₂, n₃, helect, hdeadline, hfallback⟩ := hrest
  · simp [hidle] at htriggered
  obtain hhost | ⟨w₂, due₂, h₂, triggered₂, early⟩ :=
    h₁.tickCoordinator start hgap htriggered helect
  · have hhost₃ := (tickClaimDeadline_recasts hdeadline).isHost hhost
    exact .inl (Recasts.isHost (.inl (tickReconnectionFallback_casting hfallback)) hhost₃)
  obtain hhost | ⟨rfl, h₃⟩ := h₂.tickClaimDeadline early triggered₂ hdeadline
  · exact .inl (Recasts.isHost (.inl (tickReconnectionFallback_casting hfallback)) hhost)
  obtain rfl := tickReconnectionFallback_unled h₃.bereft.unled hfallback
  exact .inr ⟨w₂, due₂, h₃⟩

/-! ## The other calls of a frame -/

theorem FailsOver.of_election (h : n.FailsOver joinIndex heard gap slack now latest w due)
    {pending : List Ip} (hpending : pending ≠ [])
    (helection : n'.election = { n.election with pendingElectionAcks := pending }) :
    n'.FailsOver joinIndex heard gap slack now latest w due := by
  refine ⟨?_, ?_, h.suspected, h.pending, h.soon⟩
  · rw [helection]
    exact ⟨h.bereft.waiting, h.bereft.coordinator, h.bereft.watcher, h.bereft.unled⟩
  · rw [helection]
    cases w with
    | watching | verifying | electing => exact h.awaits
    | claiming =>
      obtain ⟨triggered, unset, claimed, -, deadline⟩ := h.awaits
      exact ⟨triggered, unset, claimed, hpending, deadline⟩

theorem FailsOver.of_same (h : n.FailsOver joinIndex heard gap slack now latest w due)
    (helection : n'.election = n.election) :
    n'.FailsOver joinIndex heard gap slack now latest w due :=
  ⟨helection ▸ h.bereft, helection ▸ h.awaits, h.suspected, h.pending, h.soon⟩

end Node

/-- No message by which the node would follow somebody. -/
def ElectionMessage.Harmless (joinIndex : ℕ) : ElectionMessage → Prop
  | newHostClaim claim => joinIndex ≤ claim.claimerJoinIndex
  | electionAck _ => True
  | reconnectionAck _ => False

/-- The frame hears no host, and no claim that is lower than this join index. -/
structure FrameInput.Leaderless (joinIndex : ℕ) (f : FrameInput) : Prop where
  silent : f.Silent
  harmless : ∀ call ∈ f.clientCalls, ∀ m ∈ call.electionMessage, m.Harmless joinIndex

namespace Node

variable {joinIndex : ℕ} {heard gap slack now latest due : ℚ} {n n' : Node} {w : FailoverWait}

/-- An ack can be the last one that the node waits for. -/
theorem FailsOver.onElectionMessage {message : ElectionMessage}
    (h : n.FailsOver joinIndex heard gap slack now latest w due)
    (harmless : message.Harmless joinIndex) (hn' : n.onElectionMessage now message = .ok n') :
    n'.role = .host ∨ n'.FailsOver joinIndex heard gap slack now latest w due := by
  cases message with
  | newHostClaim claim =>
    obtain ⟨rfl, -⟩ | ⟨c, hc, ⟨c', hc', -, hlower⟩, -⟩ := onNewHostClaim_cases hn'
    · exact .inr h
    · obtain ⟨c₀, hc₀, staggered⟩ := h.bereft.coordinator
      obtain rfl : c₀ = c' := Option.some.inj (hc₀.symm.trans hc')
      rw [staggered.index] at hlower
      exact absurd harmless (not_le.mpr hlower)
  | electionAck ack =>
    obtain rfl | ⟨-, -, ⟨rfl, hleft⟩ | ⟨-, hpromoted⟩⟩ := onElectionAck_cases hn'
    · exact .inr h
    · exact .inr (h.of_election hleft rfl)
    · exact .inl hpromoted.role
  | reconnectionAck ack => exact harmless.elim

theorem FailsOver.clientCall {call : ClientCall}
    (h : n.FailsOver joinIndex heard gap slack now latest w due)
    (silent : (Call.client call).silent = true)
    (harmless : ∀ m ∈ call.electionMessage, m.Harmless joinIndex)
    (other : ∀ foundIp, call ≠ .tickElectionState foundIp) (hn' : n.clientCall now call = .ok n') :
    n'.role = .host ∨ n'.FailsOver joinIndex heard gap slack now latest w due := by
  cases call with
  | ensureElectionComponents =>
    cases hn'
    obtain ⟨c, hc, -⟩ := h.bereft.coordinator
    simp only [ensureElectionComponents, hc]
    exact .inr h
  | lobbyMessage message =>
    cases hn'
    refine .inr (h.of_same ?_)
    cases message <;> rfl
  | sendInputPacket localInput =>
    obtain ⟨packet, -, hn'⟩ := Fallible.bind_eq_ok.mp hn'
    cases hn'
    exact .inr (h.of_same rfl)
  | runPredictedTicks localInput sentAt =>
    refine .inr (h.of_same ?_)
    refine Fallible.foldlM_keeps (P := fun m : Node => m.election = n.election) ?_ hn' rfl
    intro m _ m' _ hm hstep
    obtain ⟨p, -, hstep⟩ := Fallible.bind_eq_ok.mp hstep
    cases hstep
    exact hm
  | clearEvents =>
    cases hn'
    exact .inr (h.of_same rfl)
  | datagram payload =>
    obtain ⟨message, rfl, hn'⟩ := Fallible.bind_eq_ok.mp hn'
    cases message with
    | election message => exact h.onElectionMessage (harmless message rfl) hn'
    | hostIdentityResponse response => simp [Call.silent] at silent
    | worldState snapshot => simp [Call.silent] at silent
    | playerInput | hostDiscoveryProbe =>
      cases hn'
      exact .inr h
  | gameEvent message =>
    cases message with
    | election message => exact h.onElectionMessage (harmless message rfl) hn'
    | playerLeft pid =>
      cases hn'
      refine .inr (h.of_same ?_)
      split <;> rfl
    | rosterUpdate roster =>
      obtain ⟨merged, rfl, -⟩ := mergeRoster_spec hn'
      exact .inr (h.of_same rfl)
    | _ =>
      cases hn'
      exact .inr (h.of_same rfl)
  | tickElectionState foundIp => exact absurd rfl (other foundIp)
  | adjustPredictionLead =>
    cases hn'
    exact .inr (h.of_same (adjustPredictionLead_election n))

/-! ## Frames -/

/-- The slack of a frame is the time since the last one; its tick makes up for it. -/
theorem FailsOver.processFrame {f : FrameInput}
    (h : n.FailsOver joinIndex heard gap 0 now latest w due) (start : 0 ≤ heard) (hgap : 0 ≤ gap)
    (hle : now ≤ f.now) (hpaced : f.now ≤ now + gap) (leaderless : f.Leaderless joinIndex)
    (hn' : n.processFrame f = .ok n') :
    n'.role = .host ∨ ∃ w due, n'.FailsOver joinIndex heard gap 0 f.now latest w due := by
  cases hrole : n.role with
  | host => exact .inl ((processFrame_recasts hn').isHost hrole)
  | client =>
  have late : n.FailsOver joinIndex heard gap gap f.now latest w due := by
    have hdue := h.pending
    exact ⟨h.bereft, h.awaits, fun hw => (h.suspected hw).trans_le hle, by linarith, h.soon⟩
  obtain ⟨before, hcalls, hbefore⟩ : ∃ before, f.clientCalls =
      before ++ [.tickElectionState f.foundIp, .adjustPredictionLead] ∧
        ∀ call ∈ before, ∀ foundIp, call ≠ .tickElectionState foundIp := by
    refine ⟨_, rfl, ?_⟩
    intro call hcall foundIp
    simp only [List.mem_append, List.mem_map, List.mem_cons, List.not_mem_nil, or_false] at hcall
    rcases hcall with (((rfl | ⟨m, -, rfl⟩) | rfl | rfl | rfl) | ⟨d, -, rfl⟩) | ⟨m, -, rfl⟩ <;> simp
  have hmem {call : ClientCall} (hcall : call ∈ before) : call ∈ f.clientCalls := by
    rw [hcalls]
    exact List.mem_append_left _ hcall
  rw [Node.processFrame, hrole] at hn'
  simp only [FrameInput.calls, hcalls, List.map_append, List.map_cons, List.map_nil] at hn'
  rw [Node.run, List.foldlM_append] at hn'
  obtain ⟨n₁, hfirst, hn'⟩ := Fallible.bind_eq_ok.mp hn'
  obtain ⟨n₂, htick, hn'⟩ := Fallible.bind_eq_ok.mp hn'
  obtain ⟨n₃, hadjust, hn'⟩ := Fallible.bind_eq_ok.mp hn'
  cases hn'
  have h₁ : n₁.role = .host ∨ n₁.FailsOver joinIndex heard gap gap f.now latest w due := by
    refine Fallible.foldlM_keeps (P := fun m : Node => m.role = .host ∨
      m.FailsOver joinIndex heard gap gap f.now latest w due) ?_ hfirst (.inr late)
    intro m c m' hc hm hstep
    obtain ⟨call, hcall, rfl⟩ := List.mem_map.mp hc
    obtain hhost | hm := hm
    · exact .inl ((clientCall_recasts hstep).isHost hhost)
    · exact hm.clientCall (leaderless.silent call (hmem hcall))
        (leaderless.harmless call (hmem hcall)) (hbefore call hcall) hstep
  have h₂ : n₂.role = .host ∨ ∃ w due, n₂.FailsOver joinIndex heard gap 0 f.now latest w due := by
    obtain hhost | h₁ := h₁
    · exact .inl ((tickElectionState_recasts htick).isHost hhost)
    · exact h₁.tickElectionState start hgap htick
  change n₂.clientCall f.now .adjustPredictionLead = .ok n' at hadjust
  obtain hhost | ⟨w', due', h₂⟩ := h₂
  · exact .inl ((clientCall_recasts hadjust).isHost hhost)
  · cases hadjust
    exact .inr ⟨w', due', h₂.of_same (adjustPredictionLead_election n₂)⟩

theorem host_stays {frames : List FrameInput} (host : n.role = .host)
    (h : frames.foldlM Node.processFrame n = .ok n') : n'.role = .host :=
  Fallible.foldlM_keeps (P := fun m : Node => m.role = .host)
    (fun _ _ _ _ hm hframe => (processFrame_recasts hframe).isHost hm) h host

/-- Every frame finds something that is still to come, or it is the node's last one as a client. -/
theorem FailsOver.run {frames : List FrameInput}
    (h : n.FailsOver joinIndex heard gap 0 now latest w due) (start : 0 ≤ heard) (hgap : 0 ≤ gap)
    (paced : DistributedSmb.Paced gap now frames)
    (leaderless : ∀ f ∈ frames, f.Leaderless joinIndex)
    (hn' : frames.foldlM Node.processFrame n = .ok n') :
    n'.role = .host ∨ ∀ f ∈ frames, f.now ≤ latest := by
  induction frames generalizing n now w due with
  | nil => exact .inr (by simp)
  | cons f frames ih =>
    rw [List.forall_mem_cons] at leaderless
    obtain ⟨hle, hnext, hpaced⟩ := paced
    rw [List.foldlM_cons] at hn'
    obtain ⟨n₁, hframe, hn'⟩ := Fallible.bind_eq_ok.mp hn'
    obtain hhost | ⟨w₁, due₁, h₁⟩ := h.processFrame start hgap hle hnext leaderless.1 hframe
    · exact .inl (host_stays hhost hn')
    · refine (ih h₁ hpaced leaderless.2 hn').imp_right fun hrest => ?_
      have hrestTime : gap ≤ w₁.rest joinIndex gap := w₁.gap_le_rest hgap
      have hpending := h₁.pending
      have hsoon := h₁.soon
      exact List.forall_mem_cons.mpr ⟨by linarith, hrest⟩

/-- The longest time from the last sign of the host to its replacement by this node. -/
def failoverTime (joinIndex : ℕ) (gap : ℚ) : ℚ :=
  hostTimeoutS + FailoverWait.watching.rest joinIndex gap

/-- A client that has last heard its host at `heard`, and after that neither a host nor a lower
claim in frames that are at most `gap` apart, is the host of its level soon after: nothing raises on
the way, and neither its peers nor what they send can keep it from that. -/
theorem silent_host_is_replaced {level : Level} {frames : List FrameInput} (sound : n.Sound)
    (plays : n.Plays level) (bereft : n.election.Bereft joinIndex heard)
    (idle : n.election.electionTriggered = false) (unset : n.election.hostVerifyDeadline = 0)
    (start : 0 ≤ heard) (paced : DistributedSmb.Paced gap heard frames)
    (named : ∀ f ∈ frames, f.Named) (leaderless : ∀ f ∈ frames, f.Leaderless joinIndex)
    (late : ∃ f ∈ frames, heard + failoverTime joinIndex gap < f.now) :
    ∃ n', frames.foldlM Node.processFrame n = .ok n' ∧ n'.role = .host ∧
      n'.engine.isAuthoritative = true := by
  obtain ⟨f, hf, hlate⟩ := late
  have hgap : 0 ≤ gap := by
    cases frames with
    | nil => simp at hf
    | cons g frames =>
      obtain ⟨hle, hnext, -⟩ := paced
      linarith
  obtain ⟨n', hn', -⟩ := Fallible.achieves_foldlM (P := Node.Sound)
    (fun _ g hg hm => hm.processFrame (named g hg)) sound
  have hwaits : n.FailsOver joinIndex heard gap 0 heard (heard + failoverTime joinIndex gap)
      .watching (heard + hostTimeoutS) := by
    have hhost : 0 < hostTimeoutS := by decide +kernel
    refine ⟨bereft, ⟨idle, unset, rfl⟩, fun hw => absurd rfl hw, by linarith, ?_⟩
    rw [failoverTime, add_assoc]
  have hhost : n'.role = .host := by
    obtain hhost | hearly := hwaits.run start hgap paced leaderless hn'
    · exact hhost
    · exact absurd (hearly f hf) (not_le.mpr hlate)
  have hplays : n'.Plays level := Fallible.foldlM_keeps (P := fun m : Node => m.Plays level)
    (fun _ _ _ _ hm hframe => hm.recasts (processFrame_recasts hframe)) hn' plays
  refine ⟨n', hn', hhost, ?_⟩
  simp only [Plays, GameEngine.setting, Prod.mk.injEq] at hplays
  rw [hplays.2.1, hhost]
  rfl

/-! ### A host that dies in a room of three -/

def roomOfThree : GlobalRoster where
  players :=
    [⟨"player1", "10.0.0.1", 50010, 0, .connected, true⟩,
      ⟨"player2", "10.0.0.2", 50011, 1, .connected, false⟩,
      ⟨"player3", "10.0.0.3", 50012, 2, .connected, false⟩]

/-- The second player, who has heard the host at second `0`. -/
def survivor : Node :=
  { bootstrap {} .client "10.0.0.2" with
    sessionId := "room"
    roster := roomOfThree
    joinIndex := 1
    election :=
      { coordinator := some { joinIndex := 1, myIp := "10.0.0.2" }
        timeoutWatcher := some { lastSnapshotTime := some 0 } } }

/-- Nothing arrives, not even the ack of the third player. -/
def deadFrames : List FrameInput :=
  [5, 10, 15, 20, 25, 30, 35, 40].map fun t => { now := t }

theorem idleFrame_leaderless (t : ℚ) (joinIndex : ℕ) :
    ({ now := t } : FrameInput).Leaderless joinIndex := by
  refine ⟨fun call hcall => ?_, fun call hcall m hm => ?_⟩ <;>
    simp only [FrameInput.clientCalls, List.map_nil, List.append_nil, List.cons_append,
      List.nil_append, List.mem_cons, List.not_mem_nil, or_false] at hcall <;>
    rcases hcall with rfl | rfl | rfl | rfl | rfl | rfl
  all_goals first | rfl | cases hm

theorem bootstrap_in_room {localIp : Ip} (address : localIp ≠ "") (role : PlayerRole) :
    ({ bootstrap {} role localIp with sessionId := "room", roster := roomOfThree } :
      Node).Sound := by
  have hroom : roomOfThree.Named := by
    refine ⟨by decide, fun e he => ?_⟩
    simp only [roomOfThree, List.mem_cons, List.not_mem_nil, or_false] at he
    rcases he with rfl | rfl | rfl <;> exact ⟨by decide, by decide, by decide⟩
  exact (bootstrap_waits Level.named_empty address role "room" (by decide)).withRoster hroom

theorem survivor_sound : survivor.Sound := by
  have htimer : ∀ c ∈ survivor.election.coordinator, c.TimerSet := by
    rintro _ ⟨⟩ ⟨⟩
  exact { (bootstrap_in_room (by decide) .client).withElection htimer with }

theorem survivor_replaces_host :
    ∃ n', deadFrames.foldlM processFrame survivor = .ok n' ∧ n'.role = .host ∧
      n'.engine.isAuthoritative = true := by
  have bereft : survivor.election.Bereft 1 0 := ⟨rfl, ⟨_, rfl, rfl, rfl, rfl⟩, rfl, .inr rfl⟩
  have plays : survivor.Plays {} := rfl
  have paced : DistributedSmb.Paced 5 0 deadFrames := by decide +kernel
  have named : ∀ f ∈ deadFrames, f.Named := by
    intro f hf
    obtain ⟨t, -, rfl⟩ := List.mem_map.mp hf
    exact FrameInput.named_idle t
  have leaderless : ∀ f ∈ deadFrames, f.Leaderless 1 := by
    intro f hf
    obtain ⟨t, -, rfl⟩ := List.mem_map.mp hf
    exact idleFrame_leaderless t 1
  have late : ∃ f ∈ deadFrames, 0 + failoverTime 1 5 < f.now :=
    ⟨{ now := 40 }, List.mem_map_of_mem (by simp), by decide +kernel⟩
  exact silent_host_is_replaced survivor_sound plays bereft rfl rfl le_rfl paced named leaderless
    late

end Node

end DistributedSmb
