import DistributedSmb.Election.Effects

/-!
# A follower stays a follower

A node that follows a claim during its own election, with no claim of its own pending, takes no
further step towards the host role until a reconnection resets its election. A node that followed
before it triggered, or with acks still pending, is not protected.
-/

namespace DistributedSmb

open Library

namespace Node

/-- An own election is under way, and it has turned into following someone else. -/
structure IsFollower (n : Node) : Prop where
  coordinator : ∃ c, n.election.coordinator = some c ∧ c.state = .follower
  triggered : n.election.electionTriggered = true
  noClaim : n.election.pendingElectionAcks = []
  verified : n.election.hostVerifyDeadline = 0
  waiting : n.election.promotionDone = false

/-- What every run of a client keeps: an election under way has no verification left, and the host
role is what a promotion gives. -/
structure Orderly (n : Node) : Prop where
  verified : n.election.electionTriggered = true → n.election.hostVerifyDeadline = 0
  promoted : n.role = .host ↔ n.election.promotionDone = true

/-! ## What every call keeps -/

theorem Orderly.quiet {n n' : Node} {left : Option PlayerId} (hn : n.Orderly)
    (h : n.Quiet left n') : n'.Orderly where
  verified htriggered := by
    rw [h.triggered] at htriggered
    exact h.verified htriggered (hn.verified htriggered)
  promoted := by
    rw [h.role, h.promotionDone]
    exact hn.promoted

theorem Orderly.promote {n n' : Node} (hn : n.Orderly) (h : n.Promoted n') : n'.Orderly where
  verified := by
    rw [h.election]
    exact hn.verified
  promoted := by simp [h.role, h.election]

theorem Orderly.withPendingAcks {n : Node} (hn : n.Orderly) (pending : List Ip) :
    (n.withPendingAcks pending).Orderly := ⟨hn.verified, hn.promoted⟩

theorem Orderly.reconnect {n : Node} (hn : n.Orderly) (ack : ReconnectionAck) :
    (n.onReconnectionAck ack).Orderly := by
  rcases onReconnectionAck_cases n ack with ⟨hsame, -⟩ | ⟨-, -, hreset⟩
  · rwa [hsame]
  · refine ⟨fun htriggered => ?_, ?_⟩
    · simp [hreset.election, rearmed] at htriggered
    · rw [hreset.role, hreset.election]
      exact hn.promoted

theorem Orderly.ensure {n : Node} (hn : n.Orderly) : n.ensureElectionComponents.Orderly := by
  unfold ensureElectionComponents
  split
  · exact hn
  · exact ⟨hn.verified, hn.promoted⟩

theorem Orderly.deliver {n n' : Node} {message : ElectionMessage} {now : ℚ} (hn : n.Orderly)
    (h : n.onElectionMessage now message = .ok n') : n'.Orderly := by
  cases message with
  | newHostClaim claim =>
    rcases onNewHostClaim_cases h with ⟨rfl, -⟩ | ⟨c, -, -, rfl⟩
    · exact hn
    · exact ⟨hn.verified, hn.promoted⟩
  | electionAck ack =>
    rcases onElectionAck_cases h with rfl | ⟨-, -, ⟨rfl, -⟩ | ⟨-, hpromoted⟩⟩
    · exact hn
    · exact hn.withPendingAcks _
    · exact (hn.withPendingAcks []).promote hpromoted
  | reconnectionAck ack => cases h; exact hn.reconnect ack

theorem Orderly.tick {n n' : Node} {foundIp : Option Ip} {now : ℚ} (hn : n.Orderly)
    (h : n.tickElectionState foundIp now = .ok n') : n'.Orderly := by
  refine tick_keeps h hn ?quiet ?confirms ?elected ?claims ?alone ?expires ?reconnects
  case quiet => exact fun _ _ hquiet hm => hm.quiet hquiet
  case confirms => exact fun _ _ => ⟨fun _ => rfl, hn.promoted⟩
  case elected => exact fun _ _ _ _ hm => ⟨hm.verified, hm.promoted⟩
  case claims => exact fun _ _ _ _ _ hm => ⟨hm.verified, hm.promoted⟩
  case alone => exact fun _ _ _ _ _ _ _ _ hpromoted hm => hm.promote hpromoted
  case expires => exact fun _ _ _ _ hpromoted hm => (hm.withPendingAcks []).promote hpromoted
  case reconnects => exact fun _ ack _ hm => hm.reconnect ack

theorem step_orderly {n n' : Node} {c : TimedCall} (hn : n.Orderly) (h : n.step c = .ok n') :
    n'.Orderly := by
  obtain ⟨now, call⟩ := c
  cases call with
  | client call =>
    cases clientCall_effect h with
    | ensured => exact hn.ensure
    | delivered _ h => exact hn.deliver h
    | ticked h => exact hn.tick h
    | quiet h => exact hn.quiet h
  | host call =>
    have hstanding := hostCall_standing h
    simp only [standing, Prod.mk.injEq] at hstanding
    obtain ⟨-, -, -, -, hrole, helection⟩ := hstanding
    exact ⟨by rw [helection]; exact hn.verified, by rw [hrole, helection]; exact hn.promoted⟩

theorem run_orderly {n n' : Node} {calls : List TimedCall} (hn : n.Orderly)
    (h : n.run calls = .ok n') : n'.Orderly :=
  Fallible.foldlM_keeps (fun _ _ _ _ hm hstep => step_orderly hm hstep) h hn

/-! ## Following -/

/-- Still the same, or reconnected for the first time since. -/
def FollowsOn (n n' : Node) : Prop :=
  (n'.IsFollower ∧ n'.election.reconnected = n.election.reconnected) ∨
    (n.election.reconnected = false ∧ n'.election.reconnected = true)

theorem IsFollower.quiet {n n' : Node} {left : Option PlayerId} (hn : n.IsFollower)
    (h : n.Quiet left n') : n'.IsFollower where
  coordinator := by
    rw [h.coordinator]
    exact hn.coordinator
  triggered := h.triggered.trans hn.triggered
  noClaim := h.pending.trans hn.noClaim
  verified := h.verified hn.triggered hn.verified
  waiting := h.promotionDone.trans hn.waiting

theorem FollowsOn.quiet {n n' : Node} {left : Option PlayerId} (hn : n.IsFollower)
    (h : n.Quiet left n') : n.FollowsOn n' := .inl ⟨hn.quiet h, h.reconnected⟩

theorem FollowsOn.reconnect {n m : Node} (hm : m.IsFollower)
    (same : m.election.reconnected = n.election.reconnected) (ack : ReconnectionAck) :
    n.FollowsOn (m.onReconnectionAck ack) := by
  rcases onReconnectionAck_cases m ack with ⟨hsame, -⟩ | ⟨hopen, -, hreset⟩
  · rw [hsame]
    exact .inl ⟨hm, same⟩
  · exact .inr ⟨same ▸ hopen, by rw [hreset.election]; rfl⟩

/-- No message takes a follower further than to another claimer, or back. -/
theorem deliver_followsOn {n n' : Node} {message : ElectionMessage} {now : ℚ} (hn : n.IsFollower)
    (h : n.onElectionMessage now message = .ok n') : n.FollowsOn n' := by
  cases message with
  | newHostClaim claim =>
    rcases onNewHostClaim_cases h with ⟨rfl, -⟩ | ⟨c, -, -, rfl⟩
    · exact .inl ⟨hn, rfl⟩
    · exact .inl ⟨⟨⟨_, rfl, rfl⟩, hn.triggered, hn.noClaim, hn.verified, hn.waiting⟩, rfl⟩
  | electionAck ack =>
    rcases onElectionAck_cases h with rfl | ⟨-, hpending, -⟩
    · exact .inl ⟨hn, rfl⟩
    · simp [hn.noClaim] at hpending
  | reconnectionAck ack => cases h; exact .reconnect hn rfl ack

theorem FollowsOn.trans_quiet {n m m' : Node} (hm : n.FollowsOn m) (h : m.Quiet none m') :
    n.FollowsOn m' := by
  rcases hm with ⟨hfollower, same⟩ | ⟨hopen, hback⟩
  · exact .inl ⟨hfollower.quiet h, h.reconnected.trans same⟩
  · exact .inr ⟨hopen, h.reconnected.trans hback⟩

theorem FollowsOn.trans_reconnect {n m : Node} (hm : n.FollowsOn m) (ack : ReconnectionAck) :
    n.FollowsOn (m.onReconnectionAck ack) := by
  rcases hm with ⟨hfollower, same⟩ | ⟨hopen, hback⟩
  · exact .reconnect hfollower same ack
  · rcases onReconnectionAck_cases m ack with ⟨hsame, -⟩ | ⟨hclosed, -, -⟩
    · exact .inr ⟨hopen, by rwa [hsame]⟩
    · simp [hclosed] at hback

/-- A coordinator that follows nobody is none of a follower's. -/
theorem IsFollower.state {n : Node} (hn : n.IsFollower) {c : ElectionCoordinator}
    (hsome : n.election.coordinator = some c) : c.state = .follower := by
  obtain ⟨c', hsome', hfollower⟩ := hn.coordinator
  rw [hsome] at hsome'
  exact Option.some.inj hsome' ▸ hfollower

/-- Its timers do not wake it up. -/
theorem tick_followsOn {n n' : Node} {foundIp : Option Ip} {now : ℚ} (hn : n.IsFollower)
    (h : n.tickElectionState foundIp now = .ok n') : n.FollowsOn n' := by
  refine tick_keeps h (.inl ⟨hn, rfl⟩) ?quiet ?confirms ?elected ?claims ?alone ?expires ?reconnects
  case quiet => exact fun _ _ hquiet hm => hm.trans_quiet hquiet
  case confirms => exact fun _ hconfirms => absurd hn.verified hconfirms.1
  case elected =>
    intro m c hsome hpending hm
    refine hm.imp (fun ⟨hfollower, _⟩ => ?_) id
    simp [hfollower.state hsome] at hpending
  case claims =>
    intro m c hsome hclaimed _ hm
    refine hm.imp (fun ⟨hfollower, _⟩ => ?_) id
    simp [hfollower.state hsome] at hclaimed
  case alone =>
    intro m m' c hsome hclaimed _ _ _ hpromoted hm
    rcases hm with ⟨hfollower, -⟩ | ⟨hopen, hback⟩
    · simp [hfollower.state hsome] at hclaimed
    · exact .inr ⟨hopen, by rwa [hpromoted.election]⟩
  case expires => exact fun _ _ hexpired => absurd hn.noClaim hexpired.2.1
  case reconnects => exact fun _ ack _ hm => hm.trans_reconnect ack

theorem step_followsOn {n n' : Node} {c : TimedCall} (hn : n.IsFollower) (h : n.step c = .ok n') :
    n.FollowsOn n' := by
  obtain ⟨now, call⟩ := c
  cases call with
  | client call =>
    cases clientCall_effect h with
    | ensured =>
      obtain ⟨c, hsome, -⟩ := hn.coordinator
      refine .inl ⟨?_, ?_⟩ <;> simp only [ensureElectionComponents, hsome]
      exact hn
    | delivered _ h => exact deliver_followsOn hn h
    | ticked h => exact tick_followsOn hn h
    | quiet h => exact .quiet hn h
  | host call =>
    have helection := congrArg (fun s => s.2.2.2.2.2) (hostCall_standing h)
    change n'.election = n.election at helection
    exact .inl ⟨⟨by rw [helection]; exact hn.coordinator, by rw [helection]; exact hn.triggered,
      by rw [helection]; exact hn.noClaim, by rw [helection]; exact hn.verified,
      by rw [helection]; exact hn.waiting⟩, by rw [helection]⟩

/-- The flag of a reconnection is never taken back. -/
theorem deliver_reconnected {n n' : Node} {message : ElectionMessage} {now : ℚ}
    (hn : n.election.reconnected = true) (h : n.onElectionMessage now message = .ok n') :
    n'.election.reconnected = true := by
  cases message with
  | newHostClaim claim =>
    rcases onNewHostClaim_cases h with ⟨rfl, -⟩ | ⟨c, -, -, rfl⟩ <;> exact hn
  | electionAck ack =>
    rcases onElectionAck_cases h with rfl | ⟨-, -, ⟨rfl, -⟩ | ⟨-, hpromoted⟩⟩
    · exact hn
    · exact hn
    · rw [hpromoted.election]
      exact hn
  | reconnectionAck ack =>
    cases h
    rcases onReconnectionAck_cases n ack with ⟨hsame, -⟩ | ⟨hopen, -, -⟩
    · rwa [hsame]
    · simp [hopen] at hn

theorem tick_reconnected {n n' : Node} {foundIp : Option Ip} {now : ℚ}
    (hn : n.election.reconnected = true) (h : n.tickElectionState foundIp now = .ok n') :
    n'.election.reconnected = true := by
  refine tick_keeps (P := fun m => m.election.reconnected = true) h hn ?quiet ?confirms ?elected
    ?claims ?alone ?expires ?reconnects
  case quiet => exact fun _ _ hquiet hm => hquiet.reconnected.trans hm
  case confirms => exact fun _ _ => hn
  case elected => exact fun _ _ _ _ hm => hm
  case claims => exact fun _ _ _ _ _ hm => hm
  case alone => exact fun _ _ _ _ _ _ _ _ hpromoted hm => by rwa [hpromoted.election]
  case expires => exact fun _ _ _ _ hpromoted hm => by rwa [hpromoted.election]
  case reconnects =>
    intro m ack _ hm
    rcases onReconnectionAck_cases m ack with ⟨hsame, -⟩ | ⟨hopen, -, -⟩
    · rwa [hsame]
    · simp [hopen] at hm

theorem step_reconnected {n n' : Node} {c : TimedCall} (hn : n.election.reconnected = true)
    (h : n.step c = .ok n') : n'.election.reconnected = true := by
  obtain ⟨now, call⟩ := c
  cases call with
  | client call =>
    cases clientCall_effect h with
    | ensured =>
      unfold ensureElectionComponents
      split <;> exact hn
    | delivered _ h => exact deliver_reconnected hn h
    | ticked h => exact tick_reconnected hn h
    | quiet h => exact h.reconnected.trans hn
  | host call =>
    have helection := congrArg (fun s => s.2.2.2.2.2) (hostCall_standing h)
    change n'.election = n.election at helection
    rw [helection]
    exact hn

/-- Over a run a follower stays a follower, or it has reconnected. -/
theorem run_followsOn {n n' : Node} {calls : List TimedCall} (hn : n.IsFollower)
    (h : n.run calls = .ok n') : n.FollowsOn n' := by
  refine Fallible.foldlM_keeps (P := fun m => n.FollowsOn m) (fun m c m' _ hm hstep => ?_) h
    (.inl ⟨hn, rfl⟩)
  rcases hm with ⟨hfollower, same⟩ | ⟨hopen, hback⟩
  · rcases step_followsOn hfollower hstep with ⟨hfollower', same'⟩ | ⟨hopen, hback⟩
    · exact .inl ⟨hfollower', same'.trans same⟩
    · exact .inr ⟨same ▸ hopen, hback⟩
  · exact .inr ⟨hopen, step_reconnected hback hstep⟩

/-- A client at the start of a session. -/
structure ClientStart (n : Node) : Prop where
  isClient : n.role = .client
  fresh : n.election = {}

theorem ClientStart.orderly {n : Node} (h : n.ClientStart) : n.Orderly := by
  constructor <;> simp [h.isClient, h.fresh]

/-- A reachable client that follows a claim after its own trigger, and with no claim of its own
pending, is never promoted before a reconnection resets its election. -/
theorem follower_is_never_promoted {n₀ n n₁ n₂ : Node} {claim : NewHostClaim} {now : ℚ}
    {before after : List TimedCall} (start : n₀.ClientStart) (reached : n₀.run before = .ok n)
    (client : n.role = .client) (yields : n.Yields claim)
    (triggered : n.election.electionTriggered = true)
    (noClaim : n.election.pendingElectionAcks = [])
    (follows : n.onNewHostClaim claim now = .ok n₁) (hrun : n₁.run after = .ok n₂)
    (noReset : n₂.election.reconnected = n₁.election.reconnected) :
    n₂.role = .client ∧ n₂.election.promotionDone = false := by
  have hn := run_orderly start.orderly reached
  have waiting : n.election.promotionDone = false := by
    rw [← Bool.not_eq_true, ← hn.promoted, client]
    exact PlayerRole.noConfusion
  have hfollower : n₁.IsFollower := by
    rcases onNewHostClaim_cases follows with ⟨-, hignored⟩ | ⟨c, -, -, rfl⟩
    · exact absurd yields hignored
    · exact ⟨⟨_, rfl, rfl⟩, triggered, noClaim, hn.verified triggered, waiting⟩
  have hn₁ := hn.deliver (show n.onElectionMessage now (.newHostClaim claim) = .ok n₁ from follows)
  have hn₂ := run_orderly hn₁ hrun
  rcases run_followsOn hfollower hrun with ⟨hstill, -⟩ | ⟨hopen, hback⟩
  · refine ⟨?_, hstill.waiting⟩
    cases hrole : n₂.role with
    | client => rfl
    | host =>
      have := hn₂.promoted.mp hrole
      simp [hstill.waiting] at this
  · simp [noReset, hopen] at hback

/-! ### A claimer that follows -/

/-- The third player, from its last snapshot over the confirmed timeout to a later frame. -/
def framesUntil (last : ℚ) : List FrameInput :=
  [{ now := 1, datagrams := [(.ok (.worldState ⟨1, { sequenceNumber := 1 }⟩), "10.0.0.1", 50010)] },
    { now := 7 }, { now := 17 }, { now := last }]

def thirdPlayer : Node :=
  clientOf threePlayers ⟨"player-3", "10.0.0.3", 50012, 2, .connected, false⟩ "10.0.0.1"

def secondPlayersClaim : NewHostClaim := ⟨"10.0.0.2", 1, "session"⟩

def clientCalls (frames : List FrameInput) : List TimedCall :=
  frames.flatMap fun f => f.calls .client

/-- Runs up to a claim of the second player, its delivery, and one frame more. -/
def followAt (last : ℚ) : Except PyError (Node × Node × Node) := do
  let n ← thirdPlayer.run (clientCalls (framesUntil last))
  let n₁ ← n.onNewHostClaim secondPlayersClaim last
  let n₂ ← n₁.run (clientCalls [{ now := 21 }])
  .ok (n, n₁, n₂)

theorem followAt_spec {last : ℚ} {n n₁ n₂ : Node} (h : followAt last = .ok (n, n₁, n₂)) :
    thirdPlayer.run (clientCalls (framesUntil last)) = .ok n ∧
      n.onNewHostClaim secondPlayersClaim last = .ok n₁ ∧
      n₁.run (clientCalls [{ now := 21 }]) = .ok n₂ := by
  obtain ⟨m, hbefore, h⟩ := Fallible.bind_eq_ok.mp h
  obtain ⟨m₁, hfollow, h⟩ := Fallible.bind_eq_ok.mp h
  obtain ⟨m₂, hafter, h⟩ := Fallible.bind_eq_ok.mp h
  cases h
  exact ⟨hbefore, hfollow, hafter⟩

/-- The claim arrives before the node's own timer fires. -/
theorem follower_in_time_is_never_promoted :
    ∃ n n₁ n₂, followAt 18 = .ok (n, n₁, n₂) ∧ n₂.role = .client ∧
      n₂.election.promotionDone = false := by
  obtain ⟨⟨n, n₁, n₂⟩, hrun, hcheck⟩ := Fallible.exists_of_okAnd (x := followAt 18)
    (p := fun r => r.1.role = .client ∧ r.1.Yields secondPlayersClaim ∧
      r.1.election.electionTriggered = true ∧ r.1.election.pendingElectionAcks = [] ∧
      r.2.2.election.reconnected = r.2.1.election.reconnected) (by decide +kernel)
  obtain ⟨client, yields, triggered, noClaim, noReset⟩ := of_decide_eq_true hcheck
  obtain ⟨reached, follows, hafter⟩ := followAt_spec hrun
  exact ⟨n, n₁, n₂, hrun, follower_is_never_promoted ⟨rfl, rfl⟩ reached client yields triggered
    noClaim follows hafter noReset⟩

/-- The claim arrives while acks for the node's own claim are pending. -/
theorem following_claimer_promotes_itself :
    ¬ ∀ (n₀ n n₁ n₂ : Node) (claim : NewHostClaim) (now : ℚ) (before after : List TimedCall),
      n₀.ClientStart → n₀.run before = .ok n → n.role = .client → n.Yields claim →
      n.onNewHostClaim claim now = .ok n₁ → n₁.run after = .ok n₂ →
      n₂.election.reconnected = n₁.election.reconnected →
      n₂.role = .client ∧ n₂.election.promotionDone = false := by
  intro never
  obtain ⟨⟨n, n₁, n₂⟩, hrun, hcheck⟩ := Fallible.exists_of_okAnd (x := followAt 19)
    (p := fun r => r.1.role = .client ∧ r.1.Yields secondPlayersClaim ∧
      r.2.2.election.reconnected = r.2.1.election.reconnected ∧ r.2.2.role = .host)
    (by decide +kernel)
  obtain ⟨client, yields, noReset, isHost⟩ := of_decide_eq_true hcheck
  obtain ⟨reached, follows, hafter⟩ := followAt_spec hrun
  have hclient := (never _ n n₁ n₂ secondPlayersClaim 19 _ _ ⟨rfl, rfl⟩ reached
    client yields follows hafter noReset).1
  rw [hclient] at isHost
  cases isHost

end Node

end DistributedSmb
