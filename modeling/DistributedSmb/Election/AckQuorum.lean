import DistributedSmb.Election.Safety

/-!
# What an ack quorum means

A claimer promotes itself when no IP is left in its set of pending acks. The set is keyed by
address and an ack names no claim, so a full set of acks means that all peers follow the claimer
only if each counted ack answers the current claim and comes from the one peer at its address, and
if nobody leaves a claimer that still waits.
-/

namespace DistributedSmb

open Library

variable {ι : Type}

namespace Node

/-- Acks for a claim of its own are pending. -/
def Waiting (n : Node) : Prop :=
  n.election.promotionDone = false ∧ n.election.pendingElectionAcks ≠ []

instance (n : Node) : Decidable n.Waiting := inferInstanceAs (Decidable (_ ∧ _))

def FollowsClaim (n : Node) (claim : NewHostClaim) : Prop :=
  ∃ c ∈ n.election.coordinator, c.state = .follower ∧ c.currentHostIp = some claim.claimerIp ∧
    c.currentHostJoinIndex = some claim.claimerJoinIndex

instance (n : Node) (claim : NewHostClaim) : Decidable (n.FollowsClaim claim) :=
  inferInstanceAs (Decidable (∃ c ∈ _, _))

end Node

def Call.isReconnectionAck : Call → Bool
  | .client call =>
    match call.electionMessage with
    | some (.reconnectionAck _) => true
    | _ => false
  | .host _ => false

/-- The prober's reply that a call can use. -/
def Call.foundIp : Call → Option Ip
  | .client (.tickElectionState foundIp) => foundIp
  | _ => none

namespace Node

/-- Other calls than a claim that make a follower drop whom it follows: it reconnects, confirms the
host's timeout, or its fallback finds a host. -/
def Leaves (n : Node) (c : TimedCall) : Prop :=
  (c.call.isReconnectionAck = true ∧ n.election.reconnected = false ∧
      n.election.promotionDone = false) ∨
    (c.call.ticks = true ∧ n.ConfirmsTimeout c.now) ∨ c.call.foundIp ≠ none

instance (n : Node) (c : TimedCall) : Decidable (n.Leaves c) := inferInstanceAs (Decidable (_ ∨ _))

/-- A follower that stays keeps its coordinator. -/
theorem tick_coordinator {n n' : Node} {now : ℚ} (hn : n.Following)
    (steady : ¬ n.ConfirmsTimeout now) (h : n.tickElectionState none now = .ok n') :
    n'.election.coordinator = n.election.coordinator := by
  have state {m : Node} {c : ElectionCoordinator} (hsome : m.election.coordinator = some c)
      (hm : m.election.coordinator = n.election.coordinator) : c.state = .follower :=
    hn.state (hm.symm.trans hsome)
  refine tick_keeps (P := fun m => m.election.coordinator = n.election.coordinator) h rfl ?quiet
    ?confirms ?elected ?claims ?alone ?expires ?reconnects
  case quiet => exact fun _ _ hquiet hm => hquiet.coordinator.trans hm
  case confirms => exact fun _ hconfirms => absurd hconfirms steady
  case elected =>
    intro m c hsome hpending hm
    simp [state hsome hm] at hpending
  case claims =>
    intro m c hsome hclaimed _ hm
    simp [state hsome hm] at hclaimed
  case alone =>
    intro m m' c hsome hclaimed _ _ _ _ hm
    simp [state hsome hm] at hclaimed
  case expires => exact fun _ _ _ _ hpromoted hm => by rwa [hpromoted.election]
  case reconnects => exact fun _ _ hfound => absurd rfl hfound

/-- A follower that does not leave follows on, unless it yields to another claim. -/
theorem step_coordinator {n n' : Node} {c : TimedCall} (hn : n.Following) (stays : ¬ n.Leaves c)
    (h : n.step c = .ok n') :
    n'.election.coordinator = n.election.coordinator ∨
      ∃ claim ∈ c.call.claim, n.Yields claim ∧ n'.FollowsClaim claim := by
  obtain ⟨now, call⟩ := c
  cases call with
  | host call =>
    have helection := congrArg (fun s => s.2.2.2.2.2) (hostCall_standing h)
    change n'.election = n.election at helection
    exact .inl (by rw [helection])
  | client call =>
    cases clientCall_effect h with
    | ensured =>
      obtain ⟨c, hsome, -⟩ := hn
      have hsame := (ensured_fields n).2.2.2.2.2.2 (Option.isSome_of_mem hsome)
      exact .inl (by rw [hsame])
    | @delivered _ message _ carries h =>
      cases message with
      | newHostClaim claim =>
        rcases onNewHostClaim_cases h with ⟨rfl, -⟩ | ⟨c, -, yields, rfl⟩
        · exact .inl rfl
        · exact .inr ⟨claim, claim_of_electionMessage carries, yields, _, rfl, rfl, rfl, rfl⟩
      | electionAck ack =>
        rcases onElectionAck_cases h with rfl | ⟨-, -, ⟨rfl, -⟩ | ⟨-, hpromoted⟩⟩
        · exact .inl rfl
        · exact .inl rfl
        · exact .inl (by rw [hpromoted.election]; rfl)
      | reconnectionAck ack =>
        cases h
        rcases onReconnectionAck_cases n ack with ⟨hsame, -⟩ | ⟨hopen, hwaiting, -⟩
        · exact .inl (by rw [hsame])
        · exact absurd (.inl ⟨by simp [Call.isReconnectionAck, carries], hopen, hwaiting⟩) stays
    | @ticked foundIp _ h =>
      have hnone : foundIp = none := by
        by_contra hfound
        exact stays (.inr (.inr hfound))
      subst hnone
      exact .inl (tick_coordinator hn (fun hconfirms => stays (.inr (.inl ⟨rfl, hconfirms⟩))) h)
    | quiet h => exact .inl h.coordinator

/-! ## Where pending acks come from -/

/-- A claim goes out, and the addresses of all its peers are pending. -/
def Claims (n n' : Node) : Prop :=
  (∃ out, n'.outbox = n.outbox ++ out ∧ out.any Outgoing.isClaim = true) ∧
    ∀ e ∈ n.peers, e.isHost = false → e.host ∈ n'.election.pendingElectionAcks

/-- No claim goes out, and no peer is asked anew. -/
structure KeepsWaiting (n n' : Node) : Prop where
  noClaim : n.Sends n' fun m => ∀ claim, m ≠ .newHostClaim claim
  pending : n'.election.pendingElectionAcks = n.election.pendingElectionAcks
  waiting : n'.election.promotionDone = n.election.promotionDone

/-- The peers of `n` are still known in `n'`. -/
structure KnowsPeers (n n' : Node) : Prop where
  keeps : ∀ e ∈ n.roster.players, e ∈ n'.roster.players
  identity : n'.identity = n.identity

theorem KnowsPeers.mem {n n' : Node} (h : n.KnowsPeers n') {e : RosterEntry} (he : e ∈ n.peers)
    (hhost : e.isHost = false) : e.host ∈ n'.knownClientPeers := by
  obtain ⟨hmem, hne⟩ := mem_peers.mp he
  have hid := (Prod.ext_iff.mp h.identity).1
  change n'.localPlayerId = n.localPlayerId at hid
  exact mem_knownClientPeers.mpr ⟨e, h.keeps e hmem, by rwa [hid], hhost, rfl⟩

theorem Claims.of_sends {n m m' : Node} {P : ElectionMessage → Prop} (h : n.Claims m)
    (hsends : m.Sends m' P)
    (pending : m'.election.pendingElectionAcks = m.election.pendingElectionAcks) : n.Claims m' := by
  obtain ⟨⟨out, hout, hany⟩, hpeers⟩ := h
  obtain ⟨out', hout', -⟩ := hsends
  refine ⟨⟨out ++ out', by rw [hout', hout, List.append_assoc], ?_⟩, pending ▸ hpeers⟩
  rw [List.any_append, hany, Bool.true_or]

theorem claims_of_claiming {n m : Node} {now : ℚ} (h : n.KnowsPeers m)
    (hgrows : n.outbox <+: m.outbox) : n.Claims (m.claiming now) := by
  obtain ⟨out, hout⟩ := hgrows
  obtain ⟨out', hout', hany⟩ : ∃ out', (m.claiming now).outbox = m.outbox ++ out' ∧
      out'.any Outgoing.isClaim = true := ⟨.relay _ :: _, rfl, by simp [Outgoing.isClaim,
        Outgoing.election]⟩
  refine ⟨⟨out ++ out', ?_, by rw [List.any_append, hany, Bool.or_true]⟩, fun e he hhost => ?_⟩
  · rw [hout', ← hout, List.append_assoc]
  · exact h.mem he hhost

/-- No claim is pending, and none is under way. -/
def ClaimsNothing (n : Node) : Prop :=
  n.election.promotionDone = true ∨
    (n.election.electionTriggered = false ∧ n.election.pendingElectionAcks = [])

theorem ClaimsNothing.not_waiting {n : Node} (h : n.ClaimsNothing) : ¬ n.Waiting := by
  rintro ⟨hwaiting, hpending⟩
  rcases h with hdone | ⟨-, hnil⟩
  · simp [hdone] at hwaiting
  · exact hpending hnil

theorem ClaimsNothing.reconnect {n : Node} (h : n.ClaimsNothing) (ack : ReconnectionAck) :
    (n.onReconnectionAck ack).ClaimsNothing := by
  rcases onReconnectionAck_cases n ack with ⟨hsame, -⟩ | ⟨-, -, hreset⟩
  · rwa [hsame]
  · exact .inr ⟨(settled_of_reset hreset).idle, (settled_of_reset hreset).noClaim⟩

theorem KeepsWaiting.refl (n : Node) : n.KeepsWaiting n := ⟨.refl n _, rfl, rfl⟩

/-- After a tick a node waits as before, it has claimed, or it waits for nobody. -/
theorem tick_waiting {n n' : Node} {foundIp : Option Ip} {now : ℚ}
    (h : n.tickElectionState foundIp now = .ok n') :
    (n.KnowsPeers n' ∧ (n.KeepsWaiting n' ∨ n.Claims n')) ∨ n'.ClaimsNothing := by
  have promoted {m m' : Node} (hp : m.Promoted m') : m'.ClaimsNothing := .inl (by rw [hp.election])
  refine tick_keeps (P := fun m => (n.KnowsPeers m ∧ (n.KeepsWaiting m ∨ n.Claims m)) ∨
      m.ClaimsNothing) h (.inl ⟨⟨fun _ he => he, rfl⟩, .inl (.refl n)⟩) ?quiet ?confirms ?elected
    ?claims ?alone ?expires ?reconnects
  case quiet =>
    rintro m m' hquiet (⟨hknows, hm⟩ | hnothing)
    · refine .inl ⟨⟨fun e he => hquiet.keeps e (hknows.keeps e he) (Option.some_ne_none _),
        hquiet.identity.trans hknows.identity⟩, hm.imp (fun hkeeps => ?_) fun hclaims => ?_⟩
      · exact ⟨hkeeps.noClaim.trans (hquiet.sends.mono fun _ hx => hx.elim),
          hquiet.pending.trans hkeeps.pending, hquiet.promotionDone.trans hkeeps.waiting⟩
      · exact hclaims.of_sends hquiet.sends hquiet.pending
    · exact .inr (hnothing.imp hquiet.promotionDone.trans
        fun ⟨hidle, hnil⟩ => ⟨hquiet.triggered.trans hidle, hquiet.pending.trans hnil⟩)
  case confirms =>
    exact fun c _ => .inl ⟨⟨fun _ he => he, rfl⟩, .inl ⟨startElection_sends n c now _, rfl, rfl⟩⟩
  case elected =>
    rintro m c - - (⟨hknows, hm⟩ | hnothing)
    · exact .inl ⟨⟨hknows.keeps, hknows.identity⟩,
        hm.imp (fun hkeeps => ⟨hkeeps.noClaim, hkeeps.pending, hkeeps.waiting⟩) id⟩
    · exact .inr hnothing
  case claims =>
    rintro m c - - htriggered (⟨hknows, hm⟩ | hdone | ⟨hidle, -⟩)
    · have hgrows : n.outbox <+: m.outbox := by
        rcases hm with hkeeps | ⟨⟨out, hout, -⟩, -⟩
        · exact hkeeps.noClaim.grows
        · exact ⟨out, hout.symm⟩
      exact .inl ⟨⟨hknows.keeps, hknows.identity⟩, .inr (claims_of_claiming hknows hgrows)⟩
    · exact .inr (.inl hdone)
    · simp [hidle] at htriggered
  case alone => exact fun _ _ _ _ _ _ _ _ hpromoted _ => .inr (promoted hpromoted)
  case expires => exact fun _ _ _ _ hpromoted _ => .inr (promoted hpromoted)
  case reconnects =>
    rintro m ack - (⟨hknows, hm⟩ | hnothing)
    · rcases onReconnectionAck_cases m ack with ⟨hsame, -⟩ | ⟨-, -, hreset⟩
      · rw [hsame]
        exact .inl ⟨hknows, hm⟩
      · exact .inr (.inr ⟨(settled_of_reset hreset).idle, (settled_of_reset hreset).noClaim⟩)
    · exact .inr (hnothing.reconnect ack)

/-- Whoever waits after a step has just claimed, or has waited before, perhaps for one ack more. -/
theorem step_waiting {n n' : Node} {c : TimedCall} (h : n.step c = .ok n') (waiting : n'.Waiting) :
    n.Claims n' ∨ (n.Waiting ∧ n.Sends n' (fun m => ∀ claim, m ≠ .newHostClaim claim) ∧
      (n'.election.pendingElectionAcks = n.election.pendingElectionAcks ∨
        ∃ ack ∈ c.call.electionAck, ack.fromIp ∈ n.election.pendingElectionAcks ∧
          n'.election.pendingElectionAcks =
            n.election.pendingElectionAcks.filter (· ≠ ack.fromIp))) := by
  have keeps (hkeeps : n.KeepsWaiting n') : n.Waiting ∧
      n.Sends n' (fun m => ∀ claim, m ≠ .newHostClaim claim) ∧
      n'.election.pendingElectionAcks = n.election.pendingElectionAcks :=
    ⟨⟨hkeeps.waiting ▸ waiting.1, hkeeps.pending ▸ waiting.2⟩, hkeeps.noClaim, hkeeps.pending⟩
  obtain ⟨now, call⟩ := c
  cases call with
  | host call =>
    have helection := congrArg (fun s => s.2.2.2.2.2) (hostCall_standing h)
    change n'.election = n.election at helection
    obtain ⟨hw, hs, hp⟩ := keeps ⟨(hostCall_sends h).mono fun _ hm => hm.elim, by rw [helection],
      by rw [helection]⟩
    exact .inr ⟨hw, hs, .inl hp⟩
  | client call =>
    cases clientCall_effect h with
    | ensured =>
      obtain ⟨-, -, -, -, hpending, hdone, -⟩ := ensured_fields n
      obtain ⟨hw, hs, hp⟩ := keeps ⟨ensureElectionComponents_sends n _, hpending, hdone⟩
      exact .inr ⟨hw, hs, .inl hp⟩
    | @delivered _ message _ carries h =>
      have noClaim : n.Sends n' fun m => ∀ claim, m ≠ .newHostClaim claim := by
        refine (deliver_sends h).mono ?_
        rintro m (⟨_, -, -, rfl⟩ | ⟨_, rfl⟩) claim <;> simp
      cases message with
      | newHostClaim claim =>
        rcases onNewHostClaim_cases h with ⟨rfl, -⟩ | ⟨c, -, -, rfl⟩
        · exact .inr ⟨waiting, noClaim, .inl rfl⟩
        · exact .inr ⟨waiting, noClaim, .inl rfl⟩
      | electionAck ack =>
        rcases onElectionAck_cases h with rfl | ⟨hwaiting, hpending, ⟨rfl, -⟩ | ⟨-, hpromoted⟩⟩
        · exact .inr ⟨waiting, noClaim, .inl rfl⟩
        · exact .inr ⟨⟨hwaiting, List.ne_nil_of_mem hpending⟩, noClaim,
            .inr ⟨ack, electionAck_of_message carries, hpending, rfl⟩⟩
        · have hnot := waiting.1
          simp [hpromoted.election] at hnot
      | reconnectionAck ack =>
        cases h
        rcases onReconnectionAck_cases n ack with ⟨hsame, -⟩ | ⟨-, -, hreset⟩
        · rw [hsame] at waiting noClaim ⊢
          exact .inr ⟨waiting, noClaim, .inl rfl⟩
        · exact absurd (settled_of_reset hreset).noClaim waiting.2
    | ticked h =>
      rcases tick_waiting h with ⟨-, hkeeps | hclaims⟩ | hnothing
      · obtain ⟨hw, hs, hp⟩ := keeps hkeeps
        exact .inr ⟨hw, hs, .inl hp⟩
      · exact .inl hclaims
      · exact absurd waiting hnothing.not_waiting
    | quiet h =>
      obtain ⟨hw, hs, hp⟩ := keeps ⟨h.sends.mono fun _ hm => hm.elim, h.pending, h.promotionDone⟩
      exact .inr ⟨hw, hs, .inl hp⟩

end Node

namespace Cluster

variable [DecidableEq ι]

/-- The survivor has processed the current claim of the claimer, and follows it. -/
def Answered (c : Cluster ι) (claimer survivor : ι) : Prop :=
  ∃ claim, ⟨survivor, claimer, c.claims claimer, claim⟩ ∈ c.processed ∧
    claim.claimerIp = (c.nodes claimer).localIp ∧ (c.nodes survivor).FollowsClaim claim

instance (c : Cluster ι) (i j : ι) : Decidable (c.Answered i j) :=
  decidable_of_iff (∃ p ∈ c.processed, p.node = j ∧ p.claimer = i ∧ p.claimNo = c.claims i ∧
      p.claim.claimerIp = (c.nodes i).localIp ∧ (c.nodes j).FollowsClaim p.claim) <| by
    constructor
    · rintro ⟨p, hmem, rfl, rfl, hno, hip, hfollows⟩
      exact ⟨p.claim, hno ▸ hmem, hip, hfollows⟩
    · rintro ⟨claim, hmem, hip, hfollows⟩
      exact ⟨_, hmem, rfl, rfl, rfl, hip, hfollows⟩

/-- A possible step of a node whose roster has the survivors under their addresses. -/
structure Located (c : Cluster ι) (s : ClusterStep ι) : Prop where
  enabled : c.Enabled s
  addresses : ∀ e ∈ (c.nodes s.node).roster.players, ∀ j,
    e.playerId = (c.nodes j).localPlayerId → e.host = (c.nodes j).localIp

/-- An ack that counts answers the current claim, and no peer shares its sender's address. -/
def Counted (c : Cluster ι) (s : ClusterStep ι) : Prop :=
  (c.nodes s.node).Waiting → ∀ ack ∈ s.call.call.electionAck,
    ack.fromIp ∈ (c.nodes s.node).election.pendingElectionAcks → ∃ e ∈ c.envelope s,
      e.answers = some (s.node, c.claims s.node) ∧
      ∀ j, j ≠ s.node → (c.nodes j).localPlayerId ∈ c.claimPeers s.node →
        (c.nodes j).localIp = ack.fromIp → j = e.sender

/-- Nobody who has answered a claimer that still waits leaves it, for another claim or a host. -/
def Loyal (c : Cluster ι) (s : ClusterStep ι) : Prop :=
  ∀ i, (c.nodes i).Waiting → c.Answered i s.node →
    ¬ (c.nodes s.node).Leaves s.call ∧
      ∀ claim ∈ s.call.call.claim, (c.nodes s.node).Yields claim →
        ∃ e ∈ c.envelope s, e.sender = i ∧ e.claimNo = c.claims i

structure Attributable (c : Cluster ι) (s : ClusterStep ι) : Prop where
  counted : c.Counted s
  loyal : c.Loyal s

/-- What is known of claims and acks on their way, and of those who wait. -/
structure Attributed (c : Cluster ι) : Prop where
  claims : ∀ e ∈ c.sent, ∀ claim, e.out.election = some (.newHostClaim claim) →
    e.claimNo ≤ c.claims e.sender ∧ claim.claimerIp = (c.nodes e.sender).localIp
  acks : ∀ e ∈ c.sent, ∀ ack, e.out.election = some (.electionAck ack) →
    ∀ i k, e.answers = some (i, k) →
      k ≤ c.claims i ∧ (k = c.claims i → (c.nodes i).Waiting → c.Answered i e.sender)
  waits : ∀ i, (c.nodes i).Waiting → ∀ j, j ≠ i → (c.nodes j).localPlayerId ∈ c.claimPeers i →
    (c.nodes j).localIp ∈ (c.nodes i).election.pendingElectionAcks ∨ c.Answered i j

/-! ## What a step records -/

section Record

variable {c : Cluster ι} {s : ClusterStep ι} {n : Node}

theorem claims_le (i : ι) : c.claims i ≤ (c.record s n).claims i := by
  simp only [record]
  split
  · by_cases hi : i = s.node
    · subst hi
      simp
    · rw [Function.update_of_ne hi]
  · exact le_rfl

theorem record_history_ne {i : ι} (hi : i ≠ s.node) :
    (c.record s n).claims i = c.claims i ∧ (c.record s n).claimPeers i = c.claimPeers i := by
  constructor <;> · simp only [record]; split <;> simp [hi]

theorem said_of_claims (h : (c.nodes s.node).Claims n) :
    (c.record s n).claims s.node = c.claims s.node + 1 ∧
      (c.record s n).claimPeers s.node = peerIds (c.nodes s.node) := by
  obtain ⟨⟨out, hout, hany⟩, -⟩ := h
  have hsaid : (c.said s n).any Outgoing.isClaim = true := by rwa [said, hout, List.drop_left]
  simp [record, hsaid]

theorem said_of_noClaim
    (h : (c.nodes s.node).Sends n fun m => ∀ claim, m ≠ .newHostClaim claim) :
    (c.record s n).claims = c.claims ∧ (c.record s n).claimPeers = c.claimPeers := by
  obtain ⟨out, hout, hP⟩ := h
  have hsaid : (c.said s n).any Outgoing.isClaim = false := by
    rw [said, hout, List.drop_left, List.any_eq_false]
    intro o ho
    unfold Outgoing.isClaim
    split
    case h_1 claim heq => exact absurd rfl (hP o ho _ heq claim)
    case h_2 => exact Bool.false_ne_true
  simp [record, hsaid]

theorem mem_processed {p : ProcessedClaim ι} (h : p ∈ c.processed) :
    p ∈ (c.record s n).processed := by
  simp only [record]
  split
  · exact List.mem_append_left _ h
  · exact h

theorem processed_claim {e : Envelope ι} {claim : NewHostClaim} (he : e ∈ c.envelope s)
    (hclaim : claim ∈ s.call.call.claim) :
    ⟨s.node, e.sender, e.claimNo, claim⟩ ∈ (c.record s n).processed := by
  simp only [record, Option.mem_def.mp he, Option.mem_def.mp hclaim, List.mem_append,
    List.mem_singleton, or_true]

theorem record_address (h : (c.nodes s.node).step s.call = .ok n) (i : ι) :
    ((c.record s n).nodes i).address = (c.nodes i).address := by
  by_cases hi : i = s.node
  · subst hi
    rw [record_self]
    exact Node.step_address h
  · rw [record_ne _ _ _ hi]

theorem record_localIp (h : (c.nodes s.node).step s.call = .ok n) (i : ι) :
    ((c.record s n).nodes i).localIp = (c.nodes i).localIp :=
  congrArg Prod.snd (record_address h i)

theorem record_localPlayerId (h : (c.nodes s.node).step s.call = .ok n) (i : ι) :
    ((c.record s n).nodes i).localPlayerId = (c.nodes i).localPlayerId :=
  congrArg Prod.fst (record_address h i)

end Record

/-! ## What every step keeps -/

omit [DecidableEq ι] in
theorem Enabled.claim_sent {c : Cluster ι} {s : ClusterStep ι} {claim : NewHostClaim}
    (h : c.Enabled s) (hclaim : claim ∈ s.call.call.claim) :
    ∃ e ∈ c.sent, c.envelope s = some e ∧ e.out.election = some (.newHostClaim claim) := by
  refine h.sent ?_
  generalize s.call.call = call at hclaim
  cases call with
  | host call => cases hclaim
  | client call =>
    simp only [Call.claim] at hclaim
    split at hclaim <;> cases hclaim
    assumption

omit [DecidableEq ι] in
theorem Enabled.ack_sent {c : Cluster ι} {s : ClusterStep ι} {ack : ElectionAck}
    (h : c.Enabled s) (hack : ack ∈ s.call.call.electionAck) :
    ∃ e ∈ c.sent, c.envelope s = some e ∧ e.out.election = some (.electionAck ack) := by
  refine h.sent ?_
  generalize s.call.call = call at hack
  cases call with
  | host call => cases hack
  | client call =>
    simp only [Call.electionAck] at hack
    split at hack <;> cases hack
    assumption

variable {c : Cluster ι} {s : ClusterStep ι} {n : Node}

/-- A loyal survivor still follows the claim that it has answered. -/
theorem Answered.step {i j : ι} (h : c.Answered i j) (hc : c.Attributed) (enabled : c.Enabled s)
    (attributable : c.Attributable s) (waiting : (c.nodes i).Waiting)
    (hn : (c.nodes s.node).step s.call = .ok n) (same : (c.record s n).claims i = c.claims i) :
    (c.record s n).Answered i j := by
  obtain ⟨claim, hprocessed, hip, hfollows⟩ := id h
  have hkept : (c.nodes j).FollowsClaim claim → j ≠ s.node → (c.record s n).Answered i j := by
    intro hfollows hjs
    refine ⟨claim, same ▸ mem_processed hprocessed, by rw [record_localIp hn, hip], ?_⟩
    rwa [record_ne _ _ _ hjs]
  by_cases hjs : j = s.node
  · subst hjs
    obtain ⟨stays, hother⟩ := attributable.loyal i waiting h
    have hfollowing : (c.nodes s.node).Following :=
      hfollows.imp fun _ ⟨hsome, hstate, _⟩ => ⟨hsome, hstate⟩
    rcases Node.step_coordinator hfollowing stays hn with
      hsame | ⟨claim', hclaim', yields, hfollows'⟩
    · refine ⟨claim, same ▸ mem_processed hprocessed, by rw [record_localIp hn, hip], ?_⟩
      rw [record_self, Node.FollowsClaim, hsame]
      exact hfollows
    · -- the same claim once more
      obtain ⟨e, he, rfl, hno⟩ := hother claim' hclaim' yields
      obtain ⟨e', he', henvelope, helection⟩ := enabled.claim_sent hclaim'
      obtain rfl : e = e' := Option.some.inj ((Option.mem_def.mp he).symm.trans henvelope)
      refine ⟨claim', ?_, ?_, by rwa [record_self]⟩
      · rw [same, ← hno]
        exact processed_claim he hclaim'
      · rw [record_localIp hn]
        exact (hc.claims e he' claim' helection).2
  · exact hkept hfollows hjs

/-- A claimer that still waits has not claimed anew, or it has just done so. -/
theorem waiting_before {i : ι} (hn : (c.nodes s.node).step s.call = .ok n)
    (waiting : ((c.record s n).nodes i).Waiting) :
    (i = s.node ∧ (c.nodes s.node).Claims n) ∨
      ((c.nodes i).Waiting ∧ (c.record s n).claims i = c.claims i ∧
        (c.record s n).claimPeers i = c.claimPeers i) := by
  by_cases hi : i = s.node
  · subst hi
    rw [record_self] at waiting
    rcases Node.step_waiting hn waiting with hclaims | ⟨hwaiting, hquiet, -⟩
    · exact .inl ⟨rfl, hclaims⟩
    · obtain ⟨hclaims, hpeers⟩ := said_of_noClaim hquiet
      exact .inr ⟨hwaiting, by rw [hclaims], by rw [hpeers]⟩
  · rw [record_ne _ _ _ hi] at waiting
    exact .inr ⟨waiting, record_history_ne hi⟩

omit [DecidableEq ι] in
/-- The peer whose ack counts has answered. -/
theorem answered_of_counted (hc : c.Attributed) (enabled : c.Enabled s)
    (attributable : c.Attributable s) (waiting : (c.nodes s.node).Waiting) {ack : ElectionAck}
    (hack : ack ∈ s.call.call.electionAck)
    (hpending : ack.fromIp ∈ (c.nodes s.node).election.pendingElectionAcks) {j : ι}
    (hj : j ≠ s.node) (hpeer : (c.nodes j).localPlayerId ∈ c.claimPeers s.node)
    (hfrom : (c.nodes j).localIp = ack.fromIp) : c.Answered s.node j := by
  obtain ⟨e, he, hanswers, halone⟩ := attributable.counted waiting ack hack hpending
  obtain ⟨e', he', henvelope, helection⟩ := enabled.ack_sent hack
  obtain rfl : e = e' := Option.some.inj ((Option.mem_def.mp he).symm.trans henvelope)
  rw [halone j hj hpeer hfrom]
  exact (hc.acks e he' ack helection _ _ hanswers).2 rfl waiting

theorem step_attributed {c' : Cluster ι} (hc : c.Attributed) (located : c.Located s)
    (attributable : c.Attributable s) (h : c.step s = .ok c') : c'.Attributed := by
  obtain ⟨n, hn, rfl⟩ := step_spec h
  refine ⟨fun e he claim hclaim => ?_, fun e he ack hack i k hik => ?_, fun i hw j hj hpeer => ?_⟩
  · rw [record_localIp hn]
    rcases mem_sent he with hold | ⟨o, ho, rfl⟩
    · obtain ⟨hno, hip⟩ := hc.claims e hold claim hclaim
      exact ⟨hno.trans (claims_le _), hip⟩
    · exact ⟨le_rfl, (mem_said hn ho hclaim).1⟩
  · rcases mem_sent he with hold | ⟨o, ho, rfl⟩
    · obtain ⟨hle, hanswered⟩ := hc.acks e hold ack hack i k hik
      refine ⟨hle.trans (claims_le _), fun hcurrent hw => ?_⟩
      rcases waiting_before hn hw with ⟨rfl, hclaims⟩ | ⟨hwaiting, hsame, -⟩
      · -- an older ack does not answer a new claim
        rw [(said_of_claims hclaims).1] at hcurrent
        exact absurd (hcurrent ▸ hle) (Nat.not_succ_le_self _)
      · exact (hanswered (hcurrent.trans hsame) hwaiting).step hc located.enabled
          attributable hwaiting hn hsame
    · -- a fresh ack: its sender has just followed the claim
      obtain ⟨-, claim, hclaim, yields⟩ := mem_said hn ho hack
      obtain ⟨e, he', henvelope, helection⟩ := located.enabled.claim_sent hclaim
      rw [henvelope, Option.map_some] at hik
      cases hik
      obtain ⟨hno, hip⟩ := hc.claims e he' claim helection
      refine ⟨hno.trans (claims_le _), fun hcurrent _ => ⟨claim, ?_, ?_, ?_⟩⟩
      · rw [← hcurrent]
        exact processed_claim henvelope hclaim
      · rw [record_localIp hn, hip]
      · rw [record_self]
        rcases Node.onNewHostClaim_cases (Node.step_of_claim hclaim hn) with
          ⟨-, hignored⟩ | ⟨_, -, -, rfl⟩
        · exact absurd yields hignored
        · exact ⟨_, rfl, rfl, rfl, rfl⟩
  · rw [record_localPlayerId hn] at hpeer
    rw [record_localIp hn]
    rcases waiting_before hn hw with ⟨rfl, hclaims⟩ | ⟨hwaiting, hsame, hpeers⟩
    · -- a new claim waits for all its peers
      rw [(said_of_claims hclaims).2, peerIds, List.mem_map] at hpeer
      obtain ⟨e, he, hid⟩ := hpeer
      simp only [List.mem_filter, Bool.not_eq_true'] at he
      have hpending := hclaims.2 e he.1 he.2
      rw [located.addresses e (Node.mem_peers.mp he.1).1 j hid] at hpending
      rw [record_self]
      exact .inl hpending
    · rw [hpeers] at hpeer
      have answered (h : c.Answered i j) : (c.record s n).Answered i j :=
        h.step hc located.enabled attributable hwaiting hn hsame
      rcases hc.waits i hwaiting j hj hpeer with hsilent | hdone
      · by_cases hi : i = s.node
        · subst hi
          rw [record_self] at hw ⊢
          rcases Node.step_waiting hn hw with
            hclaims | ⟨-, -, hpending | ⟨ack, hack, hin, hpending⟩⟩
          · exact .inl (absurd hsame (by simp [(said_of_claims hclaims).1]))
          · exact .inl (hpending ▸ hsilent)
          · by_cases hfrom : (c.nodes j).localIp = ack.fromIp
            · exact .inr (answered (answered_of_counted hc located.enabled attributable
                hwaiting hack hin hj hpeer hfrom))
            · exact .inl (hpending ▸ List.mem_filter.mpr ⟨hsilent, by simpa using hfrom⟩)
        · rw [record_ne _ _ _ hi]
          exact .inl hsilent
      · exact .inr (answered hdone)

/-- In every run in which counted acks answer the claim that waits for them and nobody leaves a
waiting claimer: when an ack promotes a claimer, all peers of its claim follow it. -/
theorem quorum_follows {c₀ c c' : Cluster ι} {steps : List (ClusterStep ι)} {s : ClusterStep ι}
    {ack : ElectionAck} (start : ∀ i, (c₀.nodes i).ClientStart) (quiet : c₀.sent = [])
    (along : Fallible.Along step (fun c s => c.Located s ∧ c.Attributable s) c₀ steps)
    (hrun : c₀.run steps = .ok c) (located : c.Located s) (attributable : c.Attributable s)
    (hstep : c.step s = .ok c') (hack : ack ∈ s.call.call.electionAck)
    (waiting : (c.nodes s.node).election.promotionDone = false)
    (promoted : (c'.nodes s.node).election.promotionDone = true) :
    ∀ j, j ≠ s.node → (c.nodes j).localPlayerId ∈ c.claimPeers s.node → c'.Answered s.node j := by
  have hstart : c₀.Attributed := by
    refine ⟨by simp [quiet], by simp [quiet], fun i hw => absurd ?_ hw.2⟩
    rw [(start i).fresh]
  have hc : c.Attributed := Fallible.foldlM_keeps_along
    (fun _ _ _ _ hcond hc hstep => step_attributed hc hcond.1 hcond.2 hstep) along hrun hstart
  obtain ⟨n, hn, rfl⟩ := step_spec hstep
  rw [record_self] at promoted
  -- the ack was the last one
  have hdeliver := Node.step_of_electionAck hack hn
  obtain ⟨hpending, hlast⟩ : ack.fromIp ∈ (c.nodes s.node).election.pendingElectionAcks ∧
      ∀ ip ∈ (c.nodes s.node).election.pendingElectionAcks, ip = ack.fromIp := by
    rcases Node.onElectionAck_cases hdeliver with rfl | ⟨-, hpending, ⟨rfl, -⟩ | ⟨hlast, -⟩⟩
    · simp [waiting] at promoted
    · simp [Node.withPendingAcks, waiting] at promoted
    · exact ⟨hpending, hlast⟩
  have hw : (c.nodes s.node).Waiting := ⟨waiting, List.ne_nil_of_mem hpending⟩
  have hsame : (c.record s n).claims s.node = c.claims s.node := by
    rw [(said_of_noClaim ((Node.deliver_sends hdeliver).mono ?_)).1]
    rintro m (⟨_, -, -, rfl⟩ | ⟨_, rfl⟩) claim <;> simp
  intro j hj hpeer
  refine Answered.step ?_ hc located.enabled attributable hw hn hsame
  rcases hc.waits s.node hw j hj hpeer with hsilent | hanswered
  · exact answered_of_counted hc located.enabled attributable hw hack hpending hj hpeer
      (hlast _ hsilent)
  · exact hanswered

/-! ### Two processes at one address -/

section Decidability

variable [Fintype ι]

instance (c : Cluster ι) (s : ClusterStep ι) : Decidable (c.Located s) :=
  decidable_of_iff (c.Enabled s ∧ ∀ e ∈ (c.nodes s.node).roster.players, ∀ j,
      e.playerId = (c.nodes j).localPlayerId → e.host = (c.nodes j).localIp)
    ⟨fun ⟨h₁, h₂⟩ => ⟨h₁, h₂⟩, fun ⟨h₁, h₂⟩ => ⟨h₁, h₂⟩⟩

instance (c : Cluster ι) (s : ClusterStep ι) : Decidable (c.Counted s) :=
  inferInstanceAs (Decidable (_ → ∀ ack ∈ _, _))

instance (c : Cluster ι) (s : ClusterStep ι) : Decidable (c.Loyal s) :=
  inferInstanceAs (Decidable (∀ _, _))

instance (c : Cluster ι) (s : ClusterStep ι) : Decidable (c.Attributable s) :=
  decidable_of_iff (c.Counted s ∧ c.Loyal s) ⟨fun ⟨h₁, h₂⟩ => ⟨h₁, h₂⟩, fun ⟨h₁, h₂⟩ => ⟨h₁, h₂⟩⟩

end Decidability

/-- The third and the fourth player run on one machine. -/
def neighbour (i : Fin 3) : RosterEntry :=
  match i with
  | 0 => ⟨"player-2", "10.0.0.2", 50011, 1, .connected, false⟩
  | 1 => ⟨"player-3", "10.0.0.3", 50012, 2, .connected, false⟩
  | 2 => ⟨"player-4", "10.0.0.3", 50013, 3, .connected, false⟩

def neighbours : Cluster (Fin 3) where
  nodes i := Node.clientOf
    ⟨⟨"player-1", "10.0.0.1", 50010, 0, .connected, true⟩ :: List.ofFn neighbour⟩ (neighbour i)
    "10.0.0.1"

/-- Up to the ack of a claim of the second player, which the third one has processed. -/
def claimRun {k : ℕ} (claimer acker : Fin k) (source : ℕ) : List (ClusterStep (Fin k)) :=
  let claim : NewHostClaim := ⟨"10.0.0.2", 1, "session"⟩
  frame claimer .client { now := 1, datagrams := [snapshotOf "10.0.0.1"] } none ++
    frame claimer .client { now := 7 } none ++ frame claimer .client { now := 17 } none ++
    frame claimer .client { now := 18 } none ++
    frame acker .client
      { now := 361 / 20
        datagrams := [(.ok (.election (.newHostClaim claim)), claim.claimerIp, 50010)] }
      (some source)

def ackStep {k : ℕ} (claimer : Fin k) (source : ℕ) : ClusterStep (Fin k) :=
  ⟨claimer, ⟨181 / 10, .client
    (.datagram (.ok (.election (.electionAck ⟨"10.0.0.3", "session"⟩))))⟩, some source⟩

theorem third_player_follows :
    ∃ c c', successors.run (claimRun 0 1 5) = .ok c ∧ c.step (ackStep 0 8) = .ok c' ∧
      (c.nodes 1).localPlayerId ∈ c.claimPeers 0 ∧ c'.Answered 0 1 := by
  obtain ⟨c, hrun, hc⟩ := Fallible.exists_of_okAnd (x := successors.run (claimRun 0 1 5))
    (p := fun c => c.Located (ackStep 0 8) ∧ c.Attributable (ackStep 0 8) ∧
      (c.nodes 0).election.promotionDone = false ∧ (c.nodes 1).localPlayerId ∈ c.claimPeers 0 ∧
      Fallible.okAnd (c.step (ackStep 0 8)) fun c' => (c'.nodes 0).election.promotionDone)
    (by decide +kernel)
  obtain ⟨located, attributable, waiting, hpeer, hcheck⟩ := of_decide_eq_true hc
  obtain ⟨c', hstep, promoted⟩ := Fallible.exists_of_okAnd hcheck
  exact ⟨c, c', hrun, hstep, hpeer, quorum_follows (fun _ => ⟨rfl, rfl⟩) rfl
    (by decide +kernel) hrun located attributable hstep rfl waiting promoted 1 (by decide) hpeer⟩

/-- One ack answers for both processes, and the fourth player has not heard of the claim. -/
theorem neighbours_ack_counts_for_both :
    ¬ ∀ (c₀ c c' : Cluster (Fin 3)) (steps : List (ClusterStep (Fin 3))) (s : ClusterStep (Fin 3))
      (ack : ElectionAck), (∀ i, (c₀.nodes i).ClientStart) → c₀.sent = [] →
      Fallible.Along step Located c₀ steps → c₀.run steps = .ok c → c.Located s →
      c.step s = .ok c' → ack ∈ s.call.call.electionAck →
      (c.nodes s.node).election.promotionDone = false →
      (c'.nodes s.node).election.promotionDone = true →
      ∀ j, j ≠ s.node → (c.nodes j).localPlayerId ∈ c.claimPeers s.node → c'.Answered s.node j := by
  intro always
  obtain ⟨c, hrun, hc⟩ := Fallible.exists_of_okAnd (x := neighbours.run (claimRun 0 1 5))
    (p := fun c => c.Located (ackStep 0 9) ∧ (c.nodes 0).election.promotionDone = false ∧
      (c.nodes 2).localPlayerId ∈ c.claimPeers 0 ∧
      Fallible.okAnd (c.step (ackStep 0 9)) fun c' =>
        (c'.nodes 0).election.promotionDone ∧ ¬ c'.Answered 0 2)
    (by decide +kernel)
  obtain ⟨located, waiting, hpeer, hcheck⟩ := of_decide_eq_true hc
  obtain ⟨c', hstep, hc'⟩ := Fallible.exists_of_okAnd hcheck
  obtain ⟨promoted, unanswered⟩ := of_decide_eq_true hc'
  exact unanswered (always neighbours c c' _ (ackStep 0 9) ⟨"10.0.0.3", "session"⟩
    (fun _ => ⟨rfl, rfl⟩) rfl (by decide +kernel) hrun located hstep rfl waiting
    promoted 2 (by decide) hpeer)

end Cluster

end DistributedSmb
