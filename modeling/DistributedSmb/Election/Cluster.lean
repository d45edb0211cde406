import DistributedSmb.Election.Follower
import Mathlib.Logic.Function.Basic

/-!
# The survivors of a crash

Nodes that take their calls one by one, in any interleaving. What a node sends is recorded in an
envelope; a step that delivers an election message names the envelope, and any node may be the
receiver, any number of times: claims and acks also travel over the relay, which everyone hears.
A frame is a series of such steps.
-/

namespace DistributedSmb

open Library

variable {ι : Type}

/-- A sent message, with the number of the sender's last claim and the claim that it answers. -/
structure Envelope (ι : Type) where
  sender : ι
  sentAt : ℚ
  out : Outgoing
  claimNo : ℕ
  answers : Option (ι × ℕ)
  deriving DecidableEq

/-- A claim that a node has processed. -/
structure ProcessedClaim (ι : Type) where
  node : ι
  claimer : ι
  claimNo : ℕ
  claim : NewHostClaim
  deriving DecidableEq

/-- The nodes and the network. The last three fields are history: they count each node's claims,
name the peers of the last one, and record who processed which claim. -/
structure Cluster (ι : Type) where
  nodes : ι → Node
  time : ℚ := 0
  sent : List (Envelope ι) := []
  claims : ι → ℕ := fun _ => 0
  claimPeers : ι → List PlayerId := fun _ => []
  processed : List (ProcessedClaim ι) := []

/-- One call of one node, with the index of the envelope it delivers. -/
structure ClusterStep (ι : Type) where
  node : ι
  call : TimedCall
  source : Option ℕ := none

def Call.electionMessage : Call → Option ElectionMessage
  | .client call => call.electionMessage
  | .host (.remoteInput (.ok (.election message)) _ _) => some message
  | .host _ => none

def Call.departed : Call → Option PlayerId
  | .client call => call.departed
  | .host _ => none

def Call.isHost : Call → Bool
  | .client _ => false
  | .host _ => true

/-- The claim that a call hands to `_on_new_host_claim`. -/
def Call.claim : Call → Option NewHostClaim
  | .client call =>
    match call.electionMessage with
    | some (.newHostClaim claim) => some claim
    | _ => none
  | .host _ => none

/-- The ack that a call hands to `_on_election_ack`. -/
def Call.electionAck : Call → Option ElectionAck
  | .client call =>
    match call.electionMessage with
    | some (.electionAck ack) => some ack
    | _ => none
  | .host _ => none

def Outgoing.isClaim (o : Outgoing) : Bool :=
  match o.election with
  | some (.newHostClaim _) => true
  | _ => false

namespace Cluster

variable [DecidableEq ι]

def envelope (c : Cluster ι) (s : ClusterStep ι) : Option (Envelope ι) :=
  s.source.bind fun k => c.sent[k]?

/-- What the node says in this step. -/
def said (c : Cluster ι) (s : ClusterStep ι) (n : Node) : List Outgoing :=
  n.outbox.drop (c.nodes s.node).outbox.length

/-- The player ids of the peers that a claim waits for. -/
def peerIds (n : Node) : List PlayerId :=
  (n.peers.filter fun e => !e.isHost).map RosterEntry.playerId

def record (c : Cluster ι) (s : ClusterStep ι) (n : Node) : Cluster ι :=
  let out := c.said s n
  let claims :=
    if out.any Outgoing.isClaim then Function.update c.claims s.node (c.claims s.node + 1)
    else c.claims
  let answers := (c.envelope s).map fun e => (e.sender, e.claimNo)
  { nodes := Function.update c.nodes s.node n
    time := s.call.now
    sent := c.sent ++ out.map fun o => ⟨s.node, s.call.now, o, claims s.node, answers⟩
    claims := claims
    claimPeers :=
      if out.any Outgoing.isClaim then
        Function.update c.claimPeers s.node (peerIds (c.nodes s.node))
      else c.claimPeers
    processed :=
      match c.envelope s, s.call.call.claim with
      | some e, some claim => c.processed ++ [⟨s.node, e.sender, e.claimNo, claim⟩]
      | _, _ => c.processed }

def step (c : Cluster ι) (s : ClusterStep ι) : Except PyError (Cluster ι) := do
  let n ← (c.nodes s.node).step s.call
  .ok (c.record s n)

def run (c : Cluster ι) (steps : List (ClusterStep ι)) : Except PyError (Cluster ι) :=
  steps.foldlM step c

/-- Time does not run back, only a host makes host calls, and what is delivered has been sent. -/
structure Enabled (c : Cluster ι) (s : ClusterStep ι) : Prop where
  time : c.time ≤ s.call.now
  host : s.call.call.isHost = true → (c.nodes s.node).role = .host
  delivers : ∀ message ∈ s.call.call.electionMessage, ∃ e ∈ c.envelope s,
    e.out.election = some message

instance (c : Cluster ι) (s : ClusterStep ι) : Decidable (c.Enabled s) :=
  decidable_of_iff (c.time ≤ s.call.now ∧
      (s.call.call.isHost = true → (c.nodes s.node).role = .host) ∧
      ∀ message ∈ s.call.call.electionMessage, ∃ e ∈ c.envelope s, e.out.election = some message)
    ⟨fun ⟨h₁, h₂, h₃⟩ => ⟨h₁, h₂, h₃⟩, fun ⟨h₁, h₂, h₃⟩ => ⟨h₁, h₂, h₃⟩⟩

/-! ## What a step changes -/

theorem step_spec {c c' : Cluster ι} {s : ClusterStep ι} (h : c.step s = .ok c') :
    ∃ n, (c.nodes s.node).step s.call = .ok n ∧ c' = c.record s n := by
  obtain ⟨n, hn, h⟩ := Fallible.bind_eq_ok.mp h
  exact ⟨n, hn, (Except.ok.inj h).symm⟩

@[simp] theorem record_self (c : Cluster ι) (s : ClusterStep ι) (n : Node) :
    (c.record s n).nodes s.node = n := by simp [record]

theorem record_ne (c : Cluster ι) (s : ClusterStep ι) (n : Node) {j : ι} (h : j ≠ s.node) :
    (c.record s n).nodes j = c.nodes j := by simp [record, h]

end Cluster

namespace Node

/-- An outbox only grows. -/
theorem Sends.grows {n n' : Node} {P : ElectionMessage → Prop} (h : n.Sends n' P) :
    n.outbox <+: n'.outbox := by
  obtain ⟨out, hout, -⟩ := h
  exact ⟨out, hout.symm⟩

theorem Sends.mono {n n' : Node} {P Q : ElectionMessage → Prop} (h : n.Sends n' P)
    (hPQ : ∀ m, P m → Q m) : n.Sends n' Q := by
  obtain ⟨out, hout, hP⟩ := h
  exact ⟨out, hout, fun o ho m hm => hPQ m (hP o ho m hm)⟩

/-- A follower acknowledges the claim. -/
theorem followed_sends (n : Node) (coordinator : ElectionCoordinator) (claim : NewHostClaim)
    (now : ℚ) :
    n.Sends (n.followed coordinator claim now) fun m => m = .electionAck ⟨n.localIp, n.sessionId⟩ :=
  sends_broadcastElection (n.follow _ claim.claimerIp now) _ _

/-- What a delivered message can make a node say: an ack of a claim that it follows, or the
announcement of a promotion. -/
theorem deliver_sends {n n' : Node} {message : ElectionMessage} {now : ℚ}
    (h : n.onElectionMessage now message = .ok n') :
    n.Sends n' fun m => (∃ claim, message = .newHostClaim claim ∧ n.Yields claim ∧
      m = .electionAck ⟨n.localIp, n.sessionId⟩) ∨ ∃ ack, m = .reconnectionAck ack := by
  cases message with
  | newHostClaim claim =>
    rcases onNewHostClaim_cases h with ⟨rfl, -⟩ | ⟨c, -, yields, rfl⟩
    · exact .refl _ _
    · exact (followed_sends n c claim now).mono fun m hm => .inl ⟨claim, rfl, yields, hm⟩
  | electionAck ack =>
    rcases onElectionAck_cases h with rfl | ⟨-, -, ⟨rfl, -⟩ | ⟨-, hpromoted⟩⟩
    · exact .refl _ _
    · exact .refl n _
    · obtain ⟨out, hout, hP⟩ := hpromoted.sends
      exact ⟨out, hout, fun o ho m hm => .inr (hP o ho m hm)⟩
  | reconnectionAck ack =>
    cases h
    rcases onReconnectionAck_cases n ack with ⟨hsame, -⟩ | ⟨-, -, hreset⟩
    · rw [hsame]
      exact .refl _ _
    · exact ⟨[], by rw [hreset.outbox, List.append_nil], by simp⟩

/-- A claim names its sender. -/
theorem claiming_sends (n : Node) (now : ℚ) :
    n.Sends (n.claiming now) fun m => m = .newHostClaim ⟨n.localIp, n.joinIndex, n.sessionId⟩ :=
  sends_broadcastElection n _ _

theorem startElection_sends (n : Node) (coordinator : ElectionCoordinator) (now : ℚ)
    (P : ElectionMessage → Prop) : n.Sends (n.startElection coordinator now) P :=
  ⟨[], by simp [startElection], by simp⟩

/-- The addresses under which the others know a node. -/
def address (n : Node) : PlayerId × Ip := (n.localPlayerId, n.localIp)

theorem address_of_identity {n n' : Node} (h : n'.identity = n.identity) :
    n'.address = n.address := by
  simp only [identity, Prod.mk.injEq] at h
  simp [address, h.1, h.2.1]

/-- What a node is called, and the session it plays in. -/
def names (n : Node) : PlayerId × Ip × String := (n.localPlayerId, n.localIp, n.sessionId)

theorem names_of_identity {n n' : Node} (h : n'.identity = n.identity) : n'.names = n.names := by
  simp only [identity, Prod.mk.injEq] at h
  simp [names, h.1, h.2.1, h.2.2.1]

/-- What the election timers can make a node say: its claim, or the announcement of a promotion. -/
theorem tick_sends {n n' : Node} {foundIp : Option Ip} {now : ℚ}
    (h : n.tickElectionState foundIp now = .ok n') :
    n'.identity = n.identity ∧ n.Sends n' fun m =>
      m = .newHostClaim ⟨n.localIp, n.joinIndex, n.sessionId⟩ ∨
        ∃ ack, m = .reconnectionAck ack := by
  have promotes {m m' : Node} {P : ElectionMessage → Prop} (hm : m.Promoted m') :
      m.Sends m' fun x => P x ∨ ∃ ack, x = .reconnectionAck ack := hm.sends.mono fun _ hx => .inr hx
  refine tick_keeps (P := fun m => m.identity = n.identity ∧ n.Sends m fun x =>
      x = .newHostClaim ⟨n.localIp, n.joinIndex, n.sessionId⟩ ∨ ∃ ack, x = .reconnectionAck ack) h
    ⟨rfl, .refl n _⟩ ?quiet ?confirms ?elected ?claims ?alone ?expires ?reconnects
  case quiet =>
    rintro m m' hquiet ⟨hself, hsends⟩
    exact ⟨hquiet.identity.trans hself, hsends.trans (hquiet.sends.mono fun _ hx => hx.elim)⟩
  case confirms => exact fun c _ => ⟨rfl, startElection_sends n c now _⟩
  case elected => exact fun _ _ _ _ hm => hm
  case claims =>
    rintro m c - - - ⟨hself, hsends⟩
    refine ⟨hself, hsends.trans ((claiming_sends m now).mono fun x hx => .inl ?_)⟩
    simp only [identity, Prod.mk.injEq] at hself
    rw [hx, hself.2.1, hself.2.2.1, hself.2.2.2]
  case alone =>
    rintro m m' c - - - - - hpromoted ⟨hself, hsends⟩
    exact ⟨hpromoted.identity.trans hself, hsends.trans (promotes hpromoted)⟩
  case expires =>
    rintro m m' - - hpromoted ⟨hself, hsends⟩
    have hannounced : m.Sends m' fun x => ∃ ack, x = .reconnectionAck ack := hpromoted.sends
    exact ⟨hpromoted.identity.trans hself, hsends.trans (hannounced.mono fun _ hx => .inr hx)⟩
  case reconnects =>
    rintro m ack - ⟨hself, hsends⟩
    rcases onReconnectionAck_cases m ack with ⟨hsame, -⟩ | ⟨-, -, hreset⟩
    · rw [hsame]
      exact ⟨hself, hsends⟩
    · refine ⟨hreset.identity.trans hself, hsends.trans ⟨[], ?_, by simp⟩⟩
      rw [hreset.outbox, List.append_nil]

theorem checkForRejoiningPlayers_sends {n n' : Node} {message : Option WsMessage} {now : ℚ}
    (h : n.checkForRejoiningPlayers message now = .ok n') : n.Sends n' fun _ => False := by
  obtain ⟨out, hout, hsync⟩ := checkForRejoiningPlayers_outbox h
  refine ⟨out, hout, fun o ho m hm => ?_⟩
  rw [hsync o ho] at hm
  cases hm

/-- A host takes no part in elections. -/
theorem hostCall_sends {n n' : Node} {now : ℚ} {call : HostCall}
    (h : n.hostCall now call = .ok n') : n.Sends n' fun _ => False := by
  have evict {m m' : Node} {pid : PlayerId} (h : m.evictAndAnnounce pid = .ok m') :
      m.Sends m' fun _ => False := by
    obtain ⟨message, hmessage, h⟩ := Fallible.bind_eq_ok.mp h
    cases h
    rw [checked_eq_ok hmessage]
    exact ⟨[_], rfl, by simp [Outgoing.election]⟩
  cases call with
  | checkForRejoiningPlayers message =>
    exact checkForRejoiningPlayers_sends h
  | playerDisconnected pid => exact evict h
  | evictSilentPlayers =>
    exact Fallible.foldlM_keeps (P := fun m => n.Sends m fun _ => False)
      (fun m pid m' _ hm hstep => hm.trans (evict hstep)) h (.refl n _)
  | remoteInput payload host port =>
    obtain ⟨message, -, h⟩ := Fallible.bind_eq_ok.mp h
    split at h
    · split at h
      · cases h; exact .refl n _
      · obtain ⟨response, -, h⟩ := Fallible.bind_eq_ok.mp h
        cases h
        exact ⟨[_], rfl, by simp [Outgoing.election]⟩
    · split at h <;> cases h <;> exact .refl n _
    · cases h; exact .refl n _
  | advance localInput enemyCommands =>
    obtain ⟨engine, -, h⟩ := Fallible.bind_eq_ok.mp h
    cases h
    exact .refl n _
  | sendGameEvents =>
    obtain ⟨messages, hmessages, h⟩ := Fallible.bind_eq_ok.mp h
    cases h
    refine ⟨messages.map Outgoing.relay, rfl, fun o ho m hm => ?_⟩
    obtain ⟨message, hmem, rfl⟩ := List.mem_map.mp ho
    rw [mapM_eventToMessage hmessages] at hmem
    obtain ⟨event, -, rfl⟩ := List.mem_map.mp hmem
    cases event <;> cases hm
  | sendWorldStateSnapshot =>
    cases h
    refine ⟨_, rfl, fun o ho m hm => ?_⟩
    obtain ⟨e, -, rfl⟩ := List.mem_map.mp ho
    cases hm
  | maybeBroadcastRoster =>
    rw [hostCall, maybeBroadcastRoster] at h
    split at h
    · cases h; exact .refl n _
    · obtain ⟨message, hmessage, h⟩ := Fallible.bind_eq_ok.mp h
      cases h
      rw [checked_eq_ok hmessage]
      exact ⟨[_], rfl, by simp [Outgoing.election]⟩

/-- The election messages that a call can bring about. -/
def MaySay (n : Node) (call : Call) : ElectionMessage → Prop
  | .newHostClaim claim => claim.claimerIp = n.localIp ∧ call.electionMessage = none
  | .electionAck ack => ack.fromIp = n.localIp ∧ ∃ claim ∈ call.claim, n.Yields claim
  | .reconnectionAck _ => True

theorem claim_of_electionMessage {call : ClientCall} {claim : NewHostClaim}
    (h : call.electionMessage = some (.newHostClaim claim)) :
    (Call.client call).claim = some claim := by
  simp [Call.claim, h]

theorem clientCall_of_electionMessage {call : ClientCall} {message : ElectionMessage}
    (h : call.electionMessage = some message) (n : Node) (now : ℚ) :
    n.clientCall now call = n.onElectionMessage now message := by
  unfold ClientCall.electionMessage at h
  split at h <;> cases h <;> rfl

/-- A call that carries a claim processes it. -/
theorem step_of_claim {n n' : Node} {c : TimedCall} {claim : NewHostClaim}
    (hclaim : claim ∈ c.call.claim) (h : n.step c = .ok n') :
    n.onNewHostClaim claim c.now = .ok n' := by
  obtain ⟨now, call | call⟩ := c
  · simp only [Call.claim] at hclaim
    split at hclaim
    case h_1 heq =>
      cases hclaim
      exact (clientCall_of_electionMessage heq n now).symm.trans h
    case h_2 => cases hclaim
  · cases hclaim

/-- A call that carries an ack processes it. -/
theorem step_of_electionAck {n n' : Node} {c : TimedCall} {ack : ElectionAck}
    (hack : ack ∈ c.call.electionAck) (h : n.step c = .ok n') :
    n.onElectionMessage c.now (.electionAck ack) = .ok n' := by
  obtain ⟨now, call | call⟩ := c
  · simp only [Call.electionAck] at hack
    split at hack
    case h_1 heq =>
      cases hack
      exact (clientCall_of_electionMessage heq n now).symm.trans h
    case h_2 => cases hack
  · cases hack

theorem ensureElectionComponents_sends (n : Node) (P : ElectionMessage → Prop) :
    n.Sends n.ensureElectionComponents P := by
  refine ⟨[], ?_, by simp⟩
  unfold ensureElectionComponents
  split <;> simp

theorem step_sends {n n' : Node} {c : TimedCall} (h : n.step c = .ok n') :
    n.Sends n' (n.MaySay c.call) := by
  obtain ⟨now, call⟩ := c
  cases call with
  | host call => exact (hostCall_sends h).mono fun _ hm => hm.elim
  | client call =>
    cases clientCall_effect h with
    | ensured => exact ensureElectionComponents_sends n _
    | delivered carries h =>
      refine (deliver_sends h).mono ?_
      rintro m (⟨claim, rfl, yields, rfl⟩ | ⟨ack, rfl⟩)
      · exact ⟨rfl, claim, claim_of_electionMessage carries, yields⟩
      · trivial
    | ticked h =>
      refine (tick_sends h).2.mono ?_
      rintro m (rfl | ⟨ack, rfl⟩)
      · exact ⟨rfl, rfl⟩
      · trivial
    | quiet h => exact h.sends.mono fun _ hm => hm.elim

/-- Nobody changes its name, its address or its session. -/
theorem step_names {n n' : Node} {c : TimedCall} (h : n.step c = .ok n') : n'.names = n.names := by
  obtain ⟨now, call⟩ := c
  cases call with
  | host call =>
    have hstanding := hostCall_standing h
    simp only [standing, Prod.mk.injEq] at hstanding
    simp [names, hstanding.1, hstanding.2.1, hstanding.2.2.1]
  | client call =>
    cases clientCall_effect h with
    | ensured =>
      unfold ensureElectionComponents
      split <;> rfl
    | @delivered _ message _ carries h =>
      cases message with
      | newHostClaim claim =>
        rcases onNewHostClaim_cases h with ⟨rfl, -⟩ | ⟨c, -, -, rfl⟩ <;> rfl
      | electionAck ack =>
        rcases onElectionAck_cases h with rfl | ⟨-, -, ⟨rfl, -⟩ | ⟨-, hpromoted⟩⟩
        · rfl
        · rfl
        · exact names_of_identity hpromoted.identity
      | reconnectionAck ack =>
        cases h
        rcases onReconnectionAck_cases n ack with ⟨hsame, -⟩ | ⟨-, -, hreset⟩
        · rw [hsame]
        · exact names_of_identity hreset.identity
    | ticked h => exact names_of_identity (tick_sends h).1
    | quiet h => exact names_of_identity h.identity

theorem step_address {n n' : Node} {c : TimedCall} (h : n.step c = .ok n') :
    n'.address = n.address := by
  have hnames := step_names h
  simp only [names, Prod.mk.injEq] at hnames
  rw [address, address, hnames.1, hnames.2.1]

theorem step_sessionId {n n' : Node} {c : TimedCall} (h : n.step c = .ok n') :
    n'.sessionId = n.sessionId := by
  have hnames := step_names h
  simp only [names, Prod.mk.injEq] at hnames
  exact hnames.2.2

end Node

namespace Cluster

variable [DecidableEq ι]

omit [DecidableEq ι] in
theorem mem_said {c : Cluster ι} {s : ClusterStep ι} {n : Node} {o : Outgoing} {m : ElectionMessage}
    (h : (c.nodes s.node).step s.call = .ok n) (ho : o ∈ c.said s n) (hm : o.election = some m) :
    (c.nodes s.node).MaySay s.call.call m := by
  obtain ⟨out, hout, hP⟩ := Node.step_sends h
  rw [said, hout, List.drop_left] at ho
  exact hP o ho m hm

/-- An older envelope, or one of this step. -/
theorem mem_sent {c : Cluster ι} {s : ClusterStep ι} {n : Node} {e : Envelope ι}
    (he : e ∈ (c.record s n).sent) :
    e ∈ c.sent ∨ ∃ o ∈ c.said s n, e = ⟨s.node, s.call.now, o, (c.record s n).claims s.node,
      (c.envelope s).map fun e => (e.sender, e.claimNo)⟩ := by
  rcases List.mem_append.mp he with he | he
  · exact .inl he
  · obtain ⟨o, ho, rfl⟩ := List.mem_map.mp he
    exact .inr ⟨o, ho, rfl⟩

omit [DecidableEq ι] in
/-- What is delivered has been sent. -/
theorem Enabled.sent {c : Cluster ι} {s : ClusterStep ι} {m : ElectionMessage} (h : c.Enabled s)
    (hm : s.call.call.electionMessage = some m) :
    ∃ e ∈ c.sent, c.envelope s = some e ∧ e.out.election = some m := by
  obtain ⟨e, he, helection⟩ := h.delivers m hm
  obtain ⟨k, -, hk⟩ := Option.bind_eq_some_iff.mp he
  exact ⟨e, List.mem_of_getElem? hk, he, helection⟩

end Cluster

end DistributedSmb
