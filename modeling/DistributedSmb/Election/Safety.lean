import DistributedSmb.Election.Cluster
import Mathlib.Data.Fintype.Basic

/-!
# At most one successor

The survivors of one crash elect at most one of them as long as whoever yields stays out of the
election and no claim expires over the head of a better candidate that has not yielded. A survivor
that has yielded, or that has reconnected, is retired; a promoted one has outlived everybody with a
lower join index.
-/

namespace DistributedSmb

open Library

variable {ι : Type}

namespace Node

def Following (n : Node) : Prop := ∃ c ∈ n.election.coordinator, c.state = .follower

instance (n : Node) : Decidable n.Following := inferInstanceAs (Decidable (∃ c ∈ _, _))

/-- Reconnected, with no election under way. -/
structure Settled (n : Node) : Prop where
  reconnected : n.election.reconnected = true
  idle : n.election.electionTriggered = false
  noClaim : n.election.pendingElectionAcks = []

/-- Out of the election for good. -/
def Retired (n : Node) : Prop :=
  n.election.promotionDone = false ∧ (n.Following ∨ n.Settled)

instance (n : Node) : Decidable n.Retired :=
  have : Decidable n.Settled := decidable_of_iff
    (n.election.reconnected = true ∧ n.election.electionTriggered = false ∧
      n.election.pendingElectionAcks = [])
    ⟨fun ⟨h₁, h₂, h₃⟩ => ⟨h₁, h₂, h₃⟩, fun ⟨h₁, h₂, h₃⟩ => ⟨h₁, h₂, h₃⟩⟩
  inferInstanceAs (Decidable (_ ∧ _))

end Node

def Call.ticks : Call → Bool
  | .client (.tickElectionState _) => true
  | _ => false

namespace Node

/-- The ack is the last one that the node's own claim waits for. -/
def Completes (n : Node) (ack : ElectionAck) : Prop :=
  ack.fromIp ∈ n.election.pendingElectionAcks ∧
    ∀ ip ∈ n.election.pendingElectionAcks, ip = ack.fromIp

instance (n : Node) (ack : ElectionAck) : Decidable (n.Completes ack) :=
  inferInstanceAs (Decidable (_ ∧ _))

/-- The calls that bring a follower back into the election: the last ack for its own claim, or a
tick at which its host verification or its own claim runs out. -/
def Relapses (n : Node) (c : TimedCall) : Prop :=
  (∃ ack ∈ c.call.electionAck, n.Completes ack) ∨
    (c.call.ticks = true ∧ (n.ConfirmsTimeout c.now ∨ n.ClaimExpired c.now))

instance (n : Node) (c : TimedCall) : Decidable (n.Relapses c) :=
  inferInstanceAs (Decidable (_ ∨ _))

/-! ## Who has retired stays retired -/

theorem Following.of_coordinator {n n' : Node} (h : n.Following)
    (same : n'.election.coordinator = n.election.coordinator) : n'.Following := by
  rwa [Following, same]

theorem Following.state {n : Node} (h : n.Following) {c : ElectionCoordinator}
    (hsome : n.election.coordinator = some c) : c.state = .follower := by
  obtain ⟨c', hsome', hfollower⟩ := h
  rw [hsome] at hsome'
  exact Option.some.inj hsome' ▸ hfollower

theorem Settled.of_same {n n' : Node} (h : n.Settled)
    (reconnected : n'.election.reconnected = n.election.reconnected)
    (triggered : n'.election.electionTriggered = n.election.electionTriggered)
    (pending : n'.election.pendingElectionAcks = n.election.pendingElectionAcks) : n'.Settled :=
  ⟨reconnected.trans h.reconnected, triggered.trans h.idle, pending.trans h.noClaim⟩

theorem Retired.quiet {n n' : Node} {left : Option PlayerId} (h : n.Retired)
    (hq : n.Quiet left n') : n'.Retired :=
  ⟨hq.promotionDone.trans h.1, h.2.imp (·.of_coordinator hq.coordinator)
    (·.of_same hq.reconnected hq.triggered hq.pending)⟩

theorem settled_of_reset {n n' : Node} {ack : ReconnectionAck} (h : n.Reset ack n') :
    n'.Settled := by
  constructor <;> rw [h.election] <;> rfl

/-- A reconnection settles whoever is open to it. -/
theorem Retired.reconnect {n : Node} (h : n.Retired) (ack : ReconnectionAck) :
    (n.onReconnectionAck ack).Retired := by
  rcases onReconnectionAck_cases n ack with ⟨hsame, -⟩ | ⟨-, hwaiting, hreset⟩
  · rwa [hsame]
  · exact ⟨by rw [hreset.election]; exact hwaiting, .inr (settled_of_reset hreset)⟩

theorem followed_retired {n : Node} (waiting : n.election.promotionDone = false)
    (coordinator : ElectionCoordinator) (claim : NewHostClaim) (now : ℚ) :
    (n.followed coordinator claim now).Retired := ⟨waiting, .inl ⟨_, rfl, rfl⟩⟩

/-- The timers wake nobody who has neither a timeout to confirm nor a claim to see expire. -/
theorem Retired.tick {n n' : Node} {foundIp : Option Ip} {now : ℚ} (hn : n.Retired)
    (steady : ¬ n.ConfirmsTimeout now) (unexpired : ¬ n.ClaimExpired now)
    (h : n.tickElectionState foundIp now = .ok n') : n'.Retired := by
  -- a claim needs an own election, which neither a follower nor a settled node has
  have noClaim {m : Node} {c : ElectionCoordinator} (hsome : m.election.coordinator = some c)
      (hclaimed : c.state = .claimed) (htriggered : m.election.electionTriggered = true)
      (hm : m.Retired) : False := by
    rcases hm.2 with hfollowing | hsettled
    · simp [hfollowing.state hsome] at hclaimed
    · simp [hsettled.idle] at htriggered
  refine tick_keeps h hn ?quiet ?confirms ?elected ?claims ?alone ?expires ?reconnects
  case quiet => exact fun _ _ hquiet hm => hm.quiet hquiet
  case confirms => exact fun _ hconfirms => absurd hconfirms steady
  case elected =>
    intro m c hsome hpending hm
    rcases hm.2 with hfollowing | hsettled
    · simp [hfollowing.state hsome] at hpending
    · exact ⟨hm.1, .inr (hsettled.of_same rfl rfl rfl)⟩
  case claims =>
    exact fun _ _ hsome hclaimed htriggered hm => (noClaim hsome hclaimed htriggered hm).elim
  case alone =>
    exact fun _ _ _ hsome hclaimed htriggered _ _ _ hm =>
      (noClaim hsome hclaimed htriggered hm).elim
  case expires => exact fun _ _ hexpired => absurd hexpired unexpired
  case reconnects => exact fun _ ack _ hm => hm.reconnect ack

/-- Whoever has retired and still waits for acks is a follower, and stays one while it waits. -/
theorem Retired.acked {n : Node} (hn : n.Retired) (waits : n.election.pendingElectionAcks ≠ [])
    (pending : List Ip) : (n.withPendingAcks pending).Retired := by
  refine ⟨hn.1, hn.2.imp (·.of_coordinator rfl) fun settled => ?_⟩
  exact absurd settled.noClaim waits

theorem Retired.deliver {n n' : Node} {message : ElectionMessage} {now : ℚ} (hn : n.Retired)
    (incomplete : ∀ ack, message = .electionAck ack → ¬ n.Completes ack)
    (h : n.onElectionMessage now message = .ok n') : n'.Retired := by
  cases message with
  | newHostClaim claim =>
    rcases onNewHostClaim_cases h with ⟨rfl, -⟩ | ⟨c, -, -, rfl⟩
    · exact hn
    · exact followed_retired hn.1 c claim now
  | electionAck ack =>
    rcases onElectionAck_cases h with rfl | ⟨-, hpending, ⟨rfl, -⟩ | ⟨hlast, -⟩⟩
    · exact hn
    · exact hn.acked (List.ne_nil_of_mem hpending) _
    · exact absurd ⟨hpending, hlast⟩ (incomplete ack rfl)
  | reconnectionAck ack => cases h; exact hn.reconnect ack

theorem electionAck_of_message {call : ClientCall} {ack : ElectionAck}
    (h : call.electionMessage = some (.electionAck ack)) :
    (Call.client call).electionAck = some ack := by
  simp [Call.electionAck, h]

theorem ensured_fields (n : Node) :
    n.ensureElectionComponents.address = n.address ∧
      n.ensureElectionComponents.roster = n.roster ∧
      n.ensureElectionComponents.election.reconnected = n.election.reconnected ∧
      n.ensureElectionComponents.election.electionTriggered = n.election.electionTriggered ∧
      n.ensureElectionComponents.election.pendingElectionAcks = n.election.pendingElectionAcks ∧
      n.ensureElectionComponents.election.promotionDone = n.election.promotionDone ∧
      (n.election.coordinator.isSome → n.ensureElectionComponents = n) := by
  unfold ensureElectionComponents
  split
  · exact ⟨rfl, rfl, rfl, rfl, rfl, rfl, fun _ => rfl⟩
  case h_2 hnone => exact ⟨rfl, rfl, rfl, rfl, rfl, rfl, fun hsome => by simp [hnone] at hsome⟩

/-- Whoever has retired and does not relapse stays retired. -/
theorem Retired.step {n n' : Node} {c : TimedCall} (hn : n.Retired) (stays : ¬ n.Relapses c)
    (h : n.step c = .ok n') : n'.Retired := by
  obtain ⟨now, call⟩ := c
  cases call with
  | host call =>
    have helection := congrArg (fun s => s.2.2.2.2.2) (hostCall_standing h)
    change n'.election = n.election at helection
    exact ⟨by rw [helection]; exact hn.1, hn.2.imp (·.of_coordinator (by rw [helection]))
      (·.of_same (by rw [helection]) (by rw [helection]) (by rw [helection]))⟩
  | client call =>
    cases clientCall_effect h with
    | ensured =>
      obtain ⟨-, -, hreconnected, htriggered, hpending, hdone, hsame⟩ := ensured_fields n
      refine ⟨hdone.trans hn.1, hn.2.imp (fun hfollowing => ?_)
        (·.of_same hreconnected htriggered hpending)⟩
      obtain ⟨c, hsome, -⟩ := id hfollowing
      rwa [hsame (Option.isSome_of_mem hsome)]
    | delivered carries h =>
      refine hn.deliver (fun ack hack hlast => stays (.inl ⟨ack, ?_, hlast⟩)) h
      exact electionAck_of_message (carries.trans (congrArg some hack))
    | ticked h =>
      exact hn.tick (fun hconfirms => stays (.inr ⟨rfl, .inl hconfirms⟩))
        (fun hexpired => stays (.inr ⟨rfl, .inr hexpired⟩)) h
    | quiet h => exact hn.quiet h

end Node

/-! ## The place of a survivor -/

/-- The survivors, by their roster entries. -/
structure Survivors (who : ι → RosterEntry) : Prop where
  distinctIds : Function.Injective fun i => (who i).playerId
  distinctHosts : Function.Injective fun i => (who i).host
  distinctIndices : Function.Injective fun i => (who i).joinIndex
  notHost : ∀ i, (who i).isHost = false

/-- What a survivor knows of the others and has heard from them. `retired` tells which of them have
retired. -/
structure InPlace (who : ι → RosterEntry) (retired : ι → Prop) (i : ι) (n : Node) : Prop where
  address : n.address = ((who i).playerId, (who i).host)
  settled : n.election.reconnected = true → n.election.promotionDone = false ∧ n.Settled
  knows : n.election.reconnected = false → n.election.promotionDone = false →
    ∀ j, who j ∈ n.roster.players
  waits : n.election.promotionDone = false → n.election.pendingElectionAcks ≠ [] →
    ∀ j, j ≠ i → (who j).host ∈ n.election.pendingElectionAcks ∨ retired j
  promoted : n.election.promotionDone = true →
    ∀ j, (who j).joinIndex < (who i).joinIndex → retired j

namespace InPlace

open Node

variable {who : ι → RosterEntry} {retired retired' : ι → Prop} {i : ι} {n n' : Node}

theorem mono (h : InPlace who retired i n) (hmono : ∀ j, retired j → retired' j) :
    InPlace who retired' i n where
  address := h.address
  settled := h.settled
  knows := h.knows
  waits hwaiting hpending j hj := (h.waits hwaiting hpending j hj).imp_right (hmono j)
  promoted hdone j hj := hmono j (h.promoted hdone j hj)

/-- Everything that leaves the claim and the roster's old entries alone. -/
theorem of_same (h : InPlace who retired i n) (address : n'.address = n.address)
    (reconnected : n'.election.reconnected = n.election.reconnected)
    (triggered : n'.election.electionTriggered = n.election.electionTriggered)
    (pending : n'.election.pendingElectionAcks = n.election.pendingElectionAcks)
    (done : n'.election.promotionDone = n.election.promotionDone)
    (keeps : n.election.reconnected = false → n.election.promotionDone = false →
      ∀ j, who j ∈ n.roster.players → who j ∈ n'.roster.players) : InPlace who retired i n' where
  address := address.trans h.address
  settled hback := by
    obtain ⟨hwaiting, hsettled⟩ := h.settled (reconnected ▸ hback)
    exact ⟨done.trans hwaiting, hsettled.of_same reconnected triggered pending⟩
  knows hopen hwaiting j := by
    rw [reconnected] at hopen
    rw [done] at hwaiting
    exact keeps hopen hwaiting j (h.knows hopen hwaiting j)
  waits hwaiting hpending := by
    rw [pending] at hpending ⊢
    exact h.waits (done ▸ hwaiting) hpending
  promoted hdone := h.promoted (done ▸ hdone)

theorem quiet {left : Option PlayerId} (h : InPlace who retired i n) (hq : n.Quiet left n')
    (survive : n.election.reconnected = false → ∀ j, some (who j).playerId ≠ left) :
    InPlace who retired i n' :=
  h.of_same (address_of_identity hq.identity) hq.reconnected hq.triggered hq.pending
    hq.promotionDone fun hopen _ j hj => hq.keeps _ hj (survive hopen j)

theorem reconnect (h : InPlace who retired i n) (ack : ReconnectionAck) :
    InPlace who retired i (n.onReconnectionAck ack) := by
  rcases onReconnectionAck_cases n ack with ⟨hsame, -⟩ | ⟨-, hwaiting, hreset⟩
  · rwa [hsame]
  · have hdone : (n.onReconnectionAck ack).election.promotionDone = false := by
      rw [hreset.election]
      exact hwaiting
    have hsettled := settled_of_reset hreset
    exact
      { address := (address_of_identity hreset.identity).trans h.address
        settled := fun _ => ⟨hdone, hsettled⟩
        knows := fun hopen => by simp [hsettled.reconnected] at hopen
        waits := fun _ hpending => absurd hsettled.noClaim hpending
        promoted := fun hpromoted => by simp [hdone] at hpromoted }

/-- A promotion is in place when everybody with a lower join index has retired. -/
theorem promote (h : InPlace who retired i n) (hopen : n.election.reconnected = false)
    (hp : (n.withPendingAcks []).Promoted n' ∨ n.Promoted n')
    (better : ∀ j, (who j).joinIndex < (who i).joinIndex → retired j) :
    InPlace who retired i n' := by
  have hself : n'.address = n.address ∧ n'.election.reconnected = false ∧
      n'.election.promotionDone = true := by
    rcases hp with hp | hp
    · exact ⟨address_of_identity hp.identity, by rw [hp.election]; exact hopen, by rw [hp.election]⟩
    · exact ⟨address_of_identity hp.identity, by rw [hp.election]; exact hopen, by rw [hp.election]⟩
  obtain ⟨haddress, hreconnected, hdone⟩ := hself
  exact
    { address := haddress.trans h.address
      settled := fun hback => by simp [hreconnected] at hback
      knows := fun _ hnot => by simp [hdone] at hnot
      waits := fun hnot => by simp [hdone] at hnot
      promoted := fun _ => better }

/-- Nobody who has reconnected waits for acks or has an election under way. -/
theorem open_of_triggered (h : InPlace who retired i n)
    (htriggered : n.election.electionTriggered = true) : n.election.reconnected = false := by
  rw [← Bool.not_eq_true]
  intro hback
  simp [(h.settled hback).2.idle] at htriggered

theorem open_of_pending (h : InPlace who retired i n)
    (hpending : n.election.pendingElectionAcks ≠ []) : n.election.reconnected = false := by
  rw [← Bool.not_eq_true]
  exact fun hback => hpending (h.settled hback).2.noClaim

/-- A claim goes to all the others. -/
theorem peer_of_ne (h : InPlace who retired i n) (hwho : Survivors who)
    (hopen : n.election.reconnected = false) (hwaiting : n.election.promotionDone = false) {j : ι}
    (hj : j ≠ i) : (who j).host ∈ n.knownClientPeers := by
  refine mem_knownClientPeers.mpr ⟨who j, h.knows hopen hwaiting j, ?_, hwho.notHost j, rfl⟩
  have haddress := h.address
  simp only [Node.address, Prod.mk.injEq] at haddress
  rw [haddress.1]
  exact fun heq => hj (hwho.distinctIds heq)

theorem tick {foundIp : Option Ip} {now : ℚ} (hn : InPlace who retired i n)
    (hwho : Survivors who) (once : n.election.reconnected = true → ¬ n.ConfirmsTimeout now)
    (expiry : n.ClaimExpired now → ∀ j, (who j).joinIndex < (who i).joinIndex → retired j)
    (h : n.tickElectionState foundIp now = .ok n') : InPlace who retired i n' := by
  refine tick_keeps h hn ?quiet ?confirms ?elected ?claims ?alone ?expires ?reconnects
  case quiet => exact fun _ _ hquiet hm => hm.quiet hquiet fun _ _ => Option.some_ne_none _
  case confirms =>
    intro c hconfirms
    have hopen : n.election.reconnected = false := by
      rw [← Bool.not_eq_true]
      exact fun hback => once hback hconfirms
    exact
      { address := hn.address
        settled := fun hback => absurd (hopen.symm.trans hback) Bool.false_ne_true
        knows := hn.knows
        waits := hn.waits
        promoted := hn.promoted }
  case elected => exact fun m c _ _ hm => hm.of_same rfl rfl rfl rfl rfl (fun _ _ _ hj => hj)
  case claims =>
    intro m c _ _ htriggered hm
    have hopen := hm.open_of_triggered htriggered
    exact
      { address := hm.address
        settled := fun hback => absurd (hopen.symm.trans hback) Bool.false_ne_true
        knows := hm.knows
        waits := fun hwaiting _ j hj => .inl (hm.peer_of_ne hwho hopen hwaiting hj)
        promoted := hm.promoted }
  case alone =>
    intro m m' c _ _ htriggered hwaiting hpeers hpromoted hm
    have hopen := hm.open_of_triggered htriggered
    refine hm.promote hopen (.inr hpromoted) fun j hj => ?_
    have hpeer := hm.peer_of_ne hwho hopen hwaiting
      (ne_of_apply_ne (fun j => (who j).joinIndex) hj.ne)
    simp [hpeers] at hpeer
  case expires =>
    exact fun m m' hexpired hm' hpromoted hm =>
      hm.promote (hm.open_of_pending hm'.2.1) (.inl hpromoted) (expiry hexpired)
  case reconnects => exact fun _ ack _ hm => hm.reconnect ack

theorem deliver {message : ElectionMessage} {now : ℚ} (hn : InPlace who retired i n)
    (hwho : Survivors who)
    (heard : ∀ ack, message = .electionAck ack → ∃ k, ack.fromIp = (who k).host ∧ retired k)
    (h : n.onElectionMessage now message = .ok n') : InPlace who retired i n' := by
  cases message with
  | newHostClaim claim =>
    rcases onNewHostClaim_cases h with ⟨rfl, -⟩ | ⟨c, -, -, rfl⟩
    · exact hn
    · exact hn.of_same rfl rfl rfl rfl rfl fun _ _ _ hj => hj
  | electionAck ack =>
    obtain ⟨k, hk, hretired⟩ := heard ack rfl
    -- the sender of the ack is the only one at its address
    have answered {j : ι} (hj : (who j).host = ack.fromIp) : retired j :=
      hwho.distinctHosts (hj.trans hk) ▸ hretired
    rcases onElectionAck_cases h with rfl | ⟨hwaiting, hpending, ⟨rfl, -⟩ | ⟨hlast, hpromoted⟩⟩
    · exact hn
    · refine ⟨hn.address, fun hback => ?_, hn.knows, fun _ _ j hj => ?_, hn.promoted⟩
      · exact absurd (hn.settled hback).2.noClaim (List.ne_nil_of_mem hpending)
      · rcases hn.waits hwaiting (List.ne_nil_of_mem hpending) j hj with hsilent | hretired
        · by_cases heq : (who j).host = ack.fromIp
          · exact .inr (answered heq)
          · exact .inl (List.mem_filter.mpr ⟨hsilent, by simpa using heq⟩)
        · exact .inr hretired
    · have hnil := List.ne_nil_of_mem hpending
      refine hn.promote (hn.open_of_pending hnil) (.inl hpromoted) fun j hj => ?_
      exact (hn.waits hwaiting hnil j (ne_of_apply_ne (fun j => (who j).joinIndex) hj.ne)).elim
        (fun hsilent => answered (hlast _ hsilent)) id
  | reconnectionAck ack => cases h; exact hn.reconnect ack

theorem step {c : TimedCall} (hn : InPlace who retired i n) (hwho : Survivors who)
    (orderly : n.Orderly) (role : c.call.isHost = true → n.role = .host)
    (survive : n.election.reconnected = false →
      ∀ pid ∈ c.call.departed, ∀ j, (who j).playerId ≠ pid)
    (heard : ∀ ack, c.call.electionMessage = some (.electionAck ack) →
      ∃ k, ack.fromIp = (who k).host ∧ retired k)
    (once : n.election.reconnected = true → ¬ n.Relapses c)
    (expiry : c.call.ticks = true → n.ClaimExpired c.now →
      ∀ j, (who j).joinIndex < (who i).joinIndex → retired j)
    (h : n.step c = .ok n') : InPlace who retired i n' := by
  have haddress := step_address h
  obtain ⟨now, call⟩ := c
  cases call with
  | host call =>
    have helection := congrArg (fun s => s.2.2.2.2.2) (hostCall_standing h)
    change n'.election = n.election at helection
    have hdone := orderly.promoted.mp (role rfl)
    refine hn.of_same haddress ?_ ?_ ?_ ?_ fun _ hwaiting => by simp [hdone] at hwaiting
    all_goals rw [helection]
  | client call =>
    cases clientCall_effect h with
    | ensured =>
      obtain ⟨-, hroster, hreconnected, htriggered, hpending, hdone, -⟩ := ensured_fields n
      exact hn.of_same haddress hreconnected htriggered hpending hdone
        fun _ _ j hj => hroster ▸ hj
    | delivered carries h =>
      exact hn.deliver hwho (fun ack hack => heard ack (carries.trans (congrArg some hack))) h
    | ticked h =>
      exact hn.tick hwho (fun hback hconfirms => once hback (.inr ⟨rfl, .inl hconfirms⟩))
        (expiry rfl) h
    | quiet h =>
      refine hn.quiet h fun hopen j heq => survive hopen (who j).playerId ?_ j rfl
      exact heq.symm

end InPlace

/-! ## Runs of the survivors -/

namespace Cluster

variable [DecidableEq ι] {who : ι → RosterEntry}

/-- All survivors are clients that know each other, and nothing has been sent. -/
structure Start (who : ι → RosterEntry) (c : Cluster ι) : Prop where
  client : ∀ i, (c.nodes i).ClientStart
  named : ∀ i, (c.nodes i).address = ((who i).playerId, (who i).host) ∧
    (c.nodes i).joinIndex = (who i).joinIndex
  roster : ∀ i j, who j ∈ (c.nodes i).roster.players
  quiet : c.sent = []

/-- A possible step, in which nobody is told that a survivor has left. -/
structure Surviving (who : ι → RosterEntry) (c : Cluster ι) (s : ClusterStep ι) : Prop where
  enabled : c.Enabled s
  survive : (c.nodes s.node).election.reconnected = false →
    ∀ pid ∈ s.call.call.departed, ∀ j, (who j).playerId ≠ pid

/-- Who has retired does not relapse, who has been promoted does not yield, and no claim expires
before everybody with a lower join index has retired. -/
structure Careful (who : ι → RosterEntry) (c : Cluster ι) (s : ClusterStep ι) : Prop where
  stays : (c.nodes s.node).Retired → ¬ (c.nodes s.node).Relapses s.call
  promoted : (c.nodes s.node).election.promotionDone = true →
    ∀ claim ∈ s.call.call.claim, ¬ (c.nodes s.node).Yields claim
  expiry : s.call.call.ticks = true → (c.nodes s.node).ClaimExpired s.call.now →
    ∀ j, (who j).joinIndex < (who s.node).joinIndex → (c.nodes j).Retired

/-- Every survivor is in its place, and every ack is from a survivor that has retired. -/
structure Safe (who : ι → RosterEntry) (c : Cluster ι) : Prop where
  orderly : ∀ i, (c.nodes i).Orderly
  inPlace : ∀ i, InPlace who (fun j => (c.nodes j).Retired) i (c.nodes i)
  acks : ∀ e ∈ c.sent, ∀ ack, e.out.election = some (.electionAck ack) →
    ∃ k, ack.fromIp = (who k).host ∧ (c.nodes k).Retired

omit [DecidableEq ι] in
theorem Start.safe {c : Cluster ι} (h : c.Start who) : c.Safe who where
  orderly i := (h.client i).orderly
  inPlace i :=
    { address := (h.named i).1
      settled := fun hback => by simp [(h.client i).fresh] at hback
      knows := fun _ _ => h.roster i
      waits := fun _ hpending => absurd (by rw [(h.client i).fresh]) hpending
      promoted := fun hdone => by simp [(h.client i).fresh] at hdone }
  acks e he := by simp [h.quiet] at he

omit [DecidableEq ι] in
/-- An acked claim has been followed. -/
theorem retired_of_yields {c : Cluster ι} {s : ClusterStep ι} {n : Node} {claim : NewHostClaim}
    (hclaim : claim ∈ s.call.call.claim) (yields : (c.nodes s.node).Yields claim)
    (waiting : (c.nodes s.node).election.promotionDone = false)
    (h : (c.nodes s.node).step s.call = .ok n) : n.Retired := by
  rcases Node.onNewHostClaim_cases (Node.step_of_claim hclaim h) with ⟨-, hignored⟩ | ⟨_, -, -, rfl⟩
  · exact absurd yields hignored
  · exact Node.followed_retired waiting _ claim _

theorem step_safe {c c' : Cluster ι} {s : ClusterStep ι} (hwho : Survivors who) (hc : c.Safe who)
    (surviving : c.Surviving who s) (careful : c.Careful who s) (h : c.step s = .ok c') :
    c'.Safe who := by
  obtain ⟨n, hn, rfl⟩ := step_spec h
  -- nobody comes back
  have hmono (j : ι) (hj : (c.nodes j).Retired) : ((c.record s n).nodes j).Retired := by
    by_cases hjs : j = s.node
    · subst hjs
      rw [record_self]
      exact hj.step (careful.stays hj) hn
    · rwa [record_ne _ _ _ hjs]
  have hself := (hc.inPlace s.node).step hwho (hc.orderly s.node) surviving.enabled.host
    surviving.survive
    (fun ack hack => by
      obtain ⟨e, he, -, helection⟩ := surviving.enabled.sent hack
      exact hc.acks e he ack helection)
    (fun hback => by
      obtain ⟨hwaiting, hsettled⟩ := (hc.inPlace s.node).settled hback
      exact careful.stays ⟨hwaiting, .inr hsettled⟩)
    careful.expiry hn
  refine ⟨fun j => ?_, fun j => ?_, fun e he ack hack => ?_⟩
  · by_cases hjs : j = s.node
    · subst hjs
      rw [record_self]
      exact Node.step_orderly (hc.orderly _) hn
    · rw [record_ne _ _ _ hjs]
      exact hc.orderly j
  · by_cases hjs : j = s.node
    · subst hjs
      rw [record_self]
      exact hself.mono hmono
    · rw [record_ne _ _ _ hjs]
      exact (hc.inPlace j).mono hmono
  · rcases mem_sent he with hold | ⟨o, ho, rfl⟩
    · obtain ⟨k, hk, hretired⟩ := hc.acks e hold ack hack
      exact ⟨k, hk, hmono k hretired⟩
    · -- a fresh ack: its sender has just followed the claim
      obtain ⟨hfrom, claim, hclaim, yields⟩ := mem_said hn ho hack
      refine ⟨s.node, ?_, ?_⟩
      · have haddress := (hc.inPlace s.node).address
        simp only [Node.address, Prod.mk.injEq] at haddress
        rw [hfrom, haddress.2]
      · rw [record_self]
        refine retired_of_yields hclaim yields ?_ hn
        rw [← Bool.not_eq_true]
        exact fun hdone => careful.promoted hdone claim hclaim yields

/-- In every run of the survivors in which whoever has yielded or reconnected does not relapse, no
promoted node yields and no claim expires over a better candidate, at most one is promoted. -/
theorem at_most_one_promoted {c c' : Cluster ι} {steps : List (ClusterStep ι)}
    (hwho : Survivors who) (start : c.Start who)
    (along : Fallible.Along step (fun c s => c.Surviving who s ∧ c.Careful who s) c steps)
    (h : c.run steps = .ok c') {i j : ι} (hi : (c'.nodes i).election.promotionDone = true)
    (hj : (c'.nodes j).election.promotionDone = true) : i = j := by
  have hc' : c'.Safe who := Fallible.foldlM_keeps_along
    (fun _ _ _ _ hcond hc hstep => step_safe hwho hc hcond.1 hcond.2 hstep) along h start.safe
  -- the one with the lower join index would have retired
  rcases lt_trichotomy (who i).joinIndex (who j).joinIndex with hlt | heq | hgt
  · have := ((hc'.inPlace j).promoted hj i hlt).1
    simp [hi] at this
  · exact hwho.distinctIndices heq
  · have := ((hc'.inPlace i).promoted hi j hgt).1
    simp [hj] at this

/-! ### Two survivors -/

/-- A frame of one node, which may deliver one election message that has been sent. -/
def frame (i : ι) (role : PlayerRole) (f : FrameInput) (source : Option ℕ) :
    List (ClusterStep ι) :=
  (f.calls role).map fun c => ⟨i, c, if c.call.electionMessage.isSome then source else none⟩

/-- The message was for this node: over UDP by its address, over the relay for everyone. -/
def Addressed (c : Cluster ι) (e : Envelope ι) (j : ι) : Prop :=
  j ≠ e.sender ∧
    match e.out with
    | .udp _ host _ => (c.nodes j).localIp = host
    | .relay _ => True
    | .lobby _ => False

/-- Every election message of the run has reached whom it was for within the claim timeout, on one
transport at least, unless it still has time. -/
def Timely (steps : List (ClusterStep ι)) (c : Cluster ι) : Prop :=
  ∀ e ∈ c.sent, e.out.election ≠ none → ∀ j, c.Addressed e j →
    c.time < e.sentAt + electionClaimTimeoutS ∨
      ∃ s ∈ steps, s.node = j ∧ s.call.now < e.sentAt + electionClaimTimeoutS ∧
        s.call.call.electionMessage = e.out.election ∧
        ∃ e' ∈ s.source.bind (c.sent[·]?), e'.sender = e.sender ∧ e'.sentAt = e.sentAt

section Decidability

variable [Fintype ι]

instance (c : Cluster ι) (e : Envelope ι) (j : ι) : Decidable (c.Addressed e j) :=
  match h : e.out with
  | .udp _ host _ => decidable_of_iff (j ≠ e.sender ∧ (c.nodes j).localIp = host)
      (by simp [Addressed, h])
  | .relay _ => decidable_of_iff (j ≠ e.sender) (by simp [Addressed, h])
  | .lobby _ => .isFalse (by simp [Addressed, h])

instance (steps : List (ClusterStep ι)) (c : Cluster ι) : Decidable (c.Timely steps) :=
  inferInstanceAs (Decidable (∀ e ∈ _, _))

instance (c : Cluster ι) (s : ClusterStep ι) : Decidable (c.Surviving who s) :=
  decidable_of_iff (c.Enabled s ∧ ((c.nodes s.node).election.reconnected = false →
      ∀ pid ∈ s.call.call.departed, ∀ j, (who j).playerId ≠ pid))
    ⟨fun ⟨h₁, h₂⟩ => ⟨h₁, h₂⟩, fun ⟨h₁, h₂⟩ => ⟨h₁, h₂⟩⟩

instance (c : Cluster ι) (s : ClusterStep ι) : Decidable (c.Careful who s) :=
  decidable_of_iff (((c.nodes s.node).Retired → ¬ (c.nodes s.node).Relapses s.call) ∧
      ((c.nodes s.node).election.promotionDone = true →
        ∀ claim ∈ s.call.call.claim, ¬ (c.nodes s.node).Yields claim) ∧
      (s.call.call.ticks = true → (c.nodes s.node).ClaimExpired s.call.now →
        ∀ j, (who j).joinIndex < (who s.node).joinIndex → (c.nodes j).Retired))
    ⟨fun ⟨h₁, h₂, h₃⟩ => ⟨h₁, h₂, h₃⟩, fun ⟨h₁, h₂, h₃⟩ => ⟨h₁, h₂, h₃⟩⟩

end Decidability

/-- The second and the third player survive the first. -/
def successor (i : Fin 2) : RosterEntry :=
  if i = 0 then ⟨"player-2", "10.0.0.2", 50011, 1, .connected, false⟩
  else ⟨"player-3", "10.0.0.3", 50012, 2, .connected, false⟩

def successors : Cluster (Fin 2) where
  nodes i := Node.clientOf threePlayers (successor i) "10.0.0.1"

theorem survivors_successor : Survivors successor where
  distinctIds := by decide
  distinctHosts := by decide
  distinctIndices := by decide
  notHost := by decide

theorem start_successors : successors.Start successor where
  client _ := ⟨rfl, rfl⟩
  named _ := ⟨rfl, rfl⟩
  roster := by decide
  quiet := rfl

def snapshotOf (host : Ip) : Except PyError UdpMessage × Ip × ℕ :=
  (.ok (.worldState ⟨1, { sequenceNumber := 1 }⟩), host, 50010)

/-- The second player claims first; the third one yields in time and reconnects. -/
def promptRun : List (ClusterStep (Fin 2)) :=
  let claim : NewHostClaim := ⟨"10.0.0.2", 1, "session"⟩
  let ack : ElectionAck := ⟨"10.0.0.3", "session"⟩
  let promotion : ReconnectionAck := ⟨"10.0.0.2", hostUdpPort, gameEventWsPort, "session"⟩
  let start : FrameInput := { now := 1, datagrams := [snapshotOf "10.0.0.1"] }
  let hears (now : ℚ) (message : ElectionMessage) (sender : Ip) : FrameInput :=
    { now := now, datagrams := [(.ok (.election message), sender, 50010)] }
  frame 0 .client start none ++ frame 1 .client start none ++
    frame 0 .client { now := 7 } none ++ frame 1 .client { now := 7 } none ++
    frame 0 .client { now := 17 } none ++ frame 1 .client { now := 17 } none ++
    frame 0 .client { now := 18 } none ++
    frame 1 .client (hears (361 / 20) (.newHostClaim claim) "10.0.0.2") (some 9) ++
    frame 0 .client (hears (181 / 10) (.electionAck ack) "10.0.0.3") (some 12) ++
    frame 1 .client (hears (91 / 5) (.reconnectionAck promotion) "10.0.0.2") (some 15)

/-- The third player is the first to lose its host, and the second one ignores its claim. -/
def lateRun : List (ClusterStep (Fin 2)) :=
  let third : NewHostClaim := ⟨"10.0.0.3", 2, "session"⟩
  let second : NewHostClaim := ⟨"10.0.0.2", 1, "session"⟩
  let hears (now : ℚ) (claim : NewHostClaim) : FrameInput :=
    { now := now, datagrams := [(.ok (.election (.newHostClaim claim)), claim.claimerIp, 50010)] }
  frame 1 .client { now := 1, datagrams := [snapshotOf "10.0.0.1"] } none ++
    frame 1 .client { now := 7 } none ++
    frame 0 .client { now := 16, datagrams := [snapshotOf "10.0.0.1"] } none ++
    frame 1 .client { now := 17 } none ++ frame 1 .client { now := 19 } none ++
    frame 0 .client (hears 20 third) (some 6) ++ frame 1 .client { now := 21 } none ++
    frame 0 .client { now := 22 } none ++ frame 0 .client { now := 32 } none ++
    frame 0 .client { now := 33 } none ++ frame 1 .host (hears 34 second) (some 14) ++
    frame 0 .client { now := 35 } none

theorem one_successor_promoted :
    ∃ c', successors.run promptRun = .ok c' ∧ (c'.nodes 0).election.promotionDone = true ∧
      ∀ i, (c'.nodes i).election.promotionDone = true → i = 0 := by
  obtain ⟨c', hrun, hpromoted⟩ := Fallible.exists_of_okAnd (x := successors.run promptRun)
    (p := fun c' => (c'.nodes 0).election.promotionDone) (by decide +kernel)
  exact ⟨c', hrun, hpromoted, fun i hi => at_most_one_promoted survivors_successor start_successors
    (by decide +kernel) hrun hi hpromoted⟩

/-- All messages are in time, and both survivors promote themselves. -/
theorem two_successors_promoted :
    ¬ ∀ (who : Fin 2 → RosterEntry) (c c' : Cluster (Fin 2)) (steps : List (ClusterStep (Fin 2))),
      Survivors who → c.Start who → Fallible.Along step (Surviving who) c steps →
      c.run steps = .ok c' → c'.Timely steps → ∀ i j, (c'.nodes i).election.promotionDone = true →
      (c'.nodes j).election.promotionDone = true → i = j := by
  intro unique
  obtain ⟨c', hrun, hcheck⟩ := Fallible.exists_of_okAnd (x := successors.run lateRun)
    (p := fun c' => c'.Timely lateRun ∧ (c'.nodes 0).election.promotionDone = true ∧
      (c'.nodes 1).election.promotionDone = true) (by decide +kernel)
  obtain ⟨timely, hsecond, hthird⟩ := of_decide_eq_true hcheck
  have := unique successor successors c' lateRun survivors_successor start_successors
    (by decide +kernel) hrun timely 0 1 hsecond hthird
  simp at this

end Cluster

end DistributedSmb
