import DistributedSmb.Gameplay.Host

/-!
# Snapshots after a reconnection

A client drops snapshots that are not newer than the last one it accepted. It neither knows nor
keeps the sender's address, so after a reconnection the snapshots of the previous host and those of
the promoted one share one filter.
-/

namespace DistributedSmb

open Library Fallible

inductive SnapshotSource where
  | previous | promoted
  deriving DecidableEq, Repr

/-- A snapshot datagram as it was sent. The source is not part of what the client reads. -/
structure SentSnapshot where
  source : SnapshotSource
  snapshot : WorldStateSnapshot
  now : ℚ := 0
  deriving DecidableEq

def SentSnapshot.number (d : SentSnapshot) : ℤ := d.snapshot.sequenceNumber

namespace Node

/-- The snapshot passes the filter, and is reconciled. -/
def Accepts (n : Node) (snapshot : WorldStateSnapshot) : Prop :=
  n.lastSnapshotSequence < snapshot.sequenceNumber

instance (n : Node) (snapshot : WorldStateSnapshot) : Decidable (n.Accepts snapshot) :=
  inferInstanceAs (Decidable (_ < _))

/-- The highest number that is dropped right after an ack. A second ack is ignored. -/
def sequenceBase (n : Node) : ℤ :=
  if n.election.reconnected || n.election.promotionDone then n.lastSnapshotSequence else 0

theorem onSnapshot_of_stale {n : Node} {snapshot : WorldStateSnapshot} {now : ℚ}
    (h : ¬ n.Accepts snapshot) : n.onSnapshot snapshot now = .ok n := if_pos (not_lt.mp h)

theorem onSnapshot_of_newer {n : Node} {snapshot : WorldStateSnapshot} {now : ℚ}
    (hn : n.engine.isAuthoritative = false) (h : n.Accepts snapshot) :
    ∃ n', n.onSnapshot snapshot now = .ok n' ∧ n'.engine.isAuthoritative = false ∧
      n'.lastSnapshotSequence = snapshot.sequenceNumber ∧ n'.localPlayerId = n.localPlayerId := by
  obtain ⟨p, hp⟩ := PredictionEngine.reconcile_succeeds (p := n.prediction) hn snapshot now
  have hauthority : p.engine.isAuthoritative = false := by
    obtain ⟨g, hg, rfl⟩ := PredictionEngine.reconcile_spec hp
    exact foldlM_keeps (P := fun g : GameEngine => g.isAuthoritative = false)
      (fun g entry g' _ hg htick => (GameEngine.tick_isAuthoritative htick).trans hg) hg hn
  simp only [onSnapshot, if_neg (not_le.mpr h), hp, ok_bind]
  exact ⟨_, rfl, hauthority, rfl, rfl⟩

/-- A predicting client handles every snapshot, and remembers the highest number it was given. -/
theorem onSnapshot_spec {n : Node} (hn : n.engine.isAuthoritative = false)
    (snapshot : WorldStateSnapshot) (now : ℚ) :
    ∃ n', n.onSnapshot snapshot now = .ok n' ∧ n'.engine.isAuthoritative = false ∧
      n'.lastSnapshotSequence = max n.lastSnapshotSequence snapshot.sequenceNumber ∧
      n'.localPlayerId = n.localPlayerId := by
  by_cases h : n.Accepts snapshot
  · obtain ⟨n', hn', hauthority, hlast, hid⟩ := onSnapshot_of_newer hn h
    exact ⟨n', hn', hauthority, by rw [hlast, max_eq_right h.le], hid⟩
  · exact ⟨n, onSnapshot_of_stale h, hn, (max_eq_left (not_lt.mp h)).symm, rfl⟩

theorem onReconnectionAck_filter (n : Node) (ack : ReconnectionAck) :
    (n.onReconnectionAck ack).lastSnapshotSequence = n.sequenceBase ∧
      (n.onReconnectionAck ack).engine.isAuthoritative = n.engine.isAuthoritative ∧
      (n.onReconnectionAck ack).localPlayerId = n.localPlayerId := by
  unfold onReconnectionAck sequenceBase
  split
  · exact ⟨rfl, rfl, rfl⟩
  · simp only [repointRosterAt, evictHost, resyncEnvironmentFromBuffer]
    split <;> split <;> split <;> exact ⟨rfl, rfl, rfl⟩

end Node

/-! ## Following the promoted host -/

/-- A client, with the numbers it has accepted from the promoted host. -/
structure FollowingClient where
  node : Node
  accepted : List ℤ := []

namespace FollowingClient

def receive (c : FollowingClient) (d : SentSnapshot) : Except PyError FollowingClient := do
  let node ← c.node.onDatagram (.ok (.worldState d.snapshot)) d.now
  let accepted :=
    if d.source = .promoted ∧ c.node.Accepts d.snapshot then c.accepted ++ [d.number]
    else c.accepted
  .ok ⟨node, accepted⟩

/-- A snapshot of the previous host is dropped, and one of the promoted host that is newer than all
those accepted from it is accepted. -/
def FollowsPromoted (c : FollowingClient) (d : SentSnapshot) : Prop :=
  (d.source = .previous → ¬ c.node.Accepts d.snapshot) ∧
    (d.source = .promoted → (∀ k ∈ c.accepted, k < d.number) → c.node.Accepts d.snapshot)

instance (c : FollowingClient) (d : SentSnapshot) : Decidable (c.FollowsPromoted d) :=
  inferInstanceAs (Decidable (_ ∧ _))

/-- Numbers that keep the two hosts apart: a snapshot of the previous host comes too late to be
newer than anything, and the first one of the promoted host is newer than what is dropped. -/
def Separated (base : ℤ) (before : List SentSnapshot) (d : SentSnapshot) : Prop :=
  (d.source = .previous → d.number ≤ base ∨ ∃ e ∈ before, d.number ≤ e.number) ∧
    (d.source = .promoted → (∀ e ∈ before, e.source = .previous) → base < d.number)

/-- What the snapshots so far determine of a client that followed only the promoted host. -/
structure Tracks (base : ℤ) (before : List SentSnapshot) (c : FollowingClient) : Prop where
  predicting : c.node.engine.isAuthoritative = false
  last : ∀ k, k ≤ c.node.lastSnapshotSequence ↔ k ≤ base ∨ ∃ e ∈ before, k ≤ e.number
  accepted : (c.accepted = [] ∧ (∀ e ∈ before, e.source = .previous) ∧
      c.node.lastSnapshotSequence = base) ∨
    (c.node.lastSnapshotSequence ∈ c.accepted ∧ ∃ e ∈ before, e.source = .promoted)

theorem Tracks.followsPromoted_iff {base : ℤ} {before : List SentSnapshot} {c : FollowingClient}
    (h : Tracks base before c) (d : SentSnapshot) :
    c.FollowsPromoted d ↔ Separated base before d := by
  have hdropped : ¬ c.node.Accepts d.snapshot ↔
      d.number ≤ base ∨ ∃ e ∈ before, d.number ≤ e.number := by
    rw [← h.last, Node.Accepts, not_lt, SentSnapshot.number]
  refine and_congr (by rw [hdropped]) (imp_congr_right fun _ => ?_)
  rcases h.accepted with ⟨hnone, hprevious, hlast⟩ | ⟨hmem, e, he, hsource⟩
  · rw [hnone, Node.Accepts, hlast]
    exact ⟨fun h _ => h (by simp), fun h _ => h hprevious⟩
  · constructor
    · intro _ hprevious
      exact absurd (hprevious e he) (by simp [hsource])
    · intro _ hnewer
      exact hnewer _ hmem

theorem Tracks.receive {base : ℤ} {before : List SentSnapshot} {c : FollowingClient}
    (h : Tracks base before c) {d : SentSnapshot} (hd : c.FollowsPromoted d) :
    ∃ c', c.receive d = .ok c' ∧ Tracks base (before ++ [d]) c' := by
  obtain ⟨n, hn, hauthority, hlast, -⟩ := Node.onSnapshot_spec h.predicting d.snapshot d.now
  have hreceive : c.receive d = .ok ⟨n, if d.source = .promoted ∧ c.node.Accepts d.snapshot then
      c.accepted ++ [d.number] else c.accepted⟩ := by
    simp only [FollowingClient.receive, Node.onDatagram, ok_bind, hn]
  refine ⟨_, hreceive, hauthority, fun k => ?_, ?_⟩
  · rw [hlast, le_max_iff, h.last]
    simp only [List.mem_append, List.mem_singleton, or_and_right, exists_or, exists_eq_left,
      or_assoc]
    rfl
  · dsimp only
    split
    case isTrue haccepted =>
      refine .inr ⟨?_, d, by simp, haccepted.1⟩
      rw [hlast, max_eq_right (le_of_lt haccepted.2)]
      simp [SentSnapshot.number]
    case isFalse hrejected =>
      have hstale : ¬ c.node.Accepts d.snapshot := by
        intro haccepts
        cases hsource : d.source with
        | previous => exact hd.1 hsource haccepts
        | promoted => exact hrejected ⟨hsource, haccepts⟩
      have hsame : n.lastSnapshotSequence = c.node.lastSnapshotSequence := by
        rw [hlast, max_eq_left (not_lt.mp hstale)]
      rw [hsame]
      rcases h.accepted with ⟨hnone, hprevious, hbase⟩ | ⟨hmem, e, he, hsource⟩
      · have hsource : d.source = .previous := by
          cases hsource : d.source with
          | previous => rfl
          | promoted => exact absurd (hd.2 hsource (by simp [hnone])) hstale
        refine .inl ⟨hnone, fun e he => ?_, hbase⟩
        rcases List.mem_append.mp he with he | he
        · exact hprevious e he
        · rw [List.mem_singleton.mp he, hsource]
      · exact .inr ⟨hmem, e, List.mem_append_left _ he, hsource⟩

/-- After an ack, a client follows the promoted host alone exactly if the numbers keep the hosts
apart. -/
theorem follows_promoted_host_iff (n : Node) (ack : ReconnectionAck) (arriving : List SentSnapshot)
    (hn : n.engine.isAuthoritative = false) :
    Along receive FollowsPromoted ⟨n.onReconnectionAck ack, []⟩ arriving ↔
      AfterPrefix (Separated n.sequenceBase) [] arriving := by
  obtain ⟨hlast, hauthority, -⟩ := n.onReconnectionAck_filter ack
  refine along_iff_afterPrefix (R := Tracks n.sequenceBase)
    (fun before c d h => h.followsPromoted_iff d) (fun before c d h => h.receive) ?_
  exact ⟨hauthority.trans hn, by simp [hlast], .inl ⟨rfl, by simp, hlast⟩⟩

/-! ### Two streams of snapshots -/

def reconnectingClient : Node :=
  Node.clientOf threePlayers ⟨"player-3", "10.0.0.3", 50012, 2, .connected, false⟩ "10.0.0.1"

def ackOfSecond : ReconnectionAck := ⟨"10.0.0.2", 50010, 50003, "session"⟩

def numbered (source : SnapshotSource) (k : ℤ) : SentSnapshot where
  source := source
  snapshot := ⟨k, { sequenceNumber := k }⟩

theorem follows_promoted_host_in_order :
    Along receive FollowsPromoted ⟨reconnectingClient.onReconnectionAck ackOfSecond, []⟩
      [numbered .promoted 501, numbered .previous 500, numbered .promoted 502] := by
  refine (follows_promoted_host_iff reconnectingClient ackOfSecond _ rfl).mpr ?_
  simp [numbered, Separated, SentSnapshot.number, Node.sequenceBase, reconnectingClient,
    Node.clientOf]

/-- A delayed snapshot of the previous host is accepted, and then hides the promoted host, which
counts on from an older one. -/
theorem delayed_snapshot_hides_promoted_host :
    ¬ Along receive FollowsPromoted ⟨reconnectingClient.onReconnectionAck ackOfSecond, []⟩
      [numbered .previous 500, numbered .promoted 451] ∧
    ∃ c, receive ⟨reconnectingClient.onReconnectionAck ackOfSecond, []⟩ (numbered .previous 500) =
      .ok c ∧ c.node.lastSnapshotSequence = 500 ∧ ¬ c.FollowsPromoted (numbered .promoted 451) := by
  refine ⟨by decide, ?_⟩
  obtain ⟨c, hc, hcheck⟩ := exists_of_okAnd (x := receive
    ⟨reconnectingClient.onReconnectionAck ackOfSecond, []⟩ (numbered .previous 500))
    (p := fun c => c.node.lastSnapshotSequence = 500 ∧ ¬ c.FollowsPromoted (numbered .promoted 451))
    (by decide)
  exact ⟨c, hc, of_decide_eq_true hcheck⟩

end FollowingClient

end DistributedSmb
