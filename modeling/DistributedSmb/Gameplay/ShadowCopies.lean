import DistributedSmb.Domain.ShadowCopy
import DistributedSmb.Gameplay.NewHost

/-!
# Shadow copies of a client

The shadow copies that a client keeps beside its node, as accepted snapshots update them and an
eviction drops them. Each copy filters by the sequence number of its own last update, which a
reconnection does not reset.
-/

namespace DistributedSmb

open Library Fallible

/-- One character of a snapshot; a player seen for the first time gets a fresh copy. -/
def updateShadowCopy (localPlayerId : PlayerId) (sequenceNumber : ℤ) (receivedAt : ℚ)
    (copies : Dict PlayerId ShadowCopy) (e : PlayerId × Player) : Dict PlayerId ShadowCopy :=
  if e.1 = localPlayerId then copies
  else copies.set e.1 ((copies.getD e.1 {}).update e.2 sequenceNumber receivedAt).1

/-- `_update_shadow_copies` -/
def updateShadowCopies (localPlayerId : PlayerId) (snapshot : WorldStateSnapshot) (receivedAt : ℚ)
    (copies : Dict PlayerId ShadowCopy) : Dict PlayerId ShadowCopy :=
  snapshot.worldState.characters.entries.foldl
    (updateShadowCopy localPlayerId snapshot.sequenceNumber receivedAt) copies

structure ShadowingClient where
  node : Node
  shadowCopies : Dict PlayerId ShadowCopy

namespace ShadowingClient

/-- The copy of a player; a fresh one has no target. -/
def shadow (c : ShadowingClient) (pid : PlayerId) : ShadowCopy := c.shadowCopies.getD pid {}

/-- The player that an ack evicts. -/
def evicted (c : ShadowingClient) : Option PlayerId :=
  if c.node.election.reconnected || c.node.election.promotionDone then none
  else c.node.roster.getHost.map RosterEntry.playerId

def onReconnectionAck (c : ShadowingClient) (ack : ReconnectionAck) : ShadowingClient where
  node := c.node.onReconnectionAck ack
  shadowCopies :=
    match c.evicted with
    | some pid => c.shadowCopies.erase pid
    | none => c.shadowCopies

def receive (c : ShadowingClient) (d : SentSnapshot) : Except PyError ShadowingClient := do
  let node ← c.node.onDatagram (.ok (.worldState d.snapshot)) d.now
  let shadowCopies :=
    if c.node.Accepts d.snapshot then
      updateShadowCopies c.node.localPlayerId d.snapshot d.now c.shadowCopies
    else c.shadowCopies
  .ok ⟨node, shadowCopies⟩

/-- If the client accepts this snapshot of the promoted host, it becomes the target of the copies
of all remote players in it. -/
def ShowsPromoted (c : ShadowingClient) (d : SentSnapshot) : Prop :=
  d.source = .promoted → c.node.Accepts d.snapshot →
    ∀ c', c.receive d = .ok c' → ∀ e ∈ d.snapshot.worldState.characters.entries,
      e.1 ≠ c.node.localPlayerId → (c'.shadow e.1).target = some e.2

/-- The snapshot is newer than everything so far. -/
def Newest (base : ℤ) (before : List SentSnapshot) (d : SentSnapshot) : Prop :=
  base < d.number ∧ ∀ e ∈ before, e.number < d.number

/-- No copy that was kept from before the ack is ahead of a snapshot of the promoted host, unless
it shows the very state in it. -/
def CopiesBehind (c : ShadowingClient) (before : List SentSnapshot) (d : SentSnapshot) : Prop :=
  d.source = .promoted → Newest c.node.sequenceBase before d →
    ∀ e ∈ d.snapshot.worldState.characters.entries, e.1 ≠ c.node.localPlayerId →
      some e.1 ≠ c.evicted →
      (c.shadow e.1).lastSequenceNumber < d.number ∨ (c.shadow e.1).target = some e.2

end ShadowingClient

/-! ## Updating the copies -/

section
variable {localPlayerId : PlayerId} {k : ℤ} {receivedAt : ℚ}

theorem getD_updateShadowCopy_ne {copies : Dict PlayerId ShadowCopy} {e : PlayerId × Player}
    {pid : PlayerId} (h : pid ≠ e.1) :
    (updateShadowCopy localPlayerId k receivedAt copies e).getD pid {} = copies.getD pid {} := by
  rw [updateShadowCopy]
  split
  · rfl
  · rw [Dict.getD, Dict.get?_set_ne _ h, ← Dict.getD]

theorem getD_foldl_updateShadowCopy_ne {l : List (PlayerId × Player)} {pid : PlayerId}
    (h : pid ∉ l.map Prod.fst) (copies : Dict PlayerId ShadowCopy) :
    (l.foldl (updateShadowCopy localPlayerId k receivedAt) copies).getD pid {} =
      copies.getD pid {} := by
  refine foldl_keeps (P := fun d : Dict PlayerId ShadowCopy => d.getD pid {} = copies.getD pid {})
    (fun d e he hd => ?_) rfl
  rw [getD_updateShadowCopy_ne (fun heq => h (List.mem_map.mpr ⟨e, he, heq.symm⟩)), hd]

/-- Each remote character of the snapshot updates its own copy, once. -/
theorem getD_foldl_updateShadowCopy {l : List (PlayerId × Player)} (nodup : (l.map Prod.fst).Nodup)
    {e : PlayerId × Player} (he : e ∈ l) (copies : Dict PlayerId ShadowCopy) :
    (l.foldl (updateShadowCopy localPlayerId k receivedAt) copies).getD e.1 {} =
      if e.1 = localPlayerId then copies.getD e.1 {}
      else ((copies.getD e.1 {}).update e.2 k receivedAt).1 := by
  induction l generalizing copies with
  | nil => cases he
  | cons a l ih =>
    rw [List.map_cons, List.nodup_cons] at nodup
    rw [List.foldl_cons]
    rcases List.mem_cons.mp he with rfl | he
    · rw [getD_foldl_updateShadowCopy_ne nodup.1, updateShadowCopy]
      split
      · rfl
      · simp [Dict.getD]
    · have hne : e.1 ≠ a.1 := fun heq => nodup.1 (List.mem_map.mpr ⟨e, he, heq⟩)
      rw [ih nodup.2 he, getD_updateShadowCopy_ne hne]

end

namespace ShadowingClient

theorem receive_shadow_of_mem {c c' : ShadowingClient} {d : SentSnapshot}
    (h : c.receive d = .ok c') (haccepts : c.node.Accepts d.snapshot) {e : PlayerId × Player}
    (he : e ∈ d.snapshot.worldState.characters.entries) (hremote : e.1 ≠ c.node.localPlayerId) :
    c'.shadow e.1 = ((c.shadow e.1).update e.2 d.number d.now).1 := by
  obtain ⟨n, -, h⟩ := bind_eq_ok.mp h
  cases h
  simp only [shadow, if_pos haccepts, updateShadowCopies]
  rw [getD_foldl_updateShadowCopy d.snapshot.worldState.characters.nodup he, if_neg hremote]
  rfl

/-- Whatever a snapshot does to a copy, it is an update with the snapshot's number. -/
theorem receive_shadow {c c' : ShadowingClient} {d : SentSnapshot} (h : c.receive d = .ok c')
    (pid : PlayerId) :
    c'.shadow pid = c.shadow pid ∨
      (c.node.Accepts d.snapshot ∧
        ∃ p, c'.shadow pid = ((c.shadow pid).update p d.number d.now).1) := by
  by_cases haccepts : c.node.Accepts d.snapshot
  · by_cases hstored : pid ∈ d.snapshot.worldState.characters ∧ pid ≠ c.node.localPlayerId
    · obtain ⟨p, hp⟩ := Dict.exists_of_mem hstored.1
      exact .inr ⟨haccepts, p, receive_shadow_of_mem h haccepts hp hstored.2⟩
    · obtain ⟨n, -, h⟩ := bind_eq_ok.mp h
      cases h
      refine .inl ?_
      simp only [shadow, if_pos haccepts, updateShadowCopies]
      by_cases hmem : pid ∈ d.snapshot.worldState.characters
      · obtain ⟨p, hp⟩ := Dict.exists_of_mem hmem
        have hlocal : pid = c.node.localPlayerId := by
          by_contra hne
          exact hstored ⟨hmem, hne⟩
        rw [getD_foldl_updateShadowCopy d.snapshot.worldState.characters.nodup hp, if_pos hlocal]
      · exact getD_foldl_updateShadowCopy_ne hmem c.shadowCopies
  · obtain ⟨n, -, h⟩ := bind_eq_ok.mp h
    cases h
    exact .inl (by simp only [shadow, if_neg haccepts])

theorem shadow_onReconnectionAck (c : ShadowingClient) (ack : ReconnectionAck) (pid : PlayerId) :
    (c.onReconnectionAck ack).shadow pid = if some pid = c.evicted then {} else c.shadow pid := by
  simp only [shadow, onReconnectionAck]
  cases hevicted : c.evicted with
  | none => simp
  | some crashed =>
    by_cases heq : pid = crashed
    · simp [heq, Dict.getD]
    · simp [heq, Dict.getD, Dict.get?_erase_ne _ heq]

/-! ## After an ack -/

/-- What the snapshots since the ack determine of a client that started as `c₀`: a copy is the one
kept since then, or has moved on to a number that the client accepted. -/
structure Tracks (c₀ : ShadowingClient) (before : List SentSnapshot) (c : ShadowingClient) :
    Prop where
  predicting : c.node.engine.isAuthoritative = false
  localPlayerId : c.node.localPlayerId = c₀.node.localPlayerId
  last : ∀ k, k ≤ c.node.lastSnapshotSequence ↔
    k ≤ c₀.node.lastSnapshotSequence ∨ ∃ e ∈ before, k ≤ e.number
  copies : ∀ pid, c.shadow pid = c₀.shadow pid ∨
    ((c₀.shadow pid).lastSequenceNumber < (c.shadow pid).lastSequenceNumber ∧
      (c.shadow pid).lastSequenceNumber ≤ c.node.lastSnapshotSequence)

theorem receive_succeeds {c : ShadowingClient} (hc : c.node.engine.isAuthoritative = false)
    (d : SentSnapshot) :
    ∃ c', c.receive d = .ok c' ∧ c'.node.engine.isAuthoritative = false ∧
      c'.node.lastSnapshotSequence = max c.node.lastSnapshotSequence d.number ∧
      c'.node.localPlayerId = c.node.localPlayerId := by
  obtain ⟨n, hn, hauthority, hlast, hid⟩ := Node.onSnapshot_spec hc d.snapshot d.now
  simp only [receive, Node.onDatagram, ok_bind, hn]
  exact ⟨_, rfl, hauthority, hlast, hid⟩

theorem Tracks.newest_iff {c₀ c : ShadowingClient} {before : List SentSnapshot}
    (h : Tracks c₀ before c) (d : SentSnapshot) :
    c.node.Accepts d.snapshot ↔ Newest c₀.node.lastSnapshotSequence before d := by
  have hdropped := not_congr (h.last d.number)
  simp only [not_le, not_or, not_exists, not_and] at hdropped
  exact hdropped

theorem Tracks.showsPromoted_iff {c₀ c : ShadowingClient} {before : List SentSnapshot}
    (h : Tracks c₀ before c) (d : SentSnapshot) :
    c.ShowsPromoted d ↔
      (d.source = .promoted → Newest c₀.node.lastSnapshotSequence before d →
        ∀ e ∈ d.snapshot.worldState.characters.entries, e.1 ≠ c₀.node.localPlayerId →
          (c₀.shadow e.1).lastSequenceNumber < d.number ∨ (c₀.shadow e.1).target = some e.2) := by
  obtain ⟨c', hc', -⟩ := receive_succeeds h.predicting d
  rw [ShowsPromoted, h.localPlayerId, ← h.newest_iff]
  refine imp_congr_right fun _ => imp_congr_right fun haccepts => ?_
  rw [hc']
  simp only [Except.ok.injEq, forall_eq']
  refine forall₂_congr fun e he => imp_congr_right fun hremote => ?_
  rw [receive_shadow_of_mem hc' haccepts he (by rwa [h.localPlayerId]),
    ShadowCopy.target_update_iff]
  rcases h.copies e.1 with hsame | ⟨hmoved, hlast⟩
  · rw [hsame]
  · have hbehind : (c.shadow e.1).lastSequenceNumber < d.number := hlast.trans_lt haccepts
    exact iff_of_true (.inl hbehind) (.inl (hmoved.trans hbehind))

theorem Tracks.receive {c₀ c c' : ShadowingClient} {before : List SentSnapshot}
    (h : Tracks c₀ before c) {d : SentSnapshot} (hc' : c.receive d = .ok c') :
    Tracks c₀ (before ++ [d]) c' := by
  obtain ⟨c'', hreceive, hauthority, hlast, hid⟩ := receive_succeeds h.predicting d
  obtain rfl : c'' = c' := Except.ok.inj (hreceive.symm.trans hc')
  refine ⟨hauthority, hid.trans h.localPlayerId, fun k => ?_, fun pid => ?_⟩
  · rw [hlast, le_max_iff, h.last]
    simp only [List.mem_append, List.mem_singleton, or_and_right, exists_or, exists_eq_left,
      or_assoc]
  · have hle : c.node.lastSnapshotSequence ≤ c''.node.lastSnapshotSequence := by
      rw [hlast]
      exact le_max_left _ _
    rcases receive_shadow hc' pid with hsame | ⟨haccepts, p, hupdate⟩
    · rw [hsame]
      exact (h.copies pid).imp_right fun hmoved => ⟨hmoved.1, hmoved.2.trans hle⟩
    · by_cases hnewer : (c.shadow pid).lastSequenceNumber < d.number
      · have hnumber : (c''.shadow pid).lastSequenceNumber = d.number := by
          rw [hupdate, (ShadowCopy.update_of_newer hnewer p d.now).2]
        refine .inr ⟨?_, ?_⟩
        · rw [hnumber]
          rcases h.copies pid with hsame | hmoved
          · rwa [← hsame]
          · exact hmoved.1.trans hnewer
        · rw [hnumber, hlast]
          exact le_max_right _ _
      · rw [hupdate, ShadowCopy.update_of_stale hnewer]
        exact (h.copies pid).imp_right fun hmoved => ⟨hmoved.1, hmoved.2.trans hle⟩

/-- After an ack, every accepted snapshot of the promoted host shows exactly if no kept copy is
ahead of it. -/
theorem shadow_copies_show_promoted_iff (c : ShadowingClient) (ack : ReconnectionAck)
    (arriving : List SentSnapshot) (hc : c.node.engine.isAuthoritative = false) :
    Along receive ShowsPromoted (c.onReconnectionAck ack) arriving ↔
      AfterPrefix c.CopiesBehind [] arriving := by
  obtain ⟨hlast, hauthority, hid⟩ := c.node.onReconnectionAck_filter ack
  refine along_iff_afterPrefix (R := Tracks (c.onReconnectionAck ack)) ?_ ?_
    ⟨hauthority.trans hc, rfl, by simp, fun _ => .inl rfl⟩
  · intro before c₁ d h
    rw [h.showsPromoted_iff, CopiesBehind]
    change (_ → Newest (c.node.onReconnectionAck ack).lastSnapshotSequence before d →
      ∀ e ∈ d.snapshot.worldState.characters.entries,
        e.1 ≠ (c.node.onReconnectionAck ack).localPlayerId → _) ↔ _
    rw [hlast, hid]
    refine imp_congr_right fun _ => imp_congr_right fun hnewest =>
      forall₂_congr fun e he => imp_congr_right fun _ => ?_
    rw [shadow_onReconnectionAck]
    by_cases hevicted : some e.1 = c.evicted
    · have hpositive : 0 < d.number := by
        have hbase : c.node.sequenceBase = 0 := by
          unfold evicted at hevicted
          split at hevicted
          · cases hevicted
          case isFalse hopen => exact if_neg hopen
        exact hbase ▸ hnewest.1
      have hfresh : (-1 : ℤ) < d.number := by omega
      simp [hevicted, hfresh]
    · simp [hevicted]
  · intro before c₁ d h _
    obtain ⟨c', hc', -⟩ := receive_succeeds h.predicting d
    exact ⟨c', hc', h.receive hc'⟩

/-! ### A frozen player -/

def secondAt (x : ℚ) : Player := { playerId := "player-2", x := x }

/-- A client that has last seen the second player under this number. -/
def clientSeeing (k : ℤ) : ShadowingClient where
  node := FollowingClient.reconnectingClient
  shadowCopies := Dict.ofList
    [("player-2", { target := some (secondAt 100), lastSequenceNumber := k })]

def resumedSnapshot : SentSnapshot where
  source := .promoted
  snapshot :=
    ⟨451, { sequenceNumber := 451, characters := Dict.ofList [("player-2", secondAt 220)] }⟩

theorem shadow_copy_moves :
    Along receive ShowsPromoted
      ((clientSeeing 450).onReconnectionAck FollowingClient.ackOfSecond) [resumedSnapshot] := by
  refine (shadow_copies_show_promoted_iff _ _ _ rfl).mpr ?_
  rw [afterPrefix_cons]
  refine ⟨fun _ _ e he _ _ => .inl ?_, afterPrefix_nil _ _⟩
  rw [List.mem_singleton.mp he]
  decide

/-- The client accepts the new host's snapshot, but the second player stays where it was. -/
theorem shadow_copy_freezes :
    ¬ Along receive ShowsPromoted
      ((clientSeeing 500).onReconnectionAck FollowingClient.ackOfSecond) [resumedSnapshot] ∧
    ∃ c, ((clientSeeing 500).onReconnectionAck FollowingClient.ackOfSecond).receive
      resumedSnapshot = .ok c ∧ c.node.lastSnapshotSequence = 451 ∧
      (c.shadow "player-2").target = some (secondAt 100) := by
  obtain ⟨c, hc, hcheck⟩ := exists_of_okAnd
    (x :=
      ((clientSeeing 500).onReconnectionAck FollowingClient.ackOfSecond).receive resumedSnapshot)
    (p := fun c => c.node.lastSnapshotSequence = 451 ∧
      (c.shadow "player-2").target = some (secondAt 100)) (by decide)
  obtain ⟨hlast, htarget⟩ := of_decide_eq_true hcheck
  refine ⟨fun along => ?_, c, hc, hlast, htarget⟩
  have hmoved := along.1 rfl (by decide) c hc ("player-2", secondAt 220) (by decide) (by decide)
  rw [htarget] at hmoved
  revert hmoved
  decide

end ShadowingClient

end DistributedSmb
