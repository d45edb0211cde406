import DistributedSmb.Gameplay.HostWorld

/-!
# Whom the caches are about

The input caches and the timeout clock of a host are keyed by player ids. Evictions remove keys and
roster entries together, but an input packet sets the keys of whatever id it carries, and the
timeout evicts whatever keys it finds.
-/

namespace DistributedSmb

open Library Fallible

/-- The calls of a frame before the socket is drained. -/
def HostCall.precedesInputs : HostCall → Bool
  | checkForRejoiningPlayers _ | playerDisconnected _ | evictSilentPlayers => true
  | remoteInput _ _ _ | advance _ _ | sendGameEvents | sendWorldStateSnapshot
  | maybeBroadcastRoster => false

/-- A frame drains its socket after all evictions. -/
theorem FrameInput.hostCalls_split (f : FrameInput) :
    ∃ early late, f.hostCalls = early ++ late ∧ (∀ c ∈ early, c.precedesInputs = true) ∧
      ∀ c ∈ late, c.precedesInputs = false := by
  refine ⟨[.checkForRejoiningPlayers f.lobby.head?] ++ f.disconnected.map .playerDisconnected ++
      [.evictSilentPlayers], f.datagrams.map (fun d => .remoteInput d.1 d.2.1 d.2.2) ++
      [.advance f.localInput f.enemyCommands, .sendGameEvents, .sendWorldStateSnapshot,
        .maybeBroadcastRoster], by simp [hostCalls], fun c hc => ?_, fun c hc => ?_⟩
  · simp only [List.mem_append, List.mem_singleton, List.mem_map] at hc
    rcases hc with (rfl | ⟨pid, -, rfl⟩) | rfl <;> rfl
  · simp only [List.mem_append, List.mem_map, List.mem_cons, List.not_mem_nil, or_false] at hc
    rcases hc with ⟨d, -, rfl⟩ | rfl | rfl | rfl | rfl <;> rfl

namespace Node

/-- A player of the roster other than the local one. -/
def HasPeer (n : Node) (pid : PlayerId) : Prop := pid ∈ n.roster.ids ∧ pid ≠ n.localPlayerId

/-- The keys of the caches are peers. -/
structure CachesInside (n : Node) : Prop where
  sequences : ∀ pid, pid ∈ n.lastRemoteInputSequence → n.HasPeer pid
  inputs : ∀ pid, pid ∈ n.cachedRemoteInputs → n.HasPeer pid
  times : ∀ pid, pid ∈ n.lastInputTime → n.HasPeer pid

instance (n : Node) (pid : PlayerId) : Decidable (n.HasPeer pid) :=
  inferInstanceAs (Decidable (_ ∧ _))

/-- The call gives the relay this player's `PlayerLeft`. -/
def AnnouncesLeft (n n' : Node) (pid : PlayerId) : Prop :=
  ∃ out, n'.outbox = n.outbox ++ out ∧ .relay (.playerLeft pid) ∈ out

/-- The players that a call evicts. -/
def evictions (n : Node) (c : TimedCall) : List PlayerId :=
  match c.call with
  | .host (.playerDisconnected pid) => [pid]
  | .host .evictSilentPlayers => n.silentPlayers c.now
  | _ => []

/-! ## Calls that neither evict nor cache -/

/-- What the keys are compared with, and the caches themselves. -/
def caches (n : Node) :
    Dict PlayerId ℤ × Dict PlayerId InputState × Dict PlayerId ℚ × GlobalRoster × PlayerId :=
  (n.lastRemoteInputSequence, n.cachedRemoteInputs, n.lastInputTime, n.roster, n.localPlayerId)

theorem CachesInside.congr {n n' : Node} (hn : n.CachesInside) (same : n'.caches = n.caches) :
    n'.CachesInside := by
  simp only [caches, Prod.mk.injEq] at same
  obtain ⟨hsequences, hinputs, htimes, hroster, hlocal⟩ := same
  have hpeer (pid : PlayerId) (h : n.HasPeer pid) : n'.HasPeer pid := by
    rwa [HasPeer, hroster, hlocal]
  exact ⟨fun pid h => hpeer pid (hn.sequences pid (hsequences ▸ h)),
    fun pid h => hpeer pid (hn.inputs pid (hinputs ▸ h)),
    fun pid h => hpeer pid (hn.times pid (htimes ▸ h))⟩

/-! ## Rejoining and leaving -/

theorem CachesInside.rejoin {n n' : Node} {entry : RosterEntry} {now : ℚ} {b : Bool}
    (hn : n.CachesInside) (h : n.rejoin entry now = .ok (n', b)) : n'.CachesInside := by
  simp only [Node.rejoin] at h
  split at h
  · cases h; exact hn
  case isFalse other =>
    split at h
    · cases h; exact hn
    case isFalse same =>
      split at h
      · cases h; exact hn
      · obtain ⟨roster, hroster, h⟩ := bind_eq_ok.mp h
        cases h
        have hids := ids_replaceInRoster (fun e he => by simpa [he] using same) hroster
        have hpeer (pid : PlayerId) (hpid : n.HasPeer pid) :
            pid ∈ roster.ids ∧ pid ≠ n.localPlayerId := ⟨(hids pid).mpr (.inl hpid.1), hpid.2⟩
        refine ⟨fun pid hpid => hpeer pid (hn.sequences pid hpid),
          fun pid hpid => hpeer pid (hn.inputs pid hpid), fun pid hpid => ?_⟩
        rcases Dict.mem_set.mp hpid with rfl | hpid
        · exact ⟨(hids _).mpr (.inr rfl), other⟩
        · exact hpeer pid (hn.times pid hpid)

/-- Keys and entries go together. -/
theorem CachesInside.evictPlayer {n : Node} (hn : n.CachesInside) (pid : PlayerId) :
    (n.evictPlayer pid).CachesInside := by
  have hpeer (q : PlayerId) (hq : n.HasPeer q) (other : q ≠ pid) : (n.evictPlayer pid).HasPeer q :=
    ⟨GlobalRoster.mem_ids_removePlayer.mpr ⟨hq.1, other⟩, hq.2⟩
  refine ⟨fun q hq => ?_, fun q hq => ?_, fun q hq => ?_⟩
  all_goals obtain ⟨hkey, hother⟩ := Dict.mem_erase.mp hq
  · exact hpeer q (hn.sequences q hkey) hother
  · exact hpeer q (hn.inputs q hkey) hother
  · exact hpeer q (hn.times q hkey) hother

theorem CachesInside.evictAndAnnounce {n n' : Node} {pid : PlayerId} (hn : n.CachesInside)
    (h : n.evictAndAnnounce pid = .ok n') : n'.CachesInside := by
  rw [evictAndAnnounce_spec h]
  exact (hn.evictPlayer pid).congr rfl

/-- A promotion starts the clocks of the peers that are left. -/
theorem CachesInside.promoteToHost {n n' : Node} {now : ℚ} (hn : n.CachesInside)
    (h : n.promoteToHost now = .ok n') : n'.CachesInside := by
  have hrestored : n.takeAuthority.restoreWorld.CachesInside := by
    refine hn.congr ?_
    unfold restoreWorld
    split <;> rfl
  have hevicted : n.takeAuthority.restoreWorld.evictHost.CachesInside := by
    unfold evictHost
    split
    · exact hrestored.evictPlayer _
    · exact hrestored
  have hassumed : n.assumeHostRole.CachesInside := by
    have hids (pid : PlayerId) (hpid : n.takeAuthority.restoreWorld.evictHost.HasPeer pid) :
        n.assumeHostRole.HasPeer pid := by
      refine ⟨?_, hpid.2⟩
      rw [assumeHostRole, promoteInRoster, GlobalRoster.ids_promoteHost]
      exact hpid.1
    exact ⟨fun pid hpid => hids pid (hevicted.sequences pid hpid),
      fun pid hpid => hids pid (hevicted.inputs pid hpid),
      fun pid hpid => hids pid (hevicted.times pid hpid)⟩
  rcases promoteToHost_spec h with ⟨-, rfl⟩ | ⟨-, out, rfl, -⟩
  · exact hn
  · refine ⟨hassumed.sequences, hassumed.inputs, fun pid hpid => ?_⟩
    have htimes := foldl_keeps (P := fun times : Dict PlayerId ℚ =>
      ∀ pid, pid ∈ times → n.assumeHostRole.HasPeer pid)
      (f := fun times e => times.set e.playerId now) (l := n.assumeHostRole.peers)
      (fun times e he htimes pid hpid => by
        rcases Dict.mem_set.mp hpid with rfl | hpid
        · obtain ⟨hlisted, hother⟩ := mem_peers.mp he
          exact ⟨GlobalRoster.mem_ids.mpr ⟨e, hlisted, rfl⟩, hother⟩
        · exact htimes pid hpid) hassumed.times
    exact htimes pid hpid

/-- What is announced is who is evicted. -/
theorem evictAll_outbox {n n' : Node} {pids : List PlayerId}
    (h : pids.foldlM Node.evictAndAnnounce n = .ok n') :
    n'.outbox = n.outbox ++ pids.map fun pid => .relay (.playerLeft pid) := by
  induction pids generalizing n with
  | nil => cases h; simp
  | cons pid pids ih =>
    rw [List.foldlM_cons] at h
    obtain ⟨m, hm, h⟩ := bind_eq_ok.mp h
    rw [ih h, evictAndAnnounce_spec hm]
    simp [send, evictPlayer]

theorem announcesLeft_iff {n n' : Node} {out : List Outgoing} {pid : PlayerId}
    (h : n'.outbox = n.outbox ++ out) :
    n.AnnouncesLeft n' pid ↔ .relay (.playerLeft pid) ∈ out := by
  constructor
  · rintro ⟨out', hout', hmem⟩
    exact List.append_cancel_left (h.symm.trans hout') ▸ hmem
  · exact fun hmem => ⟨out, h, hmem⟩

theorem not_announcesLeft {n n' : Node} {pid : PlayerId} (h : n'.outbox = n.outbox) :
    ¬ n.AnnouncesLeft n' pid := by
  have hnone : n'.outbox = n.outbox ++ [] := h.trans (List.append_nil _).symm
  simp [announcesLeft_iff hnone]

/-- A host call announces the players that it evicts. -/
theorem hostCall_announces {n n' : Node} {now : ℚ} {call : HostCall}
    (h : n.hostCall now call = .ok n') (pid : PlayerId) :
    n.AnnouncesLeft n' pid ↔ pid ∈ n.evictions ⟨now, .host call⟩ := by
  cases call with
  | checkForRejoiningPlayers message =>
    obtain ⟨out, hout, hlobby⟩ := checkForRejoiningPlayers_outbox h
    rw [announcesLeft_iff hout]
    refine iff_of_false (fun hmem => ?_) List.not_mem_nil
    cases hlobby _ hmem
  | playerDisconnected q =>
    have hall : [q].foldlM evictAndAnnounce n = .ok n' := by
      rw [List.foldlM_cons, show n.evictAndAnnounce q = .ok n' from h]
      rfl
    simp [announcesLeft_iff (evictAll_outbox hall), evictions]
  | evictSilentPlayers => simp [announcesLeft_iff (evictAll_outbox h), evictions]
  | remoteInput payload host port =>
    obtain ⟨out, hout, hudp⟩ := onRemoteInput_outbox h
    rw [announcesLeft_iff hout]
    refine iff_of_false (fun hmem => ?_) List.not_mem_nil
    obtain ⟨message, hmessage⟩ := hudp _ hmem
    cases hmessage
  | advance localInput enemyCommands =>
    obtain ⟨engine, -, h⟩ := bind_eq_ok.mp h
    cases h
    exact iff_of_false (not_announcesLeft rfl) List.not_mem_nil
  | sendGameEvents =>
    obtain ⟨messages, hmessages, h⟩ := bind_eq_ok.mp h
    cases h
    rw [announcesLeft_iff rfl, mapM_eventToMessage hmessages]
    refine iff_of_false (fun hmem => ?_) List.not_mem_nil
    obtain ⟨message, hmessage, heq⟩ := List.mem_map.mp hmem
    obtain ⟨e, -, rfl⟩ := List.mem_map.mp hmessage
    cases e <;> cases heq
  | sendWorldStateSnapshot =>
    cases h
    rw [announcesLeft_iff rfl]
    simp [evictions]
  | maybeBroadcastRoster =>
    obtain ⟨out, rfl, hrosters⟩ := maybeBroadcastRoster_spec h
    rw [announcesLeft_iff rfl]
    refine iff_of_false (fun hmem => ?_) List.not_mem_nil
    cases hrosters _ hmem

/-! ## Receiving -/

/-- An input packet is of a peer, or older than every packet. -/
def PeersOnly (n : Node) (c : TimedCall) : Prop :=
  match c.call with
  | .host (.playerDisconnected pid) => n.HasPeer pid
  | .host (.remoteInput (.ok (.playerInput packet)) _ _) =>
    n.HasPeer packet.playerId ∨ packet.sequenceNumber < 0
  | _ => True

instance (n : Node) (c : TimedCall) : Decidable (n.PeersOnly c) :=
  match c with
  | ⟨_, .host (.playerDisconnected pid)⟩ => inferInstanceAs (Decidable (n.HasPeer pid))
  | ⟨_, .host (.remoteInput (.ok (.playerInput packet)) _ _)⟩ =>
    inferInstanceAs (Decidable (n.HasPeer packet.playerId ∨ packet.sequenceNumber < 0))
  | ⟨_, .host (.remoteInput (.ok (.worldState _)) _ _)⟩
  | ⟨_, .host (.remoteInput (.ok (.hostDiscoveryProbe _)) _ _)⟩
  | ⟨_, .host (.remoteInput (.ok (.hostIdentityResponse _)) _ _)⟩
  | ⟨_, .host (.remoteInput (.ok (.election _)) _ _)⟩
  | ⟨_, .host (.remoteInput (.error _) _ _)⟩
  | ⟨_, .host (.checkForRejoiningPlayers _)⟩ | ⟨_, .host .evictSilentPlayers⟩
  | ⟨_, .host (.advance _ _)⟩ | ⟨_, .host .sendGameEvents⟩ | ⟨_, .host .sendWorldStateSnapshot⟩
  | ⟨_, .host .maybeBroadcastRoster⟩ | ⟨_, .client _⟩ => .isTrue trivial

/-- What a datagram does to the caches. -/
theorem onRemoteInput_caches {n n' : Node} {payload : Except PyError UdpMessage} {host : Ip}
    {port : ℕ} {now : ℚ} (h : n.onRemoteInput payload host port now = .ok n') :
    (n'.caches = n.caches ∧
      (n.CachesInside → n.PeersOnly ⟨now, .host (.remoteInput payload host port)⟩)) ∨
      ∃ packet, payload = .ok (.playerInput packet) ∧
        n.lastRemoteInputSequence.getD packet.playerId (-1) < packet.sequenceNumber ∧
        n' = { n with
          lastRemoteInputSequence :=
            n.lastRemoteInputSequence.set packet.playerId packet.sequenceNumber
          cachedRemoteInputs := n.cachedRemoteInputs.set packet.playerId packet.inputState
          lastInputTime := n.lastInputTime.set packet.playerId now } := by
  obtain ⟨message, rfl, hnext⟩ := bind_eq_ok.mp h
  split at hnext
  · split at hnext
    · cases hnext
      exact .inl ⟨rfl, fun _ => trivial⟩
    · obtain ⟨response, -, hnext⟩ := bind_eq_ok.mp hnext
      cases hnext
      exact .inl ⟨rfl, fun _ => trivial⟩
  case h_2 packet =>
    split at hnext
    case isTrue stale =>
      cases hnext
      refine .inl ⟨rfl, fun hn => ?_⟩
      by_cases hkey : packet.playerId ∈ n.lastRemoteInputSequence
      · exact .inl (hn.sequences _ hkey)
      · rw [Dict.getD, Dict.get?_eq_none_iff.mpr hkey] at stale
        exact .inr (lt_of_le_of_lt stale neg_one_lt_zero)
    case isFalse newer =>
      cases hnext
      exact .inr ⟨packet, rfl, not_le.mp newer, rfl⟩
  case h_3 noInput =>
    cases hnext
    refine .inl ⟨rfl, fun _ => ?_⟩
    unfold PeersOnly
    split
    case h_1 heq => cases heq
    case h_2 heq => cases heq; exact (noInput _ rfl).elim
    case h_3 => trivial

theorem onRemoteInput_cachesInside_iff {n n' : Node}
    {payload : Except PyError UdpMessage} {host : Ip} {port : ℕ} {now : ℚ} (hn : n.CachesInside)
    (h : n.onRemoteInput payload host port now = .ok n') :
    n'.CachesInside ↔ n.PeersOnly ⟨now, .host (.remoteInput payload host port)⟩ := by
  rcases onRemoteInput_caches h with ⟨same, hpeers⟩ | ⟨packet, rfl, newer, rfl⟩
  · exact iff_of_true (hn.congr same) (hpeers hn)
  · constructor
    · exact fun hn' => .inl (hn'.inputs packet.playerId (Dict.mem_set.mpr (.inl rfl)))
    · intro hpeers
      have hpeer : n.HasPeer packet.playerId := by
        refine hpeers.elim id fun negative => hn.sequences _ ?_
        by_contra hkey
        rw [Dict.getD, Dict.get?_eq_none_iff.mpr hkey] at newer
        exact absurd newer (not_lt.mpr (Int.le_sub_one_of_lt negative))
      refine ⟨fun q hq => ?_, fun q hq => ?_, fun q hq => ?_⟩
      all_goals rcases Dict.mem_set.mp hq with rfl | hq
      · exact hpeer
      · exact hn.sequences q hq
      · exact hpeer
      · exact hn.inputs q hq
      · exact hpeer
      · exact hn.times q hq

/-! ## One frame -/

/-- Whatever a call announces is a peer. -/
def AnnouncesPeers (n : Node) (c : TimedCall) : Prop :=
  ∀ n', n.step c = .ok n' → ∀ pid, n.AnnouncesLeft n' pid → n.HasPeer pid

theorem announcesPeers_iff {n n' : Node} {now : ℚ} {call : HostCall}
    (h : n.hostCall now call = .ok n') :
    n.AnnouncesPeers ⟨now, .host call⟩ ↔ ∀ pid ∈ n.evictions ⟨now, .host call⟩, n.HasPeer pid := by
  constructor
  · exact fun hall pid hpid => hall n' h pid ((hostCall_announces h pid).mpr hpid)
  · intro hall m hm pid hpid
    exact hall pid ((hostCall_announces hm pid).mp hpid)

theorem early_call_inside {n n' : Node} {now : ℚ} {call : HostCall}
    (early : call.precedesInputs = true) (hn : n.CachesInside) (h : n.hostCall now call = .ok n') :
    n'.CachesInside ∧ (n.AnnouncesPeers ⟨now, .host call⟩ ↔ n.PeersOnly ⟨now, .host call⟩) := by
  rw [announcesPeers_iff h]
  cases call with
  | checkForRejoiningPlayers message =>
    refine ⟨checkForRejoiningPlayers_keeps (P := CachesInside)
      (fun _ _ _ _ _ _ _ _ hm hrejoin => hm.rejoin hrejoin) (fun _ _ hm => hm.congr rfl) h hn, ?_⟩
    exact iff_of_true (fun pid hpid => absurd hpid List.not_mem_nil) trivial
  | playerDisconnected pid => exact ⟨hn.evictAndAnnounce h, List.forall_mem_singleton⟩
  | evictSilentPlayers =>
    refine ⟨foldlM_keeps (fun _ _ _ _ hm hstep => hm.evictAndAnnounce hstep) h hn, ?_⟩
    -- the scan finds keys of the clock, and those are peers
    refine iff_of_true (fun pid hpid => ?_) trivial
    obtain ⟨e, he, rfl⟩ := List.mem_map.mp hpid
    exact hn.times e.1 (Dict.mem_keys_of_mem (List.mem_filter.mp he).1)
  | remoteInput payload host port => cases early
  | advance localInput enemyCommands => cases early
  | sendGameEvents => cases early
  | sendWorldStateSnapshot => cases early
  | maybeBroadcastRoster => cases early

/-- From the drain of the socket on, no call evicts, and no key goes away. -/
theorem late_call_inside {n n' : Node} {now : ℚ} {call : HostCall}
    (late : call.precedesInputs = false) (h : n.hostCall now call = .ok n') :
    (n'.CachesInside → n.CachesInside) ∧ n.AnnouncesPeers ⟨now, .host call⟩ ∧
      (n.CachesInside → (n'.CachesInside ↔ n.PeersOnly ⟨now, .host call⟩)) := by
  have settled (same : n'.caches = n.caches) (hpeers : n.PeersOnly ⟨now, .host call⟩) :
      (n'.CachesInside → n.CachesInside) ∧
        (n.CachesInside → (n'.CachesInside ↔ n.PeersOnly ⟨now, .host call⟩)) :=
    ⟨fun hn' => hn'.congr same.symm, fun hn => iff_of_true (hn.congr same) hpeers⟩
  have silent : n.evictions ⟨now, .host call⟩ = [] → n.AnnouncesPeers ⟨now, .host call⟩ := by
    intro hnobody
    rw [announcesPeers_iff h, hnobody]
    exact fun pid hpid => absurd hpid List.not_mem_nil
  rw [and_left_comm]
  refine ⟨silent (by cases call <;> first | rfl | cases late), ?_⟩
  cases call with
  | checkForRejoiningPlayers message => cases late
  | playerDisconnected pid => cases late
  | evictSilentPlayers => cases late
  | remoteInput payload host port =>
    refine ⟨fun hn' => ?_, fun hn => onRemoteInput_cachesInside_iff hn h⟩
    rcases onRemoteInput_caches h with ⟨same, -⟩ | ⟨packet, rfl, -, rfl⟩
    · exact hn'.congr same.symm
    · exact ⟨fun q hq => hn'.sequences q (Dict.mem_set.mpr (.inr hq)),
        fun q hq => hn'.inputs q (Dict.mem_set.mpr (.inr hq)),
        fun q hq => hn'.times q (Dict.mem_set.mpr (.inr hq))⟩
  | advance localInput enemyCommands =>
    obtain ⟨engine, -, h⟩ := bind_eq_ok.mp h
    cases h
    exact settled rfl trivial
  | sendGameEvents =>
    obtain ⟨messages, -, h⟩ := bind_eq_ok.mp h
    cases h
    exact settled rfl trivial
  | sendWorldStateSnapshot =>
    cases h
    exact settled rfl trivial
  | maybeBroadcastRoster =>
    obtain ⟨out, rfl, -⟩ := maybeBroadcastRoster_spec h
    exact settled rfl trivial

/-- After the frame the caches are inside, and during it nobody else has been evicted. -/
def FrameInside (n : Node) (f : FrameInput) : Prop :=
  Along step AnnouncesPeers n (f.calls n.role) ∧ ∀ n', n.processFrame f = .ok n' → n'.CachesInside

def FeedsPeersOnly (n : Node) (f : FrameInput) : Prop := Along step PeersOnly n (f.calls n.role)

instance (n : Node) (f : FrameInput) : Decidable (n.FeedsPeersOnly f) :=
  inferInstanceAs (Decidable (Along _ _ _ _))

theorem frameInside_iff {n n' : Node} {f : FrameInput} (host : n.role = .host) (hn : n.CachesInside)
    (h : n.processFrame f = .ok n') : n.FrameInside f ↔ n.FeedsPeersOnly f := by
  obtain ⟨early, late, hsplit, hearly, hlate⟩ := f.hostCalls_split
  have hcalls : f.calls n.role = early.map (⟨f.now, .host ·⟩) ++ late.map (⟨f.now, .host ·⟩) := by
    rw [host, FrameInput.calls, hsplit, List.map_append]
  have hrun := h
  rw [processFrame, run, hcalls, List.foldlM_append] at hrun
  obtain ⟨m, hm, hlast⟩ := bind_eq_ok.mp hrun
  have hinside : m.CachesInside :=
    foldlM_keeps (P := CachesInside) (fun s c t hc hs hstep => by
      obtain ⟨call, hcall, rfl⟩ := List.mem_map.mp hc
      exact (early_call_inside (hearly call hcall) hs hstep).1) hm hn
  -- before the inputs only the reports of lost connections can be about strangers
  have hbefore : Along step AnnouncesPeers n (early.map (⟨f.now, .host ·⟩)) ↔
      Along step PeersOnly n (early.map (⟨f.now, .host ·⟩)) :=
    along_congr (P := CachesInside) (fun s c t hc hs hstep => by
      obtain ⟨call, hcall, rfl⟩ := List.mem_map.mp hc
      obtain ⟨ht, hiff⟩ := early_call_inside (hearly call hcall) hs hstep
      exact ⟨hiff, fun _ => ht⟩) hm hn
  -- from there on nobody is evicted, and a stranger's key stays
  have hsilent : Along step AnnouncesPeers m (late.map (⟨f.now, .host ·⟩)) := by
    refine (along_congr (P := fun _ => True) (fun s c t hc _ hstep => ?_) hlast trivial).mpr
      ((along_const (C := fun _ => True) hlast).mpr fun _ _ => trivial)
    obtain ⟨call, hcall, rfl⟩ := List.mem_map.mp hc
    exact ⟨iff_of_true (late_call_inside (hlate call hcall) hstep).2.1 trivial, fun _ => trivial⟩
  have hafter : Along step PeersOnly m (late.map (⟨f.now, .host ·⟩)) ↔ n'.CachesInside :=
    along_iff_end (P := CachesInside) (fun s c t hc hstep => by
      obtain ⟨call, hcall, rfl⟩ := List.mem_map.mp hc
      exact (late_call_inside (hlate call hcall) hstep).1) (fun s c t hc hs hstep => by
      obtain ⟨call, hcall, rfl⟩ := List.mem_map.mp hc
      exact (late_call_inside (hlate call hcall) hstep).2.2 hs) hlast hinside
  rw [FrameInside, FeedsPeersOnly, hcalls, along_append hm, along_append hm, hbefore, hafter, h]
  simp [hsilent]

/-! ## Every run of frames -/

/-- The caches stay inside the roster, and only peers are evicted and announced, exactly in the runs
of frames that report and receive peers only. -/
theorem caches_inside_iff {n n' : Node} {frames : List FrameInput} (host : n.role = .host)
    (start : n.CachesInside) (hrun : frames.foldlM processFrame n = .ok n') :
    Along processFrame FrameInside n frames ↔ Along processFrame FeedsPeersOnly n frames :=
  along_congr (P := fun m : Node => m.role = .host ∧ m.CachesInside)
    (fun m f m' _ hm hframe => by
      have hrole : m'.role = m.role :=
        congrArg (fun s => s.2.2.2.2.1) (processFrame_standing hm.1 hframe)
      exact ⟨frameInside_iff hm.1 hm.2 hframe, fun h => ⟨hrole.trans hm.1, h.2 m' hframe⟩⟩)
    hrun ⟨host, start⟩

/-! ### A packet with the host's own id -/

theorem hostOverPit_cachesInside : hostOverPit.CachesInside where
  sequences pid h := absurd h (Dict.not_mem_empty pid)
  inputs pid h := absurd h (Dict.not_mem_empty pid)
  times pid h := absurd h (Dict.not_mem_empty pid)

/-- A frame that receives this packet. -/
def frameWith (packet : PlayerInputPacket) : FrameInput where
  now := 0
  datagrams := [(.ok (.playerInput packet), "10.0.0.2", 50011)]

/-- The second player's packets are taken in, and it is evicted once they stop. -/
theorem silent_peer_is_evicted :
    Along processFrame FrameInside hostOverPit [frameWith ⟨"player-2", 1, {}⟩, { now := 11 }] := by
  obtain ⟨n', hrun, -⟩ := exists_of_okAnd (p := fun _ => true)
    (x := [frameWith ⟨"player-2", 1, {}⟩, { now := 11 }].foldlM processFrame hostOverPit)
    (by decide +kernel)
  exact (caches_inside_iff rfl hostOverPit_cachesInside hrun).mpr (by decide +kernel)

/-- A packet with the host's own id makes the host evict itself. -/
theorem host_evicts_itself :
    (¬ ∀ (n n' : Node) (frames : List FrameInput), n.role = .host → n.CachesInside →
      frames.foldlM processFrame n = .ok n' → Along processFrame FrameInside n frames) ∧
    ∃ n', [frameWith ⟨"player-1", 1, {}⟩, { now := 11 }].foldlM processFrame hostOverPit = .ok n' ∧
      .relay (.playerLeft "player-1") ∈ n'.outbox ∧ n'.localPlayerId ∉ n'.roster.ids := by
  obtain ⟨n', hrun, hgone⟩ := exists_of_okAnd
    (x := [frameWith ⟨"player-1", 1, {}⟩, { now := 11 }].foldlM processFrame hostOverPit)
    (p := fun n => .relay (.playerLeft "player-1") ∈ n.outbox ∧ n.localPlayerId ∉ n.roster.ids)
    (by decide +kernel)
  refine ⟨fun inside => ?_, n', hrun, of_decide_eq_true hgone⟩
  obtain ⟨m, hm, hkey⟩ := exists_of_okAnd
    (x := hostOverPit.processFrame (frameWith ⟨"player-1", 1, {}⟩))
    (p := fun n => "player-1" ∈ n.cachedRemoteInputs ∧ n.localPlayerId = "player-1")
    (by decide +kernel)
  obtain ⟨hkey, hlocal⟩ := of_decide_eq_true hkey
  have hinside := (inside _ _ _ rfl hostOverPit_cachesInside hrun).1.2 m hm
  exact (hinside.inputs "player-1" hkey).2 hlocal.symm

end Node

end DistributedSmb
