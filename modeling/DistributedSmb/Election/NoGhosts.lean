import DistributedSmb.Gameplay.HostWorld

/-!
# The world of a promoted host

A promotion evicts the silent peers, adopts the buffered snapshot and evicts the crashed host, in
this order. It leaves no ghost exactly when the adopted world, less what is evicted after it was
adopted, holds only players that stay in the roster. From then on the host frames bring nobody back.
-/

namespace DistributedSmb

open Library

namespace Node

/-! ## What a promotion makes of the world -/

/-- The world a promotion goes on with. -/
def adoptedWorld (n : Node) : WorldState :=
  match n.bufferedSnapshot with
  | some snapshot => snapshot.worldState
  | none => n.engine.worldState

/-- For each pending address in turn, the first remaining peer there. -/
def silentAmong (localPlayerId : PlayerId) : List Ip → GlobalRoster → List PlayerId
  | [], _ => []
  | ip :: pending, roster =>
    match (roster.getAllPlayers.filter fun e => e.playerId ≠ localPlayerId).find?
        fun e => e.host = ip with
    | some e => e.playerId :: silentAmong localPlayerId pending (roster.removePlayer e.playerId)
    | none => silentAmong localPlayerId pending roster

/-- The peers that an expired claim gives up on. -/
def silentPeerIds (n : Node) : List PlayerId :=
  silentAmong n.localPlayerId n.election.pendingElectionAcks n.roster

/-- The flagged host of the roster without the silent peers. -/
def crashedHost (n : Node) (silent : List PlayerId) : Option PlayerId :=
  (silent.foldl GlobalRoster.removePlayer n.roster).getHost.map RosterEntry.playerId

/-- A player of the roster that is neither silent nor the crashed host. -/
def Stays (n : Node) (silent : List PlayerId) (pid : PlayerId) : Prop :=
  pid ∈ n.roster.ids ∧ pid ∉ silent ∧ n.crashedHost silent ≠ some pid

instance (n : Node) (silent : List PlayerId) (pid : PlayerId) : Decidable (n.Stays silent pid) :=
  inferInstanceAs (Decidable (_ ∧ _))

/-- Every respawn timer of the adopted world is of a player that stays. So is every character, save
the crashed host's, and the silent peers' when no snapshot is buffered. -/
structure AdoptsNoGhost (n : Node) (silent : List PlayerId) : Prop where
  timers : ∀ pid, pid ∈ n.adoptedWorld.respawnTimers → n.Stays silent pid
  characters : ∀ pid, pid ∈ n.adoptedWorld.characters → n.Stays silent pid ∨
    n.crashedHost silent = some pid ∨ (n.bufferedSnapshot = none ∧ pid ∈ silent)

/-- The two ways to a promotion out of a pending claim, with the peers given up on. -/
inductive Promotes (n : Node) (now : ℚ) : List PlayerId → Node → Prop where
  | deadline {n' : Node} (expired : n.ClaimExpired now) (h : n.tickClaimDeadline now = .ok n') :
    Promotes n now n.silentPeerIds n'
  | lastAck {n' : Node} (msg : ElectionAck) (waiting : n.election.promotionDone = false)
    (pending : msg.fromIp ∈ n.election.pendingElectionAcks)
    (last : ∀ ip ∈ n.election.pendingElectionAcks, ip = msg.fromIp)
    (h : n.onElectionAck msg now = .ok n') : Promotes n now [] n'

/-- The loop over the pending addresses evicts the silent peers one by one. -/
theorem foldl_evictSilentPeer (pending : List Ip) (n : Node) :
    pending.foldl evictSilentPeer n =
      (silentAmong n.localPlayerId pending n.roster).foldl evictPlayer n := by
  induction pending generalizing n with
  | nil => rfl
  | cons ip pending ih =>
    rw [List.foldl_cons, silentAmong]
    cases hfind : (n.roster.getAllPlayers.filter fun e => e.playerId ≠ n.localPlayerId).find?
        fun e => e.host = ip with
    | some e =>
      have hevict : n.evictSilentPeer ip = n.evictPlayer e.playerId := by
        rw [evictSilentPeer, silentPeer, peers, hfind]
      rw [hevict, ih]
      rfl
    | none =>
      have hevict : n.evictSilentPeer ip = n := by
        rw [evictSilentPeer, silentPeer, peers, hfind]
      rw [hevict, ih]

/-- What a series of evictions does. -/
theorem foldl_evictPlayer_spec (silent : List PlayerId) (n : Node) :
    (silent.foldl evictPlayer n).election = n.election ∧
      (silent.foldl evictPlayer n).envStateBuffer = n.envStateBuffer ∧
      (silent.foldl evictPlayer n).roster = silent.foldl GlobalRoster.removePlayer n.roster ∧
      (silent.foldl evictPlayer n).engine.worldState.respawnTimers =
        n.engine.worldState.respawnTimers ∧
      (n.engine.worldState.Keyed → (silent.foldl evictPlayer n).engine.worldState.Keyed) ∧
      ∀ pid, pid ∈ (silent.foldl evictPlayer n).engine.worldState.characters ↔
        pid ∈ n.engine.worldState.characters ∧ pid ∉ silent := by
  induction silent generalizing n with
  | nil => simp
  | cons q silent ih =>
    obtain ⟨helection, hbuffer, hroster, htimers, hkeyed, hcharacters⟩ := ih (n.evictPlayer q)
    refine ⟨helection, hbuffer, hroster, htimers, fun hn => hkeyed (hn.removePlayer q),
      fun pid => ?_⟩
    rw [List.foldl_cons, hcharacters]
    simp only [evictPlayer, WorldState.removePlayer, Dict.mem_erase, List.mem_cons, not_or]
    tauto

theorem mem_ids_foldl_removePlayer (silent : List PlayerId) (roster : GlobalRoster)
    (pid : PlayerId) :
    pid ∈ (silent.foldl GlobalRoster.removePlayer roster).ids ↔
      pid ∈ roster.ids ∧ pid ∉ silent := by
  induction silent generalizing roster with
  | nil => simp
  | cons q silent ih =>
    rw [List.foldl_cons, ih, GlobalRoster.mem_ids_removePlayer, List.mem_cons]
    tauto

/-- The promoted node: who is in its world and who is in its roster. -/
structure HostsWorld (n' : Node) (w : WorldState) (roster : GlobalRoster) : Prop where
  isHost : n'.role = .host
  timers : n'.engine.worldState.respawnTimers = w.respawnTimers
  keyed : w.Keyed → n'.engine.worldState.Keyed
  characters : ∀ pid, pid ∈ n'.engine.worldState.characters ↔
    pid ∈ w.characters ∧ roster.getHost.map RosterEntry.playerId ≠ some pid
  ids : ∀ pid, pid ∈ n'.roster.ids ↔
    pid ∈ roster.ids ∧ roster.getHost.map RosterEntry.playerId ≠ some pid

theorem promoteToHost_world {n n' : Node} {now : ℚ} (waiting : n.election.promotionDone = false)
    (h : n.promoteToHost now = .ok n') : n'.HostsWorld n.adoptedWorld n.roster := by
  rcases promoteToHost_spec h with ⟨done, -⟩ | ⟨-, out, rfl, -⟩
  · rw [done] at waiting
    cases waiting
  have hrestore : n.takeAuthority.restoreWorld.engine.worldState = n.adoptedWorld ∧
      n.takeAuthority.restoreWorld.roster = n.roster := by
    simp only [restoreWorld, adoptedWorld, bufferedSnapshot, takeAuthority]
    cases n.envStateBuffer.bind (·.last) <;> exact ⟨rfl, rfl⟩
  obtain ⟨hworld, hroster⟩ := hrestore
  have hengine : ((n.assumeHostRole.send out).finishPromotion now).engine =
      n.takeAuthority.restoreWorld.evictHost.engine := rfl
  have hids (pid : PlayerId) : pid ∈ ((n.assumeHostRole.send out).finishPromotion now).roster.ids ↔
      pid ∈ n.takeAuthority.restoreWorld.evictHost.roster.ids := by
    change pid ∈ (n.takeAuthority.restoreWorld.evictHost.roster.promoteHost _).ids ↔ _
    rw [GlobalRoster.ids_promoteHost]
  cases hhost : n.roster.getHost with
  | none =>
    have hevict : n.takeAuthority.restoreWorld.evictHost = n.takeAuthority.restoreWorld := by
      rw [evictHost, hroster, hhost]
    rw [hevict] at hengine hids
    refine ⟨rfl, by rw [hengine, hworld], fun hw => by rw [hengine, hworld]; exact hw, ?_, ?_⟩
    · intro pid
      simp [hengine, hworld, hhost]
    · intro pid
      rw [hids, hroster, hhost]
      simp
  | some crashed =>
    have hevict : n.takeAuthority.restoreWorld.evictHost =
        n.takeAuthority.restoreWorld.evictPlayer crashed.playerId := by
      rw [evictHost, hroster, hhost]
    rw [hevict] at hengine hids
    have hremoved : (n.takeAuthority.restoreWorld.evictPlayer crashed.playerId).engine.worldState =
        n.adoptedWorld.removePlayer crashed.playerId := by
      rw [← hworld]
      rfl
    refine ⟨rfl, by rw [hengine, hremoved]; rfl, fun hw => ?_, ?_, ?_⟩
    · rw [hengine, hremoved]
      exact hw.removePlayer _
    · intro pid
      rw [hengine, hremoved, WorldState.removePlayer, Dict.mem_erase, hhost]
      simp [eq_comm]
    · intro pid
      rw [hids, evictPlayer_roster, hroster, GlobalRoster.mem_ids_removePlayer, hhost]
      simp [eq_comm]

/-- Both ways to a promotion, in terms of the state before it. -/
theorem Promotes.world {n n' : Node} {now : ℚ} {silent : List PlayerId}
    (h : n.Promotes now silent n') :
    ∃ w, n'.HostsWorld w (silent.foldl GlobalRoster.removePlayer n.roster) ∧
      (n.adoptedWorld.Keyed → w.Keyed) ∧ w.respawnTimers = n.adoptedWorld.respawnTimers ∧
      ∀ pid, pid ∈ w.characters ↔ pid ∈ n.adoptedWorld.characters ∧
        (n.bufferedSnapshot = none → pid ∉ silent) := by
  cases h with
  | deadline expired h =>
    obtain ⟨waiting, hpending, hset, hpassed⟩ := expired
    simp only [tickClaimDeadline, waiting, hpending, decide_false, Bool.or_self, Bool.false_eq_true,
      if_false, hset, not_lt.mpr hpassed] at h
    rw [foldl_evictSilentPeer] at h
    set evicted := (silentAmong n.localPlayerId n.election.pendingElectionAcks n.roster).foldl
      evictPlayer n with hevicted
    obtain ⟨helection, hbuffer, hroster, htimers, hkeyed, hcharacters⟩ :=
      foldl_evictPlayer_spec
        (silentAmong n.localPlayerId n.election.pendingElectionAcks n.roster) n
    rw [← hevicted] at helection hbuffer hroster htimers hkeyed hcharacters
    have hhosts := promoteToHost_world (n := evicted.withPendingAcks [])
      (by simp [withPendingAcks, helection, waiting]) h
    refine ⟨(evicted.withPendingAcks []).adoptedWorld, ?_, ?_⟩
    · rw [silentPeerIds, ← hroster]
      exact hhosts
    · have hsnapshot : (evicted.withPendingAcks []).bufferedSnapshot = n.bufferedSnapshot := by
        simp only [bufferedSnapshot, withPendingAcks, hbuffer]
      simp only [adoptedWorld, hsnapshot]
      cases n.bufferedSnapshot with
      | some snapshot => simp
      | none =>
        exact ⟨hkeyed, htimers,
          fun pid => by simp [withPendingAcks, hcharacters, silentPeerIds]⟩
  | lastAck msg waiting pending last h =>
    have hempty : n.election.pendingElectionAcks.filter (· ≠ msg.fromIp) = [] := by
      rw [List.filter_eq_nil_iff]
      intro ip hip
      simp [last ip hip]
    simp only [onElectionAck, waiting, Bool.false_eq_true, if_false, pending, not_true_eq_false,
      hempty, if_true] at h
    exact ⟨n.adoptedWorld, promoteToHost_world (n := n.withPendingAcks []) waiting h, id, rfl,
      by simp⟩

/-- The promoted host agrees with its roster exactly when it adopted no ghost. -/
theorem Promotes.agrees_iff {n n' : Node} {now : ℚ} {silent : List PlayerId}
    (h : n.Promotes now silent n') :
    (∀ pid, n'.engine.Present pid → pid ∈ n'.roster.ids) ↔ n.AdoptsNoGhost silent := by
  obtain ⟨w, hhosts, -, htimers, hcharacters⟩ := h.world
  have hstays (pid : PlayerId) : pid ∈ n'.roster.ids ↔ n.Stays silent pid := by
    rw [hhosts.ids, mem_ids_foldl_removePlayer, and_assoc]
    rfl
  simp only [hstays, GameEngine.Present, hhosts.timers, htimers, hhosts.characters, hcharacters]
  constructor
  · intro hall
    refine ⟨fun pid hpid => hall pid (.inr hpid), fun pid hpid => ?_⟩
    by_cases hcrashed : n.crashedHost silent = some pid
    · exact .inr (.inl hcrashed)
    by_cases hsilent : n.bufferedSnapshot = none ∧ pid ∈ silent
    · exact .inr (.inr hsilent)
    · exact .inl (hall pid (.inl ⟨⟨hpid, fun hnone hin => hsilent ⟨hnone, hin⟩⟩, hcrashed⟩))
  · rintro ⟨hdead, halive⟩ pid (⟨⟨hpid, hkept⟩, hcrashed⟩ | hpid)
    · rcases halive pid hpid with hstay | hgone | ⟨hnone, hsilent⟩
      · exact hstay
      · exact absurd hgone hcrashed
      · exact absurd hsilent (hkept hnone)
    · exact hdead pid hpid

/-! ## Host frames bring nobody back -/

/-- Without a lobby message a host call lets nobody into the world. -/
theorem hostCall_present {n n' : Node} {now : ℚ} {call : HostCall}
    (quiet : ∀ message, call ≠ .checkForRejoiningPlayers (some message))
    (hn : n.engine.worldState.Keyed) (h : n.hostCall now call = .ok n') :
    n'.engine.worldState.Keyed ∧ ∀ pid, n'.engine.Present pid → n.engine.Present pid := by
  have evicted (m : Node) (q : PlayerId) (out : List Outgoing) (pid : PlayerId)
      (hpid : ((m.evictPlayer q).send out).engine.Present pid) : m.engine.Present pid := by
    refine hpid.imp_left fun halive => ?_
    rw [send_engine, evictPlayer, WorldState.removePlayer, Dict.mem_erase] at halive
    exact halive.1
  cases call with
  | checkForRejoiningPlayers message =>
    cases message with
    | some message => exact absurd rfl (quiet message)
    | none => cases h; exact ⟨hn, fun _ hpid => hpid⟩
  | playerDisconnected q =>
    rw [evictAndAnnounce_spec h]
    exact ⟨hn.removePlayer q, evicted n q _⟩
  | evictSilentPlayers =>
    refine Fallible.foldlM_keeps (P := fun m : Node => m.engine.worldState.Keyed ∧
      ∀ pid, m.engine.Present pid → n.engine.Present pid) (fun m q m' _ hm hstep => ?_) h
      ⟨hn, fun _ hpid => hpid⟩
    rw [evictAndAnnounce_spec hstep]
    exact ⟨hm.1.removePlayer q, fun pid hpid => hm.2 pid (evicted m q _ pid hpid)⟩
  | remoteInput payload host port =>
    obtain ⟨-, hengine, -⟩ := onRemoteInput_spec h
    rw [hengine]
    exact ⟨hn, fun _ hpid => hpid⟩
  | advance localInput enemyCommands =>
    obtain ⟨engine, htick, h⟩ := Fallible.bind_eq_ok.mp h
    cases h
    obtain ⟨hkeyed, hpresent⟩ := GameEngine.tick_participants hn htick
    exact ⟨hkeyed, fun pid hpid => (hpresent pid).mp hpid⟩
  | sendGameEvents =>
    obtain ⟨messages, -, h⟩ := Fallible.bind_eq_ok.mp h
    cases h
    exact ⟨hn, fun _ hpid => hpid⟩
  | sendWorldStateSnapshot => cases h; exact ⟨hn, fun _ hpid => hpid⟩
  | maybeBroadcastRoster =>
    obtain ⟨out, rfl, -⟩ := maybeBroadcastRoster_spec h
    exact ⟨hn, fun _ hpid => hpid⟩

theorem hostFrames_present {n n' : Node} {frames : List FrameInput} (hrole : n.role = .host)
    (hn : n.engine.worldState.Keyed) (quiet : ∀ f ∈ frames, f.lobby = [])
    (hrun : frames.foldlM processFrame n = .ok n') (pid : PlayerId) (hpid : n'.engine.Present pid) :
    n.engine.Present pid := by
  have hkept := Fallible.foldlM_keeps (P := fun m : Node => m.role = .host ∧
      m.engine.worldState.Keyed ∧ ∀ pid, m.engine.Present pid → n.engine.Present pid)
    (fun m f m' hf hm hframe => by
      refine Fallible.foldlM_keeps (P := fun m : Node => m.role = .host ∧
        m.engine.worldState.Keyed ∧ ∀ pid, m.engine.Present pid → n.engine.Present pid)
        (fun k c k' hc hk hstep => ?_) hframe hm
      obtain ⟨call, hcall, rfl⟩ : ∃ call ∈ f.hostCalls, ⟨f.now, .host call⟩ = c := by
        simpa [hm.1, FrameInput.calls] using hc
      have hquiet (message : WsMessage) : call ≠ .checkForRejoiningPlayers (some message) := by
        rintro rfl
        simp [FrameInput.hostCalls, quiet f hf] at hcall
      obtain ⟨hkeyed, hpresent⟩ := hostCall_present hquiet hk.2.1 hstep
      exact ⟨(congrArg (fun s => s.2.2.2.2.1) (hostCall_standing hstep)).trans hk.1, hkeyed,
        fun pid hpid => hk.2.2 pid (hpresent pid hpid)⟩) hrun
    ⟨hrole, hn, fun _ hpid => hpid⟩
  exact hkept.2.2 pid hpid

/-- After a promotion the world agrees with the roster, and in no later host frame does a silent
peer or the crashed host come back, exactly when the promotion adopted no ghost. -/
theorem promotion_leaves_no_ghost_iff {n n' : Node} {now : ℚ} {silent : List PlayerId}
    (keyed : n.adoptedWorld.Keyed) (h : n.Promotes now silent n') :
    ((∀ pid, n'.engine.Present pid → pid ∈ n'.roster.ids) ∧
      ∀ (frames : List FrameInput) (n'' : Node), (∀ f ∈ frames, f.lobby = []) →
        frames.foldlM processFrame n' = .ok n'' →
          ∀ pid, pid ∈ silent ∨ n.crashedHost silent = some pid →
            pid ∉ n''.engine.worldState.characters) ↔
      n.AdoptsNoGhost silent := by
  refine ⟨fun hclean => h.agrees_iff.mp hclean.1, fun hadopts => ⟨h.agrees_iff.mpr hadopts, ?_⟩⟩
  obtain ⟨w, hhosts, hkeyed, -, -⟩ := h.world
  intro frames n'' quiet hrun pid hgone hback
  have hpresent := hostFrames_present hhosts.isHost (hhosts.keyed (hkeyed keyed)) quiet hrun pid
    (.inl hback)
  have hin := h.agrees_iff.mpr hadopts pid hpresent
  rw [hhosts.ids, mem_ids_foldl_removePlayer] at hin
  rcases hgone with hsilent | hcrashed
  · exact hin.1.2 hsilent
  · exact hin.2 hcrashed

/-- A claimer whose claim has expired: the second player, with the third one silent. -/
def expiredClaimer (snapshot : WorldStateSnapshot) : Node where
  engine := { isAuthoritative := false, worldState := snapshot.worldState }
  roster := threePlayers
  sessionId := "session"
  localIp := "10.0.0.2"
  localPlayerId := "player-2"
  remoteHost := "10.0.0.1"
  joinIndex := 1
  envStateBuffer := some { last := some snapshot }
  election := { pendingElectionAcks := ["10.0.0.3"], electionClaimDeadline := 1 }

def snapshotOf (pids : List PlayerId) : WorldStateSnapshot :=
  ⟨1, { sequenceNumber := 1, characters := Dict.ofList (pids.map fun pid => (pid, ⟨pid, 0, 0, 0, 0,
    playerWidth, playerHeight, false, false, 0, 0, 0, none⟩)) }⟩

theorem expiredClaimer_promotes (snapshot : WorldStateSnapshot) :
    ∃ n', (expiredClaimer snapshot).Promotes 2 ["player-3"] n' := by
  obtain ⟨n', h⟩ : ∃ n', (expiredClaimer snapshot).tickClaimDeadline 2 = .ok n' := ⟨_, rfl⟩
  have hsilent : (expiredClaimer snapshot).silentPeerIds = ["player-3"] := by
    change silentAmong "player-2" ["10.0.0.3"] threePlayers = ["player-3"]
    decide +kernel
  have expired : (expiredClaimer snapshot).ClaimExpired 2 :=
    ⟨rfl, List.cons_ne_nil _ _, one_ne_zero, one_le_two⟩
  exact ⟨n', hsilent ▸ .deadline expired h⟩

/-- The silent peer has left the world before the last snapshot was taken. -/
theorem promotion_leaves_no_ghost_of_departed :
    ∃ n', (expiredClaimer (snapshotOf ["player-1", "player-2"])).Promotes 2 ["player-3"] n' ∧
      ∀ pid, n'.engine.Present pid → pid ∈ n'.roster.ids := by
  obtain ⟨n', h⟩ := expiredClaimer_promotes (snapshotOf ["player-1", "player-2"])
  have halive : ∀ pid ∈ ["player-1", "player-2"], (expiredClaimer (snapshotOf
      ["player-1", "player-2"])).Stays ["player-3"] pid ∨ (expiredClaimer (snapshotOf
      ["player-1", "player-2"])).crashedHost ["player-3"] = some pid := by decide +kernel
  refine ⟨n', h, ((promotion_leaves_no_ghost_iff (by unfold WorldState.Keyed; decide +kernel) h).mpr
    ⟨fun pid hpid => absurd hpid (Dict.not_mem_empty pid), fun pid hpid => ?_⟩).1⟩
  exact (halive pid hpid).imp_right .inl

/-- The silent peer is still in the last snapshot, which the promotion adopts after evicting it. -/
theorem silent_peer_returns_with_the_snapshot :
    ¬ ∀ (n n' : Node) (now : ℚ) (silent : List PlayerId), n.adoptedWorld.Keyed →
      n.Promotes now silent n' →
      (∀ pid, n'.engine.Present pid → pid ∈ n'.roster.ids) ∧
        ∀ (frames : List FrameInput) (n'' : Node), (∀ f ∈ frames, f.lobby = []) →
          frames.foldlM processFrame n' = .ok n'' →
          ∀ pid, pid ∈ silent ∨ n.crashedHost silent = some pid →
            pid ∉ n''.engine.worldState.characters := by
  intro clean
  obtain ⟨n', h⟩ := expiredClaimer_promotes (snapshotOf ["player-2", "player-3"])
  have hghost := (clean _ n' 2 ["player-3"] (by unfold WorldState.Keyed; decide +kernel) h).2 [] n'
    (by simp) rfl "player-3" (.inl List.mem_cons_self)
  obtain ⟨w, hhosts, -, -, hcharacters⟩ := h.world
  refine hghost ((hhosts.characters _).mpr ⟨(hcharacters _).mpr ⟨?_, ?_⟩, ?_⟩) <;> decide +kernel

end Node

end DistributedSmb
