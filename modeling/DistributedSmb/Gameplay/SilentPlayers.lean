import DistributedSmb.Gameplay.CachedPlayers
import DistributedSmb.Gameplay.Failover
import DistributedSmb.Gameplay.RestartedClients

/-!
# Silent players

A host takes a player from which no input arrives for gone. The scan for such players runs in every
frame, so a silent player is evicted in the first frame after the timeout, and in none before.
-/

namespace DistributedSmb

open Library Fallible

/-- The call has nothing of the player: no input, no report that its connection dropped, and no
roster of the lobby that lists it. -/
def HostCall.Without (pid : PlayerId) : HostCall → Prop
  | checkForRejoiningPlayers (some (.rosterUpdate roster)) => pid ∉ roster.ids
  | playerDisconnected q => q ≠ pid
  | remoteInput (.ok (.playerInput packet)) _ _ => packet.playerId ≠ pid
  | _ => True

/-- The frame finds nothing of the player. -/
def FrameInput.Without (pid : PlayerId) (f : FrameInput) : Prop :=
  ∀ call ∈ f.hostCalls, call.Without pid

namespace Node

/-- The player is listed, and was heard, as before. -/
structure Hears (pid : PlayerId) (n n' : Node) : Prop where
  listed : pid ∈ n'.roster.ids ↔ pid ∈ n.roster.ids
  heard : n'.lastInputTime.get? pid = n.lastInputTime.get? pid

variable {pid : PlayerId} {heard now : ℚ} {n n' n'' : Node}

theorem Hears.refl (pid : PlayerId) (n : Node) : Hears pid n n := ⟨Iff.rfl, rfl⟩

theorem Hears.trans (h : Hears pid n n') (h' : Hears pid n' n'') : Hears pid n n'' :=
  ⟨h'.listed.trans h.listed, h'.heard.trans h.heard⟩

theorem hears_of_caches (same : n'.caches = n.caches) : Hears pid n n' := by
  simp only [caches, Prod.mk.injEq] at same
  obtain ⟨-, -, htimes, hroster, -⟩ := same
  exact ⟨by rw [hroster], by rw [htimes]⟩

/-! ## Calls other than the scan -/

/-- Another player comes back. -/
theorem rejoin_hears {entry : RosterEntry} {b : Bool} (other : pid ≠ entry.playerId)
    (h : n.rejoin entry now = .ok (n', b)) : Hears pid n n' := by
  simp only [Node.rejoin] at h
  split at h
  · cases h; exact .refl pid n
  split at h
  · cases h; exact .refl pid n
  case isFalse same =>
    split at h
    · cases h; exact .refl pid n
    obtain ⟨roster, hroster, h⟩ := bind_eq_ok.mp h
    cases h
    have hids := ids_replaceInRoster (fun e he => by simpa [he] using same) hroster pid
    exact ⟨hids.trans (or_iff_left other), Dict.get?_set_ne _ other _⟩

/-- Another player is evicted. -/
theorem evictAndAnnounce_hears {q : PlayerId} (other : pid ≠ q)
    (h : n.evictAndAnnounce q = .ok n') : Hears pid n n' := by
  rw [evictAndAnnounce_spec h]
  refine ⟨?_, Dict.get?_erase_ne _ other⟩
  exact GlobalRoster.mem_ids_removePlayer.trans (and_iff_left other)

theorem hostCall_hears {call : HostCall} (without : call.Without pid)
    (other : call ≠ .evictSilentPlayers) (h : n.hostCall now call = .ok n') : Hears pid n n' := by
  cases call with
  | checkForRejoiningPlayers message =>
    refine checkForRejoiningPlayers_keeps (P := Hears pid n)
      (fun m m' roster entry _ _ hmessage hentry hm hrejoin => ?_) (fun _ _ hm => ⟨hm.1, hm.2⟩) h
      (.refl pid n)
    subst hmessage
    refine hm.trans (rejoin_hears ?_ hrejoin)
    rintro rfl
    exact without (GlobalRoster.mem_ids.mpr ⟨entry, hentry, rfl⟩)
  | playerDisconnected q => exact evictAndAnnounce_hears (Ne.symm without) h
  | evictSilentPlayers => exact absurd rfl other
  | remoteInput payload host port =>
    obtain ⟨same, -⟩ | ⟨packet, rfl, -, rfl⟩ := onRemoteInput_caches h
    · exact hears_of_caches same
    · exact ⟨Iff.rfl, Dict.get?_set_ne _ (Ne.symm without) _⟩
  | advance localInput enemyCommands =>
    obtain ⟨engine, -, h⟩ := bind_eq_ok.mp h
    cases h
    exact hears_of_caches rfl
  | sendGameEvents =>
    obtain ⟨messages, -, h⟩ := bind_eq_ok.mp h
    cases h
    exact hears_of_caches rfl
  | sendWorldStateSnapshot =>
    cases h
    exact hears_of_caches rfl
  | maybeBroadcastRoster =>
    obtain ⟨out, rfl, -⟩ := maybeBroadcastRoster_spec h
    exact hears_of_caches rfl

theorem run_hears {calls : List HostCall} (without : ∀ call ∈ calls, call.Without pid)
    (others : .evictSilentPlayers ∉ calls)
    (h : n.run (calls.map fun call => ⟨now, .host call⟩) = .ok n') : Hears pid n n' := by
  refine foldlM_rel (Hears.refl pid) Hears.trans (fun m c m' hc hstep => ?_) h
  obtain ⟨call, hcall, rfl⟩ := List.mem_map.mp hc
  exact hostCall_hears (without call hcall) (fun heq => others (heq ▸ hcall)) hstep

/-! ## The scan -/

theorem mem_silentPlayers_iff (h : n.lastInputTime.get? pid = some heard) :
    pid ∈ n.silentPlayers now ↔ heard + udpInputTimeout < now := by
  constructor
  · intro hmem
    by_contra hearly
    exact not_mem_silentPlayers h (not_lt.mp hearly) hmem
  · intro hlate
    have hentry : (pid, heard) ∈ n.lastInputTime.entries := Dict.get?_eq_some_iff.mp h
    refine List.mem_map.mpr ⟨(pid, heard), List.mem_filter.mpr ⟨hentry, ?_⟩, rfl⟩
    exact decide_eq_true (lt_sub_iff_add_lt'.mpr hlate)

/-- The host has no record of the player. -/
structure Forgot (pid : PlayerId) (n : Node) : Prop where
  unlisted : pid ∉ n.roster.ids
  unheard : n.lastInputTime.get? pid = none

theorem Forgot.hears (h : n.Forgot pid) (hears : Hears pid n n') : n'.Forgot pid :=
  ⟨fun hpid => h.unlisted (hears.listed.mp hpid), hears.heard.trans h.unheard⟩

theorem evictAndAnnounce_forgot (h : n.evictAndAnnounce pid = .ok n') : n'.Forgot pid := by
  rw [evictAndAnnounce_spec h]
  exact ⟨fun hpid => (GlobalRoster.mem_ids_removePlayer.mp hpid).2 rfl, Dict.get?_erase_self _ _⟩

/-- The scan evicts the silent players and touches no others. -/
theorem evictSilentPlayers_spec (h : n.evictSilentPlayers now = .ok n') :
    (pid ∈ n.silentPlayers now → n'.Forgot pid) ∧
      (pid ∉ n.silentPlayers now → Hears pid n n') := by
  unfold evictSilentPlayers at h
  generalize n.silentPlayers now = pids at h
  induction pids generalizing n with
  | nil => cases h; exact ⟨fun hpid => absurd hpid List.not_mem_nil, fun _ => .refl pid _⟩
  | cons q pids ih =>
    rw [List.foldlM_cons] at h
    obtain ⟨m, hq, h⟩ := bind_eq_ok.mp h
    obtain ⟨hsilent, hothers⟩ := ih h
    constructor
    · intro hpid
      by_cases hrest : pid ∈ pids
      · exact hsilent hrest
      · obtain rfl := (List.mem_cons.mp hpid).resolve_right hrest
        exact (evictAndAnnounce_forgot hq).hears (hothers hrest)
    · intro hpid
      rw [List.mem_cons, not_or] at hpid
      obtain ⟨hne, hrest⟩ := hpid
      exact (evictAndAnnounce_hears hne hq).trans (hothers hrest)

/-! ## Frames -/

/-- The host lists the player, and has heard it at `heard` last. -/
structure Watches (pid : PlayerId) (heard : ℚ) (n : Node) : Prop where
  listed : pid ∈ n.roster.ids
  heard : n.lastInputTime.get? pid = some heard

theorem Watches.hears (h : n.Watches pid heard) (hears : Hears pid n n') : n'.Watches pid heard :=
  ⟨hears.listed.mpr h.listed, hears.heard.trans h.heard⟩

/-- A frame is a scan between calls that are not. -/
theorem processFrame_hears {f : FrameInput} (host : n.role = .host) (without : f.Without pid)
    (h : n.processFrame f = .ok n') :
    ∃ m m', Hears pid n m ∧ m.evictSilentPlayers f.now = .ok m' ∧ Hears pid m' n' := by
  obtain ⟨before, after, hcalls, hbefore, hafter⟩ : ∃ before after,
      f.hostCalls = before ++ .evictSilentPlayers :: after ∧
        .evictSilentPlayers ∉ before ∧ .evictSilentPlayers ∉ after := by
    refine ⟨_, _, (List.append_assoc _ _ _).trans (List.append_assoc _ _ _), ?_, ?_⟩ <;> simp
  rw [processFrame, host, FrameInput.calls, hcalls, List.map_append, List.map_cons, run,
    List.foldlM_append] at h
  obtain ⟨m, hfirst, h⟩ := bind_eq_ok.mp h
  obtain ⟨m', hscan, hlast⟩ := bind_eq_ok.mp h
  rw [FrameInput.Without, hcalls] at without
  refine ⟨m, m', run_hears (fun call hcall => ?_) hbefore hfirst, hscan,
    run_hears (fun call hcall => ?_) hafter hlast⟩
  · exact without call (List.mem_append_left _ hcall)
  · exact without call (List.mem_append_right _ (List.mem_cons_of_mem _ hcall))

theorem Watches.processFrame {f : FrameInput} (h : n.Watches pid heard) (host : n.role = .host)
    (without : f.Without pid) (hn' : n.processFrame f = .ok n') :
    (f.now ≤ heard + udpInputTimeout → n'.Watches pid heard) ∧
      (heard + udpInputTimeout < f.now → n'.Forgot pid) := by
  obtain ⟨m, m', hbefore, hscan, hafter⟩ := processFrame_hears host without hn'
  have hm := h.hears hbefore
  obtain ⟨hsilent, hothers⟩ : (pid ∈ m.silentPlayers f.now → m'.Forgot pid) ∧
      (pid ∉ m.silentPlayers f.now → Hears pid m m') := evictSilentPlayers_spec hscan
  rw [mem_silentPlayers_iff hm.heard] at hsilent hothers
  exact ⟨fun hearly => (hm.hears (hothers (not_lt.mpr hearly))).hears hafter,
    fun hlate => (hsilent hlate).hears hafter⟩

theorem Forgot.processFrame {f : FrameInput} (h : n.Forgot pid) (host : n.role = .host)
    (without : f.Without pid) (hn' : n.processFrame f = .ok n') : n'.Forgot pid := by
  obtain ⟨m, m', hbefore, hscan, hafter⟩ := processFrame_hears host without hn'
  have hm := h.hears hbefore
  refine (hm.hears ((evictSilentPlayers_spec hscan).2 fun hpid => ?_)).hears hafter
  obtain ⟨e, he, rfl⟩ := List.mem_map.mp hpid
  exact Dict.get?_eq_none_iff.mp hm.unheard (Dict.mem_keys_of_mem (List.mem_filter.mp he).1)

/-- Whom the host has forgotten it does not remember by itself. -/
theorem Forgot.run {frames : List FrameInput} (h : n.Forgot pid) (host : n.role = .host)
    (without : ∀ f ∈ frames, f.Without pid) (hn' : frames.foldlM Node.processFrame n = .ok n') :
    n'.Forgot pid := by
  have hkept := foldlM_keeps (P := fun m : Node => m.role = .host ∧ m.Forgot pid) ?_ hn' ⟨host, h⟩
  · exact hkept.2
  intro m f m' hf ⟨hm, hforgot⟩ hframe
  exact ⟨(processFrame_recasts hframe).isHost hm, hforgot.processFrame hm (without f hf) hframe⟩

theorem Watches.run {frames : List FrameInput} (h : n.Watches pid heard) (host : n.role = .host)
    (without : ∀ f ∈ frames, f.Without pid) (hn' : frames.foldlM Node.processFrame n = .ok n') :
    pid ∈ n'.roster.ids ↔ ∀ f ∈ frames, f.now ≤ heard + udpInputTimeout := by
  induction frames generalizing n with
  | nil => cases hn'; exact iff_of_true h.listed (List.forall_mem_nil _)
  | cons f frames ih =>
    rw [List.forall_mem_cons] at without ⊢
    rw [List.foldlM_cons] at hn'
    obtain ⟨n₁, hframe, hn'⟩ := bind_eq_ok.mp hn'
    have host₁ := (processFrame_recasts hframe).isHost host
    obtain ⟨hstays, hleaves⟩ := h.processFrame host without.1 hframe
    by_cases hearly : f.now ≤ heard + udpInputTimeout
    · rw [ih (hstays hearly) host₁ without.2 hn', and_iff_right hearly]
    · have hforgot := (hleaves (not_le.mp hearly)).run host₁ without.2 hn'
      exact iff_of_false hforgot.unlisted fun hall => hearly hall.1

/-- A host evicts a player from which nothing arrives in its first frame after the timeout, and not
before; it does not list it again, and nothing raises. -/
theorem silent_player_is_evicted {frames : List FrameInput} (sound : n.Sound)
    (host : n.role = .host) (watched : n.Watches pid heard) (named : ∀ f ∈ frames, f.Named)
    (without : ∀ f ∈ frames, f.Without pid) :
    ∃ n', frames.foldlM Node.processFrame n = .ok n' ∧
      (pid ∈ n'.roster.ids ↔ ∀ f ∈ frames, f.now ≤ heard + udpInputTimeout) := by
  obtain ⟨n', hn', -⟩ := achieves_foldlM (P := Node.Sound)
    (fun _ f hf hm => hm.processFrame (named f hf)) sound
  exact ⟨n', hn', watched.run host without hn'⟩

/-! ### A room in which one of three players falls silent -/

/-- The host, which has heard the second player at second `0` and the third one at second `5`. -/
def hostOfThree : Node :=
  { bootstrap {} .host "10.0.0.1" with
    sessionId := "room"
    roster := roomOfThree
    lastInputTime := .ofList [("player2", 0), ("player3", 5)] }

/-- The third player goes on sending. -/
def thirdPlaysOn : List FrameInput :=
  [{ now := 9 }, { now := 10, datagrams :=
      [(.ok (.playerInput ⟨"player3", 1, {}⟩), "10.0.0.3", 50012)] }, { now := 11 }]

theorem thirdPlaysOn_without : ∀ f ∈ thirdPlaysOn, f.Without "player2" := by
  intro f hf call hcall
  simp only [thirdPlaysOn, List.mem_cons, List.not_mem_nil, or_false] at hf
  rcases hf with rfl | rfl | rfl <;>
    simp only [FrameInput.hostCalls, List.head?_nil, List.map_nil, List.map_cons, List.append_nil,
      List.cons_append, List.nil_append, List.mem_cons, List.not_mem_nil, or_false] at hcall
  · rcases hcall with rfl | rfl | rfl | rfl | rfl | rfl <;> trivial
  · rcases hcall with rfl | rfl | rfl | rfl | rfl | rfl | rfl
    case inr.inr.inl => exact show "player3" ≠ "player2" by decide
    all_goals trivial
  · rcases hcall with rfl | rfl | rfl | rfl | rfl | rfl <;> trivial

theorem second_player_is_evicted : ∃ n', thirdPlaysOn.foldlM processFrame hostOfThree = .ok n' ∧
    "player2" ∉ n'.roster.ids := by
  have sound : hostOfThree.Sound :=
    { bootstrap_in_room (by decide) .host with inputTimes := by decide +kernel }
  have watched : hostOfThree.Watches "player2" 0 := ⟨by decide, rfl⟩
  have named : ∀ f ∈ thirdPlaysOn, f.Named := by
    intro f hf
    simp only [thirdPlaysOn, List.mem_cons, List.not_mem_nil, or_false] at hf
    rcases hf with rfl | rfl | rfl
    case inr.inl =>
      refine ⟨List.forall_mem_nil _, List.forall_mem_singleton.mpr ⟨_, rfl, ?_⟩,
        List.forall_mem_nil _, fun _ hnone => (nomatch hnone), List.forall_mem_nil _⟩
      exact show "player3" ≠ "" by decide
    all_goals exact FrameInput.named_idle _
  obtain ⟨n', hn', hlisted⟩ :=
    silent_player_is_evicted sound rfl watched named thirdPlaysOn_without
  refine ⟨n', hn', fun hpid => ?_⟩
  have hearly := hlisted.mp hpid { now := 11 } (by simp [thirdPlaysOn])
  exact absurd hearly (by decide +kernel)

end Node

end DistributedSmb
