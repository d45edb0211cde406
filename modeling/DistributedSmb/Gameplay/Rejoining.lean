import DistributedSmb.Domain.Respawns
import DistributedSmb.Election.RejoinSlots

/-!
# Players that come back

`_check_for_rejoining_players` takes every entry of a polled roster for a player that has joined
again. The lobby lists a player until it says that it leaves, so an entry may also be that of a
player which the host has evicted.
-/

namespace DistributedSmb

open Library Fallible

namespace Node

/-! ## The entries of a roster -/

/-- After an entry of a player with a slot of its own, the player is in the roster; nobody else has
come or gone. -/
theorem mem_ids_rejoin {n n' : Node} {entry : RosterEntry} {now : ℚ} {b : Bool}
    (known : n.KnowsSlots) (named : entry.playerId = playerIdFor entry.joinIndex)
    (h : n.rejoin entry now = .ok (n', b)) (pid : PlayerId) :
    pid ∈ n'.roster.ids ↔
      pid ∈ n.roster.ids ∨ (pid = entry.playerId ∧ pid ≠ n.localPlayerId) := by
  simp only [rejoin] at h
  split at h
  case isTrue own =>
    cases h
    refine (or_iff_left ?_).symm
    rintro ⟨rfl, other⟩
    exact other own
  case isFalse other =>
    have hself : pid = entry.playerId ∧ pid ≠ n.localPlayerId ↔ pid = entry.playerId :=
      and_iff_left_of_imp fun heq => heq ▸ other
    -- whoever has the slot is the player itself
    have hexisting {e : RosterEntry} (he : n.roster.getAllPlayers.find?
        (fun e => e.joinIndex = entry.joinIndex) = some e) :
        e ∈ n.roster.players ∧ e.playerId = entry.playerId := by
      have hmem := GlobalRoster.mem_getAllPlayers.mp (List.mem_of_find?_eq_some he)
      have hindex : e.joinIndex = entry.joinIndex := by simpa using List.find?_some he
      exact ⟨hmem, by rw [(known.listed e hmem).2, hindex, named]⟩
    rw [hself]
    generalize n.roster.getAllPlayers.find? (fun e => e.joinIndex = entry.joinIndex) = existing
      at h hexisting
    have hsame (e : RosterEntry) (he : existing = some e) : e.playerId = entry.playerId :=
      (hexisting he).2
    split at h
    case isTrue refused =>
      obtain ⟨e, he, hne⟩ := (Option.any_eq_true _ _).mp refused
      exact absurd (hsame e he) (by simpa using hne)
    split at h
    case isTrue unchanged =>
      cases h
      obtain ⟨e, he, -⟩ := (Option.any_eq_true _ _).mp unchanged
      refine (or_iff_left_of_imp ?_).symm
      rintro rfl
      exact GlobalRoster.mem_ids.mpr ⟨e, hexisting he⟩
    case isFalse =>
      obtain ⟨roster, hroster, h⟩ := bind_eq_ok.mp h
      cases h
      exact ids_replaceInRoster hsame hroster pid

/-- A player that is put into the world is the entry's. -/
theorem mem_restorePlayer {g : GameEngine} {restored : Option Player} {known : Bool}
    {entry : RosterEntry} {pid : PlayerId}
    (h : pid ∈ (restorePlayer g restored known entry).worldState.characters) :
    pid ∈ g.worldState.characters ∨ pid = entry.playerId := by
  cases restored with
  | some p => exact (Dict.mem_set.mp h).symm
  | none =>
    cases known with
    | true => exact .inl h
    | false => exact (Dict.mem_set.mp h).symm

/-- What one entry does: nothing, or its player re-enters the game. -/
theorem rejoin_cases {n n' : Node} {entry : RosterEntry} {now : ℚ} {reentered : Bool}
    (h : n.rejoin entry now = .ok (n', reentered)) :
    reentered = false ∧ n' = n ∨
      (reentered = true ∧ entry.playerId ≠ n.localPlayerId ∧ ∃ roster, n' = { n with
        rejoinStates := n.rejoinStates.erase entry.joinIndex
        roster := roster
        engine := restorePlayer n.engine (n.rejoinStates.get? entry.joinIndex)
          (n.roster.getAllPlayers.find? fun e => e.joinIndex = entry.joinIndex).isSome entry
        lastInputTime := n.lastInputTime.set entry.playerId now }) := by
  simp only [rejoin] at h
  split at h
  · cases h; exact .inl ⟨rfl, rfl⟩
  case isFalse other =>
    split at h
    · cases h; exact .inl ⟨rfl, rfl⟩
    split at h
    · cases h; exact .inl ⟨rfl, rfl⟩
    obtain ⟨roster, -, h⟩ := bind_eq_ok.mp h
    cases h
    exact .inr ⟨rfl, other, roster, rfl⟩

/-! ## Running hosts -/

/-- A host in a game: its world is authoritative, and it knows its slots. -/
structure RunningHost (n : Node) : Prop where
  authoritative : n.engine.isAuthoritative = true
  keyed : n.engine.worldState.Keyed
  slots : n.KnowsSlots

theorem restorePlayer_authoritative (g : GameEngine) (restored : Option Player) (known : Bool)
    (entry : RosterEntry) :
    (restorePlayer g restored known entry).isAuthoritative = g.isAuthoritative := by
  cases restored with
  | some p => rfl
  | none => cases known <;> rfl

theorem RunningHost.rejoin {n n' : Node} {entry : RosterEntry} {now : ℚ} {b : Bool}
    (hn : n.RunningHost) (slot : entry.joinIndex < maxPlayers)
    (named : entry.playerId = playerIdFor entry.joinIndex) (h : n.rejoin entry now = .ok (n', b)) :
    n'.RunningHost := by
  have hslots := hn.slots.act (rejoin_act hn.slots slot named h)
  rcases rejoin_cases h with ⟨-, rfl⟩ | ⟨-, -, roster, rfl⟩
  · exact hn
  · exact ⟨(restorePlayer_authoritative _ _ _ _).trans hn.authoritative,
      (restorePlayer_spec hn.keyed _ _ entry).1, hslots⟩

theorem RunningHost.hostCall {n n' : Node} {now : ℚ} {call : HostCall} (hn : n.RunningHost)
    (named : TimedCall.NamesSlots ⟨now, .host call⟩) (h : n.hostCall now call = .ok n') :
    n'.RunningHost := by
  have hslots := hn.slots.deeds (hostCall_deeds named h)
  cases call with
  | checkForRejoiningPlayers message =>
    refine checkForRejoiningPlayers_keeps (P := RunningHost)
      (fun m m' roster entry _ _ hmessage hentry hm hrejoin => ?_)
      (fun _ _ hm => ⟨hm.authoritative, hm.keyed, hm.slots.of_slots rfl⟩) h hn
    subst hmessage
    exact hm.rejoin (named entry hentry).1 (named entry hentry).2 hrejoin
  | playerDisconnected pid =>
    rw [evictAndAnnounce_spec h] at hslots ⊢
    exact ⟨hn.authoritative, hn.keyed.removePlayer pid, hslots⟩
  | evictSilentPlayers =>
    have hkept := foldlM_keeps (P := fun m : Node => m.engine.isAuthoritative = true ∧
      m.engine.worldState.Keyed) (fun m pid m' _ hm hstep => by
        rw [evictAndAnnounce_spec hstep]
        exact ⟨hm.1, hm.2.removePlayer pid⟩) h ⟨hn.authoritative, hn.keyed⟩
    exact ⟨hkept.1, hkept.2, hslots⟩
  | remoteInput payload host port =>
    obtain ⟨-, hengine, -⟩ := onRemoteInput_spec h
    exact ⟨hengine ▸ hn.authoritative, hengine ▸ hn.keyed, hslots⟩
  | advance localInput enemyCommands =>
    obtain ⟨engine, htick, h⟩ := bind_eq_ok.mp h
    cases h
    exact ⟨(GameEngine.tick_isAuthoritative htick).trans hn.authoritative,
      (GameEngine.tick_participants hn.keyed htick).1, hslots⟩
  | sendGameEvents =>
    obtain ⟨messages, -, h⟩ := bind_eq_ok.mp h
    cases h
    exact ⟨hn.authoritative, hn.keyed, hslots⟩
  | sendWorldStateSnapshot => cases h; exact ⟨hn.authoritative, hn.keyed, hslots⟩
  | maybeBroadcastRoster =>
    obtain ⟨out, rfl, -⟩ := maybeBroadcastRoster_spec h
    exact ⟨hn.authoritative, hn.keyed, hslots⟩

/-! ## Coming back -/

/-- The player has neither an entry nor a character. -/
def Away (n : Node) (pid : PlayerId) : Prop :=
  pid ∉ n.roster.ids ∧ pid ∉ n.engine.worldState.characters

/-- The call brings the player back: a polled roster lists it, or its respawn is due. -/
def BringsBack (n : Node) (pid : PlayerId) (now : ℚ) : HostCall → Prop
  | .checkForRejoiningPlayers (some (.rosterUpdate roster)) =>
    pid ∈ roster.ids ∧ pid ≠ n.localPlayerId
  | .advance _ _ =>
    n.engine.worldState.victory = false ∧
      (n.engine.worldState.respawnTimers.get? pid).any (· ≤ now) = true
  | _ => False

instance (n : Node) (pid : PlayerId) (now : ℚ) : DecidablePred (n.BringsBack pid now) := by
  intro call
  unfold BringsBack
  split <;> infer_instance

theorem Away.evictPlayer {n : Node} {pid q : PlayerId} (h : n.Away pid) (out : List Outgoing) :
    ((n.evictPlayer q).send out).Away pid :=
  ⟨fun hpid => h.1 (GlobalRoster.mem_ids_removePlayer.mp hpid).1,
    fun hpid => h.2 (Dict.mem_erase.mp hpid).1⟩

/-- The entries of a roster are taken one after the other. -/
theorem rejoinAll_spec {n n' : Node} {entries : List RosterEntry} {now : ℚ} {b : Bool}
    (hn : n.RunningHost)
    (named : ∀ e ∈ entries, e.joinIndex < maxPlayers ∧ e.playerId = playerIdFor e.joinIndex)
    (h : n.rejoinAll entries now = .ok (n', b)) (pid : PlayerId) :
    (pid ∈ n'.roster.ids ↔
      pid ∈ n.roster.ids ∨ ((∃ e ∈ entries, e.playerId = pid) ∧ pid ≠ n.localPlayerId)) ∧
    (pid ∈ n'.engine.worldState.characters →
      pid ∈ n.engine.worldState.characters ∨
        ((∃ e ∈ entries, e.playerId = pid) ∧ pid ≠ n.localPlayerId)) := by
  unfold rejoinAll at h
  generalize false = b₀ at h
  induction entries generalizing n b₀ with
  | nil => cases h; simp
  | cons entry entries ih =>
    obtain ⟨⟨hslot, hname⟩, hnamed⟩ := List.forall_mem_cons.mp named
    rw [List.foldlM_cons] at h
    obtain ⟨⟨m, b₁⟩, hstep, h⟩ := bind_eq_ok.mp h
    obtain ⟨⟨m₁, reentered⟩, hrejoin, hstep⟩ := bind_eq_ok.mp hstep
    cases hstep
    have hlocal : m.localPlayerId = n.localPlayerId := congrArg Prod.fst (rejoin_standing hrejoin)
    obtain ⟨hids, hcharacters⟩ := ih (hn.rejoin hslot hname hrejoin) hnamed _ h
    refine ⟨?_, fun hpid => ?_⟩
    · rw [hids, mem_ids_rejoin hn.slots hname hrejoin pid, hlocal, List.exists_mem_cons_iff]
      grind
    · rcases hcharacters hpid with hpid | ⟨⟨e, he, rfl⟩, hother⟩
      · rcases rejoin_cases hrejoin with ⟨-, rfl⟩ | ⟨-, hother, roster, rfl⟩
        · exact .inl hpid
        · refine (mem_restorePlayer hpid).imp_right fun heq => ?_
          exact ⟨⟨entry, List.mem_cons_self, heq.symm⟩, heq ▸ hother⟩
      · exact .inr ⟨⟨e, List.mem_cons_of_mem _ he, rfl⟩, hlocal ▸ hother⟩

/-- A tick that does not find the player's respawn due leaves it out of the world. -/
theorem tick_away_iff {g g' : GameEngine} {args : GameEngine.TickArgs} {pid : PlayerId}
    (authoritative : g.isAuthoritative = true) (keyed : g.worldState.Keyed)
    (absent : pid ∉ g.worldState.characters) (h : g.tick args = .ok g') :
    pid ∉ g'.worldState.characters ↔ ¬ (g.worldState.victory = false ∧
      (g.worldState.respawnTimers.get? pid).any (· ≤ args.now) = true) := by
  cases htimer : g.worldState.respawnTimers.get? pid with
  | none =>
    have hgone : ¬ g.Present pid := not_or.mpr ⟨absent, Dict.get?_eq_none_iff.mp htimer⟩
    have hpresent := (GameEngine.tick_participants keyed h).2 pid
    refine iff_of_true (fun hpid => hgone (hpresent.mp (.inl hpid))) (by simp)
  | some due =>
    have hwaits : g.Waits pid due := ⟨absent, htimer⟩
    by_cases hdue : due ≤ args.now
    · cases hvictory : g.worldState.victory with
      | false =>
        have hback := GameEngine.tick_respawns authoritative keyed hwaits hvictory hdue h
        refine iff_of_false (fun hpid => hpid (Dict.mem_of_get?_eq_some hback)) ?_
        simpa using hdue
      | true =>
        rw [GameEngine.tick, if_pos hvictory] at h
        cases h
        exact iff_of_true absent (by simp)
    · refine iff_of_true (GameEngine.tick_spares keyed hwaits (not_le.mp hdue) h).2.absent ?_
      simpa using fun _ => not_le.mp hdue

/-- A host call leaves an absent player away exactly if it does not bring it back. -/
theorem hostCall_away_iff {n n' : Node} {now : ℚ} {call : HostCall} {pid : PlayerId}
    (hn : n.RunningHost) (named : TimedCall.NamesSlots ⟨now, .host call⟩) (away : n.Away pid)
    (h : n.hostCall now call = .ok n') : n'.Away pid ↔ ¬ n.BringsBack pid now call := by
  have settled (hroster : n'.roster = n.roster)
      (hcharacters : n'.engine.worldState.characters = n.engine.worldState.characters) :
      n'.Away pid := by
    rwa [Away, hroster, hcharacters]
  cases call with
  | checkForRejoiningPlayers message =>
    by_cases hupdate : ∃ roster, message = some (.rosterUpdate roster)
    · obtain ⟨roster, rfl⟩ := hupdate
      obtain ⟨⟨m, reentered⟩, hrejoin, h⟩ := bind_eq_ok.mp h
      obtain ⟨hids, hcharacters⟩ := rejoinAll_spec hn
        (fun e he => named e (GlobalRoster.mem_getAllPlayers.mp he)) hrejoin pid
      have hlisted : (∃ e ∈ roster.getAllPlayers, e.playerId = pid) ↔ pid ∈ roster.ids := by simp
      have hsame : n'.Away pid ↔ m.Away pid := by
        cases h
        split <;> rfl
      rw [hlisted] at hids hcharacters
      rw [hsame]
      constructor
      · exact fun hm hback => hm.1 (hids.mpr (.inr hback))
      · intro hback
        exact ⟨fun hpid => (hids.mp hpid).elim away.1 hback,
          fun hpid => (hcharacters hpid).elim away.2 hback⟩
    · have hquiet : n' = n := by
        simp only [Node.hostCall, checkForRejoiningPlayers] at h
        split at h
        case h_1 roster => exact (hupdate ⟨roster, rfl⟩).elim
        case h_2 => cases h; rfl
      refine iff_of_true (hquiet ▸ away) ?_
      unfold BringsBack
      split
      case h_1 heq => cases heq; exact (hupdate ⟨_, rfl⟩).elim
      case h_2 heq => cases heq
      case h_3 => exact id
  | playerDisconnected q =>
    rw [evictAndAnnounce_spec h]
    exact iff_of_true (away.evictPlayer _) id
  | evictSilentPlayers =>
    refine iff_of_true (foldlM_keeps (P := fun m : Node => m.Away pid)
      (fun m q m' _ hm hstep => ?_) h away) id
    rw [evictAndAnnounce_spec hstep]
    exact hm.evictPlayer _
  | remoteInput payload host port =>
    obtain ⟨-, hengine, hroster⟩ := onRemoteInput_spec h
    exact iff_of_true (settled hroster (by rw [hengine])) id
  | advance localInput enemyCommands =>
    obtain ⟨engine, htick, h⟩ := bind_eq_ok.mp h
    cases h
    have habsent := tick_away_iff hn.authoritative hn.keyed away.2 htick
    exact (and_iff_right away.1).trans habsent
  | sendGameEvents =>
    obtain ⟨messages, -, h⟩ := bind_eq_ok.mp h
    cases h
    exact iff_of_true (settled rfl rfl) id
  | sendWorldStateSnapshot =>
    cases h
    exact iff_of_true (settled rfl rfl) id
  | maybeBroadcastRoster =>
    obtain ⟨out, rfl, -⟩ := maybeBroadcastRoster_spec h
    exact iff_of_true (settled rfl rfl) id

end Node

/-! ## After an eviction -/

/-- What follows an eviction: calls of the host, and the player's requests to join again. -/
inductive Aftermath where
  | call (now : ℚ) (call : HostCall)
  | sessionJoin

/-- The host, and whether the player has sent a `SESSION_JOIN` since its eviction. -/
structure EvictionWatch where
  host : Node
  joined : Bool := false

namespace EvictionWatch

def step (s : EvictionWatch) : Aftermath → Except PyError EvictionWatch
  | .call now call => do
    let host ← s.host.hostCall now call
    .ok { s with host := host }
  | .sessionJoin => .ok { s with joined := true }

/-- Until it asks to join again, the player is away. -/
def StaysOut (pid : PlayerId) (s : EvictionWatch) : Prop := s.joined = false → s.host.Away pid

/-- Until then, no call brings it back. -/
def LeavesOut (pid : PlayerId) (s : EvictionWatch) : Aftermath → Prop
  | .call now call => s.joined = false → ¬ s.host.BringsBack pid now call
  | .sessionJoin => True

instance (pid : PlayerId) (s : EvictionWatch) : DecidablePred (s.LeavesOut pid) := by
  intro x
  cases x <;> unfold LeavesOut <;> infer_instance

end EvictionWatch

def Aftermath.NamesSlots : Aftermath → Prop
  | .call now hostCall => TimedCall.NamesSlots ⟨now, .host hostCall⟩
  | .sessionJoin => True

namespace Node

/-- An evicted player stays out until it joins again exactly if until then no polled roster lists it
and no respawn of it comes due. -/
theorem eviction_lasts_iff {n m : Node} {pid : PlayerId} {events : List Aftermath}
    {s : EvictionWatch} (running : n.RunningHost) (evicted : n.evictAndAnnounce pid = .ok m)
    (named : ∀ x ∈ events, x.NamesSlots)
    (hrun : events.foldlM EvictionWatch.step ⟨m, false⟩ = .ok s) :
    Throughout EvictionWatch.step (EvictionWatch.StaysOut pid) ⟨m, false⟩ events ↔
      Along EvictionWatch.step (EvictionWatch.LeavesOut pid) ⟨m, false⟩ events := by
  have hcall : n.hostCall 0 (.playerDisconnected pid) = .ok m := evicted
  have hnamed : TimedCall.NamesSlots ⟨0, .host (.playerDisconnected pid)⟩ := trivial
  have hm : m.RunningHost := running.hostCall hnamed hcall
  have haway : m.Away pid := by
    rw [evictAndAnnounce_spec evicted]
    exact ⟨fun hpid => (GlobalRoster.mem_ids_removePlayer.mp hpid).2 rfl,
      fun hpid => (Dict.mem_erase.mp hpid).2 rfl⟩
  refine throughout_iff_along (I := fun s : EvictionWatch => s.host.RunningHost)
    (fun s x t hx hs hout hstep => ?_) hrun hm (fun _ => haway)
  cases x with
  | call now call =>
    obtain ⟨host, hcall, hstep⟩ := bind_eq_ok.mp hstep
    cases hstep
    refine ⟨hs.hostCall (named _ hx) hcall, ?_⟩
    exact forall_congr' fun waiting => hostCall_away_iff hs (named _ hx) (hout waiting) hcall
  | sessionJoin =>
    cases hstep
    exact ⟨hs, iff_of_true (fun waiting => by cases waiting) trivial⟩

end Node

/-! ### A dropped connection -/

/-- The host of a room with one guest. -/
def roomHost : Node where
  engine :=
    { worldState :=
        { characters := Dict.ofList
            [("player1", { playerId := "player1" }),
              ("player2", { playerId := "player2", joinIndex := 1 })] } }
  roster := ⟨[firstHost, secondPlayer]⟩
  sessionId := "room"
  localIp := "10.0.0.1"
  role := .host
  localPlayerId := "player1"
  remoteHost := "10.0.0.1"

theorem roomHost_running : roomHost.RunningHost where
  authoritative := rfl
  keyed := by unfold WorldState.Keyed; decide +kernel
  slots :=
    { session := show "room" ≠ "" by decide
      address := show "10.0.0.1" ≠ "" by decide
      own := show 0 < maxPlayers by decide
      ownName := show "player1" = playerIdFor (0 : ℕ) by decide
      listed := show GlobalRoster.NamesSlots ⟨[firstHost, secondPlayer]⟩ by decide
      saved i hi := absurd hi (Dict.not_mem_empty i) }

def thirdEntry : RosterEntry := ⟨"player3", "10.0.0.3", 50012, 2, .connected, false⟩

/-- The guest leaves the room. -/
def guestLeaves : List (LobbyStep LobbyPeer) :=
  openRoom ++ [.receive .guest (.sessionLeave ⟨"room", 1⟩) ""]

/-- The connection of the guest is lost; then somebody else joins. -/
def guestDrops : List (LobbyStep LobbyPeer) :=
  openRoom ++ [.disconnect .guest,
    .receive .latecomer (.sessionJoin ⟨"room", "player3", "10.0.0.3", 50012, none⟩) "",
    .resume .latecomer false]

/-- The poll of the roster that the lobby sends then. -/
def pollOf (roster : GlobalRoster) : List Aftermath :=
  [.call 1 (.checkForRejoiningPlayers (some (.rosterUpdate roster)))]

theorem evicted_guest_stays_out : ∃ m,
    roomHost.evictAndAnnounce "player2" = .ok m ∧
    .sent .host (.rosterUpdate ⟨[firstHost]⟩) ∈
      (Lobby.run {} guestLeaves).log ∧
    Throughout EvictionWatch.step (EvictionWatch.StaysOut "player2") ⟨m, false⟩
      (pollOf ⟨[firstHost]⟩) := by
  obtain ⟨m, hm, hcheck⟩ := exists_of_okAnd (x := roomHost.evictAndAnnounce "player2")
    (p := fun m => okAnd ((pollOf ⟨[firstHost]⟩).foldlM EvictionWatch.step ⟨m, false⟩)
      fun _ => decide (Along EvictionWatch.step (EvictionWatch.LeavesOut "player2") ⟨m, false⟩
        (pollOf ⟨[firstHost]⟩))) (by decide +kernel)
  obtain ⟨s, hrun, hleaves⟩ := exists_of_okAnd hcheck
  have hnamed : ∀ x ∈ pollOf ⟨[firstHost]⟩, x.NamesSlots := by
    intro x hx
    obtain rfl := List.mem_singleton.mp hx
    exact show GlobalRoster.NamesSlots ⟨[firstHost]⟩ by decide
  exact ⟨m, hm, by decide +kernel,
    (Node.eviction_lasts_iff roomHost_running hm hnamed hrun).mpr (of_decide_eq_true hleaves)⟩

/-- The host has evicted the guest, and hears of it again when somebody else joins. -/
theorem dropped_guest_comes_back : ∃ m s,
    roomHost.evictAndAnnounce "player2" = .ok m ∧
    .sent .host (.rosterUpdate ⟨[firstHost, secondPlayer, thirdEntry]⟩) ∈
      (Lobby.run {} guestDrops).log ∧
    (pollOf ⟨[firstHost, secondPlayer, thirdEntry]⟩).foldlM EvictionWatch.step ⟨m, false⟩ = .ok s ∧
    s.joined = false ∧ "player2" ∈ s.host.roster.ids ∧
    "player2" ∈ s.host.engine.worldState.characters ∧
    ¬ Throughout EvictionWatch.step (EvictionWatch.StaysOut "player2") ⟨m, false⟩
      (pollOf ⟨[firstHost, secondPlayer, thirdEntry]⟩) := by
  obtain ⟨m, hm, hcheck⟩ := exists_of_okAnd (x := roomHost.evictAndAnnounce "player2")
    (p := fun m => okAnd ((pollOf ⟨[firstHost, secondPlayer, thirdEntry]⟩).foldlM
      EvictionWatch.step ⟨m, false⟩) fun s => decide (s.joined = false ∧
        "player2" ∈ s.host.roster.ids ∧ "player2" ∈ s.host.engine.worldState.characters))
    (by decide +kernel)
  obtain ⟨s, hrun, hback⟩ := exists_of_okAnd hcheck
  obtain ⟨hwaiting, hlisted, halive⟩ := of_decide_eq_true hback
  refine ⟨m, s, hm, by decide +kernel, hrun, hwaiting, hlisted, halive, fun hout => ?_⟩
  rw [pollOf, List.foldlM_cons] at hrun
  obtain ⟨t, ht, hrun⟩ := bind_eq_ok.mp hrun
  cases hrun
  exact ((hout.2 s ht).start hwaiting).1 hlisted

end DistributedSmb
