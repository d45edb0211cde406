import DistributedSmb.Gameplay.CachedPlayers
import DistributedSmb.Gameplay.InputCaches
import DistributedSmb.Gameplay.Rejoining

/-!
# Clients that restart

A player that has joined again plays with a new client, whose packets are numbered from 1. What the
host remembers of the old client's packets goes with an eviction, and survives the replacement of
the player's entry.
-/

namespace DistributedSmb

open Library Fallible

/-- What a restarted client sends, with the clocks of its arrival: its numbers begin again at 1. -/
structure Restarted (pid : PlayerId) (packets : List (PlayerInputPacket × ℚ)) : Prop where
  own : ∀ x ∈ packets, x.1.playerId = pid
  positive : ∀ x ∈ packets, 1 ≤ x.1.sequenceNumber
  increasing : packets.Pairwise fun x y => x.1.sequenceNumber < y.1.sequenceNumber

namespace Node

/-- The packet becomes the player's input, and the player is not silent before the next timeout. -/
structure TakesIn (n : Node) (x : PlayerInputPacket × ℚ) : Prop where
  input : (n.takeInput x.1 x.2).cachedRemoteInputs.get? x.1.playerId = some x.1.inputState
  time : (n.takeInput x.1 x.2).lastInputTime.get? x.1.playerId = some x.2
  alive : ∀ now ≤ x.2 + udpInputTimeout, x.1.playerId ∉ (n.takeInput x.1 x.2).silentPlayers now

/-- Whatever a restarted client of the player sends is taken in. -/
def Playable (n : Node) (pid : PlayerId) : Prop :=
  ∀ packets, Restarted pid packets →
    Meets (fun (n : Node) (x : PlayerInputPacket × ℚ) => n.takeInput x.1 x.2) TakesIn n packets

theorem not_mem_silentPlayers {n : Node} {pid : PlayerId} {last now : ℚ}
    (h : n.lastInputTime.get? pid = some last) (hnow : now ≤ last + udpInputTimeout) :
    pid ∉ n.silentPlayers now := by
  intro hmem
  obtain ⟨e, he, rfl⟩ := List.mem_map.mp hmem
  obtain ⟨hentry, hlate⟩ := List.mem_filter.mp he
  obtain rfl : e.2 = last := Option.some.inj ((Dict.get?_eq_some_iff.mpr hentry).symm.trans h)
  have hlate : udpInputTimeout < now - e.2 := of_decide_eq_true hlate
  rw [lt_sub_iff_add_lt, add_comm] at hlate
  exact not_le.mpr hlate hnow

theorem takesIn_of_newer {n : Node} {x : PlayerInputPacket × ℚ}
    (newer : n.lastRemoteInputSequence.getD x.1.playerId (-1) < x.1.sequenceNumber) :
    n.TakesIn x ∧
      (n.takeInput x.1 x.2).lastRemoteInputSequence.getD x.1.playerId (-1) =
        x.1.sequenceNumber := by
  have htime : (n.takeInput x.1 x.2).lastInputTime.get? x.1.playerId = some x.2 := by
    rw [takeInput, if_neg (not_le.mpr newer), Dict.get?_set_self]
  refine ⟨⟨?_, htime, fun now hnow => not_mem_silentPlayers htime hnow⟩, ?_⟩
  · rw [takeInput, if_neg (not_le.mpr newer), Dict.get?_set_self]
  · rw [takeInput, if_neg (not_le.mpr newer), Dict.getD, Dict.get?_set_self, Option.getD_some]

/-- The numbers of a restarted client are new exactly if the host remembers none of its player. -/
theorem playable_iff {n : Node} {pid : PlayerId} :
    n.Playable pid ↔ n.lastRemoteInputSequence.getD pid (-1) ≤ 0 := by
  constructor
  · intro hplayable
    by_contra hlast
    -- a packet at a clock that the host does not remember
    obtain ⟨now, hfresh⟩ : ∃ now, n.lastInputTime.get? pid ≠ some now := by
      cases n.lastInputTime.get? pid with
      | none => exact ⟨0, by simp⟩
      | some last => exact ⟨last + 1, by simp⟩
    have hrestarted : Restarted pid [(⟨pid, 1, {}⟩, now)] := by
      refine ⟨?_, ?_, ?_⟩ <;> simp
    have htime := (hplayable _ hrestarted).1.time
    have hstale : (1 : ℤ) ≤ n.lastRemoteInputSequence.getD pid (-1) := by omega
    rw [takeInput, if_pos hstale] at htime
    exact hfresh htime
  · intro hlast packets hrestarted
    have hfirst : ∀ x ∈ packets, n.lastRemoteInputSequence.getD pid (-1) < x.1.sequenceNumber :=
      fun x hx => lt_of_le_of_lt hlast (hrestarted.positive x hx)
    clear hlast
    induction packets generalizing n with
    | nil => trivial
    | cons x packets ih =>
      obtain ⟨hown, hothers⟩ := List.forall_mem_cons.mp hrestarted.own
      obtain ⟨hlater, hincreasing⟩ := List.pairwise_cons.mp hrestarted.increasing
      subst hown
      obtain ⟨htaken, hlast⟩ := takesIn_of_newer (hfirst x List.mem_cons_self)
      refine ⟨htaken, ih ⟨hothers, ?_, hincreasing⟩ fun y hy => hlast ▸ hlater y hy⟩
      exact (List.forall_mem_cons.mp hrestarted.positive).2

/-- The host polls a roster that lists a player at an address which the host does not have. -/
structure Readmits (n m : Node) (roster : GlobalRoster) (e : RosterEntry) (now : ℚ) : Prop where
  polled : n.checkForRejoiningPlayers (some (.rosterUpdate roster)) now = .ok m
  listed : e ∈ roster.players
  remote : e.playerId ≠ n.localPlayerId
  moved : ∀ e₀ ∈ n.roster.players, e₀.joinIndex = e.joinIndex →
    (e₀.host, e₀.udpPort) ≠ (e.host, e.udpPort)

/-- The call receives no packet of the player and does not evict it. -/
def Undisturbed (pid : PlayerId) (n : Node) (c : ℚ × HostCall) : Prop :=
  match c.2 with
  | .remoteInput (.ok (.playerInput packet)) _ _ => packet.playerId ≠ pid
  | call => pid ∉ n.evictions ⟨c.1, .host call⟩

instance (pid : PlayerId) (n : Node) (c : ℚ × HostCall) : Decidable (n.Undisturbed pid c) := by
  unfold Undisturbed
  split <;> infer_instance

theorem checkForRejoiningPlayers_sequences {n m : Node} {message : Option WsMessage} {now : ℚ}
    (h : n.checkForRejoiningPlayers message now = .ok m) :
    m.lastRemoteInputSequence = n.lastRemoteInputSequence := by
  refine checkForRejoiningPlayers_keeps
    (P := fun m : Node => m.lastRemoteInputSequence = n.lastRemoteInputSequence)
    (fun m m' roster entry _ _ _ _ hm hrejoin => ?_) (fun _ _ hm => hm) h rfl
  rcases rejoin_cases hrejoin with ⟨-, rfl⟩ | ⟨-, -, roster, rfl⟩ <;>
    exact hm

/-- An undisturbed player's number stays. -/
theorem hostCall_sequence {n m : Node} {pid : PlayerId} {c : ℚ × HostCall}
    (undisturbed : n.Undisturbed pid c) (h : n.hostCall c.1 c.2 = .ok m) :
    m.lastRemoteInputSequence.get? pid = n.lastRemoteInputSequence.get? pid := by
  obtain ⟨now, call⟩ := c
  cases call with
  | checkForRejoiningPlayers message => rw [checkForRejoiningPlayers_sequences h]
  | playerDisconnected q =>
    rw [evictAndAnnounce_spec h]
    exact Dict.get?_erase_ne _ fun heq => undisturbed (by simp [evictions, heq])
  | evictSilentPlayers =>
    refine foldlM_keeps (P := fun m : Node => m.lastRemoteInputSequence.get? pid =
      n.lastRemoteInputSequence.get? pid) (fun m q m' hq hm hstep => ?_) h rfl
    rw [evictAndAnnounce_spec hstep]
    have hne : pid ≠ q := by
      rintro rfl
      exact undisturbed hq
    exact (Dict.get?_erase_ne _ hne).trans hm
  | remoteInput payload host port =>
    rcases onRemoteInput_caches h with ⟨same, -⟩ | ⟨packet, rfl, -, rfl⟩
    · have hsequences : m.lastRemoteInputSequence = n.lastRemoteInputSequence :=
        congrArg Prod.fst same
      rw [hsequences]
    · exact Dict.get?_set_ne _ (Ne.symm undisturbed) _
  | advance localInput enemyCommands =>
    obtain ⟨engine, -, h⟩ := bind_eq_ok.mp h
    cases h; rfl
  | sendGameEvents =>
    obtain ⟨messages, -, h⟩ := bind_eq_ok.mp h
    cases h; rfl
  | sendWorldStateSnapshot => cases h; rfl
  | maybeBroadcastRoster =>
    obtain ⟨out, rfl, -⟩ := maybeBroadcastRoster_spec h
    rfl

/-- A player that is readmitted can play exactly if the host remembers no packet of it when its
restarted client's packets arrive; if nothing else has happened to the player, exactly if the host
remembered none before it came back. -/
theorem rejoined_playable_iff {n m m₁ : Node} {roster : GlobalRoster} {e : RosterEntry} {now : ℚ}
    {calls : List (ℚ × HostCall)} (running : n.RunningHost) (named : roster.NamesSlots)
    (readmits : n.Readmits m roster e now)
    (onward : calls.foldlM (fun (n : Node) c => n.hostCall c.1 c.2) m = .ok m₁) :
    e.playerId ∈ m.roster.ids ∧
      (m₁.Playable e.playerId ↔ m₁.lastRemoteInputSequence.getD e.playerId (-1) ≤ 0) ∧
      (Along (fun (n : Node) c => n.hostCall c.1 c.2) (Undisturbed e.playerId) m calls →
        (m₁.Playable e.playerId ↔ n.lastRemoteInputSequence.getD e.playerId (-1) ≤ 0)) := by
  refine ⟨?_, playable_iff, fun undisturbed => ?_⟩
  · obtain ⟨⟨m', reentered⟩, hrejoin, hm⟩ := bind_eq_ok.mp readmits.polled
    have hids := (rejoinAll_spec running
      (fun e he => named e (GlobalRoster.mem_getAllPlayers.mp he)) hrejoin e.playerId).1
    have hroster : m.roster = m'.roster := by
      cases hm
      split <;> rfl
    rw [hroster, hids]
    exact .inr ⟨⟨e, GlobalRoster.mem_getAllPlayers.mpr readmits.listed, rfl⟩, readmits.remote⟩
  · have hkept : m₁.lastRemoteInputSequence.get? e.playerId =
        m.lastRemoteInputSequence.get? e.playerId :=
      foldlM_keeps_along (P := fun m₁ : Node => m₁.lastRemoteInputSequence.get? e.playerId =
        m.lastRemoteInputSequence.get? e.playerId)
        (fun m c m' _ hundisturbed hm hstep => (hostCall_sequence hundisturbed hstep).trans hm)
        undisturbed onward rfl
    rw [playable_iff, Dict.getD, hkept, checkForRejoiningPlayers_sequences readmits.polled,
      ← Dict.getD]

/-! ### A quick restart -/

/-- The guest's client has sent some packets, the last of them at the clock 0. -/
def roomHostAfter (last : ℤ) : Node :=
  { roomHost with
    lastRemoteInputSequence := Dict.ofList [("player2", last)]
    lastInputTime := Dict.ofList [("player2", 0)] }

theorem roomHostAfter_running (last : ℤ) : (roomHostAfter last).RunningHost :=
  ⟨roomHost_running.authoritative, roomHost_running.keyed, roomHost_running.slots.of_slots rfl⟩

/-- The guest's new client has another port. -/
def movedGuest : RosterEntry := { secondPlayer with udpPort := 50099 }

theorem readmits_movedGuest {n m : Node} (hlocal : n.localPlayerId = "player1")
    (hroster : ∀ e ∈ n.roster.players, e = firstHost ∨ e = secondPlayer)
    (h : n.checkForRejoiningPlayers (some (.rosterUpdate ⟨[firstHost, movedGuest]⟩)) 1 = .ok m) :
    n.Readmits m ⟨[firstHost, movedGuest]⟩ movedGuest 1 where
  polled := h
  listed := by simp
  remote := by rw [hlocal]; decide
  moved e he := by
    rcases hroster e he with rfl | rfl <;> decide

/-- Evicted before it comes back, the guest can play. -/
theorem evicted_guest_can_play : ∃ n m,
    (roomHostAfter 500).evictAndAnnounce "player2" = .ok n ∧
    n.checkForRejoiningPlayers (some (.rosterUpdate ⟨[firstHost, movedGuest]⟩)) 1 = .ok m ∧
    m.Playable "player2" := by
  obtain ⟨n, hn, hcheck⟩ := exists_of_okAnd (x := (roomHostAfter 500).evictAndAnnounce "player2")
    (p := fun n => okAnd
      (n.checkForRejoiningPlayers (some (.rosterUpdate ⟨[firstHost, movedGuest]⟩)) 1)
      fun _ => decide (n.localPlayerId = "player1" ∧ n.roster.players = [firstHost] ∧
        n.lastRemoteInputSequence.getD "player2" (-1) ≤ 0)) (by decide +kernel)
  obtain ⟨m, hm, hcheck⟩ := exists_of_okAnd hcheck
  obtain ⟨hlocal, hroster, hforgotten⟩ := of_decide_eq_true hcheck
  have hrunning : n.RunningHost := (roomHostAfter_running 500).hostCall
    (show TimedCall.NamesSlots ⟨1, .host (.playerDisconnected "player2")⟩ from trivial) hn
  have hreadmits := readmits_movedGuest hlocal (by simp [hroster]) hm
  exact ⟨n, m, hn, hm, ((rejoined_playable_iff hrunning (by decide) hreadmits
    (show [].foldlM (fun (n : Node) (c : ℚ × HostCall) => n.hostCall c.1 c.2) m =
      .ok m from rfl)).2.2 trivial).mpr hforgotten⟩

/-- It restarts before the host has evicted it: the host goes on waiting for packet 501, and evicts
the guest in the end although it keeps sending. -/
theorem restarted_guest_is_ignored : ∃ m,
    (roomHostAfter 500).checkForRejoiningPlayers
      (some (.rosterUpdate ⟨[firstHost, movedGuest]⟩)) 1 = .ok m ∧
    (roomHostAfter 500).Readmits m ⟨[firstHost, movedGuest]⟩ movedGuest 1 ∧
    ¬ m.Playable "player2" ∧
    (m.takeInput ⟨"player2", 1, { right := true }⟩ 2).cachedRemoteInputs.get? "player2" = none ∧
    "player2" ∈ (m.takeInput ⟨"player2", 1, { right := true }⟩ 11).silentPlayers (23 / 2) := by
  obtain ⟨m, hm, hcheck⟩ := exists_of_okAnd
    (x := (roomHostAfter 500).checkForRejoiningPlayers
      (some (.rosterUpdate ⟨[firstHost, movedGuest]⟩)) 1)
    (p := fun m => decide (¬ m.lastRemoteInputSequence.getD "player2" (-1) ≤ 0 ∧
      (m.takeInput ⟨"player2", 1, { right := true }⟩ 2).cachedRemoteInputs.get? "player2" = none ∧
      "player2" ∈ (m.takeInput ⟨"player2", 1, { right := true }⟩ 11).silentPlayers (23 / 2)))
    (by decide +kernel)
  obtain ⟨hlast, hinput, hsilent⟩ := of_decide_eq_true hcheck
  have hreadmits : (roomHostAfter 500).Readmits m ⟨[firstHost, movedGuest]⟩ movedGuest 1 :=
    readmits_movedGuest rfl (fun e he => by simpa [roomHostAfter, roomHost] using he) hm
  exact ⟨m, hm, hreadmits, fun h => hlast (playable_iff.mp h), hinput, hsilent⟩

end Node

end DistributedSmb
