import DistributedSmb.Gameplay.Rejoining

/-!
# The addresses of peers

A client learns its peers from the host's roster broadcasts, one `_merge_roster` after the other. A
merge adds join indices that are not known and leaves the others as they are, so a peer that has
come back at another address keeps its old one until the client has evicted it.
-/

namespace DistributedSmb

open Library Fallible

/-- What a successful series of additions adds: all of them, with join indices that are new. -/
theorem foldlM_addPlayer_spec {entries : List RosterEntry} {r r' : GlobalRoster}
    (h : entries.foldlM GlobalRoster.addPlayer r = .ok r') :
    r'.players = r.players ++ entries ∧ (entries.map RosterEntry.joinIndex).Nodup ∧
      ∀ e ∈ r.players, e.joinIndex ∉ entries.map RosterEntry.joinIndex := by
  induction entries generalizing r with
  | nil => cases h; simp
  | cons entry entries ih =>
    rw [List.foldlM_cons] at h
    obtain ⟨r₁, hadd, h⟩ := bind_eq_ok.mp h
    obtain ⟨hplayers, hnodup, hnew⟩ := ih h
    have hfree : ∀ e ∈ r.players, e.joinIndex ≠ entry.joinIndex := by
      intro e he hsame
      have htaken : r.players.any (fun e => e.joinIndex = entry.joinIndex) = true :=
        List.any_eq_true.mpr ⟨e, he, by simpa using hsame⟩
      rw [GlobalRoster.addPlayer, if_pos htaken] at hadd
      cases hadd
    rw [GlobalRoster.addPlayer_eq_ok hadd] at hplayers hnew
    rw [List.map_cons, List.nodup_cons]
    refine ⟨by rw [hplayers, List.append_assoc]; rfl,
      ⟨hnew entry (List.mem_append_right _ List.mem_cons_self), hnodup⟩, fun e he => ?_⟩
    exact List.not_mem_cons_of_ne_of_not_mem (hfree e he) (hnew e (List.mem_append_left _ he))

namespace Node

/-- The entries that a merge adds. -/
def Learns (n : Node) (roster : GlobalRoster) (e : RosterEntry) : Prop :=
  e ∈ roster.players ∧ (∀ e' ∈ n.roster.players, e'.joinIndex ≠ e.joinIndex) ∧
    e.playerId ≠ n.localPlayerId

theorem mem_mergeRoster {n n' : Node} {roster : GlobalRoster} (h : n.mergeRoster roster = .ok n') :
    n'.localPlayerId = n.localPlayerId ∧
      (∀ e, e ∈ n'.roster.players ↔ e ∈ n.roster.players ∨ n.Learns roster e) ∧
      ∀ e e', n.Learns roster e → n.Learns roster e' → e.joinIndex = e'.joinIndex → e = e' := by
  obtain ⟨merged, hmerged, h⟩ := bind_eq_ok.mp h
  cases h
  obtain ⟨hplayers, hnodup, -⟩ := foldlM_addPlayer_spec hmerged
  have hlearns (e : RosterEntry) : (e ∈ roster.getAllPlayers.filter fun e =>
      e.joinIndex ∉ n.roster.players.map RosterEntry.joinIndex && e.playerId ≠ n.localPlayerId) ↔
      n.Learns roster e := by
    simp [Learns]
  refine ⟨rfl, fun e => ?_, fun e e' he he' hsame => ?_⟩
  · rw [hplayers, List.mem_append, hlearns]
  · exact List.inj_on_of_nodup_map hnodup ((hlearns e).mpr he) ((hlearns e').mpr he') hsame

/-- The node has an entry for every remote player of this roster, with the address given there. -/
def KnowsAddresses (n : Node) (roster : GlobalRoster) : Prop :=
  ∀ e ∈ roster.players, e.playerId ≠ n.localPlayerId → e.playerId ∈ n.roster.ids ∧
    ∀ e' ∈ n.roster.players, e'.playerId = e.playerId → e'.host = e.host ∧ e'.udpPort = e.udpPort

/-- Whoever is listed at the slot of a remote player has the address given there. -/
def AddressesStand (n : Node) (roster : GlobalRoster) : Prop :=
  ∀ e ∈ roster.players, e.playerId ≠ n.localPlayerId → ∀ e' ∈ n.roster.players,
    e'.joinIndex = e.joinIndex → e'.host = e.host ∧ e'.udpPort = e.udpPort

instance (n : Node) (roster : GlobalRoster) : Decidable (n.AddressesStand roster) :=
  inferInstanceAs (Decidable (∀ e ∈ roster.players, e.playerId ≠ n.localPlayerId →
    ∀ e' ∈ n.roster.players, e'.joinIndex = e.joinIndex →
      e'.host = e.host ∧ e'.udpPort = e.udpPort))

/-- A merge leaves the node with the addresses of the roster exactly if no player that it lists
already has moved. -/
theorem mergeRoster_knowsAddresses_iff {n n' : Node} {roster : GlobalRoster} (known : n.KnowsSlots)
    (named : roster.NamesSlots) (h : n.mergeRoster roster = .ok n') :
    n'.KnowsAddresses roster ↔ n.AddressesStand roster := by
  obtain ⟨hlocal, hmem, hunique⟩ := mem_mergeRoster h
  have sameSlot {e e' : RosterEntry} (he : e ∈ roster.players) (he' : e' ∈ n.roster.players) :
      e'.playerId = e.playerId ↔ e'.joinIndex = e.joinIndex := by
    obtain ⟨hslot, hname⟩ := named e he
    obtain ⟨hslot', hname'⟩ := known.listed e' he'
    rw [hname, hname']
    exact ⟨playerIdFor_injective hslot' hslot, fun hsame => by rw [hsame]⟩
  constructor
  · intro hknows e he hremote e' he' hsame
    exact (hknows e he (hlocal ▸ hremote)).2 e' ((hmem e').mpr (.inl he'))
      ((sameSlot he he').mpr hsame)
  · intro hstand e he hremote
    rw [hlocal] at hremote
    refine ⟨?_, fun e' he' hid => ?_⟩
    · rw [GlobalRoster.mem_ids]
      by_cases hlisted : ∃ e' ∈ n.roster.players, e'.joinIndex = e.joinIndex
      · obtain ⟨e', he', hsame⟩ := hlisted
        exact ⟨e', (hmem e').mpr (.inl he'), (sameSlot he he').mpr hsame⟩
      · push Not at hlisted
        exact ⟨e, (hmem e).mpr (.inr ⟨he, hlisted, hremote⟩), rfl⟩
    · rcases (hmem e').mp he' with hold | hnew
      · exact hstand e he hremote e' hold ((sameSlot he hold).mp hid)
      · -- nobody else has been learned at this slot
        obtain ⟨hslot, hname⟩ := named e he
        obtain ⟨hslot', hname'⟩ := named e' hnew.1
        have hsame : e'.joinIndex = e.joinIndex :=
          playerIdFor_injective hslot' hslot (by rw [← hname, ← hname', hid])
        have hlearned : n.Learns roster e := ⟨he, fun k hk => hsame ▸ hnew.2.1 k hk, hremote⟩
        rw [hunique e' e hnew hlearned hsame]
        exact ⟨rfl, rfl⟩

/-- Election messages for a peer whose address is known go there, and nowhere else. -/
theorem KnowsAddresses.electionDatagrams {n : Node} {roster : GlobalRoster}
    (h : n.KnowsAddresses roster) {e : RosterEntry} (he : e ∈ roster.players)
    (remote : e.playerId ≠ n.localPlayerId) (message : ElectionMessage) :
    .udp (.election message) e.host e.udpPort ∈ n.electionDatagrams message none ∧
      ∀ e' ∈ n.peers, e'.playerId = e.playerId →
        Outgoing.udp (.election message) e'.host e'.udpPort =
          .udp (.election message) e.host e.udpPort := by
  obtain ⟨hlisted, haddress⟩ := h e he remote
  have hsame (e' : RosterEntry) (he' : e' ∈ n.peers) (hid : e'.playerId = e.playerId) :
      Outgoing.udp (.election message) e'.host e'.udpPort =
        .udp (.election message) e.host e.udpPort := by
    obtain ⟨hhost, hport⟩ := haddress e' (mem_peers.mp he').1 hid
    rw [hhost, hport]
  obtain ⟨e', he', hid⟩ := GlobalRoster.mem_ids.mp hlisted
  have hpeer : e' ∈ n.peers := mem_peers.mpr ⟨he', hid ▸ remote⟩
  refine ⟨?_, hsame⟩
  rw [← hsame e' hpeer hid]
  exact List.mem_map.mpr ⟨e', List.mem_filter.mpr ⟨hpeer, by simp⟩, rfl⟩

/-! ## Runs -/

end Node

/-- The roster that a call merges. -/
def TimedCall.broadcast (c : TimedCall) : Option GlobalRoster :=
  match c.call with
  | .client (.gameEvent (.rosterUpdate roster)) => some roster
  | _ => none

namespace Node

/-- After a call that merges a roster, the node knows the addresses of that roster. -/
def LearnsAddresses (n : Node) (c : TimedCall) : Prop :=
  ∀ roster ∈ c.broadcast, ∀ n', n.step c = .ok n' → n'.KnowsAddresses roster

/-- The players that a merged roster lists have not moved since they were listed here. -/
def NobodyMoved (n : Node) (c : TimedCall) : Prop := ∀ roster ∈ c.broadcast, n.AddressesStand roster

instance : DecidableRel NobodyMoved := fun n c =>
  inferInstanceAs (Decidable (∀ roster ∈ c.broadcast, n.AddressesStand roster))

/-- After every broadcast that a node has merged it knows the current addresses, exactly if in none
of them a player has moved that was still listed. -/
theorem addresses_current_iff {n n' : Node} {calls : List TimedCall} (known : n.KnowsSlots)
    (named : ∀ c ∈ calls, c.NamesSlots) (hrun : n.run calls = .ok n') :
    Along step LearnsAddresses n calls ↔ Along step NobodyMoved n calls :=
  along_congr (P := KnowsSlots) (fun m c m' hc hm hstep => by
    refine ⟨?_, fun _ => hm.deeds (step_deeds hm (named c hc) hstep)⟩
    cases hbroadcast : c.broadcast with
    | none => simp [LearnsAddresses, NobodyMoved, hbroadcast]
    | some roster =>
      have hnamed := named c hc
      obtain ⟨now, call⟩ := c
      unfold TimedCall.broadcast at hbroadcast
      split at hbroadcast
      case h_1 roster' hcall =>
        obtain rfl : roster' = roster := Option.some.inj hbroadcast
        obtain rfl : call = .client (.gameEvent (.rosterUpdate roster')) := hcall
        have hmerge : m.mergeRoster roster' = .ok m' := hstep
        have hiff := mergeRoster_knowsAddresses_iff hm hnamed hmerge
        constructor
        · intro hlearns k hk
          obtain rfl : roster' = k := Option.some.inj hk
          exact hiff.mp (hlearns roster' rfl m' hstep)
        · intro hstand k hk m₁ hm₁
          obtain rfl : roster' = k := Option.some.inj hk
          obtain rfl : m' = m₁ := Except.ok.inj (hstep.symm.trans hm₁)
          exact hiff.mpr (hstand roster' rfl)
      case h_2 => cases hbroadcast) hrun known

end Node

/-! ### A peer that has moved -/

/-- The second of three players. -/
def survivingPeer : Node :=
  Node.clientOf ⟨[firstHost, secondPlayer, thirdEntry]⟩ secondPlayer "10.0.0.1"

theorem survivingPeer_knowsSlots : survivingPeer.KnowsSlots where
  session := show "session" ≠ "" by decide
  address := show "10.0.0.2" ≠ "" by decide
  own := show 1 < maxPlayers by decide
  ownName := show "player2" = playerIdFor (1 : ℕ) by decide
  listed := show GlobalRoster.NamesSlots ⟨[firstHost, secondPlayer, thirdEntry]⟩ by decide
  saved i hi := absurd hi (Dict.not_mem_empty i)

/-- The third player has come back on another machine. -/
def movedRoster : GlobalRoster :=
  ⟨[firstHost, secondPlayer, { thirdEntry with
    host := "10.0.0.8"
    udpPort := 50088 }]⟩

def deliver (message : WsMessage) : TimedCall := ⟨0, .client (.gameEvent message)⟩

theorem deliver_movedRoster_namesSlots : (deliver (.rosterUpdate movedRoster)).NamesSlots :=
  show movedRoster.NamesSlots by decide

theorem departed_peer_is_learned_anew :
    Along Node.step Node.LearnsAddresses survivingPeer
      [deliver (.playerLeft "player3"), deliver (.rosterUpdate movedRoster)] := by
  obtain ⟨n', hrun, -⟩ := exists_of_okAnd (p := fun _ => true)
    (x := survivingPeer.run [deliver (.playerLeft "player3"), deliver (.rosterUpdate movedRoster)])
    (by decide +kernel)
  have hnamed : ∀ c ∈ [deliver (.playerLeft "player3"), deliver (.rosterUpdate movedRoster)],
      c.NamesSlots := by
    intro c hc
    rcases List.mem_cons.mp hc with rfl | hc
    · trivial
    · obtain rfl := List.mem_singleton.mp hc
      exact deliver_movedRoster_namesSlots
  refine (Node.addresses_current_iff survivingPeer_knowsSlots hnamed hrun).mpr ?_
  decide +kernel

/-- Without a departure in between, claims and acks still go to its old address. -/
theorem moved_peer_is_missed : ∃ n',
    survivingPeer.run [deliver (.rosterUpdate movedRoster)] = .ok n' ∧
    ¬ n'.KnowsAddresses movedRoster ∧
    (n'.electionDatagrams (.electionAck ⟨"10.0.0.2", "session"⟩) none).filterMap
      (fun o => match o with | .udp _ host port => some (host, port) | _ => none) =
        [("10.0.0.1", 50010), ("10.0.0.3", 50012)] := by
  obtain ⟨n', hrun, hcheck⟩ := exists_of_okAnd
    (x := survivingPeer.run [deliver (.rosterUpdate movedRoster)])
    (p := fun n' => decide (n'.roster.players = [firstHost, secondPlayer, thirdEntry] ∧
      n'.localPlayerId = "player2" ∧
      (n'.electionDatagrams (.electionAck ⟨"10.0.0.2", "session"⟩) none).filterMap
        (fun o => match o with | .udp _ host port => some (host, port) | _ => none) =
          [("10.0.0.1", 50010), ("10.0.0.3", 50012)])) (by decide +kernel)
  obtain ⟨hplayers, hlocal, hdatagrams⟩ := of_decide_eq_true hcheck
  refine ⟨n', hrun, fun hknows => ?_, hdatagrams⟩
  have hthird := (hknows { thirdEntry with
    host := "10.0.0.8"
    udpPort := 50088 } (by decide) (by rw [hlocal]; decide)).2 thirdEntry (by simp [hplayers]) rfl
  exact absurd hthird.2 (by decide)

end DistributedSmb
