import DistributedSmb.Election.Relaunch

/-!
# Slots kept for a rejoin

A promoted node asks its lobby to reserve the slots of the players it has evicted, as far as it has
saved their characters.
-/

namespace DistributedSmb

open Library

namespace Node

/-- The message that registers the session again is well formed and reserves the slot; from then on
the slot is open for its player, and for nobody else, until the player has been admitted. -/
def SlotKept (n : Node) (i : ℕ) : Prop :=
  ∃ m, n.sessionRecreate = .ok m ∧ (i : ℤ) ∈ m.reservedJoinIndices ∧
    ∀ (κ : Type) [DecidableEq κ] (earlier later : List (LobbyStep κ)) (ws : κ) (uuid : String),
      ((Lobby.run {} earlier).handlers ws).status = .receiving →
      (∀ x ∈ later, x.registers m.sessionId = false) →
      (∀ w, .accepted w m.sessionId i ∉ ((Lobby.run {} earlier).afterRecreate ws m uuid).since
        (((Lobby.run {} earlier).afterRecreate ws m uuid).run later)) →
      (((Lobby.run {} earlier).afterRecreate ws m uuid).run later).manager.KeepsFor m.sessionId i

/-- The lobby does its part for every slot that is reserved. -/
theorem slotKept_iff {n : Node} (known : n.KnowsSlots) {i : ℕ} :
    n.SlotKept i ↔ n.joinIndex ∉ n.rejoinStates ∧ i ∈ n.reservedJoinIndices := by
  constructor
  · rintro ⟨m, hm, hreserved, -⟩
    obtain ⟨-, -, hmem, hown⟩ := sessionRecreate_spec hm
    refine ⟨fun hsaved => hown (mem_reservedJoinIndices.mpr (.inr hsaved)), (hmem i).mp hreserved⟩
  · rintro ⟨hown, hreserved⟩
    obtain ⟨m, hm⟩ := known.sessionRecreate hown
    obtain ⟨checked, -, hmem, -⟩ := sessionRecreate_spec hm
    refine ⟨m, hm, (hmem i).mpr hreserved, ?_⟩
    intro κ _ earlier later ws uuid ready unregistered away
    have hreserves := Lobby.reservation_stands ready checked ((hmem i).mpr hreserved)
      unregistered away
    refine hreserves.keepsFor ?_
    have inOrder := Lobby.run_slotsHold (earlier ++ .receive ws (.sessionRecreate m) uuid :: later)
    rwa [Lobby.run, List.foldl_append, List.foldl_cons] at inOrder

/-- Without a new entry for the player, its slot is reserved if and only if its character was there
to be saved when it was evicted, or had been saved before. -/
theorem reserved_iff {m n : Node} {e : RosterEntry} (known : m.KnowsSlots)
    (listed : m.roster.getPlayer e.playerId = some e)
    (onward : ActsWithout e.joinIndex (m.evictPlayer e.playerId) n) :
    e.joinIndex ∈ n.reservedJoinIndices ↔
      e.playerId ∈ m.engine.worldState.characters ∨ e.joinIndex ∈ m.rejoinStates := by
  have hnone : ¬ (m.evictPlayer e.playerId).Lists e.joinIndex := by
    rintro ⟨e', he', hindex⟩
    obtain ⟨hmem, hne⟩ := GlobalRoster.mem_removePlayer.mp he'
    refine hne ?_
    rw [(known.listed e' hmem).2, hindex, ← (known.listed e (getPlayer_eq_some listed).1).2]
  -- the slot stays unlisted, so nothing but the eviction decides what is saved for it
  have hsaved : ¬ n.Lists e.joinIndex ∧
      (e.joinIndex ∈ n.rejoinStates ↔ e.joinIndex ∈ (m.evictPlayer e.playerId).rejoinStates) := by
    induction onward with
    | refl => exact ⟨hnone, Iff.rfl⟩
    | tail _ last ih => exact ⟨last.2, (last.1.saved_iff ih.1 last.2).trans ih.2⟩
  have hpeers : ¬ ∃ e' ∈ n.peers, e'.joinIndex = e.joinIndex := by
    rintro ⟨e', he', hindex⟩
    exact hsaved.1 ⟨e', (mem_peers.mp he').1, hindex⟩
  rw [mem_reservedJoinIndices, or_iff_right hpeers, hsaved.2, mem_rejoinStates_evictPlayer, listed]
  simp [or_comm]

/-- For a player that the node evicts at any point before, during or after its promotion, and that
has not been listed again, the slot is kept if and only if the node has not saved its own character
and the player's character was in the node's world when the player was evicted, or had been saved
before. -/
theorem evicted_slot_kept_iff {n₀ m n : Node} {e : RosterEntry} (known : n₀.KnowsSlots)
    (before : Acts n₀ m) (listed : m.roster.getPlayer e.playerId = some e)
    (onward : ActsWithout e.joinIndex (m.evictPlayer e.playerId) n) :
    n.SlotKept e.joinIndex ↔ n.joinIndex ∉ n.rejoinStates ∧
      (e.playerId ∈ m.engine.worldState.characters ∨ e.joinIndex ∈ m.rejoinStates) := by
  have hm : m.KnowsSlots := known.acts before
  have hn : n.KnowsSlots := by
    have honward : Acts (m.evictPlayer e.playerId) n :=
      Relation.ReflTransGen.mono (fun n m (h : Act n m ∧ ¬ m.Lists e.joinIndex) => h.1) _ _ onward
    exact (hm.act (.evict e.playerId)).acts honward
  rw [slotKept_iff hn, reserved_iff hm listed onward]

/-! ## The crashed host -/

/-- A promotion evicts the flagged host from the buffered world. -/
theorem promotion_evicts_host {c n : Node} {now : ℚ} {crashed : RosterEntry}
    (waiting : c.election.promotionDone = false) (flagged : c.roster.getHost = some crashed)
    (h : c.promoteToHost now = .ok n) :
    Acts c c.takeAuthority.restoreWorld ∧
      ∀ i, ¬ (c.takeAuthority.restoreWorld.evictPlayer crashed.playerId).Lists i →
        ActsWithout i (c.takeAuthority.restoreWorld.evictPlayer crashed.playerId) n := by
  have hsame : c.takeAuthority.restoreWorld.slots = c.slots := restoreWorld_slots _
  refine ⟨.single (.elsewhere hsame), fun i hi => ?_⟩
  rcases promoteToHost_spec h with ⟨done, -⟩ | ⟨-, out, rfl, -⟩
  · rw [done] at waiting
    cases waiting
  · have hroster : c.takeAuthority.restoreWorld.roster = c.roster := by
      unfold restoreWorld
      split <;> rfl
    have hevict : c.takeAuthority.restoreWorld.evictHost =
        c.takeAuthority.restoreWorld.evictPlayer crashed.playerId := by
      rw [evictHost, hroster, flagged]
    have hslots : ((c.assumeHostRole.send out).finishPromotion now).slots =
        (c.takeAuthority.restoreWorld.evictPlayer crashed.playerId).slots := by
      rw [← hevict]
      exact promoteInRoster_slots _ c.localPlayerId
    exact .single ⟨.elsewhere hslots, fun hlists => hi ((lists_of_slots hslots i).mp hlists)⟩

end Node

def firstHost : RosterEntry := ⟨"player1", "10.0.0.1", 50010, 0, .connected, true⟩

def secondPlayer : RosterEntry := ⟨"player2", "10.0.0.2", 50011, 1, .connected, false⟩

/-- The second of two players, with what the host has broadcast last. -/
def heir (snapshot : WorldState) : Node :=
  { Node.clientOf ⟨[firstHost, secondPlayer]⟩ secondPlayer "10.0.0.1" with
    envStateBuffer := some (.update ⟨snapshot.sequenceNumber, snapshot⟩) }

theorem heir_knowsSlots (snapshot : WorldState) : (heir snapshot).KnowsSlots where
  session := show "session" ≠ "" by decide
  address := show "10.0.0.2" ≠ "" by decide
  own := show 1 < maxPlayers by decide
  ownName := show "player2" = playerIdFor (1 : ℕ) by decide
  listed := show GlobalRoster.NamesSlots ⟨[firstHost, secondPlayer]⟩ by decide
  saved i hi := absurd hi (Dict.not_mem_empty i)

/-- The host as its peers saw it last. -/
def hostAlive : WorldState where
  sequenceNumber := 4
  characters := Dict.ofList [("player1", { playerId := "player1" })]

/-- The host had fallen, and waited for its respawn. -/
def hostFallen : WorldState where
  sequenceNumber := 4
  respawnTimers := Dict.ofList [("player1", 3)]

theorem living_host_keeps_its_slot :
    ∃ n, (heir hostAlive).promoteToHost 2 = .ok n ∧ n.SlotKept 0 := by
  obtain ⟨n, hn, hown⟩ := Fallible.exists_of_okAnd (x := (heir hostAlive).promoteToHost 2)
    (p := fun n => decide (n.joinIndex ∉ n.rejoinStates)) (by decide +kernel)
  have hflagged : (heir hostAlive).roster.getHost = some firstHost := by decide
  obtain ⟨hbefore, honward⟩ := Node.promotion_evicts_host rfl hflagged hn
  refine ⟨n, hn, (Node.evicted_slot_kept_iff (e := firstHost) (heir_knowsSlots hostAlive) hbefore
    (by decide) (honward 0 ?_)).mpr ⟨of_decide_eq_true hown, .inl (by decide)⟩⟩
  unfold Node.Lists
  decide

/-- The new host's lobby does not know of a player that died before the host crashed, and gives its
slot to the next newcomer. -/
theorem fallen_host_loses_its_slot :
    ∃ n m, (heir hostFallen).KnowsSlots ∧ (heir hostFallen).roster.getHost = some firstHost ∧
      (heir hostFallen).promoteToHost 2 = .ok n ∧ n.sessionRecreate = .ok m ∧
      ¬ n.SlotKept 0 ∧
      ((({} : Lobby LobbyPeer).afterRecreate .host m "").manager.joinSession "session" "player"
        "10.0.0.9" 50019 none).map Prod.snd = some 0 := by
  obtain ⟨n, hn, hcheck⟩ := Fallible.exists_of_okAnd (x := (heir hostFallen).promoteToHost 2)
    (p := fun n => Fallible.okAnd n.sessionRecreate fun m => decide (m.reservedJoinIndices = [] ∧
      ((({} : Lobby LobbyPeer).afterRecreate .host m "").manager.joinSession "session" "player"
        "10.0.0.9" 50019 none).map Prod.snd = some 0)) (by decide +kernel)
  obtain ⟨m, hm, hcheck⟩ := Fallible.exists_of_okAnd hcheck
  obtain ⟨hnone, htaken⟩ := of_decide_eq_true hcheck
  refine ⟨n, m, heir_knowsSlots _, by decide, hn, hm, ?_, htaken⟩
  rintro ⟨m', hm', hreserved, -⟩
  obtain rfl : m = m' := Except.ok.inj (hm.symm.trans hm')
  rw [hnone] at hreserved
  cases hreserved

end DistributedSmb
