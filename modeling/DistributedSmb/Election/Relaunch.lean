import DistributedSmb.Election.Deeds
import DistributedSmb.Lobby.Reservations

/-!
# Relaunching the lobby

A promoted node registers the session again (`_relaunch_lobby_for_rejoin`), in a thread of its own
that reads the roster and the saved characters while frames go on. What happens to the slots that a
node knows is described by single acts (`Act`): an eviction, an entry that is listed, and everything
else. Every run of calls is made of such acts.
-/

namespace DistributedSmb

open Library

/-- The lobby sends such rosters. -/
theorem SessionRecord.SlotsInOrder.namesSlots {κ : Type} {r : SessionRecord κ}
    (h : r.SlotsInOrder) {roster : GlobalRoster} (hroster : r.getRoster = .ok roster) :
    roster.NamesSlots := by
  rw [h.getRoster] at hroster
  cases hroster
  intro e he
  obtain ⟨entry, hentry, rfl⟩ := List.mem_map.mp he
  obtain ⟨hnonneg, hlt⟩ := (h.valid entry hentry).slot
  have hindex : ((entry.joinIndex.toNat : ℕ) : ℤ) = entry.joinIndex := Int.toNat_of_nonneg hnonneg
  refine ⟨?_, ?_⟩
  · change entry.joinIndex.toNat < maxPlayers
    omega
  · change entry.playerId = playerIdFor (entry.joinIndex.toNat : ℕ)
    rw [hindex]
    exact (h.valid entry hentry).named

namespace Node

/-- `sorted` of the other players' join indices and those of the saved characters. -/
def reservedJoinIndices (n : Node) : List ℕ :=
  (n.peers.map RosterEntry.joinIndex ++ n.rejoinStates.keys).dedup.insertionSort (· ≤ ·)

/-- One more than the largest join index of the roster. -/
def nextJoinIndex (n : Node) : ℕ :=
  ((n.roster.getAllPlayers.map RosterEntry.joinIndex).max?.map (· + 1)).getD 0

/-- The message of `_relaunch_lobby_for_rejoin`. -/
def sessionRecreate (n : Node) : Except PyError SessionRecreate :=
  SessionRecreate.checked
    ⟨n.sessionId, n.nextJoinIndex, n.localIp, hostUdpPort, n.joinIndex,
      n.reservedJoinIndices.map Int.ofNat⟩

@[simp] theorem mem_reservedJoinIndices {n : Node} {i : ℕ} :
    i ∈ n.reservedJoinIndices ↔ (∃ e ∈ n.peers, e.joinIndex = i) ∨ i ∈ n.rejoinStates := by
  simp [reservedJoinIndices, Dict.mem_iff]

/-- A peer has another slot than the node itself. -/
theorem KnowsSlots.peer_ne {n : Node} (h : n.KnowsSlots) {e : RosterEntry} (he : e ∈ n.peers) :
    e.joinIndex ≠ n.joinIndex := by
  rw [mem_peers] at he
  intro hsame
  refine he.2 ?_
  rw [(h.listed e he.1).2, hsame, h.ownName]

/-- The message is well formed unless the node has saved its own character. -/
theorem KnowsSlots.sessionRecreate {n : Node} (h : n.KnowsSlots)
    (own : n.joinIndex ∉ n.rejoinStates) : ∃ m, n.sessionRecreate = .ok m := by
  have hslot (i : ℕ) (hi : i < maxPlayers) : IsSlot i := ⟨Int.natCast_nonneg i, Int.ofNat_lt.mpr hi⟩
  have hunreserved : n.joinIndex ∉ n.reservedJoinIndices := by
    rw [mem_reservedJoinIndices]
    rintro (⟨e, he, hsame⟩ | hsaved)
    · exact h.peer_ne he hsame
    · exact own hsaved
  have haddress : ValidAddress n.localIp hostUdpPort := ⟨h.address, by decide⟩
  refine ⟨_, SessionRecreate.checked_succeeds h.session (Int.natCast_nonneg _) haddress
    (hslot _ h.own) ?_ ?_ ?_⟩
  · refine List.Nodup.map Int.ofNat_injective ?_
    exact (List.perm_insertionSort _ _).nodup_iff.mpr (List.nodup_dedup _)
  · intro i hi
    obtain ⟨k, hk, rfl⟩ := List.mem_map.mp hi
    rcases mem_reservedJoinIndices.mp hk with ⟨e, he, rfl⟩ | hsaved
    · exact hslot _ (h.listed e (mem_peers.mp he).1).1
    · exact hslot _ (h.saved k hsaved)
  · intro hmem
    obtain ⟨k, hk, hsame⟩ := List.mem_map.mp hmem
    exact hunreserved (Int.ofNat_inj.mp hsame ▸ hk)

/-- A message that was built reserves these slots, and not the sender's own. -/
theorem sessionRecreate_spec {n : Node} {m : SessionRecreate} (h : n.sessionRecreate = .ok m) :
    m.checked = .ok m ∧ m.sessionId = n.sessionId ∧
      (∀ i : ℕ, (i : ℤ) ∈ m.reservedJoinIndices ↔ i ∈ n.reservedJoinIndices) ∧
      n.joinIndex ∉ n.reservedJoinIndices := by
  obtain ⟨rfl, -, -, -, -, hunreserved⟩ := SessionRecreate.checked_spec h
  have hmem (i : ℕ) : (i : ℤ) ∈ n.reservedJoinIndices.map Int.ofNat ↔ i ∈ n.reservedJoinIndices :=
    List.mem_map_of_injective Int.ofNat_injective
  exact ⟨h, rfl, hmem, fun hown => hunreserved ((hmem _).mpr hown)⟩

/-! ## Acts -/

/-- An entry of the roster has this join index. -/
def Lists (n : Node) (i : ℕ) : Prop := ∃ e ∈ n.roster.players, e.joinIndex = i

/-- What one act of a node can do to its slots. A character that its player comes back for is no
longer kept. -/
inductive Act (n : Node) : Node → Prop
  | elsewhere {m : Node} (same : m.slots = n.slots) : Act n m
  | evict (pid : PlayerId) : Act n (n.evictPlayer pid)
  | list {m : Node} {entry : RosterEntry} (slot : entry.joinIndex < maxPlayers)
    (named : entry.playerId = playerIdFor entry.joinIndex) (identity : m.identity = n.identity)
    (entries : ∀ e ∈ m.roster.players, e ∈ n.roster.players ∨ e = entry)
    (kept : ∀ i, n.Lists i → m.Lists i) (listed : m.Lists entry.joinIndex)
    (saved : m.rejoinStates = n.rejoinStates ∨
      m.rejoinStates = n.rejoinStates.erase entry.joinIndex) : Act n m

/-- Acts one after the other. -/
def Acts : Node → Node → Prop := Relation.ReflTransGen Act

/-- Acts in which no entry of the roster gets this join index. -/
def ActsWithout (i : ℕ) : Node → Node → Prop :=
  Relation.ReflTransGen fun n m => Act n m ∧ ¬ m.Lists i

theorem lists_of_slots {n m : Node} (same : m.slots = n.slots) (i : ℕ) : m.Lists i ↔ n.Lists i := by
  have hslots : m.roster.players.map (fun e => (e.playerId, e.joinIndex)) =
      n.roster.players.map fun e => (e.playerId, e.joinIndex) := congrArg Prod.fst same
  have hlists (k : Node) : k.Lists i ↔
      i ∈ (k.roster.players.map fun e => (e.playerId, e.joinIndex)).map Prod.snd := by
    simp [Lists]
  rw [hlists, hlists, hslots]

theorem KnowsSlots.of_slots {n m : Node} (h : n.KnowsSlots) (same : m.slots = n.slots) :
    m.KnowsSlots := by
  have hentries : m.roster.players.map (fun e => (e.playerId, e.joinIndex)) =
      n.roster.players.map fun e => (e.playerId, e.joinIndex) := congrArg Prod.fst same
  simp only [slots, identity, Prod.mk.injEq] at same
  obtain ⟨-, hsaved, hid, hip, hsession, hindex⟩ := same
  refine ⟨hsession ▸ h.session, hip ▸ h.address, hindex ▸ h.own, ?_, fun e he => ?_, ?_⟩
  · rw [hid, hindex]
    exact h.ownName
  · have hmem : (e.playerId, e.joinIndex) ∈ n.roster.players.map fun e =>
        (e.playerId, e.joinIndex) :=
      hentries ▸ List.mem_map_of_mem he
    obtain ⟨e₀, he₀, heq⟩ := List.mem_map.mp hmem
    obtain ⟨hname, hslot⟩ := Prod.mk.inj heq
    rw [← hname, ← hslot]
    exact h.listed e₀ he₀
  · rw [hsaved]
    exact h.saved

/-- An eviction saves the character under the index of the player's entry, if both are there. -/
theorem mem_rejoinStates_evictPlayer {n : Node} {pid : PlayerId} {i : ℕ} :
    i ∈ (n.evictPlayer pid).rejoinStates ↔ i ∈ n.rejoinStates ∨
      (pid ∈ n.engine.worldState.characters ∧ ∃ e, n.roster.getPlayer pid = some e ∧
        e.joinIndex = i) := by
  simp only [evictPlayer]
  cases hentry : n.roster.getPlayer pid with
  | none => simp
  | some e =>
    cases hplayer : n.engine.worldState.getPlayer pid with
    | none =>
      have habsent : pid ∉ n.engine.worldState.characters := Dict.get?_eq_none_iff.mp hplayer
      simp [habsent]
    | some p =>
      have hpresent : pid ∈ n.engine.worldState.characters := Dict.mem_of_get?_eq_some hplayer
      simp [hpresent, or_comm, eq_comm]

theorem KnowsSlots.act {n m : Node} (h : n.KnowsSlots) (act : Act n m) : m.KnowsSlots := by
  cases act with
  | elsewhere same => exact h.of_slots same
  | evict pid =>
    refine ⟨h.session, h.address, h.own, h.ownName, fun e he => ?_, fun i hi => ?_⟩
    · exact h.listed e (GlobalRoster.mem_removePlayer.mp he).1
    · rcases mem_rejoinStates_evictPlayer.mp hi with hsaved | ⟨-, e, hentry, rfl⟩
      · exact h.saved i hsaved
      · exact (h.listed e (getPlayer_eq_some hentry).1).1
  | list slot named identity entries kept listed saved =>
    simp only [Node.identity, Prod.mk.injEq] at identity
    obtain ⟨hid, hip, hsession, hindex⟩ := identity
    refine ⟨hsession ▸ h.session, hip ▸ h.address, hindex ▸ h.own, ?_, fun e he => ?_,
      fun i hi => ?_⟩
    · rw [hid, hindex]
      exact h.ownName
    · rcases entries e he with hold | rfl
      · exact h.listed e hold
      · exact ⟨slot, named⟩
    · refine h.saved i ?_
      rcases saved with hsame | herased
      · exact hsame ▸ hi
      · exact (Dict.mem_erase.mp (herased ▸ hi)).1

/-- An act that does not list the player keeps its character if it was kept, and saves none. -/
theorem Act.saved_iff {n m : Node} {i : ℕ} (act : Act n m) (before : ¬ n.Lists i)
    (after : ¬ m.Lists i) : i ∈ m.rejoinStates ↔ i ∈ n.rejoinStates := by
  cases act with
  | elsewhere same => rw [show m.rejoinStates = n.rejoinStates from congrArg (fun s => s.2.1) same]
  | evict pid =>
    rw [mem_rejoinStates_evictPlayer]
    refine or_iff_left ?_
    rintro ⟨-, e, hentry, rfl⟩
    exact before ⟨e, (getPlayer_eq_some hentry).1, rfl⟩
  | list slot named identity entries kept listed saved =>
    rcases saved with hsame | herased
    · rw [hsame]
    · rw [herased, Dict.mem_erase]
      refine and_iff_left ?_
      rintro rfl
      exact after listed

theorem players_replaceInRoster {roster roster' : GlobalRoster} {existing : Option RosterEntry}
    {entry : RosterEntry} (h : replaceInRoster roster existing entry = .ok roster')
    (e : RosterEntry) : e ∈ roster'.players ↔
      (e ∈ roster.players ∧ ∀ e₀ ∈ existing, e.playerId ≠ e₀.playerId) ∨ e = entry := by
  cases existing with
  | none =>
    rw [GlobalRoster.addPlayer_eq_ok h]
    simp
  | some e₀ =>
    have hadded : roster'.players = (roster.removePlayer e₀.playerId).players ++ [entry] :=
      congrArg GlobalRoster.players (GlobalRoster.addPlayer_eq_ok h)
    rw [hadded]
    simp

/-- A player that comes back is listed in its slot, which at most its own old entry had before. -/
theorem rejoin_act {n m : Node} {entry : RosterEntry} {now : ℚ} {b : Bool} (known : n.KnowsSlots)
    (slot : entry.joinIndex < maxPlayers) (named : entry.playerId = playerIdFor entry.joinIndex)
    (h : n.rejoin entry now = .ok (m, b)) : Act n m := by
  simp only [rejoin] at h
  split at h
  · cases h; exact .elsewhere rfl
  · split at h
    · cases h; exact .elsewhere rfl
    case isFalse same =>
      split at h
      · cases h; exact .elsewhere rfl
      · obtain ⟨roster, hroster, h⟩ := Fallible.bind_eq_ok.mp h
        cases h
        have hmem := players_replaceInRoster hroster
        refine .list slot named rfl (fun e he => ?_) (fun i hi => ?_) ?_ (.inr rfl)
        · exact ((hmem e).mp he).imp_left And.left
        · obtain ⟨e, he, rfl⟩ := hi
          by_cases hown : e.playerId = entry.playerId
          · refine ⟨entry, (hmem entry).mpr (.inr rfl), ?_⟩
            obtain ⟨hslot, hname⟩ := known.listed e he
            exact playerIdFor_injective slot hslot (by rw [← named, ← hname, hown])
          · refine ⟨e, (hmem e).mpr (.inl ⟨he, fun e₀ he₀ heq => hown ?_⟩), rfl⟩
            have hsame : e₀.playerId = entry.playerId := by simpa [Option.mem_def.mp he₀] using same
            rw [heq, hsame]
        · exact ⟨entry, (hmem entry).mpr (.inr rfl), rfl⟩

/-! ## Deeds -/

theorem Does.act {n m : Node} {d : Deed} (known : n.KnowsSlots) (h : n.Does d m) : Act n m := by
  cases h with
  | elsewhere same => exact .elsewhere same
  | evict pid => exact .evict pid
  | learn slot named added =>
    rw [GlobalRoster.addPlayer_eq_ok added]
    refine .list slot named rfl (fun e he => ?_) (fun i hi => ?_) ?_ (.inl rfl)
    · exact (List.mem_append.mp he).imp_right List.mem_singleton.mp
    · obtain ⟨e, he, hindex⟩ := hi
      exact ⟨e, List.mem_append_left _ he, hindex⟩
    · exact ⟨_, List.mem_append_right _ List.mem_cons_self, rfl⟩
  | rejoin slot named rejoined => exact rejoin_act known slot named rejoined

theorem KnowsSlots.acts {n m : Node} (h : n.KnowsSlots) (acts : Acts n m) : m.KnowsSlots := by
  induction acts with
  | refl => exact h
  | tail _ last ih => exact ih.act last

theorem Deeds.acts {n m : Node} (known : n.KnowsSlots) (h : Deeds n m) : Acts n m := by
  induction h with
  | refl => exact .refl
  | tail _ last ih =>
    obtain ⟨d, hdoes⟩ := last
    exact ih.tail (hdoes.act (known.acts ih))

theorem KnowsSlots.deeds {n m : Node} (h : n.KnowsSlots) (deeds : Deeds n m) : m.KnowsSlots :=
  h.acts (deeds.acts h)

theorem run_deeds {n m : Node} {calls : List TimedCall} (known : n.KnowsSlots)
    (named : ∀ c ∈ calls, c.NamesSlots) (h : n.run calls = .ok m) : Deeds n m :=
  Fallible.foldlM_keeps (P := fun m : Node => Deeds n m)
    (fun _ c _ hc hm hstep => hm.trans (step_deeds (known.deeds hm) (named c hc) hstep)) h .refl

/-- Every run of calls is made of acts. -/
theorem run_acts {n m : Node} {calls : List TimedCall} (known : n.KnowsSlots)
    (named : ∀ c ∈ calls, c.NamesSlots) (h : n.run calls = .ok m) : Acts n m :=
  (run_deeds known named h).acts known

end Node

end DistributedSmb
