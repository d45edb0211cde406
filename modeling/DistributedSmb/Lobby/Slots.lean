import DistributedSmb.Lobby.Manager

/-!
# Slots in order

The invariant of a lobby session, and that every operation of the manager keeps it: the listed and
the reserved join indices are distinct numbers of slots, an entry carries the id of its slot, and at
most one entry is the host's. A roster can be built from such a record, and a slot that is not
occupied can be found as long as the session is not full.
-/

namespace DistributedSmb

open Library

variable {κ : Type}

theorem playerIdFor_ne_empty (joinIndex : ℤ) : playerIdFor joinIndex ≠ "" := by
  intro h
  have hprefix := (String.append_eq_empty_iff.mp h).1
  exact absurd hprefix (by decide)

/-! ## Entries -/

/-- The roster entry of a slot with a valid address. -/
def SlotEntry.rosterEntry (e : SlotEntry) : RosterEntry :=
  ⟨e.playerId, e.host, e.udpPort, e.joinIndex.toNat, e.status, e.isHost⟩

structure SlotEntry.Valid (e : SlotEntry) : Prop where
  slot : IsSlot e.joinIndex
  named : e.playerId = playerIdFor e.joinIndex
  address : ValidAddress e.host e.udpPort

theorem SlotEntry.Valid.toRosterEntry {e : SlotEntry} (h : e.Valid) :
    e.toRosterEntry = .ok e.rosterEntry := by
  obtain ⟨⟨hnonneg, -⟩, hnamed, hhost, hport⟩ := h
  have hplayer : e.playerId ≠ "" := hnamed ▸ playerIdFor_ne_empty e.joinIndex
  rw [SlotEntry.toRosterEntry, if_neg hplayer, if_neg hhost, if_neg (not_not.mpr hport),
    if_neg (not_lt.mpr hnonneg)]
  rfl

theorem SlotEntry.Valid.movedTo {e : SlotEntry} {host : Ip} {udpPort : ℕ} (h : e.Valid)
    (address : ValidAddress host udpPort) : (e.movedTo host udpPort).Valid :=
  ⟨h.slot, h.named, address⟩

/-- Moving an entry changes nothing else about the list. -/
theorem map_reclaimSlot {α : Type} {f : SlotEntry → α} {host : Ip} {udpPort : ℕ}
    (hf : ∀ e, f (e.movedTo host udpPort) = f e) (joinIndex : ℤ) (entries : List SlotEntry) :
    (reclaimSlot joinIndex host udpPort entries).map f = entries.map f := by
  induction entries with
  | nil => rfl
  | cons e entries ih =>
    unfold reclaimSlot
    split
    · rw [List.map_cons, List.map_cons, hf]
    · rw [List.map_cons, List.map_cons, ih]

theorem mem_reclaimSlot {joinIndex : ℤ} {host : Ip} {udpPort : ℕ} {entries : List SlotEntry}
    {e : SlotEntry} (h : e ∈ reclaimSlot joinIndex host udpPort entries) :
    e ∈ entries ∨ ∃ e₀ ∈ entries, e = e₀.movedTo host udpPort := by
  induction entries with
  | nil => exact .inl h
  | cons e₁ entries ih =>
    unfold reclaimSlot at h
    split at h
    · obtain rfl | hmem := List.mem_cons.mp h
      · exact .inr ⟨e₁, List.mem_cons_self, rfl⟩
      · exact .inl (List.mem_cons_of_mem _ hmem)
    · obtain rfl | hmem := List.mem_cons.mp h
      · exact .inl List.mem_cons_self
      · obtain hsame | ⟨e₀, he₀, rfl⟩ := ih hmem
        · exact .inl (List.mem_cons_of_mem _ hsame)
        · exact .inr ⟨e₀, List.mem_cons_of_mem _ he₀, rfl⟩

namespace SessionRecord

/-! ## The invariant -/

structure SlotsInOrder (r : SessionRecord κ) : Prop where
  distinct : (r.entries.map SlotEntry.joinIndex).Nodup
  valid : ∀ e ∈ r.entries, e.Valid
  reserved : ∀ i ∈ r.reservedJoinIndices, IsSlot i
  disjoint : ∀ e ∈ r.entries, e.joinIndex ∉ r.reservedJoinIndices
  oneHost : r.entries.countP SlotEntry.isHost ≤ 1

theorem existing_eq_some {r : SessionRecord κ} {joinIndex : ℤ} {e : SlotEntry}
    (h : r.existing joinIndex = some e) : e ∈ r.entries ∧ e.joinIndex = joinIndex :=
  ⟨List.mem_of_find?_eq_some h, by simpa [existing] using List.find?_some h⟩

theorem existing_eq_none {r : SessionRecord κ} {joinIndex : ℤ} :
    r.existing joinIndex = none ↔ ∀ e ∈ r.entries, e.joinIndex ≠ joinIndex := by
  simp [existing]

theorem mem_occupiedIndices {r : SessionRecord κ} {i : ℤ} :
    i ∈ r.occupiedIndices ↔ (∃ e ∈ r.entries, e.joinIndex = i) ∨ i ∈ r.reservedJoinIndices := by
  simp [occupiedIndices]

theorem mem_allSlots {i : ℤ} : i ∈ allSlots ↔ IsSlot i := by
  simp only [allSlots, List.mem_map, List.mem_range, IsSlot]
  constructor
  · rintro ⟨n, hn, rfl⟩
    exact ⟨Int.natCast_nonneg n, Int.ofNat_lt.mpr hn⟩
  · rintro ⟨hnonneg, hlt⟩
    exact ⟨i.toNat, by omega, Int.toNat_of_nonneg hnonneg⟩

/-- Listed and reserved slots together are no more than there are. -/
theorem SlotsInOrder.bounded {r : SessionRecord κ} (h : r.SlotsInOrder) :
    r.entries.length + r.reservedJoinIndices.card ≤ maxPlayers := by
  have hcard : r.occupiedIndices.card = r.entries.length + r.reservedJoinIndices.card := by
    rw [occupiedIndices, Finset.card_union_of_disjoint, List.toFinset_card_of_nodup h.distinct,
      List.length_map]
    rw [Finset.disjoint_left]
    intro i hi
    obtain ⟨e, he, rfl⟩ := List.mem_map.mp (List.mem_toFinset.mp hi)
    exact h.disjoint e he
  have hsub : r.occupiedIndices ⊆ allSlots.toFinset := by
    intro i hi
    rw [List.mem_toFinset, mem_allSlots]
    obtain ⟨e, he, rfl⟩ | hreserved := mem_occupiedIndices.mp hi
    · exact (h.valid e he).slot
    · exact h.reserved i hreserved
  calc r.entries.length + r.reservedJoinIndices.card
      = r.occupiedIndices.card := hcard.symm
    _ ≤ allSlots.toFinset.card := Finset.card_le_card hsub
    _ ≤ allSlots.length := List.toFinset_card_le _
    _ = maxPlayers := by simp [allSlots]

/-! ## Operations on a record -/

theorem SlotsInOrder.of_entries {r r' : SessionRecord κ} (h : r.SlotsInOrder)
    (entries : r'.entries = r.entries)
    (reserved : r'.reservedJoinIndices = r.reservedJoinIndices) : r'.SlotsInOrder := by
  refine ⟨?_, ?_, ?_, ?_, ?_⟩
  · exact entries ▸ h.distinct
  · exact entries ▸ h.valid
  · exact reserved ▸ h.reserved
  · rw [entries, reserved]
    exact h.disjoint
  · exact entries ▸ h.oneHost

theorem SlotsInOrder.free {r : SessionRecord κ} (h : r.SlotsInOrder) (joinIndex : ℤ) :
    (r.free joinIndex).SlotsInOrder where
  distinct := h.distinct
  valid := h.valid
  reserved i hi := h.reserved i (Finset.mem_of_mem_erase hi)
  disjoint e he hi := h.disjoint e he (Finset.mem_of_mem_erase hi)
  oneHost := h.oneHost

theorem SlotsInOrder.seat {r : SessionRecord κ} {joinIndex : ℤ} {host : Ip} {udpPort : ℕ}
    (h : r.SlotsInOrder) (slot : IsSlot joinIndex) (address : ValidAddress host udpPort)
    (unlisted : ∀ e ∈ r.entries, e.joinIndex ≠ joinIndex)
    (unreserved : joinIndex ∉ r.reservedJoinIndices) :
    (r.seat joinIndex host udpPort).SlotsInOrder where
  distinct := by
    simp only [SessionRecord.seat, List.map_append, List.map_cons, List.map_nil]
    refine h.distinct.append (List.nodup_singleton _) ?_
    rw [List.disjoint_singleton]
    intro hmem
    obtain ⟨e, he, hsame⟩ := List.mem_map.mp hmem
    exact unlisted e he hsame
  valid e he := by
    obtain hold | hnew := List.mem_append.mp he
    · exact h.valid e hold
    · obtain rfl := List.mem_singleton.mp hnew
      exact ⟨slot, rfl, address⟩
  reserved := h.reserved
  disjoint e he := by
    obtain hold | hnew := List.mem_append.mp he
    · exact h.disjoint e hold
    · obtain rfl := List.mem_singleton.mp hnew
      exact unreserved
  oneHost := by
    simpa [SessionRecord.seat, List.countP_append] using h.oneHost

theorem SlotsInOrder.reclaim {r : SessionRecord κ} {host : Ip} {udpPort : ℕ} (h : r.SlotsInOrder)
    (joinIndex : ℤ) (address : ValidAddress host udpPort) :
    SlotsInOrder { r with entries := reclaimSlot joinIndex host udpPort r.entries } where
  distinct := by
    change ((reclaimSlot joinIndex host udpPort r.entries).map SlotEntry.joinIndex).Nodup
    rw [map_reclaimSlot (fun _ => rfl)]
    exact h.distinct
  valid e he := by
    obtain hsame | ⟨e₀, he₀, rfl⟩ := mem_reclaimSlot he
    · exact h.valid e hsame
    · exact (h.valid e₀ he₀).movedTo address
  reserved := h.reserved
  disjoint e he := by
    obtain hsame | ⟨e₀, he₀, rfl⟩ := mem_reclaimSlot he
    · exact h.disjoint e hsame
    · exact h.disjoint e₀ he₀
  oneHost := by
    change (reclaimSlot joinIndex host udpPort r.entries).countP SlotEntry.isHost ≤ 1
    have hflags : (reclaimSlot joinIndex host udpPort r.entries).map SlotEntry.isHost =
        r.entries.map SlotEntry.isHost := map_reclaimSlot (fun _ => rfl) _ _
    have hcount (l : List SlotEntry) :
        l.countP SlotEntry.isHost = (l.map SlotEntry.isHost).countP id := by
      rw [List.countP_map]
      rfl
    rw [hcount, hflags, ← hcount]
    exact h.oneHost

theorem SlotsInOrder.leave {r : SessionRecord κ} (h : r.SlotsInOrder) (joinIndex : ℤ) :
    (r.leave joinIndex).1.SlotsInOrder := by
  unfold SessionRecord.leave
  split
  · exact h
  · have hsub := r.entries.filter_sublist (p := fun e => e.joinIndex ≠ joinIndex)
    refine ⟨(hsub.map _).nodup h.distinct, ?_, h.reserved, ?_, ?_⟩
    · exact fun e he => h.valid e (hsub.subset he)
    · exact fun e he => h.disjoint e (hsub.subset he)
    · exact (hsub.countP_le).trans h.oneHost

theorem leave_connections (r : SessionRecord κ) (joinIndex : ℤ) :
    (r.leave joinIndex).1.connections = r.connections := by
  unfold leave
  split <;> rfl

/-- Who is listed at which slot. -/
def outline (r : SessionRecord κ) : List (ℤ × Bool) :=
  r.entries.map fun e => (e.joinIndex, e.isHost)

/-- What a join does to a record. -/
structure Joins (r : SessionRecord κ) (rejoinJoinIndex : Option ℤ) (joinIndex : ℤ)
    (r' : SessionRecord κ) : Prop where
  connections : r'.connections = r.connections
  isActive : r'.isActive = r.isActive
  outline : r'.outline = r.outline ∨ r'.outline = r.outline ++ [(joinIndex, false)]
  listed : ∃ e ∈ r'.entries, e.joinIndex = joinIndex
  unreserved : rejoinJoinIndex = none → joinIndex ∉ r.reservedJoinIndices

theorem join_spec {r r' : SessionRecord κ} {playerId : PlayerId} {host : Ip} {udpPort : ℕ}
    {rejoinJoinIndex : Option ℤ} {joinIndex : ℤ}
    (h : r.join playerId host udpPort rejoinJoinIndex = some (r', joinIndex)) :
    r.Joins rejoinJoinIndex joinIndex r' := by
  unfold join at h
  split at h
  case h_1 i =>
    split at h
    case h_1 e hexisting =>
      split at h
      · cases h
      · cases h
        obtain ⟨hmem, hindex⟩ := existing_eq_some hexisting
        have houtline : (reclaimSlot joinIndex host udpPort r.entries).map
            (fun e => (e.joinIndex, e.isHost)) = r.outline := map_reclaimSlot (fun _ => rfl) _ _
        refine ⟨rfl, rfl, .inl houtline, ?_, by simp⟩
        have hlisted : joinIndex ∈ (reclaimSlot joinIndex host udpPort r.entries).map
            SlotEntry.joinIndex := by
          rw [map_reclaimSlot (fun _ => rfl)]
          exact List.mem_map.mpr ⟨e, hmem, hindex⟩
        exact List.mem_map.mp hlisted
    case h_2 hexisting =>
      split at h
      · cases h
      · cases h
        exact ⟨rfl, rfl, .inr (by simp [outline, seat, free]),
          ⟨_, List.mem_append_right _ List.mem_cons_self, rfl⟩, by simp⟩
  case h_2 =>
    split at h
    · cases h
    · split at h
      · cases h
      case h_2 i hfree =>
        cases h
        refine ⟨rfl, rfl, .inr (by simp [outline, seat]),
          ⟨_, List.mem_append_right _ List.mem_cons_self, rfl⟩, ?_⟩
        intro _ hreserved
        have hunoccupied : joinIndex ∉ r.occupiedIndices := by simpa using List.find?_some hfree
        exact hunoccupied (mem_occupiedIndices.mpr (.inr hreserved))

theorem SlotsInOrder.join {r r' : SessionRecord κ} {playerId : PlayerId} {host : Ip} {udpPort : ℕ}
    {rejoinJoinIndex : Option ℤ} {joinIndex : ℤ} (inOrder : r.SlotsInOrder)
    (address : ValidAddress host udpPort)
    (h : r.join playerId host udpPort rejoinJoinIndex = some (r', joinIndex)) :
    r'.SlotsInOrder := by
  unfold SessionRecord.join at h
  split at h
  case h_1 i =>
    split at h
    case h_1 e hexisting =>
      split at h
      · cases h
      · cases h
        exact (inOrder.free joinIndex).reclaim joinIndex address
    case h_2 hexisting =>
      split at h
      · cases h
      case isFalse hreserved =>
        cases h
        refine (inOrder.free joinIndex).seat (inOrder.reserved _ (not_not.mp hreserved)) address
          (existing_eq_none.mp hexisting) ?_
        simp [SessionRecord.free]
  case h_2 =>
    split at h
    · cases h
    · split at h
      · cases h
      case h_2 i hfree =>
        cases h
        have hunoccupied : joinIndex ∉ r.occupiedIndices := by simpa using List.find?_some hfree
        rw [mem_occupiedIndices, not_or] at hunoccupied
        refine inOrder.seat (mem_allSlots.mp (List.mem_of_find?_eq_some hfree)) address ?_
          hunoccupied.2
        intro e he hsame
        exact hunoccupied.1 ⟨e, he, hsame⟩

/-! ## Rosters -/

theorem toNat_injective {a b : ℤ} (ha : IsSlot a) (hb : IsSlot b) (h : a.toNat = b.toNat) :
    a = b := by
  have hnonneg := ha.1
  have hnonneg' := hb.1
  omega

theorem foldlM_addPlayer {entries : List SlotEntry} {roster : GlobalRoster}
    (valid : ∀ e ∈ entries, e.Valid) (distinct : (entries.map SlotEntry.joinIndex).Nodup)
    (new : ∀ e ∈ entries, ∀ p ∈ roster.players, p.joinIndex ≠ e.joinIndex.toNat) :
    entries.foldlM
      (fun roster e => do
        let entry ← e.toRosterEntry
        roster.addPlayer entry) roster =
      .ok ⟨roster.players ++ entries.map SlotEntry.rosterEntry⟩ := by
  induction entries generalizing roster with
  | nil => simp [pure, Except.pure]
  | cons e entries ih =>
    rw [List.forall_mem_cons] at valid new
    rw [List.map_cons, List.nodup_cons] at distinct
    have hadd : roster.addPlayer e.rosterEntry = .ok ⟨roster.players ++ [e.rosterEntry]⟩ :=
      GlobalRoster.addPlayer_succeeds new.1
    rw [List.foldlM_cons, valid.1.toRosterEntry, Fallible.ok_bind, hadd, Fallible.ok_bind,
      ih valid.2 distinct.2]
    · simp
    · intro e' he' p hp
      obtain hold | hlast := List.mem_append.mp hp
      · exact new.2 e' he' p hold
      · obtain rfl := List.mem_singleton.mp hlast
        intro hsame
        have hindex := toNat_injective valid.1.slot (valid.2 e' he').slot hsame
        exact distinct.1 (hindex ▸ List.mem_map_of_mem he')

/-- A roster can be built from slots in order; it lists the entries. -/
theorem SlotsInOrder.getRoster {r : SessionRecord κ} (h : r.SlotsInOrder) :
    r.getRoster = .ok ⟨r.entries.map SlotEntry.rosterEntry⟩ :=
  foldlM_addPlayer h.valid h.distinct (by simp)

/-! ## Admission -/

/-- Below the player limit there is a slot that is not occupied. -/
theorem exists_free {r : SessionRecord κ} (h : r.occupiedIndices.card < maxPlayers) :
    allSlots.find? (· ∉ r.occupiedIndices) ≠ none := by
  intro hnone
  have hall : allSlots.toFinset ⊆ r.occupiedIndices := by
    intro i hi
    have hoccupied := List.find?_eq_none.mp hnone i (List.mem_toFinset.mp hi)
    simpa using hoccupied
  have hcard : allSlots.toFinset.card = maxPlayers := by decide
  have hle := Finset.card_le_card hall
  omega

/-- Only a reserved slot is not full for a rejoin. -/
theorem SlotsInOrder.isFull_rejoin {r : SessionRecord κ} (h : r.SlotsInOrder) (i : ℤ) :
    r.isFull (some i) = decide (i ∉ r.reservedJoinIndices) := by
  have hothers : (r.entries.any fun e => e.joinIndex = i && e.playerId ≠ playerIdFor i) =
      false := by
    simp only [List.any_eq_false, Bool.and_eq_true, decide_eq_true_eq, not_and, not_not]
    intro e he hindex
    rw [(h.valid e he).named, hindex]
  rw [isFull, hothers, Bool.not_false, Bool.and_true]

/-- The check and the join decide alike as long as nobody is listed at the slot that is asked for;
a listed player is refused by the check only. -/
theorem SlotsInOrder.isFull_iff {r : SessionRecord κ} (h : r.SlotsInOrder) {playerId : PlayerId}
    (host : Ip) (udpPort : ℕ) {rejoinJoinIndex : Option ℤ}
    (own : ∀ i ∈ rejoinJoinIndex, playerId = playerIdFor i) :
    (r.isFull rejoinJoinIndex = true ↔ r.join playerId host udpPort rejoinJoinIndex = none) ↔
      ∀ i ∈ rejoinJoinIndex, r.existing i = none := by
  cases rejoinJoinIndex with
  | none =>
    refine iff_of_true ?_ (by simp)
    by_cases hfull : maxPlayers ≤ r.occupiedIndices.card
    · simp [isFull, SessionRecord.join, hfull]
    · have hfree := exists_free (not_le.mp hfull)
      obtain ⟨i, hi⟩ := Option.ne_none_iff_exists'.mp hfree
      have hjoin : r.join playerId host udpPort none = some (r.seat i host udpPort, i) := by
        simp only [SessionRecord.join, if_neg hfull, hi]
      simp [isFull, hfull, hjoin]
  | some i =>
    have hplayer : playerId = playerIdFor i := own i rfl
    rw [h.isFull_rejoin i]
    cases hexisting : r.existing i with
    | none =>
      refine iff_of_true ?_ (by simpa using hexisting)
      by_cases hreserved : i ∈ r.reservedJoinIndices
      · simp [SessionRecord.join, hexisting, hreserved]
      · simp [SessionRecord.join, hexisting, hreserved]
    | some e =>
      refine iff_of_false ?_ (by simp [hexisting])
      obtain ⟨hmem, hindex⟩ := existing_eq_some hexisting
      have hunreserved : i ∉ r.reservedJoinIndices := hindex ▸ h.disjoint e hmem
      have hown : e.playerId = playerId := by rw [(h.valid e hmem).named, hindex, hplayer]
      simp [SessionRecord.join, hexisting, hunreserved, hown]

end SessionRecord

end DistributedSmb
