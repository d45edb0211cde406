import DistributedSmb.Lobby.NewRun

/-!
# Leaving a session

A player that leaves is taken off the list of its session. The slot of a player that is not on the
list, because the session has been registered again since and keeps its slot reserved, stays
reserved when that player leaves.
-/

namespace DistributedSmb

open Library

variable {κ : Type}

namespace SessionRecord

variable {r r' : SessionRecord κ} {i : ℤ}

/-! ## Occupied slots -/

theorem occupiedIndices_congr (entries : r'.entries = r.entries)
    (reserved : r'.reservedJoinIndices = r.reservedJoinIndices) :
    r'.occupiedIndices = r.occupiedIndices := by
  rw [occupiedIndices, occupiedIndices, entries, reserved]

theorem occupiedIndices_seat (r : SessionRecord κ) (i : ℤ) (host : Ip) (udpPort : ℕ) :
    (r.seat i host udpPort).occupiedIndices = insert i r.occupiedIndices := by
  ext j
  simp only [mem_occupiedIndices, seat, List.mem_append, List.mem_singleton, Finset.mem_insert,
    or_and_right, exists_or, exists_eq_left]
  rw [or_assoc, or_left_comm, eq_comm]

theorem leave_entries (r : SessionRecord κ) (i : ℤ) :
    (r.leave i).1.entries = r.entries.filter fun e => e.joinIndex ≠ i := by
  unfold leave
  split
  case h_1 hnobody =>
    refine (List.filter_eq_self.mpr fun e he => ?_).symm
    exact decide_eq_true (existing_eq_none.mp hnobody e he)
  case h_2 => rfl

/-- Leaving touches the list only. -/
theorem mem_occupiedIndices_leave {j : ℤ} :
    j ∈ (r.leave i).1.occupiedIndices ↔
      j ∈ r.occupiedIndices ∧ (j = i → i ∈ r.reservedJoinIndices) := by
  simp only [mem_occupiedIndices, leave_entries, leave_reserved, List.mem_filter,
    decide_eq_true_iff]
  by_cases hj : j = i
  · subst hj
    constructor
    · rintro (⟨e, ⟨-, hne⟩, heq⟩ | hreserved)
      · exact absurd heq hne
      · exact ⟨.inr hreserved, fun _ => hreserved⟩
    · exact fun h => .inr (h.2 rfl)
  · simp only [hj, false_implies, and_true]
    refine or_congr_left (exists_congr fun e => ?_)
    constructor
    · exact fun h => ⟨h.1.1, h.2⟩
    · rintro ⟨he, rfl⟩
      exact ⟨⟨he, hj⟩, rfl⟩

theorem occupiedIndices_leave (unreserved : i ∉ r.reservedJoinIndices) :
    (r.leave i).1.occupiedIndices = r.occupiedIndices.erase i := by
  ext j
  rw [mem_occupiedIndices_leave, Finset.mem_erase, and_comm]
  simp [unreserved]

theorem SlotsInOrder.card_occupiedIndices_le (h : r.SlotsInOrder) :
    r.occupiedIndices.card ≤ maxPlayers := by
  refine le_trans ?_ h.bounded
  refine (Finset.card_union_le _ _).trans (Nat.add_le_add_right ?_ _)
  exact (List.toFinset_card_le _).trans (List.length_map _).le

/-- Where all slots but one are occupied, one newcomer is admitted, and then the session is full. -/
theorem join_of_one_free (h : r.occupiedIndices.card + 1 = maxPlayers) (playerId : PlayerId)
    (host : Ip) (udpPort : ℕ) :
    r.isFull none = false ∧
      ∃ r' j, r.join playerId host udpPort none = some (r', j) ∧ r'.isFull none = true := by
  have hroom : r.occupiedIndices.card < maxPlayers := by omega
  obtain ⟨j, hj⟩ := Option.ne_none_iff_exists'.mp (exists_free hroom)
  have hfree : j ∉ r.occupiedIndices := by simpa using List.find?_some hj
  refine ⟨decide_eq_false (not_le.mpr hroom), r.seat j host udpPort, j, ?_, ?_⟩
  · simp only [join, if_neg (not_le.mpr hroom), hj]
  · refine decide_eq_true ?_
    rw [occupiedIndices_seat, Finset.card_insert_of_notMem hfree, h]

end SessionRecord

namespace LobbyManager

/-- A newcomer is admitted, and no other one after it. -/
def AdmitsOne (m : LobbyManager κ) (sessionId : String) : Prop :=
  m.isFull sessionId none = false ∧ ∀ playerId host udpPort, ∃ m' j,
    m.joinSession sessionId playerId host udpPort none = some (m', j) ∧
      m'.isFull sessionId none = true

/-- After the step from `m` to `m'`, the slot is neither listed nor reserved, and a session that was
full has room for one more. -/
def FreesSlot (m m' : LobbyManager κ) (sessionId : String) (i : ℤ) : Prop :=
  ∃ r', m'.sessions.get? sessionId = some r' ∧
    (¬r'.Lists i ∧ i ∉ r'.reservedJoinIndices) ∧
    (m.isFull sessionId none = true → m'.AdmitsOne sessionId)

theorem admitsOne_of_one_free {m : LobbyManager κ} {sessionId : String} {r : SessionRecord κ}
    (found : m.sessions.get? sessionId = some r) (h : r.occupiedIndices.card + 1 = maxPlayers) :
    m.AdmitsOne sessionId := by
  refine ⟨?_, fun playerId host udpPort => ?_⟩
  · rw [isFull, found]
    exact (SessionRecord.join_of_one_free h "" "" 0).1
  · obtain ⟨-, r', j, hjoin, hfull⟩ := SessionRecord.join_of_one_free h playerId host udpPort
    refine ⟨m.put sessionId r', j, ?_, ?_⟩
    · rw [joinSession, found, Option.bind_eq_bind, Option.bind_some, hjoin]
      rfl
    · rw [isFull, put, Dict.get?_set_self]
      exact hfull

/-- The slot is free after its player has left, unless it was reserved. -/
theorem freesSlot_iff {m m' : LobbyManager κ} {sessionId : String} {r r' : SessionRecord κ} {i : ℤ}
    (inOrder : r.SlotsInOrder) (found : m.sessions.get? sessionId = some r)
    (held : i ∈ r.occupiedIndices) (found' : m'.sessions.get? sessionId = some r')
    (left : r'.entries = (r.leave i).1.entries)
    (kept : r'.reservedJoinIndices = (r.leave i).1.reservedJoinIndices) :
    m.FreesSlot m' sessionId i ↔ i ∉ r.reservedJoinIndices := by
  rw [r.leave_reserved] at kept
  constructor
  · rintro ⟨r'', hfound, ⟨-, hfree⟩, -⟩
    obtain rfl : r' = r'' := Option.some.inj (found'.symm.trans hfound)
    exact kept ▸ hfree
  · intro unreserved
    have hoccupied : r'.occupiedIndices = r.occupiedIndices.erase i := by
      rw [SessionRecord.occupiedIndices_congr left (kept.trans (r.leave_reserved i).symm),
        SessionRecord.occupiedIndices_leave unreserved]
    refine ⟨r', found', ⟨?_, kept ▸ unreserved⟩, fun full => ?_⟩
    · rintro ⟨e, he, hindex⟩
      rw [left, SessionRecord.leave_entries] at he
      exact of_decide_eq_true (List.mem_filter.mp he).2 hindex
    · rw [isFull, found] at full
      refine admitsOne_of_one_free found' ?_
      rw [hoccupied, Finset.card_erase_add_one held]
      exact inOrder.card_occupiedIndices_le.antisymm (of_decide_eq_true full)

end LobbyManager

/-! ## The message -/

namespace Lobby

variable [DecidableEq κ]

theorem finish_session {s : Lobby κ} {ws : κ} {sessionId : String} {r : SessionRecord κ}
    (found : s.manager.sessions.get? sessionId = some r) :
    ∃ r', (s.finish ws).manager.sessions.get? sessionId = some r' ∧ r'.entries = r.entries ∧
      r'.reservedJoinIndices = r.reservedJoinIndices := by
  simp only [finish, record, setStatus]
  split
  case h_1 own _ =>
    rw [LobbyManager.get?_removeConnection, found]
    refine ⟨_, rfl, ?_, ?_⟩ <;> split <;> rfl
  case h_2 => exact ⟨r, found, rfl, rfl⟩

/-- Telling the others changes nothing about who is in the session. -/
theorem broadcastRoster_session {s : Lobby κ} {ws : κ} {sessionId : String} {r : SessionRecord κ}
    (found : s.manager.sessions.get? sessionId = some r) :
    ∃ r', (s.runTasks ws [.broadcastRoster sessionId]).manager.sessions.get? sessionId = some r' ∧
      r'.entries = r.entries ∧ r'.reservedJoinIndices = r.reservedJoinIndices := by
  rw [runTasks]
  split
  · exact finish_session found
  · split
    · exact ⟨r, found, rfl, rfl⟩
    · exact ⟨r, found, rfl, rfl⟩

/-- A player other than the host leaves. -/
theorem leave_session {s : Lobby κ} {ws : κ} {m : SessionLeave} {r : SessionRecord κ}
    (uuid : String) (ready : (s.handlers ws).status = .receiving)
    (checked : m.checked = .ok m) (found : s.manager.sessions.get? m.sessionId = some r)
    (guest : (r.leave m.joinIndex).2 = false) :
    ∃ r', (s.step (.receive ws (.sessionLeave m) uuid)).manager.sessions.get? m.sessionId =
        some r' ∧
      r'.entries = (r.leave m.joinIndex).1.entries ∧
      r'.reservedJoinIndices = (r.leave m.joinIndex).1.reservedJoinIndices := by
  have hchecked : (ClientMessage.sessionLeave m).checked = .ok (.sessionLeave m) := by
    rw [ClientMessage.checked, checked, Fallible.ok_bind]
  have hthere : s.manager.hasSession m.sessionId = true :=
    decide_eq_true (Dict.mem_of_get?_eq_some found)
  simp only [step, ready, onMessage, hchecked, onSessionLeave, hthere, if_true,
    LobbyManager.leaveSession, found, guest, Bool.false_eq_true, if_false]
  exact broadcastRoster_session (Dict.get?_set_self _ _ _)

/-- Leaving frees the slot of a player if and only if the slot is not a reserved one. -/
theorem leaving_frees_iff (steps : List (LobbyStep κ)) {ws : κ} {m : SessionLeave} (uuid : String)
    {r : SessionRecord κ} (ready : ((run {} steps).handlers ws).status = .receiving)
    (checked : m.checked = .ok m)
    (found : (run {} steps).manager.sessions.get? m.sessionId = some r)
    (held : r.Lists m.joinIndex ∨ m.joinIndex ∈ r.reservedJoinIndices)
    (guest : ∀ e ∈ r.entries, e.joinIndex = m.joinIndex → e.isHost = false) :
    (run {} steps).manager.FreesSlot
        ((run {} steps).step (.receive ws (.sessionLeave m) uuid)).manager m.sessionId m.joinIndex ↔
      m.joinIndex ∉ r.reservedJoinIndices := by
  have hguest : (r.leave m.joinIndex).2 = false := by
    unfold SessionRecord.leave
    split
    case h_1 => rfl
    case h_2 e hexisting =>
      obtain ⟨he, hindex⟩ := SessionRecord.existing_eq_some hexisting
      exact guest e he hindex
  obtain ⟨r', hfound, hleft, hkept⟩ := leave_session uuid ready checked found hguest
  exact LobbyManager.freesSlot_iff (run_slotsHold steps _ r found) found
    (SessionRecord.mem_occupiedIndices.mpr held) hfound hleft hkept

end Lobby

/-! ### A migration and a leave -/

def listedGuestLeaves : SessionLeave := ⟨"room", 1⟩

/-- The guest of a new session leaves, and its slot is free. -/
theorem listed_guest_frees_its_slot :
    (Lobby.run {} openRoom).manager.FreesSlot
      ((Lobby.run {} openRoom).step (.receive .guest (.sessionLeave listedGuestLeaves) "")).manager
      "room" 1 := by
  have hroom : ((Lobby.run {} openRoom).manager.sessions.get? "room").any
      (fun r => decide ((r.entries.any fun e => e.joinIndex = 1) ∧ 1 ∉ r.reservedJoinIndices ∧
        ∀ e ∈ r.entries, e.joinIndex = 1 → e.isHost = false)) = true := by decide +kernel
  obtain ⟨r, hr, hcheck⟩ := (Option.any_eq_true _ _).mp hroom
  obtain ⟨hlisted, hfree, hguest⟩ := of_decide_eq_true hcheck
  have hlists : r.Lists 1 := by simpa [SessionRecord.Lists] using hlisted
  exact (Lobby.leaving_frees_iff openRoom (m := listedGuestLeaves) "" (by decide +kernel)
    (by decide +kernel) hr (.inl hlists) hguest).mpr hfree

/-- The lobby of the second of three players, who has become the host. -/
def recreatedRoom : List (LobbyStep LobbyPeer) :=
  [.receive .host (.sessionRecreate secondRecreates) "", .resume .host false]

def thirdLeaves : SessionLeave := ⟨"session", 2⟩

/-- The third player, who went on playing, leaves, and its slot stays reserved. -/
theorem reserved_guest_keeps_its_slot : ∃ r,
    thirdLeaves.checked = .ok thirdLeaves ∧
      ((Lobby.run {} recreatedRoom).handlers .guest).status = .receiving ∧
      (Lobby.run {} recreatedRoom).manager.sessions.get? "session" = some r ∧
      2 ∈ r.reservedJoinIndices ∧ (∀ e ∈ r.entries, e.joinIndex = 2 → e.isHost = false) ∧
      ¬(Lobby.run {} recreatedRoom).manager.FreesSlot
        ((Lobby.run {} recreatedRoom).step (.receive .guest (.sessionLeave thirdLeaves) "")).manager
        "session" 2 := by
  have hroom : ((Lobby.run {} recreatedRoom).manager.sessions.get? "session").any
      (fun r => decide (2 ∈ r.reservedJoinIndices ∧
        ∀ e ∈ r.entries, e.joinIndex = 2 → e.isHost = false)) = true := by decide +kernel
  obtain ⟨r, hr, hcheck⟩ := (Option.any_eq_true _ _).mp hroom
  obtain ⟨hreserved, hguest⟩ := of_decide_eq_true hcheck
  have hstill : ((((Lobby.run {} recreatedRoom).step
      (.receive .guest (.sessionLeave thirdLeaves) "")).manager.sessions.get? "session").all
        fun r => decide (2 ∈ r.reservedJoinIndices)) = true := by decide +kernel
  refine ⟨r, by decide +kernel, by decide +kernel, hr, hreserved, hguest, ?_⟩
  rintro ⟨r', hr', ⟨-, hfree⟩, -⟩
  rw [hr', Option.all_some] at hstill
  exact hfree (of_decide_eq_true hstill)

end DistributedSmb
