import DistributedSmb.Lobby.Turns

/-!
# Admission to a session

The slots of every session stay in order, whatever messages arrive on whatever connections and
however the handlers take turns. In such a lobby `is_full` and `join_session` are compared: they
agree about every join but one that asks for a slot whose player is still listed.
-/

namespace DistributedSmb

open Library

variable {κ : Type}

/-- Connections of the host and of two more players. -/
inductive LobbyPeer where
  | host | guest | latecomer
  deriving DecidableEq

theorem SlotEntry.ofHost_valid {joinIndex : ℤ} {host : Ip} {udpPort : ℕ} (slot : IsSlot joinIndex)
    (address : ValidAddress host udpPort) : (SlotEntry.ofHost joinIndex host udpPort).Valid :=
  ⟨slot, rfl, address⟩

/-- A session that lists its host only. -/
theorem SessionRecord.SlotsInOrder.of_host {r : SessionRecord κ} {joinIndex : ℤ} {host : Ip}
    {udpPort : ℕ} (entries : r.entries = [.ofHost joinIndex host udpPort]) (slot : IsSlot joinIndex)
    (address : ValidAddress host udpPort) (reserved : ∀ i ∈ r.reservedJoinIndices, IsSlot i)
    (unreserved : joinIndex ∉ r.reservedJoinIndices) : r.SlotsInOrder := by
  refine ⟨?_, ?_, reserved, ?_, ?_⟩
  · rw [entries]
    exact List.nodup_singleton _
  · rw [entries]
    intro e he
    obtain rfl := List.mem_singleton.mp he
    exact SlotEntry.ofHost_valid slot address
  · rw [entries]
    intro e he
    obtain rfl := List.mem_singleton.mp he
    exact unreserved
  · rw [entries]
    exact List.countP_le_length

namespace LobbyManager

def SlotsHold (m : LobbyManager κ) : Prop :=
  ∀ sessionId r, m.sessions.get? sessionId = some r → r.SlotsInOrder

theorem get?_put {m : LobbyManager κ} {sessionId other : String} {r r' : SessionRecord κ}
    (h : (m.put sessionId r).sessions.get? other = some r') :
    other = sessionId ∧ r' = r ∨ other ≠ sessionId ∧ m.sessions.get? other = some r' := by
  by_cases hother : other = sessionId
  · subst hother
    rw [put, Dict.get?_set_self] at h
    exact .inl ⟨rfl, (Option.some.inj h).symm⟩
  · rw [put, Dict.get?_set_ne _ hother] at h
    exact .inr ⟨hother, h⟩

theorem connections_put_self (m : LobbyManager κ) (sessionId : String) (r : SessionRecord κ) :
    (m.put sessionId r).connections sessionId = r.connections := by
  simp [connections, put]

theorem connections_put_ne (m : LobbyManager κ) {sessionId other : String} (h : other ≠ sessionId)
    (r : SessionRecord κ) : (m.put sessionId r).connections other = m.connections other := by
  simp [connections, put, Dict.get?_set_ne _ h]

theorem connections_of_put {m : LobbyManager κ} {sessionId other : String} {r : SessionRecord κ}
    {ws : κ} (h : ws ∈ (m.put sessionId r).connections other) :
    other = sessionId ∧ ws ∈ r.connections ∨ ws ∈ m.connections other := by
  by_cases hother : other = sessionId
  · subst hother
    rw [connections_put_self] at h
    exact .inl ⟨rfl, h⟩
  · rw [connections_put_ne _ hother] at h
    exact .inr h

theorem get?_dropSession {m : LobbyManager κ} {sessionId other : String} {r : SessionRecord κ}
    (h : (m.dropSession sessionId).sessions.get? other = some r) :
    other ≠ sessionId ∧ m.sessions.get? other = some r := by
  by_cases hother : other = sessionId
  · subst hother
    rw [dropSession, Dict.get?_erase_self] at h
    cases h
  · rw [dropSession, Dict.get?_erase_ne _ hother] at h
    exact ⟨hother, h⟩

theorem SlotsHold.put {m : LobbyManager κ} (h : m.SlotsHold) (sessionId : String)
    {r : SessionRecord κ} (inOrder : r.SlotsInOrder) : (m.put sessionId r).SlotsHold := by
  intro other r' hr'
  obtain ⟨-, rfl⟩ | ⟨-, hfound⟩ := get?_put hr'
  · exact inOrder
  · exact h other r' hfound

theorem SlotsHold.dropSession {m : LobbyManager κ} (h : m.SlotsHold) (sessionId : String) :
    (m.dropSession sessionId).SlotsHold := by
  intro other r hr
  exact h other r (get?_dropSession hr).2

theorem get?_removeConnection [DecidableEq κ] (m : LobbyManager κ) (sessionId other : String)
    (ws : κ) :
    (m.removeConnection sessionId ws).sessions.get? other = (m.sessions.get? other).map fun r =>
      if other = sessionId then { r with connections := r.connections.filter (· ≠ ws) } else r := by
  unfold removeConnection
  by_cases hother : other = sessionId
  · subst hother
    cases hfound : m.sessions.get? other with
    | none => exact hfound
    | some r => simp [put]
  · cases m.sessions.get? sessionId with
    | none => simp [hother]
    | some r => simp [put, Dict.get?_set_ne _ hother, hother]

theorem connections_removeConnection [DecidableEq κ] {m : LobbyManager κ}
    {sessionId other : String} {ws w : κ}
    (h : ws ∈ (m.removeConnection sessionId w).connections other) : ws ∈ m.connections other := by
  unfold connections at h ⊢
  rw [get?_removeConnection] at h
  cases hfound : m.sessions.get? other with
  | none => simp [hfound] at h
  | some r =>
    simp only [hfound, Option.map_some] at h
    split at h
    · exact List.mem_of_mem_filter h
    · exact h

theorem SlotsHold.removeConnection [DecidableEq κ] {m : LobbyManager κ} (h : m.SlotsHold)
    (sessionId : String) (ws : κ) : (m.removeConnection sessionId ws).SlotsHold := by
  intro other r' hr'
  rw [get?_removeConnection] at hr'
  obtain ⟨r, hfound, rfl⟩ := Option.map_eq_some_iff.mp hr'
  split
  · exact (h other r hfound).of_entries rfl rfl
  · exact h other r hfound

theorem SlotsHold.opens {m m' : LobbyManager κ} {ws : κ} {message : ClientMessage} {uuid : String}
    {events : List (LobbyEvent κ)} {tasks : List (LobbyTask κ)} (h : m.SlotsHold)
    (opens : m.Opens ws message uuid m' events tasks) : m'.SlotsHold := by
  cases opens with
  | create address =>
    apply h.put
    exact .of_host rfl ⟨le_rfl, by decide⟩ address (by simp) (by simp)
  | join found address room joined =>
    apply h.put
    exact ((h _ _ found).join address joined).of_entries rfl rfl
  | recreate address slot reserved unreserved =>
    apply h.put
    exact .of_host rfl slot address (by simpa using reserved) (by simpa using unreserved)
  | close found | leave found => exact h.put _ ((h _ _ found).leave _)
  | start found => exact h.put _ ((h _ _ found).of_entries rfl rfl)
  | refuse | sync | idle => exact h

end LobbyManager

namespace Lobby

variable [DecidableEq κ]

theorem does_slotsHold {ws : κ} {v v' : LobbyView κ} (does : LobbyView.Does ws v v')
    (h : v.manager.SlotsHold) : v'.manager.SlotsHold := by
  cases does with
  | drop => exact h.dropSession _
  | ends left =>
    obtain rfl | ⟨sessionId, rfl⟩ := left
    · exact h
    · exact h.removeConnection sessionId ws
  | reply | deliver | broadcast | broadcastRoster | start | skip | forget => exact h

theorem step_slotsHold {s : Lobby κ} (h : s.manager.SlotsHold) (x : LobbyStep κ) :
    (s.step x).manager.SlotsHold :=
  step_keeps (I := fun v => v.manager.SlotsHold) (fun _ _ _ does hv => does_slotsHold does hv)
    (fun _ _ _ opens => h.opens opens) h

theorem run_slotsHold (steps : List (LobbyStep κ)) :
    (run ({} : Lobby κ) steps).manager.SlotsHold :=
  Fallible.foldl_keeps (P := fun s : Lobby κ => s.manager.SlotsHold)
    (fun _ x _ hs => step_slotsHold hs x) (fun _ _ hr => nomatch hr)

/-- What the slots of a session are like in every state of the lobby: no index is taken twice, no
player has another's id, and there is at most one host. A roster can be built, and a new player
never gets a slot that is kept for another one. -/
theorem session_slots (steps : List (LobbyStep κ)) {sessionId : String} {r : SessionRecord κ}
    (found : (run {} steps).manager.sessions.get? sessionId = some r) :
    (r.entries.map SlotEntry.joinIndex).Nodup ∧
      (∀ e ∈ r.entries, IsSlot e.joinIndex ∧ e.joinIndex ∉ r.reservedJoinIndices ∧
        e.playerId = playerIdFor e.joinIndex) ∧
      r.entries.length + r.reservedJoinIndices.card ≤ maxPlayers ∧
      r.entries.countP SlotEntry.isHost ≤ 1 ∧
      (∃ roster, (run {} steps).manager.getRoster sessionId = .ok roster) ∧
      ∀ playerId host udpPort manager joinIndex,
        (run {} steps).manager.joinSession sessionId playerId host udpPort none =
          some (manager, joinIndex) → joinIndex ∉ r.reservedJoinIndices := by
  have inOrder := run_slotsHold steps sessionId r found
  refine ⟨inOrder.distinct, ?_, inOrder.bounded, inOrder.oneHost, ?_, ?_⟩
  · intro e he
    exact ⟨(inOrder.valid e he).slot, inOrder.disjoint e he, (inOrder.valid e he).named⟩
  · refine ⟨⟨r.entries.map SlotEntry.rosterEntry⟩, ?_⟩
    rw [LobbyManager.getRoster, LobbyManager.session, found]
    exact inOrder.getRoster
  · intro playerId host udpPort manager joinIndex hjoin
    obtain ⟨r₀, hfound, hjoin⟩ := Option.bind_eq_some_iff.mp hjoin
    obtain rfl : r = r₀ := Option.some.inj (found.symm.trans hfound)
    obtain ⟨⟨r', i⟩, hjoined, heq⟩ := Option.bind_eq_some_iff.mp hjoin
    cases heq
    exact (SessionRecord.join_spec hjoined).unreserved rfl

end Lobby

/-- A host has created a session and a guest has joined it. -/
def openRoom : List (LobbyStep LobbyPeer) :=
  [.receive .host (.sessionCreate ⟨"player1", "10.0.0.1", 50010⟩) "room",
    .resume .host false, .resume .host false,
    .receive .guest (.sessionJoin ⟨"room", "player2", "10.0.0.2", 50011, none⟩) "",
    .resume .guest false, .resume .guest false, .resume .guest false]

theorem openRoom_slots : ∃ r, (Lobby.run {} openRoom).manager.sessions.get? "room" = some r ∧
    r.entries.length = 2 ∧ (r.entries.map SlotEntry.joinIndex).Nodup ∧
    ∃ roster, (Lobby.run {} openRoom).manager.getRoster "room" = .ok roster := by
  have hlisted : ((Lobby.run {} openRoom).manager.sessions.get? "room").any
      (fun r => r.entries.length = 2) = true := by decide +kernel
  obtain ⟨r, hr, htwo⟩ := (Option.any_eq_true _ _).mp hlisted
  have hslots := Lobby.session_slots openRoom hr
  exact ⟨r, hr, by simpa using htwo, hslots.1, hslots.2.2.2.2.1⟩

namespace Lobby

variable [DecidableEq κ]

/-- The check before a join and the join itself decide alike if and only if nobody is listed at the
slot that the join asks for. -/
theorem isFull_iff_joinSession_eq_none (steps : List (LobbyStep κ)) {m : SessionJoin}
    {r : SessionRecord κ} (valid : m.checked = .ok m)
    (found : (run {} steps).manager.sessions.get? m.sessionId = some r) :
    ((run {} steps).manager.isFull m.sessionId m.rejoinJoinIndex = true ↔
        (run {} steps).manager.joinSession m.sessionId m.playerId m.ip m.port m.rejoinJoinIndex =
          none) ↔
      ∀ i ∈ m.rejoinJoinIndex, ∀ e ∈ r.entries, e.joinIndex ≠ i := by
  have inOrder := run_slotsHold steps m.sessionId r found
  obtain ⟨-, -, -, hown⟩ := SessionJoin.checked_spec valid
  have hfull : (run {} steps).manager.isFull m.sessionId m.rejoinJoinIndex =
      r.isFull m.rejoinJoinIndex := by
    rw [LobbyManager.isFull, found]
  have hjoin : (run {} steps).manager.joinSession m.sessionId m.playerId m.ip m.port
      m.rejoinJoinIndex = none ↔ r.join m.playerId m.ip m.port m.rejoinJoinIndex = none := by
    rw [LobbyManager.joinSession, found, Option.bind_eq_bind, Option.bind_some]
    cases r.join m.playerId m.ip m.port m.rejoinJoinIndex <;> simp
  rw [hfull, hjoin, inOrder.isFull_iff m.ip m.port fun i hi => (hown i hi).2]
  exact forall₂_congr fun i _ => SessionRecord.existing_eq_none

/-- A player that asks for a slot is accepted if the slot is reserved, and refused otherwise. -/
theorem step_rejoin {s : Lobby κ} (slots : s.manager.SlotsHold) {ws : κ}
    (ready : (s.handlers ws).status = .receiving) {m : SessionJoin} (valid : m.checked = .ok m)
    {i : ℤ} (asked : m.rejoinJoinIndex = some i) (uuid : String) :
    ((∃ r ∈ s.manager.sessions.get? m.sessionId, i ∈ r.reservedJoinIndices) →
      (s.step (.receive ws (.sessionJoin m) uuid)).log =
        s.log ++ [.accepted ws m.sessionId i, .sent ws (.sessionJoined i)]) ∧
    ((¬ ∃ r ∈ s.manager.sessions.get? m.sessionId, i ∈ r.reservedJoinIndices) →
      ∃ reason, (s.step (.receive ws (.sessionJoin m) uuid)).log =
        s.log ++ [.sent ws (.sessionJoinRejected m.sessionId reason)]) := by
  have hstep : s.step (.receive ws (.sessionJoin m) uuid) = s.onSessionJoin ws m := by
    simp only [step, ready, onMessage, ClientMessage.checked, valid, Fallible.ok_bind]
  obtain ⟨-, -, -, hslot⟩ := SessionJoin.checked_spec valid
  obtain ⟨⟨hnonneg, -⟩, -⟩ := hslot i asked
  rw [hstep, onSessionJoin, asked]
  constructor
  · rintro ⟨r, hr, hreserved⟩
    have inOrder := slots m.sessionId r hr
    have hunlisted : r.existing i = none := by
      refine SessionRecord.existing_eq_none.mpr fun e he hindex => ?_
      exact inOrder.disjoint e he (hindex ▸ hreserved)
    have hfull : s.manager.isFull m.sessionId (some i) = false := by
      rw [LobbyManager.isFull, hr]
      simp [inOrder.isFull_rejoin, hreserved]
    have hjoin : s.manager.joinSession m.sessionId m.playerId m.ip m.port (some i) =
        some (s.manager.put m.sessionId ((r.free i).seat i m.ip m.port), i) := by
      simp [LobbyManager.joinSession, Option.mem_def.mp hr, SessionRecord.join,
        hunlisted, hreserved]
    simp [setSession, hfull, hjoin, record, attempt, LobbyManager.addConnection,
      LobbyManager.session, LobbyManager.put, Fallible.ok_bind, runTasks, reply,
      ServerMessage.checked, ServerMessage.validate, requireJoinIndex, require, hnonneg, send,
      setStatus]
  · intro hunreserved
    have refused (message : ServerMessage) (reason : String)
        (is : message = .sessionJoinRejected m.sessionId reason) :
        ((s.setSession ws (some m.sessionId)).runTasks ws [.reply message, .forgetSession]).log =
          s.log ++ [.sent ws message] := by
      subst is
      rfl
    cases hr : s.manager.sessions.get? m.sessionId with
    | none =>
      have hfull : s.manager.isFull m.sessionId (some i) = false := by rw [LobbyManager.isFull, hr]
      have hjoin : s.manager.joinSession m.sessionId m.playerId m.ip m.port (some i) = none := by
        simp [LobbyManager.joinSession, hr]
      simp only [setSession, hfull, hjoin]
      exact ⟨_, refused _ _ rfl⟩
    | some r =>
      have hfull : s.manager.isFull m.sessionId (some i) = true := by
        rw [LobbyManager.isFull, hr]
        have inOrder := slots m.sessionId r hr
        simpa [inOrder.isFull_rejoin] using fun hreserved => hunreserved ⟨r, hr, hreserved⟩
      simp only [setSession, hfull, if_true]
      exact ⟨_, refused _ _ rfl⟩

end Lobby

/-- The guest, whose connection is lost, asks for its slot. -/
def guestAgain : SessionJoin := ⟨"room", "player2", "10.0.0.2", 50011, some 1⟩

/-- The third player registers the room again, with the slots of the other two reserved. -/
def reopenRoom : List (LobbyStep LobbyPeer) :=
  [.receive .host (.sessionRecreate ⟨"room", 3, "10.0.0.3", 50010, 2, [0, 1]⟩) "",
    .resume .host false]

theorem newcomer_is_decided_alike :
    (∃ r, (Lobby.run {} openRoom).manager.sessions.get? "room" = some r ∧
      ((Lobby.run {} openRoom).manager.isFull "room" none = true ↔
        (Lobby.run {} openRoom).manager.joinSession "room" "player2" "10.0.0.2" 50011 none =
          none)) ∧
    ∃ r, (Lobby.run {} reopenRoom).manager.sessions.get? "room" = some r ∧
      1 ∈ r.reservedJoinIndices ∧
      ((Lobby.run {} reopenRoom).manager.isFull "room" (some 1) = true ↔
        (Lobby.run {} reopenRoom).manager.joinSession "room" "player2" "10.0.0.2" 50011 (some 1) =
          none) := by
  constructor
  · have hlisted : ((Lobby.run {} openRoom).manager.sessions.get? "room").isSome = true := by
      decide +kernel
    obtain ⟨r, hr⟩ := Option.isSome_iff_exists.mp hlisted
    have hiff := Lobby.isFull_iff_joinSession_eq_none openRoom
      (m := { guestAgain with rejoinJoinIndex := none }) rfl hr
    exact ⟨r, hr, hiff.mpr (by simp)⟩
  · have hreserved : ((Lobby.run {} reopenRoom).manager.sessions.get? "room").any (fun r =>
        1 ∈ r.reservedJoinIndices ∧ ∀ e ∈ r.entries, e.joinIndex ≠ 1) = true := by decide +kernel
    obtain ⟨r, hr, hcheck⟩ := (Option.any_eq_true _ _).mp hreserved
    obtain ⟨hslot, hunlisted⟩ := of_decide_eq_true hcheck
    have hiff := Lobby.isFull_iff_joinSession_eq_none reopenRoom (m := guestAgain)
      (by decide +kernel) hr
    refine ⟨r, hr, hslot, hiff.mpr ?_⟩
    rintro i ⟨⟩
    exact hunlisted

/-- Where the guest is still listed, the check refuses it, and the join would take it back. -/
theorem listed_guest_is_refused :
    guestAgain.checked = .ok guestAgain ∧
      (Lobby.run {} (openRoom ++ [.disconnect .guest])).manager.hasSession "room" = true ∧
      ¬ ((Lobby.run {} (openRoom ++ [.disconnect .guest])).manager.isFull "room" (some 1) = true ↔
        (Lobby.run {} (openRoom ++ [.disconnect .guest])).manager.joinSession "room" "player2"
          "10.0.0.2" 50011 (some 1) = none) := by
  have hfull : (Lobby.run {} (openRoom ++ [.disconnect .guest])).manager.isFull "room" (some 1) =
      true := by decide +kernel
  have hjoin : ((Lobby.run {} (openRoom ++ [.disconnect .guest])).manager.joinSession "room"
      "player2" "10.0.0.2" 50011 (some 1)).isSome = true := by decide +kernel
  refine ⟨by decide +kernel, by decide +kernel, ?_⟩
  intro halike
  rw [halike.mp hfull] at hjoin
  cases hjoin

end DistributedSmb
