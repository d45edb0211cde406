import DistributedSmb.Lobby.Admission
import DistributedSmb.Lobby.Coordinator

/-!
# The start of a game

A join is acknowledged before the roster is broadcast, and the host may start the game in between.
Every roster that the lobby sends to an accepted player lists the player and a host. So the player
is ready to play whenever its lobby phase returns, if and only if no `GameStart` overtakes the first
roster on its way to it.
-/

namespace DistributedSmb

open Library

variable {κ : Type}

/-! ## What the lobby sends to a client -/

/-- What is said on the client's own connection, before and after it is accepted to a slot. -/
def Says (slot : Option (String × ℤ)) (message : ServerMessage) : Prop :=
  match slot with
  | none => ∀ i, message ≠ .sessionJoined i
  | some (_, joinIndex) => Greets joinIndex message

/-- A task of a handler that may concern the client. -/
def LobbyTask.Suits (ws : κ) (slot : Option (String × ℤ)) (handler : κ) : LobbyTask κ → Prop
  | reply message => handler = ws → Says slot message
  | deliver target message => target = ws → ∃ p ∈ slot, Greets p.2 message
  | broadcast _ message => ∀ joinIndex, Greets joinIndex message
  | dropSession _ => False
  | broadcastRoster _ | startIfActive _ | forgetSession => True

namespace LobbyView

/-- The client has the slot that it was accepted to, if it was, in a session with a host. It is
connected to that session only, and it is sent greetings only. -/
structure Gathering (ws : κ) (slot : Option (String × ℤ)) (v : LobbyView κ) : Prop where
  inOrder : v.manager.SlotsHold
  hosted : ∀ sessionId r, v.manager.sessions.get? sessionId = some r →
    ∃ e ∈ r.entries, e.isHost = true
  tasks : ∀ handler, ∀ task ∈ v.pending handler, task.Suits ws slot handler
  said : ∀ message, .sent ws message ∈ v.log → Says slot message
  connected : ∀ sessionId, ws ∈ v.manager.connections sessionId → ∃ i, slot = some (sessionId, i)
  accepted : ∀ sessionId i, .accepted ws sessionId i ∈ v.log ↔ slot = some (sessionId, i)
  listed : ∀ sessionId i, slot = some (sessionId, i) →
    ∃ r, v.manager.sessions.get? sessionId = some r ∧ ∃ e ∈ r.entries, e.joinIndex = i

variable {ws : κ} {slot : Option (String × ℤ)} {v : LobbyView κ}

theorem rosterUpdate_eq_ok {m : LobbyManager κ} {sessionId : String} {message : ServerMessage}
    (inOrder : m.SlotsHold) (h : m.rosterUpdate sessionId = .ok message) :
    ∃ r, m.sessions.get? sessionId = some r ∧
      message = .rosterUpdate ⟨r.entries.map SlotEntry.rosterEntry⟩ := by
  obtain ⟨roster, hroster, hmessage⟩ := Fallible.bind_eq_ok.mp h
  obtain ⟨_, -, hmessage⟩ := Fallible.bind_eq_ok.mp hmessage
  obtain ⟨r, hfound, hroster⟩ := LobbyManager.getRoster_eq_ok hroster
  rw [(inOrder sessionId r hfound).getRoster] at hroster
  cases hroster
  exact ⟨r, hfound, (Except.ok.inj hmessage).symm⟩

/-- A roster of the client's session lists the client and a host. -/
theorem Gathering.greets (h : v.Gathering ws slot) {sessionId : String} {i : ℤ}
    {message : ServerMessage} (own : slot = some (sessionId, i))
    (roster : v.manager.rosterUpdate sessionId = .ok message) : Greets i message := by
  obtain ⟨r, hfound, rfl⟩ := rosterUpdate_eq_ok h.inOrder roster
  obtain ⟨r', hfound', e, he, rfl⟩ := h.listed sessionId i own
  obtain rfl : r = r' := Option.some.inj (hfound.symm.trans hfound')
  obtain ⟨host, hhost, hflag⟩ := h.hosted sessionId r hfound
  have hvalid := (h.inOrder sessionId r hfound).valid e he
  exact ⟨⟨e.rosterEntry, List.mem_map_of_mem he, rfl, hvalid.named⟩,
    ⟨host.rosterEntry, List.mem_map_of_mem hhost, hflag⟩⟩

variable [DecidableEq κ]

theorem Gathering.todo (h : v.Gathering ws slot) {handler : κ} {tasks : List (LobbyTask κ)}
    (suits : ∀ task ∈ tasks, task.Suits ws slot handler) :
    (v.todo handler tasks).Gathering ws slot := by
  refine ⟨h.inOrder, h.hosted, ?_, h.said, h.connected, h.accepted, h.listed⟩
  intro other task htask
  by_cases hother : other = handler
  · subst hother
    rw [todo_pending_self] at htask
    exact suits task htask
  · rw [todo_pending_ne v hother] at htask
    exact h.tasks other task htask

omit [DecidableEq κ] in
/-- An event that does not accept the client. -/
theorem Gathering.note (h : v.Gathering ws slot) {e : LobbyEvent κ}
    (said : ∀ message, e = .sent ws message → Says slot message)
    (other : ∀ sessionId i, e ≠ .accepted ws sessionId i) : (v.note e).Gathering ws slot := by
  refine ⟨h.inOrder, h.hosted, h.tasks, ?_, h.connected, ?_, h.listed⟩
  · intro message hsent
    obtain hold | hnew := List.mem_append.mp hsent
    · exact h.said message hold
    · exact said message (List.mem_singleton.mp hnew).symm
  · intro sessionId i
    rw [← h.accepted, note_log, List.mem_append, List.mem_singleton]
    exact or_iff_left fun hnew => other sessionId i hnew.symm

omit [DecidableEq κ] in
/-- A manager with the same entries in its sessions, and no other sessions for the client. -/
theorem Gathering.sameEntries (h : v.Gathering ws slot) {manager : LobbyManager κ}
    (inOrder : manager.SlotsHold)
    (entries : ∀ sessionId, (manager.sessions.get? sessionId).map SessionRecord.entries =
      (v.manager.sessions.get? sessionId).map SessionRecord.entries)
    (connections : ∀ sessionId, ws ∈ manager.connections sessionId →
      ws ∈ v.manager.connections sessionId) : (v.withManager manager).Gathering ws slot := by
  refine ⟨inOrder, ?_, h.tasks, h.said, ?_, h.accepted, ?_⟩
  · intro sessionId r hfound
    have hentries := entries sessionId
    change manager.sessions.get? sessionId = some r at hfound
    rw [hfound, Option.map_some] at hentries
    obtain ⟨r', hfound', hsame⟩ := Option.map_eq_some_iff.mp hentries.symm
    exact hsame ▸ h.hosted sessionId r' hfound'
  · intro sessionId hconnected
    exact h.connected sessionId (connections sessionId hconnected)
  · intro sessionId i hslot
    obtain ⟨r, hfound, hlisted⟩ := h.listed sessionId i hslot
    have hentries := entries sessionId
    rw [hfound, Option.map_some] at hentries
    obtain ⟨r', hfound', hsame⟩ := Option.map_eq_some_iff.mp hentries
    exact ⟨r', hfound', hsame ▸ hlisted⟩

theorem Gathering.does {v' : LobbyView κ} {handler : κ} (h : v.Gathering ws slot)
    (does : Does handler v v') : v'.Gathering ws slot := by
  have hrest {task : LobbyTask κ} {rest : List (LobbyTask κ)}
      (next : v.pending handler = task :: rest) :
      task.Suits ws slot handler ∧ ∀ task' ∈ rest, task'.Suits ws slot handler := by
    have htasks := h.tasks handler
    rw [next] at htasks
    exact List.forall_mem_cons.mp htasks
  have hdeliveries {sessionId : String} {message : ServerMessage} {rest : List (LobbyTask κ)}
      (greets : ∀ i, slot = some (sessionId, i) → Greets i message)
      (suits : ∀ task ∈ rest, task.Suits ws slot handler) :
      ∀ task ∈ (v.manager.connections sessionId).map (LobbyTask.deliver · message) ++ rest,
        task.Suits ws slot handler := by
    intro task htask
    obtain hdelivery | hold := List.mem_append.mp htask
    · obtain ⟨target, htarget, rfl⟩ := List.mem_map.mp hdelivery
      rintro rfl
      obtain ⟨i, hslot⟩ := h.connected sessionId htarget
      exact ⟨(sessionId, i), hslot, greets i hslot⟩
    · exact suits task hold
  cases does with
  | @reply message rest next =>
    obtain ⟨hreply, hsuits⟩ := hrest next
    refine (h.note (e := .sent handler message) ?_ (by simp)).todo hsuits
    rintro m heq
    cases heq
    exact hreply rfl
  | @deliver target message rest next =>
    obtain ⟨hdeliver, hsuits⟩ := hrest next
    refine (h.note (e := .sent target message) ?_ (by simp)).todo hsuits
    rintro m heq
    cases heq
    obtain ⟨⟨sessionId, i⟩, hslot, hgreets⟩ := hdeliver rfl
    cases hslot
    exact hgreets
  | broadcast next =>
    obtain ⟨hbroadcast, hsuits⟩ := hrest next
    exact h.todo (hdeliveries (fun i _ => hbroadcast i) hsuits)
  | broadcastRoster next roster =>
    obtain ⟨-, hsuits⟩ := hrest next
    exact h.todo (hdeliveries (fun i hslot => h.greets hslot roster) hsuits)
  | start next active =>
    obtain ⟨-, hsuits⟩ := hrest next
    apply h.todo
    rw [List.forall_mem_cons]
    refine ⟨fun _ => ?_, hsuits⟩
    cases slot with
    | none => exact nofun
    | some p => trivial
  | skip next | forget next => exact h.todo (hrest next).2
  | drop next => exact (hrest next).1.elim
  | @ends manager left =>
    refine (Gathering.note (e := .ended handler) ?_ (by simp) (by simp)).todo (by simp)
    obtain rfl | ⟨sessionId, rfl⟩ := left
    · exact h
    · apply h.sameEntries (h.inOrder.removeConnection sessionId handler)
      · intro other
        rw [LobbyManager.get?_removeConnection, Option.map_map]
        apply congrFun ∘ congrArg Option.map
        funext r
        by_cases hother : other = sessionId <;> simp [hother]
      · intro other hconnected
        exact LobbyManager.connections_removeConnection hconnected

omit [DecidableEq κ] in
/-- A session is new, or its record is replaced by one that keeps the client and a host. -/
theorem Gathering.put (h : v.Gathering ws slot) {sessionId : String} {r : SessionRecord κ}
    (inOrder : r.SlotsInOrder) (hosted : ∃ e ∈ r.entries, e.isHost = true)
    (connected : ws ∈ r.connections → ∃ i, slot = some (sessionId, i))
    (listed : ∀ i, slot = some (sessionId, i) → ∃ e ∈ r.entries, e.joinIndex = i) :
    (v.withManager (v.manager.put sessionId r)).Gathering ws slot := by
  refine ⟨h.inOrder.put sessionId inOrder, ?_, h.tasks, h.said, ?_, h.accepted, ?_⟩
  · intro other r' hfound
    obtain ⟨-, rfl⟩ | ⟨-, hfound⟩ := LobbyManager.get?_put hfound
    · exact hosted
    · exact h.hosted other r' hfound
  · intro other hconnected
    rcases LobbyManager.connections_of_put hconnected with ⟨rfl, hnew⟩ | hold
    · exact connected hnew
    · exact h.connected other hold
  · intro other i hslot
    by_cases hother : other = sessionId
    · subst hother
      exact ⟨r, Dict.get?_set_self _ _ _, listed i hslot⟩
    · obtain ⟨r', hfound, hlisted⟩ := h.listed other i hslot
      exact ⟨r', (Dict.get?_set_ne _ hother _).trans hfound, hlisted⟩

/-- The client is accepted. -/
theorem Gathering.accept (h : v.Gathering ws none) {sessionId : String} {i : ℤ}
    {r : SessionRecord κ} {tasks : List (LobbyTask κ)} (inOrder : r.SlotsInOrder)
    (hosted : ∃ e ∈ r.entries, e.isHost = true) (listed : ∃ e ∈ r.entries, e.joinIndex = i)
    (silent : ∀ message, .sent ws message ∉ v.log)
    (suits : ∀ task ∈ tasks, task.Suits ws (some (sessionId, i)) ws) :
    (((v.withManager (v.manager.put sessionId r)).note (.accepted ws sessionId i)).todo ws
      tasks).Gathering ws (some (sessionId, i)) := by
  refine ⟨h.inOrder.put sessionId inOrder, ?_, ?_, ?_, ?_, ?_, ?_⟩
  · intro other r' hfound
    obtain ⟨-, rfl⟩ | ⟨-, hfound⟩ := LobbyManager.get?_put hfound
    · exact hosted
    · exact h.hosted other r' hfound
  · intro handler task htask
    by_cases hhandler : handler = ws
    · subst hhandler
      rw [todo_pending_self] at htask
      exact suits task htask
    · rw [todo_pending_ne _ hhandler] at htask
      have hsuits := h.tasks handler task htask
      -- whatever is under way goes to somebody else
      cases task with
      | reply message => exact fun hsame => absurd hsame hhandler
      | deliver target message =>
        intro hsame
        obtain ⟨p, hp, -⟩ := hsuits hsame
        cases hp
      | broadcast | broadcastRoster | startIfActive | forgetSession | dropSession => exact hsuits
  · intro message hsent
    obtain hold | hnew := List.mem_append.mp hsent
    · exact absurd hold (silent message)
    · cases List.mem_singleton.mp hnew
  · intro other hconnected
    by_cases hother : other = sessionId
    · exact ⟨i, by rw [hother]⟩
    · have hold := h.connected other
        (by simpa [LobbyManager.connections_put_ne _ hother] using hconnected)
      obtain ⟨_, hnone⟩ := hold
      cases hnone
  · intro other i'
    have hold : .accepted ws other i' ∉ v.log := fun hmem => nomatch (h.accepted other i').mp hmem
    simp [hold, eq_comm]
  · intro other i' hslot
    cases hslot
    exact ⟨r, Dict.get?_set_self _ _ _, listed⟩

end LobbyView

namespace SessionRecord

theorem Joins.keeps {r r' : SessionRecord κ} {rejoinJoinIndex : Option ℤ} {joinIndex : ℤ}
    (h : r.Joins rejoinJoinIndex joinIndex r') {e : SlotEntry} (he : e ∈ r.entries) :
    ∃ e' ∈ r'.entries, e'.joinIndex = e.joinIndex ∧ e'.isHost = e.isHost := by
  have hmem : (e.joinIndex, e.isHost) ∈ r'.outline := by
    have hold : (e.joinIndex, e.isHost) ∈ r.outline := List.mem_map.mpr ⟨e, he, rfl⟩
    obtain hsame | hmore := h.outline
    · exact hsame ▸ hold
    · exact hmore ▸ List.mem_append_left _ hold
  obtain ⟨e', he', hsame⟩ := List.mem_map.mp hmem
  exact ⟨e', he', congrArg Prod.fst hsame, congrArg Prod.snd hsame⟩

theorem mem_leave {r : SessionRecord κ} {joinIndex : ℤ} {e : SlotEntry} (he : e ∈ r.entries)
    (other : e.joinIndex ≠ joinIndex) : e ∈ (r.leave joinIndex).1.entries := by
  unfold leave
  split
  · exact he
  · exact List.mem_filter.mpr ⟨he, by simpa using other⟩

/-- Whoever leaves without closing the room is not the host. -/
theorem SlotsInOrder.host_stays {r : SessionRecord κ} (h : r.SlotsInOrder) {joinIndex : ℤ}
    (stays : (r.leave joinIndex).2 = false) {e : SlotEntry} (he : e ∈ r.entries)
    (host : e.isHost = true) : e.joinIndex ≠ joinIndex := by
  rintro rfl
  cases hexisting : r.existing e.joinIndex with
  | none => exact existing_eq_none.mp hexisting e he rfl
  | some e' =>
    obtain ⟨hmem, hindex⟩ := existing_eq_some hexisting
    obtain rfl : e' = e := List.inj_on_of_nodup_map h.distinct hmem he hindex
    rw [SessionRecord.leave, hexisting] at stays
    exact absurd (host.symm.trans stays) nofun

end SessionRecord

/-! ## What a message opens -/

/-- An event on this connection. -/
def LobbyEvent.Concerns (ws : κ) : LobbyEvent κ → Prop
  | accepted target _ _ | sent target _ | ended target => target = ws
  | dropped _ => False

namespace LobbyView

variable {ws sender : κ} {slot : Option (String × ℤ)} {v : LobbyView κ} {sessionId : String}
  {r r' : SessionRecord κ} {tasks : List (LobbyTask κ)}

theorem Gathering.connected_to (h : v.Gathering ws slot)
    (found : v.manager.sessions.get? sessionId = some r) (hmem : ws ∈ r.connections) :
    ∃ i, slot = some (sessionId, i) := by
  apply h.connected
  rwa [LobbyManager.connections, found]

theorem Gathering.listed_in (h : v.Gathering ws slot)
    (found : v.manager.sessions.get? sessionId = some r) {i : ℤ}
    (own : slot = some (sessionId, i)) : ∃ e ∈ r.entries, e.joinIndex = i := by
  obtain ⟨r', hfound, hentry⟩ := h.listed sessionId i own
  obtain rfl : r = r' := Option.some.inj (found.symm.trans hfound)
  exact hentry

/-- Nothing on its connection yet: the client's join is the first that is heard of it. -/
theorem Gathering.not_accepted (h : v.Gathering ws slot)
    (quiet : ∀ e ∈ v.log, ¬ e.Concerns ws) : slot = none := by
  cases slot with
  | none => rfl
  | some p => exact absurd rfl (quiet _ ((h.accepted p.1 p.2).mpr rfl))

variable [DecidableEq κ]

/-- A session with an id of its own, opened on another connection. -/
theorem Gathering.creates (h : v.Gathering ws slot) (other : sender ≠ ws)
    (unused : sessionId ∉ v.manager.sessions) (inOrder : r.SlotsInOrder)
    (hosted : ∃ e ∈ r.entries, e.isHost = true) (connections : r.connections = [sender])
    (suits : ∀ task ∈ tasks, task.Suits ws slot sender) :
    ((v.withManager (v.manager.put sessionId r)).todo sender tasks).Gathering ws slot := by
  refine (h.put inOrder hosted ?_ ?_).todo suits
  · intro hmem
    rw [connections] at hmem
    exact absurd (List.mem_singleton.mp hmem).symm other
  · intro i hslot
    obtain ⟨r, hfound, -⟩ := h.listed sessionId i hslot
    exact absurd (Dict.mem_of_get?_eq_some hfound) unused

/-- Another player is accepted. -/
theorem Gathering.joins (h : v.Gathering ws slot) (other : sender ≠ ws)
    (found : v.manager.sessions.get? sessionId = some r) {rejoinJoinIndex : Option ℤ} {i : ℤ}
    (joined : r.Joins rejoinJoinIndex i r')
    (inOrder : { r' with connections := r'.connections ++ [sender] }.SlotsInOrder)
    (hosted : ∃ e ∈ r'.entries, e.isHost = true)
    (suits : ∀ task ∈ tasks, task.Suits ws slot sender) :
    (((v.withManager (v.manager.put sessionId
      { r' with connections := r'.connections ++ [sender] })).note
        (.accepted sender sessionId i)).todo sender tasks).Gathering ws slot := by
  refine ((h.put inOrder hosted ?_ ?_).note (by simp) (by simp [other])).todo suits
  · intro hmem
    apply h.connected_to found
    obtain hold | hlast := List.mem_append.mp hmem
    · exact joined.connections ▸ hold
    · exact absurd (List.mem_singleton.mp hlast).symm other
  · intro j hslot
    obtain ⟨e, he, rfl⟩ := h.listed_in found hslot
    obtain ⟨e', he', hsame, -⟩ := joined.keeps he
    exact ⟨e', he', hsame⟩

/-- A guest leaves, and it is not the client. -/
theorem Gathering.leaves (h : v.Gathering ws slot)
    (found : v.manager.sessions.get? sessionId = some r) {joinIndex : ℤ}
    (stays : (r.leave joinIndex).2 = false) (other : slot ≠ some (sessionId, joinIndex))
    (inOrder : (r.leave joinIndex).1.SlotsInOrder)
    (suits : ∀ task ∈ tasks, task.Suits ws slot sender) :
    ((v.withManager (v.manager.put sessionId (r.leave joinIndex).1)).todo sender
      tasks).Gathering ws slot := by
  refine (h.put inOrder ?_ ?_ ?_).todo suits
  · obtain ⟨e, he, hflag⟩ := h.hosted _ r found
    have hstays := (h.inOrder _ r found).host_stays stays he hflag
    exact ⟨e, SessionRecord.mem_leave he hstays, hflag⟩
  · intro hmem
    exact h.connected_to found (r.leave_connections joinIndex ▸ hmem)
  · intro i hslot
    obtain ⟨e, he, rfl⟩ := h.listed_in found hslot
    have hstays : e.joinIndex ≠ joinIndex := fun hsame => other (hsame ▸ hslot)
    exact ⟨e, SessionRecord.mem_leave he hstays, rfl⟩

end LobbyView

/-! ## Runs -/

section Runs

variable [DecidableEq κ]

instance LobbyEvent.decidableConcerns (ws : κ) : ∀ e, Decidable (LobbyEvent.Concerns ws e)
  | accepted target _ _ | sent target _ | ended target => inferInstanceAs (Decidable (target = ws))
  | dropped _ => .isFalse id

/-- What arrives at a connection, in the order in which it is sent. -/
def inbox (log : List (LobbyEvent κ)) (ws : κ) : List ServerMessage :=
  log.filterMap fun
    | .sent target message => if target = ws then some message else none
    | _ => none

theorem mem_inbox {log : List (LobbyEvent κ)} {ws : κ} {message : ServerMessage} :
    message ∈ inbox log ws ↔ .sent ws message ∈ log := by
  simp only [inbox, List.mem_filterMap]
  constructor
  · rintro ⟨e, he, hmessage⟩
    split at hmessage
    · split at hmessage
      case isTrue htarget =>
        cases hmessage
        exact htarget ▸ he
      case isFalse => cases hmessage
    · cases hmessage
  · intro hsent
    exact ⟨_, hsent, if_pos rfl⟩

namespace Lobby

/-- The players of the lobby gather. The client sends one join and nothing else, neither the client
nor a host leaves, and a new session has an id of its own. -/
def Gathers (ws : κ) (s : Lobby κ) : LobbyStep κ → Prop
  | .receive sender (.sessionJoin _) _ => sender = ws → ∀ e ∈ s.log, ¬ e.Concerns ws
  | .receive sender (.sessionCreate _) uuid => sender ≠ ws ∧ uuid ∉ s.manager.sessions
  | .receive sender (.sessionRecreate m) _ => sender ≠ ws ∧ m.sessionId ∉ s.manager.sessions
  | .receive sender (.sessionLeave m) _ =>
    sender ≠ ws ∧ (s.manager.leaveSession m.sessionId m.joinIndex).2 = false ∧
      .accepted ws m.sessionId m.joinIndex ∉ s.log
  | .receive sender _ _ => sender ≠ ws
  | .resume _ _ | .disconnect _ => True

instance decidableGathers (ws : κ) (s : Lobby κ) : ∀ x, Decidable (s.Gathers ws x)
  | .receive sender (.sessionJoin _) _ =>
    inferInstanceAs (Decidable (sender = ws → ∀ e ∈ s.log, ¬ e.Concerns ws))
  | .receive sender (.sessionCreate _) uuid =>
    inferInstanceAs (Decidable (sender ≠ ws ∧ uuid ∉ s.manager.sessions))
  | .receive sender (.sessionRecreate m) _ =>
    inferInstanceAs (Decidable (sender ≠ ws ∧ m.sessionId ∉ s.manager.sessions))
  | .receive sender (.sessionLeave m) _ =>
    inferInstanceAs (Decidable (sender ≠ ws ∧
      (s.manager.leaveSession m.sessionId m.joinIndex).2 = false ∧
      .accepted ws m.sessionId m.joinIndex ∉ s.log))
  | .receive sender (.initialStateSync _) _ | .receive sender (.gameStart _) _
  | .receive sender .unknown _ | .receive sender .malformed _ =>
    inferInstanceAs (Decidable (sender ≠ ws))
  | .resume _ _ | .disconnect _ => .isTrue trivial

theorem opens_gathering {ws : κ} {slot : Option (String × ℤ)} {s : Lobby κ}
    (h : s.view.Gathering ws slot) {sender : κ} {message : ClientMessage} {uuid : String}
    {manager : LobbyManager κ} {events : List (LobbyEvent κ)} {tasks : List (LobbyTask κ)}
    (gathers : s.Gathers ws (.receive sender message uuid))
    (opens : s.manager.Opens sender message uuid manager events tasks) :
    ∃ slot', (LobbyView.todo ⟨manager, s.view.pending, s.log ++ events⟩ sender tasks).Gathering ws
      slot' := by
  have hslots := h.inOrder.opens opens
  have hput {sessionId : String} {r : SessionRecord κ}
      (hmanager : manager = s.manager.put sessionId r) : r.SlotsInOrder :=
    hslots sessionId r (by rw [hmanager]; exact Dict.get?_set_self _ _ _)
  cases opens with
  | create address =>
    obtain ⟨hother, hunused⟩ := gathers
    rw [List.append_nil]
    exact ⟨slot, h.creates hother hunused (hput rfl) ⟨_, List.mem_cons_self, rfl⟩ rfl
      (by simp [LobbyTask.Suits, hother])⟩
  | @join msg _ r r' i found address room joined =>
    have hspec := SessionRecord.join_spec joined
    have hhosted : ∃ e ∈ r'.entries, e.isHost = true := by
      obtain ⟨e, he, hflag⟩ := h.hosted _ r found
      obtain ⟨e', he', -, hsame⟩ := hspec.keeps he
      exact ⟨e', he', hsame.trans hflag⟩
    by_cases hsender : sender = ws
    · subst hsender
      have hquiet := gathers rfl
      obtain rfl := h.not_accepted hquiet
      refine ⟨_, h.accept (hput rfl) hhosted hspec.listed (fun m hm => hquiet _ hm rfl) ?_⟩
      simp [LobbyTask.Suits, Says, Greets]
    · exact ⟨slot, h.joins hsender found hspec (hput rfl) hhosted
        (by simp [LobbyTask.Suits, hsender])⟩
  | refuse =>
    rw [List.append_nil]
    refine ⟨slot, h.todo ?_⟩
    rw [List.forall_mem_cons]
    refine ⟨?_, by simp [LobbyTask.Suits]⟩
    rintro rfl
    obtain rfl := h.not_accepted (gathers rfl)
    intro i heq
    cases heq
  | recreate address index reserved unreserved =>
    obtain ⟨hother, hunused⟩ := gathers
    rw [List.append_nil]
    exact ⟨slot, h.creates hother hunused (hput rfl) ⟨_, List.mem_cons_self, rfl⟩ rfl
      (by simp [LobbyTask.Suits, hother])⟩
  | @close msg _ r found host =>
    have hstays := gathers.2.1
    rw [LobbyManager.leaveSession, found, host] at hstays
    cases hstays
  | leave found other =>
    obtain ⟨-, -, hclient⟩ := gathers
    rw [List.append_nil]
    exact ⟨slot, h.leaves found other (fun hslot => hclient ((h.accepted _ _).mpr hslot))
      (hput rfl) (by simp [LobbyTask.Suits])⟩
  | sync sessionId =>
    rw [List.append_nil]
    exact ⟨slot, h.todo (by simp [LobbyTask.Suits, Greets])⟩
  | start found =>
    rw [List.append_nil]
    have hhosted := h.hosted _ _ found
    have hconnected := h.connected_to found
    exact ⟨slot, (h.put (hput rfl) hhosted hconnected fun i => h.listed_in found).todo
      (by simp [LobbyTask.Suits, Greets])⟩
  | idle =>
    rw [List.append_nil]
    exact ⟨slot, h.todo (by simp)⟩

omit [DecidableEq κ] in
theorem start_gathering (ws : κ) : ({} : Lobby κ).view.Gathering ws none where
  inOrder _ _ hr := nomatch hr
  hosted _ _ hr := nomatch hr
  tasks _ _ htask := nomatch htask
  said _ hsent := nomatch hsent
  connected _ hmem := nomatch hmem
  accepted _ _ := ⟨nofun, nofun⟩
  listed _ _ hslot := nomatch hslot

theorem run_gathering {ws : κ} {steps : List (LobbyStep κ)}
    (gathers : Fallible.Meets step (Gathers ws) {} steps) :
    ∃ slot, (run {} steps).view.Gathering ws slot := by
  apply Fallible.foldl_keeps_meets (P := fun s : Lobby κ => ∃ slot, s.view.Gathering ws slot) ?_
    gathers ⟨none, start_gathering ws⟩
  intro s x hgathers hs
  apply step_keeps (I := fun v => ∃ slot, v.Gathering ws slot) ?_ ?_ hs
  · rintro handler v v' hdoes ⟨slot, hv⟩
    exact ⟨slot, hv.does hdoes⟩
  · rintro sender message uuid manager events tasks rfl - - hopens
    obtain ⟨slot, hslot⟩ := hs
    exact opens_gathering hslot hgathers hopens

/-- Whatever a client has received of its messages, its roster lists itself and a host, and its
world has its player, whenever its lobby phase returns: if and only if no `GameStart` was sent to it
before the first roster. -/
theorem readyToPlay_iff {ws : κ} {steps : List (LobbyStep κ)} {n : Node} (sessionId : String)
    (now : ℚ) (lobbyHost : Ip) (new : n.roster = {})
    (gathers : Fallible.Meets step (Gathers ws) {} steps) :
    (∀ k n', n.clientLobbyPhase sessionId ((inbox (run {} steps).log ws).take k) now lobbyHost =
      some n' → n'.ReadyToPlay) ↔ RosterFirst (inbox (run {} steps).log ws) := by
  obtain ⟨slot, hslot⟩ := run_gathering gathers
  have hsays {message : ServerMessage} (hmem : message ∈ inbox (run {} steps).log ws) :
      Says slot message := hslot.said message (mem_inbox.mp hmem)
  cases slot with
  | none =>
    have hunjoined (i : ℤ) : .sessionJoined i ∉ inbox (run {} steps).log ws :=
      fun hmem => hsays hmem i rfl
    refine iff_of_true ?_ ?_
    · intro k n' hreturns
      rw [n.clientLobbyPhase_unjoined sessionId now lobbyHost fun i hmem =>
        hunjoined i (List.mem_of_mem_take hmem)] at hreturns
      cases hreturns
    · intro before i middle started after hinbox
      exact absurd (hinbox ▸ by simp) (hunjoined i)
  | some p =>
    exact Node.readyToPlay_iff_rosterFirst sessionId now lobbyHost new fun _ hmem => hsays hmem

end Lobby

end Runs

/-- A client that has not joined a session yet. -/
def newGuest : Node where
  engine := {}
  roster := {}
  sessionId := ""
  localIp := "10.0.0.2"
  localPlayerId := "player1"
  remoteHost := "10.0.0.1"

/-- The host starts the game after the guest has its roster. -/
def startedRoom : List (LobbyStep LobbyPeer) :=
  openRoom ++ [.receive .host (.gameStart "room") "", .resume .host false]

theorem startedRoom_inbox : ∃ roster, inbox (Lobby.run {} startedRoom).log .guest =
    [.sessionJoined 1, .rosterUpdate roster, .gameStart "room"] := by
  refine ⟨⟨[⟨"player1", "10.0.0.1", 50010, 0, .connected, true⟩,
    ⟨"player2", "10.0.0.2", 50011, 1, .connected, false⟩]⟩, ?_⟩
  decide +kernel

theorem startedRoom_readyToPlay : ∃ n',
    newGuest.clientLobbyPhase "room" (inbox (Lobby.run {} startedRoom).log .guest) 0 "10.0.0.1" =
      some n' ∧ n'.ReadyToPlay := by
  have hgathers : Fallible.Meets Lobby.step (Lobby.Gathers .guest) {} startedRoom := by
    decide +kernel
  have hready := (Lobby.readyToPlay_iff "room" 0 "10.0.0.1" (n := newGuest) rfl hgathers).mpr
  obtain ⟨roster, hinbox⟩ := startedRoom_inbox
  rw [hinbox] at hready ⊢
  exact ⟨_, rfl, hready (rosterFirst_of_second 1 roster [.gameStart "room"]) 3 _ rfl⟩

/-- The host starts the game while the guest's join is being acknowledged. -/
def earlyStart : List (LobbyStep LobbyPeer) :=
  [.receive .host (.sessionCreate ⟨"player1", "10.0.0.1", 50010⟩) "room",
    .resume .host false, .resume .host false,
    .receive .guest (.sessionJoin ⟨"room", "player2", "10.0.0.2", 50011, none⟩) "",
    .receive .host (.gameStart "room") "", .resume .host false]

/-- The guest returns with a roster that lists nobody. -/
theorem earlyStart_not_readyToPlay :
    Fallible.Meets Lobby.step (Lobby.Gathers .guest) {} earlyStart ∧
    ∃ n', newGuest.clientLobbyPhase "room" (inbox (Lobby.run {} earlyStart).log .guest) 0
      "10.0.0.1" = some n' ∧ ¬ n'.ReadyToPlay := by
  have hinbox : inbox (Lobby.run {} earlyStart).log .guest =
      [.sessionJoined 1, .gameStart "room"] := by
    decide +kernel
  refine ⟨by decide +kernel, ?_⟩
  rw [hinbox]
  refine ⟨_, rfl, ?_⟩
  rintro ⟨⟨e, he, -⟩, -, -⟩
  cases he

end DistributedSmb
