import DistributedSmb.Lobby.Admission

/-!
# Reserved slots

A session that a promoted host registers again lists that host only, and keeps the slots of the
others reserved. A reservation stands until its player has come back, whatever else the lobby does
in between, short of registering the session once more.
-/

namespace DistributedSmb

open Library

variable {κ : Type}

/-- The message creates this session or replaces its record. -/
def LobbyStep.registers (sessionId : String) : LobbyStep κ → Bool
  | .receive _ (.sessionCreate _) uuid => decide (uuid = sessionId)
  | .receive _ (.sessionRecreate m) _ => decide (m.sessionId = sessionId)
  | _ => false

namespace SessionRecord

theorem join_reserved {r r' : SessionRecord κ} {playerId : PlayerId} {host : Ip} {udpPort : ℕ}
    {rejoinJoinIndex : Option ℤ} {joinIndex : ℤ}
    (h : r.join playerId host udpPort rejoinJoinIndex = some (r', joinIndex)) :
    r'.reservedJoinIndices = r.reservedJoinIndices.erase joinIndex := by
  cases rejoinJoinIndex with
  | some i =>
    simp only [join] at h
    split at h
    · split at h
      · cases h
      · cases h; rfl
    · split at h
      · cases h
      · cases h; rfl
  | none =>
    have hfree := (join_spec h).unreserved rfl
    simp only [join] at h
    split at h
    · cases h
    · split at h
      · cases h
      · cases h
        exact (Finset.erase_eq_of_notMem hfree).symm

theorem leave_reserved (r : SessionRecord κ) (joinIndex : ℤ) :
    (r.leave joinIndex).1.reservedJoinIndices = r.reservedJoinIndices := by
  unfold leave
  split <;> rfl

/-- Whoever asks for a reserved slot is admitted to it. -/
theorem SlotsInOrder.join_of_reserved {r : SessionRecord κ} (h : r.SlotsInOrder) {i : ℤ}
    (reserved : i ∈ r.reservedJoinIndices) (playerId : PlayerId) (host : Ip) (udpPort : ℕ) :
    r.isFull (some i) = false ∧
      r.join playerId host udpPort (some i) = some ((r.free i).seat i host udpPort, i) := by
  have hunlisted : r.existing i = none := by
    rw [existing_eq_none]
    rintro e he rfl
    exact h.disjoint e he reserved
  exact ⟨by simp [isFull, reserved], by simp [SessionRecord.join, hunlisted, reserved]⟩

end SessionRecord

namespace LobbyManager

/-- The slot is reserved as long as the session is registered. -/
def Reserves (m : LobbyManager κ) (sessionId : String) (i : ℤ) : Prop :=
  ∀ r, m.sessions.get? sessionId = some r → i ∈ r.reservedJoinIndices

theorem Reserves.put {m : LobbyManager κ} {sessionId other : String} {i : ℤ} {r : SessionRecord κ}
    (h : m.Reserves sessionId i) (own : other = sessionId → i ∈ r.reservedJoinIndices) :
    (m.put other r).Reserves sessionId i := by
  intro r₀ hr₀
  obtain ⟨rfl, rfl⟩ | ⟨-, hfound⟩ := get?_put hr₀
  · exact own rfl
  · exact h r₀ hfound

/-- A message that does not register the session frees a slot only for the player it admits. -/
theorem Opens.reserves {m m' : LobbyManager κ} {ws : κ} {message : ClientMessage} {uuid : String}
    {events : List (LobbyEvent κ)} {tasks : List (LobbyTask κ)} {sessionId : String} {i : ℤ}
    (opens : m.Opens ws message uuid m' events tasks)
    (unregistered : (LobbyStep.receive ws message uuid).registers sessionId = false)
    (h : m.Reserves sessionId i) :
    (∃ w, .accepted w sessionId i ∈ events) ∨ m'.Reserves sessionId i := by
  cases opens with
  | create address =>
    refine .inr (h.put fun hother => ?_)
    simp [LobbyStep.registers, hother] at unregistered
  | recreate address slot reserved unreserved =>
    refine .inr (h.put fun hother => ?_)
    simp [LobbyStep.registers, hother] at unregistered
  | @join msg _ r r' joinIndex found address room joined =>
    by_cases hcame : msg.sessionId = sessionId ∧ joinIndex = i
    · obtain ⟨rfl, rfl⟩ := hcame
      exact .inl ⟨ws, List.mem_cons_self⟩
    · refine .inr (h.put fun hother => ?_)
      change i ∈ r'.reservedJoinIndices
      rw [SessionRecord.join_reserved joined]
      exact Finset.mem_erase.mpr ⟨fun hi => hcame ⟨hother, hi.symm⟩, h r (hother ▸ found)⟩
  | @close msg _ r found | @leave msg _ r found =>
    refine .inr (h.put fun hother => ?_)
    rw [SessionRecord.leave_reserved]
    exact h r (hother ▸ found)
  | @start _ _ r found => exact .inr (h.put fun hother => h r (hother ▸ found))
  | refuse | sync | idle => exact .inr h

/-- As long as the session is registered, the slot is open for its player and closed to anyone who
does not ask for it. -/
def KeepsFor (m : LobbyManager κ) (sessionId : String) (i : ℤ) : Prop :=
  m.hasSession sessionId = true →
    (∀ host udpPort, m.isFull sessionId (some i) = false ∧
      ∃ m', m.joinSession sessionId (playerIdFor i) host udpPort (some i) = some (m', i)) ∧
    ∀ playerId host udpPort m' j,
      m.joinSession sessionId playerId host udpPort none = some (m', j) → j ≠ i

theorem Reserves.keepsFor {m : LobbyManager κ} {sessionId : String} {i : ℤ}
    (h : m.Reserves sessionId i) (inOrder : m.SlotsHold) : m.KeepsFor sessionId i := by
  intro hsession
  obtain ⟨r, hr⟩ := Dict.exists_of_mem (of_decide_eq_true hsession : sessionId ∈ m.sessions)
  have hfound : m.sessions.get? sessionId = some r := Dict.get?_eq_some_iff.mpr hr
  have hreserved := h r hfound
  constructor
  · intro host udpPort
    obtain ⟨hroom, hjoined⟩ :=
      (inOrder sessionId r hfound).join_of_reserved hreserved (playerIdFor i) host udpPort
    rw [isFull, joinSession, hfound, Option.bind_eq_bind, Option.bind_some, hjoined]
    exact ⟨hroom, _, rfl⟩
  · rintro playerId host udpPort m' j hjoin rfl
    rw [joinSession, hfound, Option.bind_eq_bind, Option.bind_some] at hjoin
    obtain ⟨⟨r', i⟩, hjoined, heq⟩ := Option.bind_eq_some_iff.mp hjoin
    cases heq
    exact (SessionRecord.join_spec hjoined).unreserved rfl hreserved

end LobbyManager

namespace LobbyView

/-- Since the log was this long, the player has taken the slot, or it is still reserved. -/
def HoldsSlot (old : List (LobbyEvent κ)) (sessionId : String) (i : ℤ) (v : LobbyView κ) : Prop :=
  ∃ new, v.log = old ++ new ∧
    ((∃ ws, .accepted ws sessionId i ∈ new) ∨ v.manager.Reserves sessionId i)

variable {old : List (LobbyEvent κ)} {sessionId : String} {i : ℤ}

theorem HoldsSlot.next {v v' : LobbyView κ} (h : v.HoldsSlot old sessionId i)
    {events : List (LobbyEvent κ)} (logged : v'.log = v.log ++ events)
    (keeps : v.manager.Reserves sessionId i →
      (∃ ws, .accepted ws sessionId i ∈ events) ∨ v'.manager.Reserves sessionId i) :
    v'.HoldsSlot old sessionId i := by
  obtain ⟨new, hnew, hslot⟩ := h
  refine ⟨new ++ events, by rw [logged, hnew, List.append_assoc], ?_⟩
  rcases hslot with ⟨ws, haccepted⟩ | hreserved
  · exact .inl ⟨ws, List.mem_append_left _ haccepted⟩
  · rcases keeps hreserved with ⟨ws, haccepted⟩ | hreserved
    · exact .inl ⟨ws, List.mem_append_right _ haccepted⟩
    · exact .inr hreserved

variable [DecidableEq κ]

/-- No task admits a player. -/
theorem Does.log {ws : κ} {v v' : LobbyView κ} (does : Does ws v v') :
    ∃ events, v'.log = v.log ++ events ∧ ∀ w id i, .accepted w id i ∉ events := by
  cases does with
  | reply | deliver | drop | ends => exact ⟨[_], rfl, by simp⟩
  | broadcast | broadcastRoster | start | skip | forget =>
    exact ⟨[], (List.append_nil _).symm, by simp⟩

/-- A task changes nothing about a session but its connections, unless it drops it. -/
theorem Does.session {ws : κ} {v v' : LobbyView κ} (does : Does ws v v') {r' : SessionRecord κ}
    (found : v'.manager.sessions.get? sessionId = some r') :
    ∃ r, v.manager.sessions.get? sessionId = some r ∧ r'.entries = r.entries ∧
      r'.reservedJoinIndices = r.reservedJoinIndices := by
  cases does with
  | reply | deliver | broadcast | broadcastRoster | start | skip | forget =>
    exact ⟨r', found, rfl, rfl⟩
  | drop => exact ⟨r', (LobbyManager.get?_dropSession found).2, rfl, rfl⟩
  | ends left =>
    obtain rfl | ⟨other, rfl⟩ := left
    · exact ⟨r', found, rfl, rfl⟩
    · rw [todo_manager, note_manager, withManager_manager,
        LobbyManager.get?_removeConnection] at found
      obtain ⟨r, hr, rfl⟩ := Option.map_eq_some_iff.mp found
      refine ⟨r, hr, ?_, ?_⟩ <;> split <;> rfl

theorem Does.reserves {ws : κ} {v v' : LobbyView κ} (does : Does ws v v')
    (h : v.manager.Reserves sessionId i) : v'.manager.Reserves sessionId i := by
  intro r' found
  obtain ⟨r, hr, -, hreserved⟩ := does.session found
  exact hreserved ▸ h r hr

theorem HoldsSlot.does {ws : κ} {v v' : LobbyView κ} (does : Does ws v v')
    (h : v.HoldsSlot old sessionId i) : v'.HoldsSlot old sessionId i := by
  obtain ⟨events, hlog, -⟩ := does.log
  exact h.next hlog fun hreserves => .inr (does.reserves hreserves)

end LobbyView

namespace Lobby

variable [DecidableEq κ]

theorem step_holdsSlot {s : Lobby κ} {old : List (LobbyEvent κ)} {sessionId : String} {i : ℤ}
    {x : LobbyStep κ} (unregistered : x.registers sessionId = false)
    (h : s.view.HoldsSlot old sessionId i) : (s.step x).view.HoldsSlot old sessionId i := by
  refine step_keeps (fun _ _ _ does hv => hv.does does) (fun hx _ _ opens => ?_) h
  subst hx
  exact h.next rfl fun hreserves => opens.reserves unregistered hreserves

/-- The events from one state of the lobby to a later one. -/
def since (s s' : Lobby κ) : List (LobbyEvent κ) := s'.log.drop s.log.length

/-- The lobby once this message of a promoted host has arrived. -/
def afterRecreate (s : Lobby κ) (ws : κ) (m : SessionRecreate) (uuid : String) : Lobby κ :=
  s.step (.receive ws (.sessionRecreate m) uuid)

/-- Registering the session again replaces its record. -/
theorem afterRecreate_view {s : Lobby κ} {ws : κ} {m : SessionRecreate} (uuid : String)
    (ready : (s.handlers ws).status = .receiving) (checked : m.checked = .ok m) :
    ∃ s' : Lobby κ, s'.view = ⟨s.manager.put m.sessionId (recreated ws m), s.view.pending, s.log⟩ ∧
      s.afterRecreate ws m uuid = s'.runTasks ws [.reply (.sessionCreated m.sessionId 0)] := by
  obtain ⟨-, address, -, slot, -, -⟩ := SessionRecreate.checked_spec checked
  obtain ⟨s', hview, hruns⟩ := s.onSessionRecreate_runs ws address slot
  refine ⟨s', hview, ?_⟩
  have hchecked : (ClientMessage.sessionRecreate m).checked = .ok (.sessionRecreate m) := by
    rw [ClientMessage.checked, checked, Fallible.ok_bind]
  rw [afterRecreate, step, ready]
  simp only [onMessage, hchecked]
  exact hruns

/-- Whatever single tasks keep holds after the session has been registered again. -/
theorem afterRecreate_keeps {I : LobbyView κ → Prop}
    (does : ∀ ws v v', LobbyView.Does ws v v' → I v → I v') {s : Lobby κ} {ws : κ}
    {m : SessionRecreate} (uuid : String) (ready : (s.handlers ws).status = .receiving)
    (checked : m.checked = .ok m)
    (h : I (LobbyView.todo ⟨s.manager.put m.sessionId (recreated ws m), s.view.pending, s.log⟩ ws
      [.reply (.sessionCreated m.sessionId 0)])) :
    I (s.afterRecreate ws m uuid).view := by
  obtain ⟨s', hview, hruns⟩ := afterRecreate_view uuid ready checked
  rw [hruns]
  exact runTasks_keeps (does ws) s' (hview ▸ h)

/-- A reservation stands as long as its player has not been admitted. -/
theorem reservation_stands {s : Lobby κ} {ws : κ} {m : SessionRecreate} {uuid : String}
    (ready : (s.handlers ws).status = .receiving) (checked : m.checked = .ok m) {i : ℤ}
    (reserved : i ∈ m.reservedJoinIndices) {later : List (LobbyStep κ)}
    (unregistered : ∀ x ∈ later, x.registers m.sessionId = false)
    (away : ∀ w, .accepted w m.sessionId i ∉
      (s.afterRecreate ws m uuid).since ((s.afterRecreate ws m uuid).run later)) :
    ((s.afterRecreate ws m uuid).run later).manager.Reserves m.sessionId i := by
  have hnow : (s.afterRecreate ws m uuid).manager.Reserves m.sessionId i := by
    refine afterRecreate_keeps (I := fun v => v.manager.Reserves m.sessionId i)
      (fun _ _ _ does hv => does.reserves hv) uuid ready checked fun r hr => ?_
    obtain ⟨-, rfl⟩ | ⟨hne, -⟩ := LobbyManager.get?_put hr
    · exact List.mem_toFinset.mpr reserved
    · exact absurd rfl hne
  generalize s.afterRecreate ws m uuid = s₁ at hnow away ⊢
  have hlater : (s₁.run later).view.HoldsSlot s₁.log m.sessionId i :=
    Fallible.foldl_keeps (P := fun s : Lobby κ => s.view.HoldsSlot s₁.log m.sessionId i)
      (fun _ x hx hs => step_holdsSlot (unregistered x hx) hs)
      ⟨[], (List.append_nil _).symm, .inr hnow⟩
  obtain ⟨new, hnew, ⟨w, haccepted⟩ | hreserves⟩ := hlater
  · refine absurd ?_ (away w)
    rw [since, show (s₁.run later).log = s₁.log ++ new from hnew, List.drop_left]
    exact haccepted
  · exact hreserves

end Lobby

end DistributedSmb
