import DistributedSmb.Lobby.Admission
import Mathlib.Data.Fintype.Defs
import Mathlib.Data.Finset.Insert

/-!
# Closing a room

The host leaves, everybody in the room is told, and only then the session is dropped. The
connections are copied when the broadcast starts, so a player that is let in before the session is
gone is never told. As long as nobody is let in meanwhile, and no other session takes the place of
one that players are in, everybody who was accepted hears of the closing.
-/

namespace DistributedSmb

open Library

instance instFintypeLobbyPeer : Fintype LobbyPeer :=
  ⟨{.host, .guest, .latecomer}, fun ws => by cases ws <;> simp⟩

variable {κ : Type}

/-! ## News of a session -/

theorem dropped_snoc {log before after : List (LobbyEvent κ)} {e : LobbyEvent κ}
    {sessionId : String} (h : log ++ [e] = before ++ .dropped sessionId :: after) :
    e = .dropped sessionId ∧ log = before ∨
      ∃ after', log = before ++ .dropped sessionId :: after' := by
  obtain rfl | ⟨after', last, rfl⟩ := after.eq_nil_or_concat
  · obtain ⟨hsame, hlast⟩ := List.append_inj' h rfl
    exact .inl ⟨List.singleton_inj.mp hlast, hsame⟩
  · rw [List.concat_eq_append, ← List.cons_append, ← List.append_assoc] at h
    exact .inr ⟨after', (List.append_inj' h rfl).1⟩

section News

variable [DecidableEq κ]

namespace LobbyEvent

/-- The connection is sent that the session is closed, or that it cannot join it. -/
def Tells (ws : κ) (sessionId : String) : LobbyEvent κ → Prop
  | sent target (.sessionClosed closed) => target = ws ∧ closed = sessionId
  | sent target (.sessionJoinRejected rejected _) => target = ws ∧ rejected = sessionId
  | _ => False

instance decidableTells (ws : κ) (sessionId : String) : ∀ e, Decidable (Tells ws sessionId e)
  | sent target (.sessionClosed closed) =>
    inferInstanceAs (Decidable (target = ws ∧ closed = sessionId))
  | sent target (.sessionJoinRejected rejected _) =>
    inferInstanceAs (Decidable (target = ws ∧ rejected = sessionId))
  | sent _ (.sessionCreated _ _) | sent _ (.sessionJoined _) | sent _ (.rosterUpdate _)
  | sent _ (.gameStart _) | sent _ (.initialStateSync _) | accepted _ _ _ | dropped _ | ended _ =>
    .isFalse id

def accepts (ws : κ) (sessionId : String) : LobbyEvent κ → Bool
  | accepted target joined _ => target = ws && joined = sessionId
  | _ => false

/-- Whether an accepted player still has to hear of the session, before and after an event. -/
def awaitsAfter (ws : κ) (sessionId : String) (awaits : Bool) (e : LobbyEvent κ) : Bool :=
  e.accepts ws sessionId || awaits && decide (e ≠ .ended ws ∧ ¬ e.Tells ws sessionId)

end LobbyEvent

/-- The player was accepted to the session, is connected, and has not been told since. -/
def awaitsNews (log : List (LobbyEvent κ)) (ws : κ) (sessionId : String) : Bool :=
  log.foldl (LobbyEvent.awaitsAfter ws sessionId) false

/-- Whoever is accepted to a session that is dropped later on hears of it, unless its connection was
lost before. -/
def NobodyStranded (log : List (LobbyEvent κ)) : Prop :=
  ∀ before ws sessionId joinIndex middle after,
    log = before ++ .accepted ws sessionId joinIndex :: .sent ws (.sessionJoined joinIndex) ::
      (middle ++ .dropped sessionId :: after) →
    .ended ws ∉ middle → ∃ e ∈ middle ++ after, e.Tells ws sessionId

theorem awaitsNews_snoc {log : List (LobbyEvent κ)} {e : LobbyEvent κ} {ws : κ} {sessionId : String}
    (h : awaitsNews (log ++ [e]) ws sessionId = true) :
    e.accepts ws sessionId = true ∨
      awaitsNews log ws sessionId = true ∧ e ≠ .ended ws ∧ ¬ e.Tells ws sessionId := by
  simpa [awaitsNews, List.foldl_append, LobbyEvent.awaitsAfter] using h

theorem awaitsNews_of_accepted {before middle : List (LobbyEvent κ)} {ws : κ} {sessionId : String}
    {joinIndex : ℤ} (connected : .ended ws ∉ middle)
    (untold : ∀ e ∈ middle, ¬ e.Tells ws sessionId) :
    awaitsNews (before ++ .accepted ws sessionId joinIndex :: middle) ws sessionId = true := by
  rw [awaitsNews, List.foldl_append, List.foldl_cons]
  apply Fallible.foldl_keeps (P := fun awaits => awaits = true)
  · intro awaits e he hawaits
    have hne : e ≠ .ended ws := fun hended => connected (hended ▸ he)
    simp [LobbyEvent.awaitsAfter, hawaits, hne, untold e he]
  · simp [LobbyEvent.awaitsAfter, LobbyEvent.accepts]

theorem nobodyStranded_of_settled {log : List (LobbyEvent κ)}
    (settled : ∀ before sessionId after, log = before ++ .dropped sessionId :: after →
      ∀ ws, awaitsNews before ws sessionId = false) : NobodyStranded log := by
  intro before ws sessionId joinIndex middle after hlog hconnected
  by_contra huntold
  have hbefore := settled
    (before ++ .accepted ws sessionId joinIndex :: .sent ws (.sessionJoined joinIndex) :: middle)
    sessionId after (by simp [hlog]) ws
  have hawaits : awaitsNews (before ++ .accepted ws sessionId joinIndex ::
      .sent ws (.sessionJoined joinIndex) :: middle) ws sessionId = true := by
    apply awaitsNews_of_accepted
    · simpa using hconnected
    · intro e he htells
      obtain rfl | hmem := List.mem_cons.mp he
      · exact htells
      · exact huntold ⟨e, List.mem_append_left _ hmem, htells⟩
  rw [hawaits] at hbefore
  cases hbefore

end News

/-! ## Announcements -/

/-- Doing this task tells the connection, if it is one of the session's. -/
def LobbyTask.Announces (ws : κ) (sessionId : String) (task : LobbyTask κ) : Prop :=
  task = .deliver ws (.sessionClosed sessionId) ∨
    task = .broadcast sessionId (.sessionClosed sessionId)

/-- The session is not dropped before the connection is told. -/
def AnnouncesFirst (ws : κ) (sessionId : String) : List (LobbyTask κ) → Prop
  | [] => True
  | task :: rest =>
    task.Announces ws sessionId ∨ task ≠ .dropSession sessionId ∧ AnnouncesFirst ws sessionId rest

theorem announcesFirst_of_open {ws : κ} {sessionId : String} {tasks : List (LobbyTask κ)}
    (h : .dropSession sessionId ∉ tasks) : AnnouncesFirst ws sessionId tasks := by
  induction tasks with
  | nil => trivial
  | cons task rest ih =>
    rw [List.mem_cons, not_or] at h
    exact .inr ⟨fun hdrop => h.1 hdrop.symm, ih h.2⟩

theorem announcesFirst_deliveries {ws : κ} {sessionId : String} {rest : List (LobbyTask κ)}
    (message : ServerMessage) (targets : List κ) (h : AnnouncesFirst ws sessionId rest) :
    AnnouncesFirst ws sessionId (targets.map (.deliver · message) ++ rest) := by
  induction targets with
  | nil => exact h
  | cons target targets ih => exact .inr ⟨nofun, ih⟩

theorem announcesFirst_of_target {ws : κ} {sessionId : String} (rest : List (LobbyTask κ))
    {targets : List κ} (h : ws ∈ targets) :
    AnnouncesFirst ws sessionId (targets.map (.deliver · (.sessionClosed sessionId)) ++ rest) := by
  induction targets with
  | nil => cases h
  | cons target targets ih =>
    obtain rfl | hmem := List.mem_cons.mp h
    · exact .inl (.inl rfl)
    · exact .inr ⟨nofun, ih hmem⟩

/-! ## The invariant -/

namespace LobbyView

variable [DecidableEq κ]

/-- Who awaits news is connected, will be told before a session is dropped, and was told before one
has been dropped. -/
structure Closes (v : LobbyView κ) : Prop where
  connected : ∀ ws sessionId, awaitsNews v.log ws sessionId = true →
    ws ∈ v.manager.connections sessionId
  announced : ∀ handler ws sessionId, awaitsNews v.log ws sessionId = true →
    AnnouncesFirst ws sessionId (v.pending handler)
  settled : ∀ before sessionId after, v.log = before ++ .dropped sessionId :: after →
    ∀ ws, awaitsNews before ws sessionId = false

theorem Closes.todo {v : LobbyView κ} (h : v.Closes) {handler : κ} {tasks : List (LobbyTask κ)}
    (announced : ∀ ws sessionId, awaitsNews v.log ws sessionId = true →
      AnnouncesFirst ws sessionId (v.pending handler) → AnnouncesFirst ws sessionId tasks) :
    (v.todo handler tasks).Closes := by
  refine ⟨h.connected, ?_, h.settled⟩
  intro other ws sessionId hawaits
  by_cases hother : other = handler
  · subst hother
    rw [todo_pending_self]
    exact announced ws sessionId hawaits (h.announced other ws sessionId hawaits)
  · rw [todo_pending_ne v hother]
    exact h.announced other ws sessionId hawaits

/-- An event that neither accepts a player nor drops a session. -/
theorem Closes.note {v : LobbyView κ} (h : v.Closes) {e : LobbyEvent κ}
    (joins : ∀ ws sessionId, e.accepts ws sessionId = false)
    (drops : ∀ sessionId, e ≠ .dropped sessionId) : (v.note e).Closes := by
  refine ⟨?_, ?_, ?_⟩
  · intro ws sessionId hawaits
    obtain haccepts | ⟨hbefore, -⟩ := awaitsNews_snoc hawaits
    · rw [joins] at haccepts
      cases haccepts
    · exact h.connected ws sessionId hbefore
  · intro handler ws sessionId hawaits
    obtain haccepts | ⟨hbefore, -⟩ := awaitsNews_snoc hawaits
    · rw [joins] at haccepts
      cases haccepts
    · exact h.announced handler ws sessionId hbefore
  · intro before sessionId after hlog
    obtain ⟨hdrops, -⟩ | ⟨after', hbefore⟩ := dropped_snoc hlog
    · exact absurd hdrops (drops sessionId)
    · exact h.settled before sessionId after' hbefore

theorem Closes.drop {v : LobbyView κ} (h : v.Closes) {sessionId : String}
    (told : ∀ ws, awaitsNews v.log ws sessionId = false) :
    ((v.withManager (v.manager.dropSession sessionId)).note (.dropped sessionId)).Closes := by
  have hbefore {ws : κ} {other : String}
      (hawaits : awaitsNews (v.log ++ [.dropped sessionId]) ws other = true) :
      awaitsNews v.log ws other = true := by
    obtain haccepts | ⟨hbefore, -⟩ := awaitsNews_snoc hawaits
    · cases haccepts
    · exact hbefore
  refine ⟨?_, ?_, ?_⟩
  · intro ws other hawaits
    have hne : other ≠ sessionId := by
      rintro rfl
      have htold := told ws
      rw [hbefore hawaits] at htold
      cases htold
    have hconnected := h.connected ws other (hbefore hawaits)
    simpa only [LobbyManager.connections, note_manager, withManager_manager,
      LobbyManager.dropSession, Dict.get?_erase_ne _ hne] using hconnected
  · intro handler ws other hawaits
    exact h.announced handler ws other (hbefore hawaits)
  · intro before other after hlog
    obtain ⟨hdrops, rfl⟩ | ⟨after', hbefore⟩ := dropped_snoc hlog
    · cases hdrops
      exact told
    · exact h.settled before other after' hbefore

theorem mem_removeConnection {m : LobbyManager κ} {sessionId other : String} {ws w : κ}
    (hne : w ≠ ws) (h : w ∈ m.connections other) :
    w ∈ (m.removeConnection sessionId ws).connections other := by
  unfold LobbyManager.connections at h ⊢
  rw [LobbyManager.get?_removeConnection]
  cases hfound : m.sessions.get? other with
  | none => simp [hfound] at h
  | some r =>
    rw [hfound] at h
    by_cases hother : other = sessionId <;> simp [hother, h, hne]

theorem Closes.ends {v : LobbyView κ} (h : v.Closes) {manager : LobbyManager κ} {ws : κ}
    (left : manager = v.manager ∨ ∃ sessionId, manager = v.manager.removeConnection sessionId ws) :
    ((v.withManager manager).note (.ended ws)).Closes := by
  have hends := h.note (e := .ended ws) (fun _ _ => rfl) nofun
  refine ⟨?_, hends.announced, hends.settled⟩
  intro w other hawaits
  obtain haccepts | ⟨hbefore, hne, -⟩ := awaitsNews_snoc hawaits
  · cases haccepts
  · have hconnected := h.connected w other hbefore
    obtain rfl | ⟨sessionId, rfl⟩ := left
    · exact hconnected
    · exact mem_removeConnection (fun hw => hne (hw ▸ rfl)) hconnected

theorem Closes.does {v v' : LobbyView κ} {handler : κ} (h : v.Closes)
    (does : Does handler v v') : v'.Closes := by
  -- a task that announces nothing and drops nothing is done with
  have hnext {task : LobbyTask κ} {rest : List (LobbyTask κ)}
      (next : v.pending handler = task :: rest)
      {ws : κ} {sessionId : String} (quiet : ¬ task.Announces ws sessionId)
      (hfirst : AnnouncesFirst ws sessionId (v.pending handler)) :
      task ≠ .dropSession sessionId ∧ AnnouncesFirst ws sessionId rest := by
    rw [next] at hfirst
    exact hfirst.resolve_left quiet
  cases does with
  | @reply message rest next =>
    have hnote := h.note (e := .sent handler message) (fun _ _ => rfl) nofun
    apply hnote.todo
    intro ws sessionId _ hfirst
    exact (hnext next (by simp [LobbyTask.Announces]) hfirst).2
  | @deliver target message rest next =>
    have hnote := h.note (e := .sent target message) (fun _ _ => rfl) nofun
    apply hnote.todo
    intro ws sessionId hawaits hfirst
    refine (hnext next ?_ hfirst).2
    rintro (htells | hbroadcast)
    · cases htells
      obtain haccepts | ⟨-, -, huntold⟩ := awaitsNews_snoc hawaits
      · cases haccepts
      · exact huntold ⟨rfl, rfl⟩
    · cases hbroadcast
  | @broadcast closing message rest next =>
    apply h.todo
    intro ws sessionId hawaits hfirst
    by_cases hannounces : (LobbyTask.broadcast closing message : LobbyTask κ).Announces ws sessionId
    · obtain hdeliver | htells := hannounces
      · cases hdeliver
      · cases htells
        exact announcesFirst_of_target rest (h.connected ws _ hawaits)
    · exact announcesFirst_deliveries message _ (hnext next hannounces hfirst).2
  | @broadcastRoster closing message rest next roster =>
    apply h.todo
    intro ws sessionId _ hfirst
    exact announcesFirst_deliveries message _
      (hnext next (by simp [LobbyTask.Announces]) hfirst).2
  | @start closing rest next active =>
    apply h.todo
    intro ws sessionId _ hfirst
    exact .inr ⟨nofun, (hnext next (by simp [LobbyTask.Announces]) hfirst).2⟩
  | skip next | forget next =>
    apply h.todo
    intro ws sessionId _ hfirst
    exact (hnext next (by simp [LobbyTask.Announces]) hfirst).2
  | @drop closing rest next =>
    have htold (ws : κ) : awaitsNews v.log ws closing = false := by
      by_contra hawaits
      rw [Bool.not_eq_false] at hawaits
      have hfirst := h.announced handler ws closing hawaits
      exact (hnext next (by simp [LobbyTask.Announces]) hfirst).1 rfl
    apply (h.drop htold).todo
    intro ws sessionId _ hfirst
    exact (hnext next (by simp [LobbyTask.Announces]) hfirst).2
  | ends left =>
    apply (h.ends left).todo
    intro ws sessionId _ _
    trivial

theorem Closes.withManager {v : LobbyView κ} (h : v.Closes) {manager : LobbyManager κ}
    (connected : ∀ ws sessionId, awaitsNews v.log ws sessionId = true →
      ws ∈ v.manager.connections sessionId → ws ∈ manager.connections sessionId) :
    (v.withManager manager).Closes :=
  ⟨fun ws sessionId hawaits => connected ws sessionId hawaits (h.connected ws sessionId hawaits),
    h.announced, h.settled⟩

/-- A player is accepted to a session that nobody is about to drop. -/
theorem Closes.accept {v : LobbyView κ} (h : v.Closes) {ws : κ} {sessionId : String} (joinIndex : ℤ)
    (connected : ws ∈ v.manager.connections sessionId)
    (kept : ∀ handler, .dropSession sessionId ∉ v.pending handler) :
    (v.note (.accepted ws sessionId joinIndex)).Closes := by
  have hcases {w : κ} {other : String}
      (hawaits : awaitsNews (v.log ++ [.accepted ws sessionId joinIndex]) w other = true) :
      w = ws ∧ other = sessionId ∨ awaitsNews v.log w other = true := by
    obtain haccepts | ⟨hbefore, -⟩ := awaitsNews_snoc hawaits
    · simp only [LobbyEvent.accepts, Bool.and_eq_true, decide_eq_true_eq] at haccepts
      exact .inl ⟨haccepts.1.symm, haccepts.2.symm⟩
    · exact .inr hbefore
  refine ⟨?_, ?_, ?_⟩
  · intro w other hawaits
    obtain ⟨rfl, rfl⟩ | hbefore := hcases hawaits
    · exact connected
    · exact h.connected w other hbefore
  · intro handler w other hawaits
    obtain ⟨rfl, rfl⟩ | hbefore := hcases hawaits
    · exact announcesFirst_of_open (kept handler)
    · exact h.announced handler w other hbefore
  · intro before other after hlog
    obtain ⟨hdrops, -⟩ | ⟨after', hbefore⟩ := dropped_snoc hlog
    · cases hdrops
    · exact h.settled before other after' hbefore

end LobbyView

/-! ## Runs -/

namespace LobbyManager

/-- A record that keeps the connections. -/
theorem mem_connections_put {m : LobbyManager κ} {sessionId other : String} {r : SessionRecord κ}
    (r' : SessionRecord κ) {ws : κ} (found : m.sessions.get? sessionId = some r)
    (kept : r.connections ⊆ r'.connections)
    (h : ws ∈ m.connections other) : ws ∈ (m.put sessionId r').connections other := by
  by_cases hother : other = sessionId
  · subst hother
    rw [connections_put_self]
    simp only [connections, found] at h
    exact kept h
  · rwa [connections_put_ne m hother]

end LobbyManager

namespace Lobby

variable [DecidableEq κ]

/-- What a message needs for nobody to be stranded: a player is not let in while some handler has
yet to drop the session, and no session takes the place of one whose players await news. -/
def KeepsRooms (s : Lobby κ) : ClientMessage → String → Prop
  | .sessionJoin m, _ =>
    s.manager.isFull m.sessionId m.rejoinJoinIndex = false →
      (s.manager.joinSession m.sessionId m.playerId m.ip m.port m.rejoinJoinIndex).isSome = true →
      ∀ handler, .dropSession m.sessionId ∉ s.view.pending handler
  | .sessionRecreate m, _ => ∀ ws, awaitsNews s.log ws m.sessionId = false
  | .sessionCreate _, uuid => ∀ ws, awaitsNews s.log ws uuid = false
  | _, _ => True

def StepKeepsRooms (s : Lobby κ) : LobbyStep κ → Prop
  | .receive ws message uuid =>
    (s.handlers ws).status = .receiving → message.checked = .ok message → s.KeepsRooms message uuid
  | .resume _ _ | .disconnect _ => True

instance decidableKeepsRooms [Fintype κ] (s : Lobby κ) :
    ∀ message uuid, Decidable (s.KeepsRooms message uuid)
  | .sessionJoin m, _ =>
    inferInstanceAs (Decidable (s.manager.isFull m.sessionId m.rejoinJoinIndex = false →
      (s.manager.joinSession m.sessionId m.playerId m.ip m.port m.rejoinJoinIndex).isSome = true →
      ∀ handler, .dropSession m.sessionId ∉ s.view.pending handler))
  | .sessionRecreate m, _ =>
    inferInstanceAs (Decidable (∀ ws, awaitsNews s.log ws m.sessionId = false))
  | .sessionCreate _, uuid => inferInstanceAs (Decidable (∀ ws, awaitsNews s.log ws uuid = false))
  | .sessionLeave _, _ | .initialStateSync _, _ | .gameStart _, _ | .unknown, _ | .malformed, _ =>
    .isTrue trivial

instance decidableStepKeepsRooms [Fintype κ] (s : Lobby κ) : ∀ x, Decidable (s.StepKeepsRooms x)
  | .receive ws message uuid =>
    inferInstanceAs (Decidable ((s.handlers ws).status = .receiving →
      message.checked = .ok message → s.KeepsRooms message uuid))
  | .resume _ _ | .disconnect _ => .isTrue trivial

theorem opens_closes {s : Lobby κ} (h : s.view.Closes) {ws : κ} {message : ClientMessage}
    {uuid : String} {manager : LobbyManager κ} {events : List (LobbyEvent κ)}
    {tasks : List (LobbyTask κ)} (keeps : s.KeepsRooms message uuid)
    (opens : s.manager.Opens ws message uuid manager events tasks) :
    (LobbyView.todo ⟨manager, s.view.pending, s.log ++ events⟩ ws tasks).Closes := by
  -- a record is put in the place of one that nobody awaits news of
  have hreplace {sessionId : String} (r : SessionRecord κ)
      (told : ∀ w, awaitsNews s.log w sessionId = false) :
      (s.view.withManager (s.manager.put sessionId r)).Closes := by
    apply h.withManager
    intro w other hawaits hconnected
    have hne : other ≠ sessionId := by
      rintro rfl
      change awaitsNews s.log w other = true at hawaits
      rw [told w] at hawaits
      cases hawaits
    rwa [LobbyManager.connections_put_ne _ hne]
  have hopen {v : LobbyView κ} (hv : v.Closes) {tasks : List (LobbyTask κ)}
      (drops : ∀ sessionId, .dropSession sessionId ∉ tasks) : (v.todo ws tasks).Closes :=
    hv.todo fun _ sessionId _ _ => announcesFirst_of_open (drops sessionId)
  cases opens with
  | create address =>
    rw [List.append_nil]
    exact hopen (hreplace _ keeps) (by simp)
  | @join msg _ r r' joinIndex found address room joined =>
    have hspec := SessionRecord.join_spec joined
    have hwider := h.withManager fun w other _ hconnected =>
      LobbyManager.mem_connections_put { r' with connections := r'.connections ++ [ws] } found
        (by simp [hspec.connections]) hconnected
    have hkept := keeps (by simp [LobbyManager.isFull, found, room])
      (by simp [LobbyManager.joinSession, found, joined])
    apply hopen (hwider.accept joinIndex ?_ hkept) (by simp)
    rw [LobbyView.withManager_manager, LobbyManager.connections_put_self]
    exact List.mem_append_right _ List.mem_cons_self
  | refuse =>
    rw [List.append_nil]
    exact hopen h (by simp)
  | recreate =>
    rw [List.append_nil]
    exact hopen (hreplace _ keeps) (by simp)
  | @close msg _ r found host =>
    rw [List.append_nil]
    have hleft := h.withManager fun w other _ hconnected =>
      LobbyManager.mem_connections_put (r.leave msg.joinIndex).1 found
        (by simp [r.leave_connections]) hconnected
    apply hleft.todo
    intro w other _ _
    by_cases hother : other = msg.sessionId
    · subst hother
      exact .inl (.inr rfl)
    · refine .inr ⟨by simp, .inr ⟨?_, trivial⟩⟩
      intro hdrop
      cases hdrop
      exact hother rfl
  | @leave msg _ r found other =>
    rw [List.append_nil]
    have hleft := h.withManager fun w other _ hconnected =>
      LobbyManager.mem_connections_put (r.leave msg.joinIndex).1 found
        (by simp [r.leave_connections]) hconnected
    exact hopen hleft (by simp)
  | sync sessionId =>
    rw [List.append_nil]
    exact hopen h (by simp)
  | @start sessionId _ r found =>
    rw [List.append_nil]
    have hactive := h.withManager fun w other _ hconnected =>
      LobbyManager.mem_connections_put { r with isActive := true } found
        (List.Subset.refl _) hconnected
    exact hopen hactive (by simp)
  | idle =>
    rw [List.append_nil]
    exact hopen h (by simp)

theorem step_closes {s : Lobby κ} {x : LobbyStep κ} (keeps : s.StepKeepsRooms x)
    (h : s.view.Closes) : (s.step x).view.Closes := by
  apply step_keeps (fun _ _ _ does hv => hv.does does) ?_ h
  rintro ws message uuid manager events tasks rfl hready hchecked hopens
  exact opens_closes h (keeps hready hchecked) hopens

theorem start_closes : ({} : Lobby κ).view.Closes := by
  refine ⟨?_, ?_, ?_⟩
  · intro ws sessionId hawaits
    cases hawaits
  · intro handler ws sessionId hawaits
    cases hawaits
  · intro before sessionId after hlog
    simp [view] at hlog

/-- In a run that keeps the rooms, nobody who was accepted is left without a message about a session
that is dropped. -/
theorem nobody_stranded {steps : List (LobbyStep κ)}
    (keeps : Fallible.Meets step StepKeepsRooms ({} : Lobby κ) steps) :
    NobodyStranded (run {} steps).log := by
  have hcloses : (run ({} : Lobby κ) steps).view.Closes :=
    Fallible.foldl_keeps_meets (P := fun s : Lobby κ => s.view.Closes)
      (fun _ _ hkeeps h => step_closes hkeeps h) keeps start_closes
  exact nobodyStranded_of_settled hcloses.settled

end Lobby

/-- The host leaves, and everybody is told before the session is dropped. -/
def closedRoom : List (LobbyStep LobbyPeer) :=
  openRoom ++ [.receive .host (.sessionLeave ⟨"room", 0⟩) "", .resume .host false,
    .resume .host false]

theorem closedRoom_strands_nobody :
    .dropped "room" ∈ (Lobby.run {} closedRoom).log ∧
      NobodyStranded (Lobby.run {} closedRoom).log :=
  ⟨by decide +kernel, Lobby.nobody_stranded (by decide +kernel)⟩

/-- The host leaves an empty room. A player joins it before the session is dropped. -/
def lateJoin : List (LobbyStep LobbyPeer) :=
  [.receive .host (.sessionCreate ⟨"player1", "10.0.0.1", 50010⟩) "room",
    .resume .host false, .resume .host false,
    .receive .host (.sessionLeave ⟨"room", 0⟩) "",
    .receive .latecomer (.sessionJoin ⟨"room", "player2", "10.0.0.3", 50012, none⟩) "",
    .resume .latecomer false, .resume .latecomer false, .resume .latecomer false,
    .resume .host false]

/-- Every handler is back at receiving, and the player was never told. -/
theorem latecomer_is_stranded :
    (∀ ws, ((Lobby.run {} lateJoin).handlers ws).status = .receiving) ∧
      ¬ NobodyStranded (Lobby.run {} lateJoin).log := by
  refine ⟨by decide +kernel, ?_⟩
  intro hnobody
  have htold := hnobody ((Lobby.run {} lateJoin).log.take 3) .latecomer "room" 0
    (((Lobby.run {} lateJoin).log.drop 5).take 2) [] (by decide +kernel) (by decide +kernel)
  exact absurd htold (by decide +kernel)

end DistributedSmb
