import DistributedSmb.Lobby.Followers
import DistributedSmb.Lobby.GameStart

/-!
# State syncs in the lobby

The host of a running session sends its world to the lobby, which broadcasts it to the session. A
client that the session has accepted stays among its connections, so the world reaches the client,
unless one of the two connections ends first.
-/

namespace DistributedSmb

open Library

variable {κ : Type}

/-- The session goes on. Nobody closes it or registers it again, what its host still sends is left
out, no other connection of it sends a world, and the client asks for no other session. -/
def Lobby.Continues (host client : κ) (join : SessionJoin) (s : Lobby κ) : LobbyStep κ → Prop
  | .receive sender (.sessionJoin m) _ => sender ≠ host ∧ (sender = client → m = join)
  | .receive sender (.sessionCreate _) uuid =>
    sender ≠ host ∧ sender ≠ client ∧ uuid ≠ join.sessionId
  | .receive sender (.sessionRecreate m) _ =>
    sender ≠ host ∧ sender ≠ client ∧ m.sessionId ≠ join.sessionId
  | .receive sender (.sessionLeave m) _ =>
    sender ≠ host ∧
      (m.sessionId = join.sessionId → (s.manager.leaveSession m.sessionId m.joinIndex).2 = false)
  | .receive sender (.initialStateSync _) _ =>
    sender ≠ host ∧ (s.handlers sender).sessionId ≠ some join.sessionId
  | .receive sender _ _ => sender ≠ host
  | .resume _ _ | .disconnect _ => True

instance Lobby.decidableContinues [DecidableEq κ] (host client : κ) (join : SessionJoin)
    (s : Lobby κ) : ∀ x, Decidable (s.Continues host client join x)
  | .receive sender (.sessionJoin m) _ =>
    inferInstanceAs (Decidable (sender ≠ host ∧ (sender = client → m = join)))
  | .receive sender (.sessionCreate _) uuid =>
    inferInstanceAs (Decidable (sender ≠ host ∧ sender ≠ client ∧ uuid ≠ join.sessionId))
  | .receive sender (.sessionRecreate m) _ =>
    inferInstanceAs (Decidable (sender ≠ host ∧ sender ≠ client ∧ m.sessionId ≠ join.sessionId))
  | .receive sender (.sessionLeave m) _ =>
    inferInstanceAs (Decidable (sender ≠ host ∧ (m.sessionId = join.sessionId →
      (s.manager.leaveSession m.sessionId m.joinIndex).2 = false)))
  | .receive sender (.initialStateSync _) _ =>
    inferInstanceAs (Decidable (sender ≠ host ∧
      (s.handlers sender).sessionId ≠ some join.sessionId))
  | .receive sender (.gameStart _) _ | .receive sender .unknown _
  | .receive sender .malformed _ => inferInstanceAs (Decidable (sender ≠ host))
  | .resume _ _ | .disconnect _ => .isTrue trivial

theorem Lobby.Continues.isFrom [DecidableEq κ] {host client : κ} {join : SessionJoin} {s : Lobby κ}
    {x : LobbyStep κ} (h : s.Continues host client join x) : x.isFrom host = false := by
  cases x with
  | receive sender message uuid =>
    refine decide_eq_false ?_
    cases message with
    | sessionCreate | sessionJoin | sessionRecreate | sessionLeave | initialStateSync => exact h.1
    | gameStart | unknown | malformed => exact h
  | resume | disconnect => rfl

/-- What has happened stays in the log. -/
theorem Lobby.step_log [DecidableEq κ] (s : Lobby κ) (x : LobbyStep κ) :
    ∃ more, (s.step x).log = s.log ++ more := by
  refine step_keeps (I := fun v => ∃ more, v.log = s.log ++ more) ?_ ?_
    ⟨[], (List.append_nil _).symm⟩
  · rintro _ v v' hdoes ⟨more, hmore⟩
    obtain ⟨events, hlog, -⟩ := hdoes.log
    exact ⟨more ++ events, by rw [hlog, hmore, List.append_assoc]⟩
  · intro _ _ _ _ events _ _ _ _ _
    exact ⟨events, rfl⟩

/-! ## What reaches the client -/

/-- A task that closes another session than this one, and sends the client only worlds of its
host. -/
def LobbyTask.Forwards (client : κ) (sessionId : String) (sent : WorldState → Prop) :
    LobbyTask κ → Prop
  | reply message => ∀ w, message ≠ .initialStateSync w
  | deliver target message => target = client → ∀ w, message = .initialStateSync w → sent w
  | broadcast other message => other = sessionId → ∀ w, message = .initialStateSync w → sent w
  | dropSession other => other ≠ sessionId
  | broadcastRoster _ | startIfActive _ | forgetSession => True

namespace LobbyManager

theorem connections_eq {m : LobbyManager κ} {sessionId : String} {r : SessionRecord κ}
    (found : m.sessions.get? sessionId = some r) : m.connections sessionId = r.connections := by
  rw [connections, found]

theorem connections_dropSession_ne (m : LobbyManager κ) {sessionId other : String}
    (h : other ≠ sessionId) :
    (m.dropSession sessionId).connections other = m.connections other := by
  simp [connections, dropSession, Dict.get?_erase_ne _ h]

theorem mem_connections_removeConnection [DecidableEq κ] {m : LobbyManager κ}
    {sessionId other : String} {ws w : κ} (hne : ws ≠ w) (h : ws ∈ m.connections other) :
    ws ∈ (m.removeConnection sessionId w).connections other := by
  unfold connections at h ⊢
  rw [get?_removeConnection]
  cases hfound : m.sessions.get? other with
  | none => simp [hfound] at h
  | some r =>
    rw [hfound] at h
    simp only [Option.map_some]
    split
    · exact List.mem_filter.mpr ⟨h, decide_eq_true hne⟩
    · exact h

end LobbyManager

namespace LobbyView

/-- The worlds that the client receives are the host's, and it stays connected to the session. -/
structure Forwards (client : κ) (sessionId : String) (sent : WorldState → Prop) (v : LobbyView κ) :
    Prop where
  tasks : ∀ handler, ∀ task ∈ v.pending handler, task.Forwards client sessionId sent
  received : ∀ w, .sent client (.initialStateSync w) ∈ v.log → sent w
  own : ∀ other, client ∈ v.manager.connections other → other = sessionId
  connected : ∀ i, .accepted client sessionId i ∈ v.log → .ended client ∉ v.log →
    client ∈ v.manager.connections sessionId

variable {client : κ} {sessionId : String} {sent : WorldState → Prop} {v : LobbyView κ}

theorem Forwards.mono {sent' : WorldState → Prop} (h : v.Forwards client sessionId sent)
    (more : ∀ w, sent w → sent' w) : v.Forwards client sessionId sent' where
  tasks handler task htask := by
    have hforwards := h.tasks handler task htask
    cases task with
    | reply | broadcastRoster | startIfActive | forgetSession | dropSession => exact hforwards
    | deliver target message => exact fun htarget w hw => more w (hforwards htarget w hw)
    | broadcast other message => exact fun hother w hw => more w (hforwards hother w hw)
  received w hw := more w (h.received w hw)
  own := h.own
  connected := h.connected

variable [DecidableEq κ]

theorem Forwards.todo (h : v.Forwards client sessionId sent) {handler : κ}
    {tasks : List (LobbyTask κ)} (forwards : ∀ task ∈ tasks, task.Forwards client sessionId sent) :
    (v.todo handler tasks).Forwards client sessionId sent := by
  refine ⟨?_, h.received, h.own, h.connected⟩
  intro other task htask
  by_cases hother : other = handler
  · subst hother
    rw [todo_pending_self] at htask
    exact forwards task htask
  · rw [todo_pending_ne v hother] at htask
    exact h.tasks other task htask

omit [DecidableEq κ] in
/-- What else is logged does not concern the client's place in the session. -/
theorem Forwards.note (h : v.Forwards client sessionId sent) {e : LobbyEvent κ}
    (received : ∀ w, e = .sent client (.initialStateSync w) → sent w)
    (accepted : ∀ i, e ≠ .accepted client sessionId i) :
    (v.note e).Forwards client sessionId sent := by
  refine ⟨h.tasks, ?_, h.own, ?_⟩
  · intro w hsent
    obtain hold | hnew := List.mem_append.mp hsent
    · exact h.received w hold
    · exact received w (List.mem_singleton.mp hnew).symm
  · intro i haccepted hopen
    obtain hold | hnew := List.mem_append.mp haccepted
    · exact h.connected i hold fun hended => hopen (List.mem_append_left _ hended)
    · exact absurd (List.mem_singleton.mp hnew).symm (accepted i)

theorem Forwards.does {handler : κ} {v' : LobbyView κ} (h : v.Forwards client sessionId sent)
    (does : Does handler v v') : v'.Forwards client sessionId sent := by
  have hrest {task : LobbyTask κ} {rest : List (LobbyTask κ)}
      (next : v.pending handler = task :: rest) : task.Forwards client sessionId sent ∧
        ∀ task' ∈ rest, task'.Forwards client sessionId sent := by
    have htasks := h.tasks handler
    rw [next] at htasks
    exact List.forall_mem_cons.mp htasks
  have hdeliveries {other : String} {message : ServerMessage} {rest : List (LobbyTask κ)}
      (sends : other = sessionId → ∀ w, message = .initialStateSync w → sent w)
      (forwards : ∀ task ∈ rest, task.Forwards client sessionId sent) :
      ∀ task ∈ (v.manager.connections other).map (LobbyTask.deliver · message) ++ rest,
        task.Forwards client sessionId sent := by
    intro task htask
    obtain hdelivery | hold := List.mem_append.mp htask
    · obtain ⟨target, htarget, rfl⟩ := List.mem_map.mp hdelivery
      rintro rfl
      exact sends (h.own other htarget)
    · exact forwards task hold
  cases does with
  | @reply message rest next =>
    obtain ⟨hreply, hforwards⟩ := hrest next
    refine (h.note (e := .sent handler message) ?_ (by simp)).todo hforwards
    rintro w heq
    cases heq
    exact absurd rfl (hreply w)
  | @deliver target message rest next =>
    obtain ⟨hdeliver, hforwards⟩ := hrest next
    refine (h.note (e := .sent target message) ?_ (by simp)).todo hforwards
    rintro w heq
    cases heq
    exact hdeliver rfl w rfl
  | broadcast next =>
    obtain ⟨hbroadcast, hforwards⟩ := hrest next
    exact h.todo (hdeliveries hbroadcast hforwards)
  | broadcastRoster next roster =>
    obtain ⟨-, hforwards⟩ := hrest next
    refine h.todo (hdeliveries (fun _ w heq => ?_) hforwards)
    obtain ⟨roster', -, hchecked⟩ := Fallible.bind_eq_ok.mp roster
    obtain ⟨_, -, hsame⟩ := Fallible.bind_eq_ok.mp hchecked
    exact nomatch (Except.ok.inj hsame).trans heq
  | start next active =>
    obtain ⟨-, hforwards⟩ := hrest next
    exact h.todo (List.forall_mem_cons.mpr ⟨nofun, hforwards⟩)
  | skip next | forget next => exact h.todo (hrest next).2
  | @drop other rest next =>
    obtain ⟨hother, hforwards⟩ := hrest next
    refine Forwards.todo ?_ hforwards
    refine Forwards.note (e := .dropped other) ?_ nofun nofun
    refine ⟨h.tasks, h.received, ?_, ?_⟩
    · exact fun _ hmem => h.own _ (LobbyManager.connections_dropSession hmem)
    · intro i haccepted hopen
      change client ∈ (v.manager.dropSession other).connections sessionId
      rw [LobbyManager.connections_dropSession_ne _ (Ne.symm hother)]
      exact h.connected i haccepted hopen
  | @ends manager left =>
    refine Forwards.todo ?_ (by simp)
    refine ⟨h.tasks, ?_, ?_, ?_⟩
    · intro w hsent
      exact h.received w (by simpa using hsent)
    · intro other hmem
      obtain rfl | ⟨_, rfl⟩ := left
      · exact h.own other hmem
      · exact h.own other (LobbyManager.connections_removeConnection hmem)
    · intro i haccepted hopen
      simp only [note_log, withManager_log, List.mem_append, List.mem_singleton, not_or,
        reduceCtorEq, or_false, LobbyEvent.ended.injEq] at haccepted hopen
      have hold := h.connected i haccepted hopen.1
      obtain rfl | ⟨_, rfl⟩ := left
      · exact hold
      · exact LobbyManager.mem_connections_removeConnection hopen.2 hold

omit [DecidableEq κ] in
/-- The session of the client keeps its connections, another one is not the client's. -/
theorem Forwards.put (h : v.Forwards client sessionId sent) {other : String} {r : SessionRecord κ}
    (own : client ∈ r.connections → other = sessionId)
    (keeps : other = sessionId → client ∈ v.manager.connections sessionId →
      client ∈ r.connections) :
    (v.withManager (v.manager.put other r)).Forwards client sessionId sent := by
  refine ⟨h.tasks, h.received, ?_, ?_⟩
  · intro other' hmem
    obtain ⟨rfl, hnew⟩ | hold := LobbyManager.connections_of_put hmem
    · exact own hnew
    · exact h.own other' hold
  · intro i haccepted hopen
    have hold := h.connected i haccepted hopen
    by_cases hother : other = sessionId
    · subst hother
      rw [withManager_manager, LobbyManager.connections_put_self]
      exact keeps rfl hold
    · rwa [withManager_manager, LobbyManager.connections_put_ne _ (Ne.symm hother)]

end LobbyView

namespace Lobby

variable {host client : κ} {join : SessionJoin} {sent : WorldState → Prop}

variable [DecidableEq κ]

theorem opens_forwards {s : Lobby κ} (h : s.view.Forwards client join.sessionId sent) {sender : κ}
    {message : ClientMessage} {uuid : String} {manager : LobbyManager κ}
    {events : List (LobbyEvent κ)} {tasks : List (LobbyTask κ)}
    (continues : s.Continues host client join (.receive sender message uuid))
    (noSync : ∀ w, message ≠ .initialStateSync w)
    (opens : s.manager.Opens sender message uuid manager events tasks) :
    (LobbyView.todo ⟨manager, s.view.pending, s.log ++ events⟩ sender tasks).Forwards client
      join.sessionId sent := by
  -- the record of a session that the message changes
  have hrecord {other : String} {r : SessionRecord κ}
      (found : s.manager.sessions.get? other = some r) :
      (client ∈ r.connections → other = join.sessionId) ∧
        (other = join.sessionId → client ∈ s.manager.connections join.sessionId →
          client ∈ r.connections) := by
    have hconnections := LobbyManager.connections_eq found
    refine ⟨fun hmem => h.own other ?_, ?_⟩
    · change client ∈ s.manager.connections other
      rwa [hconnections]
    · rintro rfl hmem
      rwa [← hconnections]
  cases opens with
  | create address =>
    obtain ⟨-, hother, hfresh⟩ := continues
    rw [List.append_nil]
    refine (h.put ?_ fun hsame => absurd hsame hfresh).todo (by simp [LobbyTask.Forwards])
    exact fun hmem => absurd (List.mem_singleton.mp hmem).symm hother
  | @join msg _ r r' i found address room joined =>
    have hkept := (SessionRecord.join_spec joined).connections
    obtain ⟨hown, hkeeps⟩ := hrecord found
    refine LobbyView.Forwards.todo ?_ (by simp [LobbyTask.Forwards])
    have hput : (s.view.withManager (s.manager.put msg.sessionId
        { r' with connections := r'.connections ++ [sender] })).Forwards client join.sessionId
        sent := by
      refine h.put ?_ fun hsame hmem => ?_
      · intro hmem
        obtain hold | hlast := List.mem_append.mp hmem
        · exact hown (hkept ▸ hold)
        · rw [continues.2 (List.mem_singleton.mp hlast).symm]
      · exact List.mem_append_left _ (hkept ▸ hkeeps hsame hmem)
    refine ⟨hput.tasks, fun w hw => hput.received w (by simpa [view] using hw), hput.own, ?_⟩
    intro j haccepted hopen
    obtain hold | hnew := List.mem_append.mp haccepted
    · exact hput.connected j hold fun hended => hopen (List.mem_append_left _ hended)
    · obtain ⟨hsender, hsession, -⟩ := (LobbyEvent.accepted.injEq _ _ _ _ _ _).mp
        (List.mem_singleton.mp hnew)
      rw [hsession, LobbyManager.connections_put_self]
      exact List.mem_append_right _ (List.mem_singleton.mpr hsender)
  | refuse =>
    rw [List.append_nil]
    exact h.todo (by simp [LobbyTask.Forwards])
  | recreate address index reserved unreserved =>
    obtain ⟨-, hother, hfresh⟩ := continues
    rw [List.append_nil]
    refine (h.put ?_ fun hsame => absurd hsame hfresh).todo (by simp [LobbyTask.Forwards])
    exact fun hmem => absurd (List.mem_singleton.mp hmem).symm hother
  | @close msg _ r found closes =>
    have hother : msg.sessionId ≠ join.sessionId := by
      intro hsame
      have hstays := continues.2 hsame
      rw [LobbyManager.leaveSession, found, closes] at hstays
      cases hstays
    rw [List.append_nil]
    refine (h.put ?_ fun hsame => absurd hsame hother).todo
      (by simpa [LobbyTask.Forwards] using hother)
    rw [SessionRecord.leave_connections]
    exact (hrecord found).1
  | @leave msg _ r found other =>
    rw [List.append_nil]
    refine (h.put ?_ ?_).todo (by simp [LobbyTask.Forwards]) <;>
      rw [SessionRecord.leave_connections]
    · exact (hrecord found).1
    · exact (hrecord found).2
  | sync sessionId => exact absurd rfl (noSync _)
  | start found =>
    rw [List.append_nil]
    refine (h.put ?_ ?_).todo ?_
    · exact (hrecord found).1
    · exact (hrecord found).2
    · simp [LobbyTask.Forwards]
  | idle =>
    rw [List.append_nil]
    exact h.todo (by simp)

/-- A world is broadcast to the session that the handler is in. -/
theorem receive_sync {s : Lobby κ} {ws : κ} {w : WorldState} (uuid : String)
    (ready : (s.handlers ws).status = .receiving) :
    s.step (.receive ws (.initialStateSync w) uuid) = s.runTasks ws
      (((s.handlers ws).sessionId.map fun sessionId =>
        LobbyTask.broadcast sessionId (.initialStateSync w)).toList) := by
  simp only [step, ready, onMessage, ClientMessage.checked, onInitialStateSync]
  cases (s.handlers ws).sessionId <;> rfl

theorem sync_forwards {s : Lobby κ} (h : s.view.Forwards client join.sessionId sent) {ws : κ}
    {w : WorldState} (uuid : String)
    (known : (s.handlers ws).sessionId = some join.sessionId → sent w) :
    (s.step (.receive ws (.initialStateSync w) uuid)).view.Forwards client join.sessionId sent := by
  cases hstatus : (s.handlers ws).status with
  | receiving =>
    rw [receive_sync uuid hstatus]
    refine runTasks_keeps (fun _ _ does hv => hv.does does) s (h.todo ?_)
    intro task htask
    obtain ⟨sessionId, hsession, rfl⟩ := Option.map_eq_some_iff.mp (Option.mem_toList.mp htask)
    rintro rfl w' heq
    cases heq
    exact known hsession
  | sending | ended => simpa only [step, hstatus] using h

theorem step_forwards {s : Lobby κ} (h : s.view.Forwards client join.sessionId sent)
    {x : LobbyStep κ} (continues : s.Continues host client join x) :
    (s.step x).view.Forwards client join.sessionId sent := by
  by_cases hsync : ∃ ws w uuid, x = .receive ws (.initialStateSync w) uuid
  · obtain ⟨ws, w, uuid, rfl⟩ := hsync
    exact sync_forwards h uuid fun hsession => absurd hsession continues.2
  · refine step_keeps (fun _ _ _ does hv => LobbyView.Forwards.does hv does) ?_ h
    rintro sender message uuid manager events tasks rfl - - hopens
    exact opens_forwards h continues (fun w hw => hsync ⟨sender, w, uuid, by rw [hw]⟩) hopens

end Lobby

/-! ## Handlers -/

/-- The connection whose handler takes the step. -/
def LobbyStep.socket : LobbyStep κ → κ
  | .receive ws _ _ | .resume ws _ | .disconnect ws => ws

namespace Lobby

variable [DecidableEq κ] {s : Lobby κ} {ws other : κ}

theorem setStatus_handlers (hne : other ≠ ws) (status : HandlerStatus κ) :
    (s.setStatus ws status).handlers other = s.handlers other := Function.update_of_ne hne _ _

theorem setSession_handlers (hne : other ≠ ws) (sessionId : Option String) :
    (s.setSession ws sessionId).handlers other = s.handlers other := Function.update_of_ne hne _ _

theorem finish_handlers (hne : other ≠ ws) : (s.finish ws).handlers other = s.handlers other :=
  setStatus_handlers hne _

theorem send_handlers (hne : other ≠ ws) (target : κ) (message : ServerMessage)
    (isDelivery : Bool) (rest : List (LobbyTask κ)) :
    (s.send ws target message isDelivery rest).handlers other = s.handlers other :=
  setStatus_handlers hne _

theorem reply_handlers (hne : other ≠ ws) (message : ServerMessage) (rest : List (LobbyTask κ)) :
    (s.reply ws message rest).handlers other = s.handlers other := by
  unfold reply
  split
  · exact finish_handlers hne
  · exact send_handlers hne ..

theorem runTasks_handlers (hne : other ≠ ws) (tasks : List (LobbyTask κ)) (s : Lobby κ) :
    (s.runTasks ws tasks).handlers other = s.handlers other := by
  induction tasks generalizing s with
  | nil => exact setStatus_handlers hne _
  | cons task rest ih =>
    cases task with
    | reply message => exact reply_handlers hne ..
    | deliver target message => exact send_handlers hne ..
    | broadcast sessionId message =>
      rw [runTasks]
      split
      · exact ih s
      · exact send_handlers hne ..
    | broadcastRoster sessionId =>
      rw [runTasks]
      split
      · exact finish_handlers hne
      · split
        · exact ih s
        · exact send_handlers hne ..
    | startIfActive sessionId =>
      rw [runTasks]
      split
      · exact reply_handlers hne ..
      · exact ih s
    | forgetSession => exact (ih _).trans (setSession_handlers hne none)
    | dropSession sessionId => exact ih _

theorem attempt_handlers (hne : other ≠ ws) (manager : Except PyError (LobbyManager κ))
    (tasks : List (LobbyTask κ)) :
    (s.attempt ws manager tasks).handlers other = s.handlers other := by
  unfold attempt
  split
  · exact finish_handlers hne
  · exact runTasks_handlers hne ..

theorem onMessage_handlers (hne : other ≠ ws) (message : ClientMessage) (uuid : String) :
    (s.onMessage ws message uuid).handlers other = s.handlers other := by
  unfold onMessage
  split
  · exact finish_handlers hne
  · split
    · exact (attempt_handlers hne ..).trans (setSession_handlers hne _)
    · unfold onSessionJoin
      dsimp only
      split
      · exact (runTasks_handlers hne ..).trans (setSession_handlers hne _)
      · split
        · exact (runTasks_handlers hne ..).trans (setSession_handlers hne _)
        · exact (attempt_handlers hne ..).trans (setSession_handlers hne _)
    · unfold onSessionRecreate
      dsimp only
      split
      · exact (finish_handlers hne).trans (setSession_handlers hne _)
      · exact (attempt_handlers hne ..).trans (setSession_handlers hne _)
    · unfold onSessionLeave
      split
      · exact runTasks_handlers hne ..
      · exact runTasks_handlers hne ..
    · unfold onInitialStateSync
      split
      · exact runTasks_handlers hne ..
      · exact runTasks_handlers hne ..
    · exact attempt_handlers hne ..
    · exact runTasks_handlers hne ..
    · exact runTasks_handlers hne ..

/-- A handler is left alone by the steps of the others. -/
theorem step_handlers {x : LobbyStep κ} (hne : other ≠ x.socket) :
    (s.step x).handlers other = s.handlers other := by
  cases x with
  | receive ws message uuid =>
    cases hstatus : (s.handlers ws).status with
    | receiving =>
      simp only [step, hstatus]
      exact onMessage_handlers hne message uuid
    | sending | ended => simp only [step, hstatus]
  | resume ws raises =>
    cases hstatus : (s.handlers ws).status with
    | sending isDelivery rest =>
      simp only [step, hstatus]
      split
      · exact finish_handlers hne
      · exact runTasks_handlers hne ..
    | receiving | ended => simp only [step, hstatus]
  | disconnect ws =>
    cases hstatus : (s.handlers ws).status with
    | receiving =>
      simp only [step, hstatus]
      exact finish_handlers hne
    | sending | ended => simp only [step, hstatus]

/-- The handler is in the session, and has nothing left but deliveries. -/
structure Serves (host : κ) (sessionId : String) (s : Lobby κ) : Prop where
  session : (s.handlers host).sessionId = some sessionId
  deliveries : ∀ task ∈ (s.handlers host).status.rest, ∃ target message,
    task = .deliver target message

variable {host : κ} {sessionId : String}

omit [DecidableEq κ] in
theorem Serves.of_status {s s' : Lobby κ} {status : HandlerStatus κ} (h : s.Serves host sessionId)
    (handler : s'.handlers host = { s.handlers host with status := status })
    (deliveries : ∀ task ∈ status.rest, ∃ target message, task = .deliver target message) :
    s'.Serves host sessionId := by
  refine ⟨?_, ?_⟩ <;> rw [handler]
  · exact h.session
  · exact deliveries

theorem Serves.finish {s : Lobby κ} (h : s.Serves host sessionId) :
    (s.finish host).Serves host sessionId :=
  h.of_status (Function.update_self ..) (by simp [HandlerStatus.rest])

theorem Serves.runTasks {s : Lobby κ} {tasks : List (LobbyTask κ)} (h : s.Serves host sessionId)
    (deliveries : ∀ task ∈ tasks, ∃ target message, task = .deliver target message) :
    (s.runTasks host tasks).Serves host sessionId := by
  cases tasks with
  | nil => exact h.of_status (Function.update_self ..) (by simp [HandlerStatus.rest])
  | cons task rest =>
    obtain ⟨⟨target, message, rfl⟩, hrest⟩ := List.forall_mem_cons.mp deliveries
    exact h.of_status (Function.update_self ..) hrest

theorem sync_serves {s : Lobby κ} (h : s.Serves host sessionId) (w : WorldState) (uuid : String) :
    (s.step (.receive host (.initialStateSync w) uuid)).Serves host sessionId := by
  cases hstatus : (s.handlers host).status with
  | receiving =>
    rw [receive_sync uuid hstatus, h.session, Option.map_some, Option.toList_some, Lobby.runTasks]
    split
    · exact h.runTasks (by simp)
    · exact h.of_status (Function.update_self ..) (by simp [HandlerStatus.rest])
  | sending | ended => simpa only [step, hstatus] using h

theorem step_serves {s : Lobby κ} {x : LobbyStep κ} (h : s.Serves host sessionId)
    (other : x.isFrom host = false) : (s.step x).Serves host sessionId := by
  by_cases hsocket : host = x.socket
  swap
  · have hsame := step_handlers (s := s) hsocket
    exact ⟨hsame ▸ h.session, hsame ▸ h.deliveries⟩
  cases x with
  | receive ws message uuid => exact absurd hsocket.symm (of_decide_eq_false other)
  | resume ws raises =>
    obtain rfl := hsocket
    cases hstatus : (s.handlers host).status with
    | sending isDelivery rest =>
      simp only [step, hstatus]
      split
      · exact h.finish
      · have hdeliveries := h.deliveries
        rw [hstatus] at hdeliveries
        exact h.runTasks hdeliveries
    | receiving | ended => simpa only [step, hstatus] using h
  | disconnect ws =>
    obtain rfl := hsocket
    cases hstatus : (s.handlers host).status with
    | receiving =>
      simp only [step, hstatus]
      exact h.finish
    | sending | ended => simpa only [step, hstatus] using h

end Lobby

/-! ## A world on its way -/

section Delivery

variable [DecidableEq κ] {host client : κ} {k : ℕ}

theorem inbox_append (log more : List (LobbyEvent κ)) (ws : κ) :
    inbox (log ++ more) ws = inbox log ws ++ inbox more ws := List.filterMap_append

namespace LobbyView

variable {v v' : LobbyView κ}

/-- After its first `k` messages the client receives a world, or the host's handler still has one
for it, or has ended. -/
structure Brings (host client : κ) (k : ℕ) (v : LobbyView κ) : Prop where
  received : k ≤ (inbox v.log client).length
  world : (∃ w, .initialStateSync w ∈ (inbox v.log client).drop k) ∨
    (∃ w, .deliver client (.initialStateSync w) ∈ v.pending host) ∨ .ended host ∈ v.log

/-- A delivery stays pending until it is made. -/
theorem Brings.of_log (h : v.Brings host client k) {more : List (LobbyEvent κ)}
    (log : v'.log = v.log ++ more)
    (pending : ∀ message, .deliver client message ∈ v.pending host →
      .deliver client message ∈ v'.pending host ∨ .sent client message ∈ more ∨
        .ended host ∈ more) : v'.Brings host client k := by
  have hinbox : (inbox v'.log client).drop k =
      (inbox v.log client).drop k ++ inbox more client := by
    rw [log, inbox_append, List.drop_append_of_le_length h.received]
  refine ⟨?_, ?_⟩
  · rw [log, inbox_append, List.length_append]
    exact Nat.le_add_right_of_le h.received
  rw [hinbox, log]
  rcases h.world with ⟨w, hw⟩ | ⟨w, hw⟩ | hended
  · exact .inl ⟨w, List.mem_append_left _ hw⟩
  · rcases pending _ hw with hstill | hsent | hended
    · exact .inr (.inl ⟨w, hstill⟩)
    · exact .inl ⟨w, List.mem_append_right _ (mem_inbox.mpr hsent)⟩
    · exact .inr (.inr (List.mem_append_right _ hended))
  · exact .inr (.inr (List.mem_append_left _ hended))

theorem Brings.does {handler : κ} (h : v.Brings host client k) (does : Does handler v v') :
    v'.Brings host client k := by
  by_cases hhandler : handler = host
  swap
  -- the host's tasks are left alone
  · have hpending (u : LobbyView κ) (tasks : List (LobbyTask κ)) :
        (u.todo handler tasks).pending host = u.pending host :=
      todo_pending_ne u (Ne.symm hhandler) tasks
    cases does with
    | reply | deliver | drop | ends =>
      refine h.of_log rfl fun message hmessage => .inl ?_
      rwa [hpending]
    | broadcast | broadcastRoster | start | skip | forget =>
      refine h.of_log (List.append_nil _).symm fun message hmessage => .inl ?_
      rwa [hpending]
  subst hhandler
  have hrest {task : LobbyTask κ} {rest : List (LobbyTask κ)}
      (next : v.pending handler = task :: rest) {message : ServerMessage}
      (hmessage : .deliver client message ∈ v.pending handler) :
      .deliver client message = task ∨ .deliver client message ∈ rest :=
    List.mem_cons.mp (next ▸ hmessage)
  cases does with
  | reply next =>
    refine h.of_log rfl fun message hmessage => .inl ?_
    simpa using hrest next hmessage
  | deliver next =>
    refine h.of_log rfl fun message hmessage => ?_
    rcases hrest next hmessage with heq | hlater
    · cases heq
      exact .inr (.inl List.mem_cons_self)
    · exact .inl (by rwa [todo_pending_self])
  | broadcast next | broadcastRoster next =>
    refine h.of_log (List.append_nil _).symm fun message hmessage => .inl ?_
    rw [todo_pending_self]
    exact List.mem_append_right _ (by simpa using hrest next hmessage)
  | start next | skip next | forget next =>
    refine h.of_log (List.append_nil _).symm fun message hmessage => .inl ?_
    simpa using hrest next hmessage
  | drop next =>
    refine h.of_log rfl fun message hmessage => .inl ?_
    simpa using hrest next hmessage
  | ends => exact h.of_log rfl fun message hmessage => .inr (.inr List.mem_cons_self)

/-- A message that is no world is none of those that are waited for. -/
theorem Brings.next (h : v.Brings host client k) {message : ServerMessage}
    (next : (inbox v.log client)[k]? = some message)
    (other : ∀ w, message ≠ .initialStateSync w) : v.Brings host client (k + 1) := by
  obtain ⟨hlt, hget⟩ := List.getElem?_eq_some_iff.mp next
  refine ⟨hlt, ?_⟩
  rcases h.world with ⟨w, hw⟩ | hpending
  · rw [List.drop_eq_getElem_cons hlt, hget] at hw
    rcases List.mem_cons.mp hw with heq | hlater
    · exact absurd heq.symm (other w)
    · exact .inl ⟨w, hlater⟩
  · exact .inr hpending

end LobbyView

namespace Lobby

theorem step_brings {s : Lobby κ} {x : LobbyStep κ} (other : x.isFrom host = false)
    (h : s.view.Brings host client k) : (s.step x).view.Brings host client k := by
  refine step_keeps (fun _ _ _ does hv => LobbyView.Brings.does hv does) ?_ h
  rintro sender message uuid manager events tasks rfl - - hopens
  refine h.of_log rfl fun message hmessage => .inl ?_
  rw [LobbyView.todo_pending_ne _ (Ne.symm (of_decide_eq_false other))]
  exact hmessage

/-- A world that the host sends to a session with the client is on its way to the client. -/
theorem sync_brings {s : Lobby κ} {sessionId uuid : String} {w : WorldState}
    (received : k ≤ (inbox s.log client).length)
    (ready : (s.handlers host).status = .receiving)
    (session : (s.handlers host).sessionId = some sessionId)
    (connected : client ∈ s.manager.connections sessionId) :
    (s.step (.receive host (.initialStateSync w) uuid)).view.Brings host client k := by
  rw [receive_sync uuid ready, session, Option.map_some, Option.toList_some, runTasks]
  cases hconnections : s.manager.connections sessionId with
  | nil =>
    rw [hconnections] at connected
    cases connected
  | cons target targets =>
    rw [hconnections] at connected
    rw [view_send, List.append_nil]
    have hinbox := inbox_append s.log [.sent target (.initialStateSync w)] client
    refine ⟨?_, ?_⟩
    · change k ≤ (inbox (s.log ++ [_]) client).length
      rw [hinbox, List.length_append]
      exact Nat.le_add_right_of_le received
    · rcases List.mem_cons.mp connected with rfl | hlater
      · left
        refine ⟨w, ?_⟩
        change _ ∈ (inbox (s.log ++ [_]) client).drop k
        rw [hinbox, List.drop_append_of_le_length received]
        exact List.mem_append_right _ (mem_inbox.mpr List.mem_cons_self)
      · right; left
        refine ⟨w, ?_⟩
        rw [LobbyView.todo_pending_self]
        exact List.mem_map_of_mem hlater

end Lobby

end Delivery

end DistributedSmb
