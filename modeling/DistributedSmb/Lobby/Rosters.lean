import DistributedSmb.Lobby.Followers
import DistributedSmb.Lobby.GameStart

/-!
# Rosters of a session that was registered again

The session lists the promoted host and whoever has been admitted since. The host's connection is in
no other session, so every roster that is sent on it is the one that this session had after some
step.
-/

namespace DistributedSmb

open Library

variable {κ : Type}

/-! ## What the session lists -/

/-- The player of this slot leaves the session. -/
def LobbyStep.leaves (sessionId : String) (i : ℤ) : LobbyStep κ → Bool
  | .receive _ (.sessionLeave m) _ => decide (m.sessionId = sessionId ∧ m.joinIndex = i)
  | _ => false

/-- A message on this connection that may put it into a session. -/
def LobbyStep.enters [DecidableEq κ] (ws : κ) : LobbyStep κ → Bool
  | .receive sender message _ => decide (sender = ws) && message.enters
  | .resume _ _ | .disconnect _ => false

/-- The connection is in no other session. -/
def LobbyManager.Only (m : LobbyManager κ) (ws : κ) (sessionId : String) : Prop :=
  ∀ other, ws ∈ m.connections other → other = sessionId

namespace SessionRecord

def Lists (r : SessionRecord κ) (i : ℤ) : Prop := ∃ e ∈ r.entries, e.joinIndex = i

theorem lists_iff {r : SessionRecord κ} {i : ℤ} : r.Lists i ↔ i ∈ r.outline.map Prod.fst := by
  simp [Lists, outline]

theorem Joins.lists {r r' : SessionRecord κ} {rejoinJoinIndex : Option ℤ} {joinIndex : ℤ}
    (h : r.Joins rejoinJoinIndex joinIndex r') (i : ℤ) :
    r'.Lists i ↔ r.Lists i ∨ i = joinIndex := by
  constructor
  · intro hlists
    rw [lists_iff] at hlists ⊢
    rcases h.outline with hsame | hmore
    · exact .inl (hsame ▸ hlists)
    · simpa [hmore] using hlists
  · rintro (⟨e, he, rfl⟩ | rfl)
    · obtain ⟨e', he', hindex, -⟩ := h.keeps he
      exact ⟨e', he', hindex⟩
    · exact h.listed

theorem lists_leave {r : SessionRecord κ} {joinIndex i : ℤ} (other : i ≠ joinIndex) :
    (r.leave joinIndex).1.Lists i ↔ r.Lists i := by
  constructor
  · rintro ⟨e, he, rfl⟩
    unfold leave at he
    split at he
    · exact ⟨e, he, rfl⟩
    · exact ⟨e, List.mem_of_mem_filter he, rfl⟩
  · rintro ⟨e, he, rfl⟩
    exact ⟨e, mem_leave he other, rfl⟩

end SessionRecord

namespace LobbyView

/-- Since the log was this long, the slot is listed if and only if it is the host's or its player
has been admitted. -/
def ListsAdmitted (old : List (LobbyEvent κ)) (sessionId : String) (host i : ℤ) (v : LobbyView κ) :
    Prop :=
  ∃ new, v.log = old ++ new ∧ ∀ r, v.manager.sessions.get? sessionId = some r →
    (r.Lists i ↔ i = host ∨ ∃ w, .accepted w sessionId i ∈ new)

variable {old : List (LobbyEvent κ)} {sessionId : String} {host i : ℤ} {v v' : LobbyView κ}

/-- More events, and records that list the slot if they did before or an event admits the player. -/
theorem ListsAdmitted.next (h : v.ListsAdmitted old sessionId host i) {events : List (LobbyEvent κ)}
    (logged : v'.log = v.log ++ events)
    (lists : ∀ r', v'.manager.sessions.get? sessionId = some r' →
      ∃ r, v.manager.sessions.get? sessionId = some r ∧
        (r'.Lists i ↔ r.Lists i ∨ ∃ w, .accepted w sessionId i ∈ events)) :
    v'.ListsAdmitted old sessionId host i := by
  obtain ⟨new, hnew, hlisted⟩ := h
  refine ⟨new ++ events, by rw [logged, hnew, List.append_assoc], fun r' hr' => ?_⟩
  obtain ⟨r, hr, hlists⟩ := lists r' hr'
  rw [hlists, hlisted r hr, or_assoc]
  simp only [List.mem_append, exists_or]

variable [DecidableEq κ]

theorem ListsAdmitted.does {ws : κ} (does : Does ws v v')
    (h : v.ListsAdmitted old sessionId host i) : v'.ListsAdmitted old sessionId host i := by
  obtain ⟨events, hlog, hnone⟩ := does.log
  refine h.next hlog fun r' hr' => ?_
  obtain ⟨r, hr, hentries, -⟩ := does.session hr'
  refine ⟨r, hr, ?_⟩
  simp only [SessionRecord.Lists, hentries, hnone, exists_false, or_false]

theorem ListsAdmitted.opens (h : v.ListsAdmitted old sessionId host i) {ws : κ}
    {message : ClientMessage} {uuid : String} {manager : LobbyManager κ}
    {events : List (LobbyEvent κ)} {tasks : List (LobbyTask κ)}
    (unregistered : (LobbyStep.receive ws message uuid).registers sessionId = false)
    (stays : (LobbyStep.receive ws message uuid).leaves sessionId i = false)
    (opens : v.manager.Opens ws message uuid manager events tasks) :
    (LobbyView.todo ⟨manager, v.pending, v.log ++ events⟩ ws tasks).ListsAdmitted old sessionId host
      i := by
  refine h.next rfl fun r' hr' => ?_
  change manager.sessions.get? sessionId = some r' at hr'
  have hsame {r : SessionRecord κ} (hr : v.manager.sessions.get? sessionId = some r)
      (lists : r'.Lists i ↔ r.Lists i) : ∃ r, v.manager.sessions.get? sessionId = some r ∧
        (r'.Lists i ↔ r.Lists i ∨ ∃ w, .accepted w sessionId i ∈ ([] : List (LobbyEvent κ))) :=
    ⟨r, hr, by simpa using lists⟩
  cases opens with
  | create address =>
    obtain ⟨rfl, -⟩ | ⟨-, hfound⟩ := LobbyManager.get?_put hr'
    · simp [LobbyStep.registers] at unregistered
    · exact hsame hfound Iff.rfl
  | recreate address slot reserved unreserved =>
    obtain ⟨rfl, -⟩ | ⟨-, hfound⟩ := LobbyManager.get?_put hr'
    · simp [LobbyStep.registers] at unregistered
    · exact hsame hfound Iff.rfl
  | join found address room joined =>
    obtain ⟨rfl, rfl⟩ | ⟨hne, hfound⟩ := LobbyManager.get?_put hr'
    · refine ⟨_, found, ?_⟩
      have hlists := (SessionRecord.join_spec joined).lists i
      simpa [SessionRecord.Lists, eq_comm] using hlists
    · refine ⟨r', hfound, ?_⟩
      simp [hne]
  | close found | leave found =>
    obtain ⟨rfl, rfl⟩ | ⟨-, hfound⟩ := LobbyManager.get?_put hr'
    · refine hsame found (SessionRecord.lists_leave ?_)
      rintro rfl
      simp [LobbyStep.leaves] at stays
    · exact hsame hfound Iff.rfl
  | start found =>
    obtain ⟨rfl, rfl⟩ | ⟨-, hfound⟩ := LobbyManager.get?_put hr'
    · exact hsame found Iff.rfl
    · exact hsame hfound Iff.rfl
  | refuse | sync | idle => exact hsame hr' Iff.rfl

end LobbyView

namespace Lobby

variable [DecidableEq κ]

theorem step_listsAdmitted {s : Lobby κ} {old : List (LobbyEvent κ)} {sessionId : String}
    {host i : ℤ} {x : LobbyStep κ} (unregistered : x.registers sessionId = false)
    (stays : x.leaves sessionId i = false) (h : s.view.ListsAdmitted old sessionId host i) :
    (s.step x).view.ListsAdmitted old sessionId host i := by
  refine step_keeps (fun _ _ _ does hv => hv.does does) (fun hx _ _ opens => ?_) h
  subst hx
  exact h.opens unregistered stays opens

/-- In a session that was registered again, a slot whose player does not leave is listed if and only
if it is the host's or its player has been admitted since. -/
theorem lists_iff_admitted {s : Lobby κ} {ws : κ} {m : SessionRecreate} {uuid : String}
    (ready : (s.handlers ws).status = .receiving) (checked : m.checked = .ok m) {i : ℤ}
    {later : List (LobbyStep κ)} (unregistered : ∀ x ∈ later, x.registers m.sessionId = false)
    (stays : ∀ x ∈ later, x.leaves m.sessionId i = false) {r : SessionRecord κ}
    (found : ((s.afterRecreate ws m uuid).run later).manager.sessions.get? m.sessionId = some r) :
    r.Lists i ↔ i = m.hostJoinIndex ∨ ∃ w, .accepted w m.sessionId i ∈
      (s.afterRecreate ws m uuid).since ((s.afterRecreate ws m uuid).run later) := by
  have hnow : ∀ r, (s.afterRecreate ws m uuid).manager.sessions.get? m.sessionId = some r →
      (r.Lists i ↔ i = m.hostJoinIndex) := by
    refine afterRecreate_keeps (I := fun v => ∀ r, v.manager.sessions.get? m.sessionId = some r →
      (r.Lists i ↔ i = m.hostJoinIndex)) (fun _ _ _ does hv r' hr' => ?_) uuid ready checked
      fun r hr => ?_
    · obtain ⟨r, hr, hentries, -⟩ := does.session hr'
      rw [SessionRecord.Lists, hentries]
      exact hv r hr
    · obtain ⟨-, rfl⟩ | ⟨hne, -⟩ := LobbyManager.get?_put hr
      · simp [SessionRecord.Lists, recreated, SlotEntry.ofHost, eq_comm]
      · exact absurd rfl hne
  generalize s.afterRecreate ws m uuid = s₁ at hnow found ⊢
  have hlater : (s₁.run later).view.ListsAdmitted s₁.log m.sessionId m.hostJoinIndex i :=
    Fallible.foldl_keeps
      (P := fun s : Lobby κ => s.view.ListsAdmitted s₁.log m.sessionId m.hostJoinIndex i)
      (fun _ x hx hs => step_listsAdmitted (unregistered x hx) (stays x hx) hs)
      ⟨[], (List.append_nil _).symm, fun r hr => by simpa using hnow r hr⟩
  obtain ⟨new, hnew, hlisted⟩ := hlater
  rw [hlisted r found, since, show (s₁.run later).log = s₁.log ++ new from hnew, List.drop_left]

end Lobby

/-! ## What the lobby tells a connection -/

/-- A roster goes to a whole session, as soon as it is built. -/
def LobbyTask.Prompt : LobbyTask κ → Prop
  | .reply message | .broadcast _ message => ∀ roster, message ≠ .rosterUpdate roster
  | .deliver _ _ | .broadcastRoster _ | .startIfActive _ | .forgetSession | .dropSession _ => True

namespace LobbyView

def Prompt (v : LobbyView κ) : Prop := ∀ handler, ∀ task ∈ v.pending handler, task.Prompt

/-- The roster has been sent on the connection, or it is about to be. -/
def Told (ws : κ) (roster : GlobalRoster) (v : LobbyView κ) : Prop :=
  .sent ws (.rosterUpdate roster) ∈ v.log ∨
    ∃ handler, .deliver ws (.rosterUpdate roster) ∈ v.pending handler

variable {ws : κ} {roster : GlobalRoster} {v v' : LobbyView κ}

@[simp] theorem told_note {e : LobbyEvent κ} :
    (v.note e).Told ws roster ↔ e = .sent ws (.rosterUpdate roster) ∨ v.Told ws roster := by
  simp only [Told, note, List.mem_append, List.mem_singleton]
  grind

theorem Stranger.not_told (h : v.Stranger ws) : ¬ v.Told ws roster := by
  rintro (hsent | ⟨handler, hpending⟩)
  · exact h.unsent _ hsent
  · exact h.undelivered handler _ hpending

variable [DecidableEq κ]

theorem told_todo {handler : κ} {tasks : List (LobbyTask κ)} :
    (v.todo handler tasks).Told ws roster ↔
      .deliver ws (.rosterUpdate roster) ∈ tasks ∨ (v.todo handler []).Told ws roster := by
  have hpending (tasks : List (LobbyTask κ)) : (∃ w, .deliver ws (.rosterUpdate roster) ∈
      (v.todo handler tasks).pending w) ↔ .deliver ws (.rosterUpdate roster) ∈ tasks ∨
        ∃ w ≠ handler, .deliver ws (.rosterUpdate roster) ∈ v.pending w := by
    constructor
    · rintro ⟨w, hw⟩
      by_cases hown : w = handler
      · subst hown
        exact .inl (by simpa using hw)
      · exact .inr ⟨w, hown, by rwa [todo_pending_ne v hown] at hw⟩
    · rintro (hmem | ⟨w, hne, hw⟩)
      · exact ⟨handler, by simpa using hmem⟩
      · exact ⟨w, by rwa [todo_pending_ne v hne]⟩
  simp only [Told, hpending, todo_log, List.not_mem_nil, false_or]
  exact or_left_comm

theorem Told.of_done {handler : κ} (h : (v.todo handler []).Told ws roster) : v.Told ws roster := by
  have hself : (v.todo handler (v.pending handler)).Told ws roster := told_todo.mpr (.inr h)
  rwa [todo, Function.update_eq_self] at hself

theorem Prompt.todo (h : v.Prompt) {handler : κ} {tasks : List (LobbyTask κ)}
    (prompt : ∀ task ∈ tasks, task.Prompt) : (v.todo handler tasks).Prompt := by
  intro w task htask
  by_cases hown : w = handler
  · subst hown
    rw [todo_pending_self] at htask
    exact prompt task htask
  · rw [todo_pending_ne v hown] at htask
    exact h w task htask

theorem Prompt.does {handler : κ} (does : Does handler v v') (h : v.Prompt) : v'.Prompt := by
  have hrest {task : LobbyTask κ} {rest : List (LobbyTask κ)}
      (next : v.pending handler = task :: rest) : task.Prompt ∧ ∀ task ∈ rest, task.Prompt := by
    have htasks := h handler
    rw [next] at htasks
    exact List.forall_mem_cons.mp htasks
  have hdeliveries {sessionId : String} {message : ServerMessage} {rest : List (LobbyTask κ)}
      (prompt : ∀ task ∈ rest, task.Prompt) :
      ∀ task ∈ (v.manager.connections sessionId).map (LobbyTask.deliver · message) ++ rest,
        task.Prompt := by
    intro task htask
    rcases List.mem_append.mp htask with hnew | hold
    · obtain ⟨w, -, rfl⟩ := List.mem_map.mp hnew
      trivial
    · exact prompt task hold
  cases does with
  | reply next | deliver next | skip next | forget next | drop next =>
    exact Prompt.todo (v := _) h (hrest next).2
  | broadcast next => exact h.todo (hdeliveries (hrest next).2)
  | broadcastRoster next _ => exact h.todo (hdeliveries (hrest next).2)
  | start next active =>
    exact h.todo (List.forall_mem_cons.mpr ⟨by simp [LobbyTask.Prompt], (hrest next).2⟩)
  | ends left => exact Prompt.todo (v := _) h (by simp)

theorem Prompt.opens (h : v.Prompt) {sender : κ} {message : ClientMessage} {uuid : String}
    {manager : LobbyManager κ} {events : List (LobbyEvent κ)} {tasks : List (LobbyTask κ)}
    (opens : v.manager.Opens sender message uuid manager events tasks) :
    (LobbyView.todo ⟨manager, v.pending, v.log ++ events⟩ sender tasks).Prompt := by
  refine Prompt.todo (v := ⟨manager, v.pending, v.log ++ events⟩) h ?_
  cases opens <;> simp [LobbyTask.Prompt]

end LobbyView

namespace Lobby

/-- The connection is in a session that has this roster. -/
def Shows (ws : κ) (roster : GlobalRoster) (s : Lobby κ) : Prop :=
  ∃ sessionId, ws ∈ s.manager.connections sessionId ∧
    s.manager.getRoster sessionId = .ok roster

variable [DecidableEq κ] {ws : κ} {roster : GlobalRoster}

theorem told_finish {s : Lobby κ} {handler : κ} :
    (s.finish handler).view.Told ws roster ↔ (s.view.todo handler []).Told ws roster := by
  rw [view_finish_eq]
  change
    ((LobbyView.todo (s.view.withManager _) handler []).note (.ended handler)).Told ws roster ↔ _
  rw [LobbyView.told_note, or_iff_right (by simp)]
  rfl

theorem told_send {s : Lobby κ} {handler target : κ} {message : ServerMessage} {isDelivery : Bool}
    {rest : List (LobbyTask κ)} :
    (s.send handler target message isDelivery rest).view.Told ws roster ↔
      (target = ws ∧ message = .rosterUpdate roster) ∨
        (s.view.todo handler rest).Told ws roster := by
  rw [view_send]
  change ((s.view.todo handler rest).note (.sent target message)).Told ws roster ↔ _
  rw [LobbyView.told_note, LobbyEvent.sent.injEq]

theorem told_cons {v : LobbyView κ} {handler : κ} {task : LobbyTask κ} {rest : List (LobbyTask κ)}
    (h : (v.todo handler rest).Told ws roster) :
    (v.todo handler (task :: rest)).Told ws roster := by
  rw [LobbyView.told_todo] at h ⊢
  exact h.imp_left (List.mem_cons_of_mem _)

theorem reply_told {s : Lobby κ} {handler : κ} {message : ServerMessage}
    {rest : List (LobbyTask κ)} (other : ∀ roster, message ≠ .rosterUpdate roster)
    (told : (s.reply handler message rest).view.Told ws roster) :
    (s.view.todo handler rest).Told ws roster := by
  unfold reply at told
  split at told
  · rw [LobbyView.told_todo]
    exact .inr (told_finish.mp told)
  case h_2 message' hchecked =>
    obtain ⟨_, -, hsame⟩ := Fallible.bind_eq_ok.mp hchecked
    obtain rfl : message = message' := by cases hsame; rfl
    exact (told_send.mp told).resolve_left fun h => other roster h.2

/-- The first of some deliveries is under way, and the others are to follow. -/
theorem deliveries_told {s : Lobby κ} {handler target : κ} {targets : List κ}
    {message : ServerMessage} {rest : List (LobbyTask κ)}
    (told : (s.send handler target message true
      (targets.map (.deliver · message) ++ rest)).view.Told ws roster) :
    (ws ∈ target :: targets ∧ message = .rosterUpdate roster) ∨
      (s.view.todo handler rest).Told ws roster := by
  rw [told_send, LobbyView.told_todo, List.mem_append] at told
  rcases told with ⟨rfl, rfl⟩ | (hdelivery | hrest) | hothers
  · exact .inl ⟨List.mem_cons_self, rfl⟩
  · obtain ⟨w, hw, heq⟩ := List.mem_map.mp hdelivery
    cases heq
    exact .inl ⟨List.mem_cons_of_mem _ hw, rfl⟩
  · exact .inr (LobbyView.told_todo.mpr (.inl hrest))
  · exact .inr (LobbyView.told_todo.mpr (.inr hothers))

/-- A turn tells a connection what it was about to be told, or the roster that its session has at
the end of the turn. -/
theorem runTasks_told {handler : κ} {tasks : List (LobbyTask κ)} {s : Lobby κ}
    (prompt : ∀ task ∈ tasks, task.Prompt)
    (told : (s.runTasks handler tasks).view.Told ws roster) :
    (s.view.todo handler tasks).Told ws roster ∨ (s.runTasks handler tasks).Shows ws roster := by
  induction tasks generalizing s with
  | nil =>
    rw [runTasks, view_setStatus] at told
    exact .inl told
  | cons task rest ih =>
    obtain ⟨htask, hprompt⟩ := List.forall_mem_cons.mp prompt
    have hskip {s' : Lobby κ} (same : ∀ tasks, (s'.view.todo handler tasks).Told ws roster →
          (s.view.todo handler tasks).Told ws roster)
        (told : (s'.runTasks handler rest).view.Told ws roster) :
        (s.view.todo handler (task :: rest)).Told ws roster ∨
          (s'.runTasks handler rest).Shows ws roster :=
      (ih hprompt told).imp_left fun h => told_cons (same rest h)
    cases task with
    | reply message => exact .inl (told_cons (reply_told htask told))
    | deliver target message =>
      rw [runTasks, told_send] at told
      rcases told with ⟨rfl, rfl⟩ | hrest
      · exact .inl (LobbyView.told_todo.mpr (.inl List.mem_cons_self))
      · exact .inl (told_cons hrest)
    | broadcast sessionId message =>
      simp only [runTasks] at told ⊢
      cases hconnections : s.manager.connections sessionId with
      | nil =>
        rw [hconnections] at told
        exact hskip (fun _ h => h) told
      | cons target targets =>
        rw [hconnections] at told
        rcases deliveries_told told with ⟨-, hroster⟩ | hrest
        · exact absurd hroster (htask roster)
        · exact .inl (told_cons hrest)
    | broadcastRoster sessionId =>
      simp only [runTasks] at told ⊢
      cases hupdate : s.manager.rosterUpdate sessionId with
      | error e =>
        rw [hupdate] at told
        exact .inl (LobbyView.told_todo.mpr (.inr (told_finish.mp told)))
      | ok message =>
        rw [hupdate] at told
        cases hconnections : s.manager.connections sessionId with
        | nil =>
          simp only [hconnections] at told
          exact hskip (fun _ h => h) told
        | cons target targets =>
          simp only [hconnections] at told ⊢
          rcases deliveries_told told with ⟨hlisted, rfl⟩ | hrest
          · obtain ⟨r, hr, hmessage⟩ := Fallible.bind_eq_ok.mp hupdate
            obtain ⟨_, -, hmessage⟩ := Fallible.bind_eq_ok.mp hmessage
            cases hmessage
            refine .inr ⟨sessionId, ?_, hr⟩
            change ws ∈ s.manager.connections sessionId
            rwa [hconnections]
          · exact .inl (told_cons hrest)
    | startIfActive sessionId =>
      simp only [runTasks] at told ⊢
      split at told
      case isTrue active => exact .inl (told_cons (reply_told (by simp) told))
      case isFalse inactive =>
        rw [if_neg inactive]
        exact hskip (fun _ h => h) told
    | forgetSession =>
      simp only [runTasks] at told ⊢
      exact hskip (fun _ h => by rwa [view_setSession] at h) told
    | dropSession sessionId =>
      simp only [runTasks] at told ⊢
      refine hskip (fun tasks h => ?_) told
      change ((LobbyView.todo (s.view.withManager _) handler tasks).note _).Told ws roster at h
      rw [LobbyView.told_note, or_iff_right (by simp)] at h
      exact h

theorem step_told {s : Lobby κ} {x : LobbyStep κ} (prompt : s.view.Prompt)
    (told : (s.step x).view.Told ws roster) :
    s.view.Told ws roster ∨ (s.step x).Shows ws roster := by
  have hfinish {s' : Lobby κ} {handler : κ} (same : s'.view = s.view)
      (told : (s'.finish handler).view.Told ws roster) : s.view.Told ws roster := by
    rw [told_finish, same] at told
    exact told.of_done
  cases x with
  | receive handler message uuid =>
    cases hstatus : (s.handlers handler).status with
    | receiving =>
      simp only [step, hstatus] at told ⊢
      have hturn := s.onMessage_turn handler message uuid
      generalize s.onMessage handler message uuid = after at hturn told ⊢
      cases hturn with
      | ends same => exact .inl (hfinish same told)
      | @opens s' manager events tasks opens view =>
        -- the message itself tells nobody
        have hquiet : (∀ task ∈ tasks, task.Prompt) ∧ (∀ m, .deliver ws m ∉ tasks) ∧
            ∀ m, .sent ws m ∉ events := by
          cases opens <;> simp [LobbyTask.Prompt]
        refine (runTasks_told hquiet.1 told).imp_left fun h => ?_
        rw [LobbyView.told_todo, view] at h
        rcases h.resolve_left (hquiet.2.1 _) with hsent | hpending
        · rcases List.mem_append.mp hsent with hold | hnew
          · exact .inl hold
          · exact absurd hnew (hquiet.2.2 _)
        · have hdone : (s.view.todo handler []).Told ws roster := .inr hpending
          exact hdone.of_done
    | sending isDelivery rest | ended =>
      simp only [step, hstatus] at told
      exact .inl told
  | resume handler raises =>
    cases hstatus : (s.handlers handler).status with
    | sending isDelivery rest =>
      simp only [step, hstatus] at told ⊢
      split at told
      case isTrue raised => exact .inl (hfinish rfl told)
      case isFalse returned =>
        rw [if_neg returned]
        have hrest : s.view.pending handler = rest := by
          simp only [view, hstatus, HandlerStatus.rest]
        refine (runTasks_told (hrest ▸ prompt handler) told).imp_left fun h => ?_
        rwa [← hrest, LobbyView.todo, Function.update_eq_self] at h
    | receiving | ended =>
      simp only [step, hstatus] at told
      exact .inl told
  | disconnect handler =>
    cases hstatus : (s.handlers handler).status with
    | receiving =>
      simp only [step, hstatus] at told
      exact .inl (hfinish rfl told)
    | sending isDelivery rest | ended =>
      simp only [step, hstatus] at told
      exact .inl told

theorem step_prompt {s : Lobby κ} (x : LobbyStep κ) (h : s.view.Prompt) : (s.step x).view.Prompt :=
  step_keeps (fun _ _ _ does hv => hv.does does) (fun _ _ _ opens => h.opens opens) h

theorem run_prompt {s : Lobby κ} (steps : List (LobbyStep κ)) (h : s.view.Prompt) :
    (s.run steps).view.Prompt :=
  Fallible.foldl_keeps (P := fun s : Lobby κ => s.view.Prompt) (fun _ x _ hs => step_prompt x hs) h

/-- Whatever a connection has been told was the roster of its session after one of the steps. -/
theorem run_told {s : Lobby κ} {steps : List (LobbyStep κ)} (prompt : s.view.Prompt)
    (first : s.view.Told ws roster → s.Shows ws roster) (told : (s.run steps).view.Told ws roster) :
    ∃ built, built <+: steps ∧ (s.run built).Shows ws roster := by
  induction steps using List.reverseRecOn with
  | nil => exact ⟨[], List.prefix_rfl, first told⟩
  | append_singleton steps x ih =>
    rw [run, List.foldl_append, List.foldl_cons, List.foldl_nil] at told
    rcases step_told (run_prompt steps prompt) told with hbefore | hshows
    · obtain ⟨built, hbuilt, hshows⟩ := ih hbefore
      exact ⟨built, hbuilt.trans (List.prefix_append _ _), hshows⟩
    · refine ⟨steps ++ [x], List.prefix_rfl, ?_⟩
      rwa [run, List.foldl_append, List.foldl_cons, List.foldl_nil]

/-! ## The host's connection -/

theorem step_only {s : Lobby κ} {sessionId : String} {x : LobbyStep κ} (stays : x.enters ws = false)
    (h : s.manager.Only ws sessionId) : (s.step x).manager.Only ws sessionId := by
  refine step_keeps (I := fun v => v.manager.Only ws sessionId)
    (fun _ _ _ does hv other hmem => hv other (does.connections hmem))
    (fun hx _ _ opens other hmem => ?_) h
  subst hx
  rcases opens.connections hmem with hold | ⟨rfl, henters⟩
  · exact h other hold
  · simp [LobbyStep.enters, henters] at stays

/-- Every roster that is sent to the host of a session that was registered again was the roster of
the session after some step. -/
theorem roster_was_shown {s : Lobby κ} {m : SessionRecreate} {uuid : String}
    (ready : (s.handlers ws).status = .receiving) (checked : m.checked = .ok m)
    (prompt : s.view.Prompt) (stranger : s.view.Stranger ws) {later : List (LobbyStep κ)}
    (stays : ∀ x ∈ later, x.enters ws = false)
    (sent : .sent ws (.rosterUpdate roster) ∈
      (s.afterRecreate ws m uuid).since ((s.afterRecreate ws m uuid).run later)) :
    ∃ built, built <+: later ∧
      ((s.afterRecreate ws m uuid).run built).manager.getRoster m.sessionId = .ok roster := by
  have hprompt : (s.afterRecreate ws m uuid).view.Prompt := step_prompt _ prompt
  have honly : (s.afterRecreate ws m uuid).manager.Only ws m.sessionId := by
    refine afterRecreate_keeps (I := fun v => v.manager.Only ws m.sessionId)
      (fun _ _ _ does hv other hmem => hv other (does.connections hmem)) uuid ready checked
      fun other hmem => ?_
    by_contra hother
    rw [LobbyView.todo_manager, LobbyManager.connections_put_ne _ hother] at hmem
    exact stranger.unlisted other hmem
  have hfirst (told : (s.afterRecreate ws m uuid).view.Told ws roster) :
      (s.afterRecreate ws m uuid).Shows ws roster := by
    obtain ⟨s', hview, hruns⟩ := afterRecreate_view uuid ready checked
    rw [hruns] at told ⊢
    refine (runTasks_told (by simp [LobbyTask.Prompt]) told).resolve_left fun h => ?_
    rw [LobbyView.told_todo, or_iff_right (by simp), hview] at h
    exact stranger.not_told h.of_done
  generalize s.afterRecreate ws m uuid = s₁ at hprompt honly hfirst sent ⊢
  obtain ⟨built, hbuilt, sessionId, hlisted, hroster⟩ :=
    run_told hprompt hfirst (.inl (List.mem_of_mem_drop sent))
  have hbefore : (s₁.run built).manager.Only ws m.sessionId :=
    Fallible.foldl_keeps (P := fun s : Lobby κ => s.manager.Only ws m.sessionId)
      (fun _ x hx hs => step_only (stays x (hbuilt.subset hx)) hs) honly
  exact ⟨built, hbuilt, hbefore sessionId hlisted ▸ hroster⟩

end Lobby

end DistributedSmb
