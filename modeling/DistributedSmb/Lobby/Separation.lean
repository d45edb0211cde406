import DistributedSmb.Lobby.Turns

/-!
# Separate rooms

One lobby server keeps all sessions, and one event loop runs the handlers of all their connections.
Some connections and the sessions they name go through a run as if the server had no other clients:
the steps of the other connections can be left out.
-/

namespace DistributedSmb

open Library

variable {κ : Type}

/-- The session that a message names; a new session gets the uuid that is drawn. -/
def ClientMessage.sessionId (uuid : String) : ClientMessage → Option String
  | sessionCreate _ => some uuid
  | sessionJoin m => some m.sessionId
  | sessionRecreate m => some m.sessionId
  | sessionLeave m => some m.sessionId
  | gameStart sessionId => some sessionId
  | initialStateSync _ | unknown | malformed => none

def LobbyStep.ws : LobbyStep κ → κ
  | receive ws _ _ | resume ws _ | disconnect ws => ws

section
variable (W : κ → Prop) (S : String → Prop)

/-- The connections in `W` name the sessions in `S`, and the others name others. -/
def LobbyStep.KeepsApart : LobbyStep κ → Prop
  | receive ws message uuid => ∀ sessionId ∈ message.sessionId uuid, S sessionId ↔ W ws
  | resume _ _ | disconnect _ => True

/-- The handler of `ws` stays on its side with this task. -/
def LobbyTask.Within (ws : κ) : LobbyTask κ → Prop
  | deliver target _ => W target ↔ W ws
  | broadcast sessionId _ | broadcastRoster sessionId | startIfActive sessionId
  | dropSession sessionId => S sessionId ↔ W ws
  | reply _ | forgetSession => True

def LobbyEvent.Within : LobbyEvent κ → Prop
  | accepted ws _ _ | sent ws _ | ended ws => W ws
  | dropped sessionId => S sessionId

instance [DecidablePred W] [DecidablePred S] : DecidablePred (LobbyEvent.Within W S) := fun e =>
  match e with
  | .accepted ws _ _ | .sent ws _ | .ended ws => inferInstanceAs (Decidable (W ws))
  | .dropped sessionId => inferInstanceAs (Decidable (S sessionId))

/-- Handlers and sessions stay on their sides. -/
structure Lobby.Parted (s : Lobby κ) : Prop where
  handlers : ∀ ws, ∀ sessionId ∈ (s.handlers ws).sessionId, S sessionId ↔ W ws
  tasks : ∀ ws, ∀ task ∈ (s.handlers ws).status.rest, task.Within W S ws
  connections : ∀ sessionId, ∀ ws ∈ s.manager.connections sessionId, S sessionId ↔ W ws

variable [DecidablePred W] [DecidablePred S]

/-- `t` has what `s` has on the side of `W` and `S`. -/
structure Lobby.Tracks (s t : Lobby κ) : Prop where
  parted : s.Parted W S
  sessions : ∀ sessionId, S sessionId →
    t.manager.sessions.get? sessionId = s.manager.sessions.get? sessionId
  handlers : ∀ ws, W ws → t.handlers ws = s.handlers ws
  log : t.log = s.log.filter fun e => e.Within W S

/-- `t` does what the handler of `ws` does if it is on its side. -/
def Lobby.follow (ws : κ) (f : Lobby κ → Lobby κ) (t : Lobby κ) : Lobby κ := if W ws then f t else t

end

namespace Lobby.Tracks

variable {W : κ → Prop} {S : String → Prop} [DecidablePred W] [DecidablePred S] {s t : Lobby κ}
  {ws : κ} {sessionId : String}

theorem of_eq {s' s'' : Lobby κ} {f g : Lobby κ → Lobby κ} (h : s'.Tracks W S (follow W ws f t))
    (left : s'' = s') (right : W ws → g t = f t) : s''.Tracks W S (follow W ws g t) := by
  subst left
  by_cases hws : W ws
  · simpa [follow, hws, right hws] using h
  · simpa [follow, hws] using h

theorem trans {s'' : Lobby κ} {f g : Lobby κ → Lobby κ}
    (h : s''.Tracks W S (follow W ws g (follow W ws f t))) :
    s''.Tracks W S (follow W ws (fun t => g (f t)) t) := by
  by_cases hws : W ws <;> simpa [follow, hws] using h

theorem connections_eq (h : s.Tracks W S t) (hin : S sessionId) :
    t.manager.connections sessionId = s.manager.connections sessionId := by
  simp only [LobbyManager.connections, h.sessions sessionId hin]

/-! ## Single changes -/

theorem record (h : s.Tracks W S t) {e : LobbyEvent κ} (concerns : e.Within W S ↔ W ws) :
    (s.record e).Tracks W S (follow W ws (·.record e) t) := by
  obtain ⟨⟨hh, ht, hc⟩, hsessions, hhandlers, hlog⟩ := h
  by_cases hws : W ws
  · simp only [follow, if_pos hws]
    refine ⟨⟨hh, ht, hc⟩, hsessions, hhandlers, ?_⟩
    simp [Lobby.record, hlog, concerns.mpr hws]
  · simp only [follow, if_neg hws]
    refine ⟨⟨hh, ht, hc⟩, hsessions, hhandlers, ?_⟩
    simp [Lobby.record, hlog, mt concerns.mp hws]

/-- A session changes in both or, on the other side, in `s` only. -/
theorem withSessions (h : s.Tracks W S t) (hid : S sessionId ↔ W ws)
    (change : LobbyManager κ → LobbyManager κ)
    (there : ∀ m : LobbyManager κ, m.sessions.get? sessionId = s.manager.sessions.get? sessionId →
      (change m).sessions.get? sessionId = (change s.manager).sessions.get? sessionId)
    (elsewhere : ∀ m : LobbyManager κ, ∀ other ≠ sessionId,
      (change m).sessions.get? other = m.sessions.get? other)
    (connections : ∀ w ∈ (change s.manager).connections sessionId, S sessionId ↔ W w) :
    ({ s with manager := change s.manager } : Lobby κ).Tracks W S
      (follow W ws (fun t => { t with manager := change t.manager }) t) := by
  obtain ⟨⟨hh, ht, hc⟩, hsessions, hhandlers, hlog⟩ := h
  have hparted : ({ s with manager := change s.manager } : Lobby κ).Parted W S := by
    refine ⟨hh, ht, fun other w hw => ?_⟩
    by_cases hother : other = sessionId
    · subst hother
      exact connections w hw
    · simp only [LobbyManager.connections, elsewhere _ other hother] at hw
      exact hc other w hw
  by_cases hws : W ws
  · simp only [follow, if_pos hws]
    refine ⟨hparted, fun other hother => ?_, hhandlers, hlog⟩
    by_cases heq : other = sessionId
    · subst heq
      exact there _ (hsessions other hother)
    · simp only [elsewhere _ other heq]
      exact hsessions other hother
  · simp only [follow, if_neg hws]
    refine ⟨hparted, fun other hother => ?_, hhandlers, hlog⟩
    have hne : other ≠ sessionId := by
      rintro rfl
      exact hws (hid.mp hother)
    simp only [elsewhere _ other hne]
    exact hsessions other hother

theorem put (h : s.Tracks W S t) (hid : S sessionId ↔ W ws) {r : SessionRecord κ}
    (connections : ∀ w ∈ r.connections, S sessionId ↔ W w) :
    ({ s with manager := s.manager.put sessionId r } : Lobby κ).Tracks W S
      (follow W ws (fun t => { t with manager := t.manager.put sessionId r }) t) := by
  refine h.withSessions hid (fun m => m.put sessionId r) ?_ ?_ ?_
  · intro m _
    simp [LobbyManager.put]
  · intro m other hother
    simp [LobbyManager.put, Dict.get?_set_ne _ hother]
  · simpa [LobbyManager.connections, LobbyManager.put] using connections

theorem dropSession (h : s.Tracks W S t) (hid : S sessionId ↔ W ws) :
    ({ s with manager := s.manager.dropSession sessionId } : Lobby κ).Tracks W S
      (follow W ws (fun t => { t with manager := t.manager.dropSession sessionId }) t) := by
  refine h.withSessions hid (fun m => m.dropSession sessionId) ?_ ?_ ?_
  · intro m _
    simp [LobbyManager.dropSession]
  · intro m other hother
    simp [LobbyManager.dropSession, Dict.get?_erase_ne _ hother]
  · simp [LobbyManager.connections, LobbyManager.dropSession]

/-- The connections of a session that is found are on its side. -/
theorem found (h : s.Tracks W S t) {r : SessionRecord κ}
    (hr : s.manager.sessions.get? sessionId = some r) :
    ∀ w ∈ r.connections, S sessionId ↔ W w := by
  intro w hw
  refine h.parted.connections sessionId w ?_
  rwa [LobbyManager.connections, hr]

/-- The deliveries of a broadcast, and then the rest. -/
theorem deliveries (h : s.Tracks W S t) (hid : S sessionId ↔ W ws) (message : ServerMessage)
    {rest : List (LobbyTask κ)} (within : ∀ task ∈ rest, task.Within W S ws) :
    ∀ task ∈ (s.manager.connections sessionId).map (.deliver · message) ++ rest,
      task.Within W S ws := by
  intro task htask
  rcases List.mem_append.mp htask with hdelivery | hrest
  · obtain ⟨target, htarget, rfl⟩ := List.mem_map.mp hdelivery
    exact (h.parted.connections sessionId target htarget).symm.trans hid
  · exact within task hrest

variable [DecidableEq κ]

/-- A handler changes in both or, on the other side, in `s` only. -/
theorem update (h : s.Tracks W S t) (change : LobbyHandler κ → LobbyHandler κ)
    (session : ∀ sessionId ∈ (change (s.handlers ws)).sessionId, S sessionId ↔ W ws)
    (tasks : ∀ task ∈ (change (s.handlers ws)).status.rest, task.Within W S ws) :
    ({ s with handlers := Function.update s.handlers ws (change (s.handlers ws)) } :
      Lobby κ).Tracks W S (follow W ws (fun t =>
        { t with handlers := Function.update t.handlers ws (change (t.handlers ws)) }) t) := by
  obtain ⟨⟨hh, ht, hc⟩, hsessions, hhandlers, hlog⟩ := h
  have hparted : ({ s with handlers := Function.update s.handlers ws (change (s.handlers ws)) } :
      Lobby κ).Parted W S := by
    refine ⟨fun w => ?_, fun w => ?_, hc⟩
    · by_cases hw : w = ws
      · subst hw
        simpa using session
      · simpa [Function.update_of_ne hw] using hh w
    · by_cases hw : w = ws
      · subst hw
        simpa using tasks
      · simpa [Function.update_of_ne hw] using ht w
  by_cases hws : W ws
  · simp only [follow, if_pos hws]
    refine ⟨hparted, hsessions, fun w hw => ?_, hlog⟩
    by_cases heq : w = ws
    · subst heq
      simp [hhandlers w hw]
    · simp [Function.update_of_ne heq, hhandlers w hw]
  · simp only [follow, if_neg hws]
    refine ⟨hparted, hsessions, fun w hw => ?_, hlog⟩
    have hne : w ≠ ws := by
      rintro rfl
      exact hws hw
    simpa [Function.update_of_ne hne] using hhandlers w hw

theorem setStatus (h : s.Tracks W S t) (status : HandlerStatus κ)
    (tasks : ∀ task ∈ status.rest, task.Within W S ws) :
    (s.setStatus ws status).Tracks W S (follow W ws (·.setStatus ws status) t) :=
  h.update (fun handler => { handler with status := status }) (h.parted.handlers ws) tasks

theorem setSession (h : s.Tracks W S t) (ws : κ) (name : Option String)
    (session : ∀ sessionId ∈ name, S sessionId ↔ W ws) :
    (s.setSession ws name).Tracks W S (follow W ws (·.setSession ws name) t) :=
  h.update (fun handler => { handler with sessionId := name }) session (h.parted.tasks ws)

theorem removeConnection (h : s.Tracks W S t) (hid : S sessionId ↔ W ws) :
    ({ s with manager := s.manager.removeConnection sessionId ws } : Lobby κ).Tracks W S
      (follow W ws (fun t => { t with manager := t.manager.removeConnection sessionId ws }) t) := by
  refine h.withSessions hid (fun m => m.removeConnection sessionId ws) ?_ ?_ ?_
  · intro m hm
    simp only [LobbyManager.removeConnection, hm]
    split <;> simp_all [LobbyManager.put]
  · intro m other hother
    simp only [LobbyManager.removeConnection]
    split
    · rfl
    · simp [LobbyManager.put, Dict.get?_set_ne _ hother]
  · intro w hw
    refine h.parted.connections sessionId w ?_
    simp only [LobbyManager.connections, LobbyManager.removeConnection] at hw ⊢
    cases hr : s.manager.sessions.get? sessionId with
    | none => simp [hr] at hw
    | some r =>
      simp only [hr, LobbyManager.put, Dict.get?_set_self, List.mem_filter] at hw
      exact hw.1

/-! ## Turns -/

theorem finish (h : s.Tracks W S t) (ws : κ) :
    (s.finish ws).Tracks W S (follow W ws (·.finish ws) t) := by
  have hends {s t : Lobby κ} (h : s.Tracks W S t) :
      ((s.setStatus ws .ended).record (.ended ws)).Tracks W S
        (follow W ws (fun t => (t.setStatus ws .ended).record (.ended ws)) t) :=
    ((h.setStatus .ended (by simp [HandlerStatus.rest])).record Iff.rfl).trans
  cases hsession : (s.handlers ws).sessionId with
  | none =>
    refine (hends h).of_eq (by simp [Lobby.finish, hsession]) fun hws => ?_
    simp [Lobby.finish, h.handlers ws hws, hsession]
  | some sessionId =>
    have hleft := hends (h.removeConnection (h.parted.handlers ws sessionId hsession))
    refine hleft.trans.of_eq (by simp [Lobby.finish, hsession]) fun hws => ?_
    simp [Lobby.finish, h.handlers ws hws, hsession]

theorem send (h : s.Tracks W S t) {target : κ} (htarget : W target ↔ W ws) {isDelivery : Bool}
    {message : ServerMessage} {rest : List (LobbyTask κ)}
    (within : ∀ task ∈ rest, task.Within W S ws) :
    (s.send ws target message isDelivery rest).Tracks W S
      (follow W ws (·.send ws target message isDelivery rest) t) :=
  ((h.record (e := .sent target message) htarget).setStatus (.sending isDelivery rest)
    within).trans

theorem reply (h : s.Tracks W S t) (message : ServerMessage) {rest : List (LobbyTask κ)}
    (within : ∀ task ∈ rest, task.Within W S ws) :
    (s.reply ws message rest).Tracks W S (follow W ws (·.reply ws message rest) t) := by
  unfold Lobby.reply
  split
  · exact h.finish ws
  · exact h.send Iff.rfl within

theorem broadcast (h : s.Tracks W S t) (hid : S sessionId ↔ W ws) (message : ServerMessage)
    {rest : List (LobbyTask κ)} (within : ∀ task ∈ rest, task.Within W S ws)
    (ih : (s.runTasks ws rest).Tracks W S (follow W ws (·.runTasks ws rest) t)) :
    (s.runTasks ws (.broadcast sessionId message :: rest)).Tracks W S
      (follow W ws (·.runTasks ws (.broadcast sessionId message :: rest)) t) := by
  have hdeliveries := h.deliveries hid message within
  cases hconnections : s.manager.connections sessionId with
  | nil =>
    refine ih.of_eq (by simp [Lobby.runTasks, hconnections]) fun hws => ?_
    simp [Lobby.runTasks, h.connections_eq (hid.mpr hws), hconnections]
  | cons target targets =>
    rw [hconnections, List.map_cons, List.cons_append, List.forall_mem_cons] at hdeliveries
    refine (h.send hdeliveries.1 hdeliveries.2).of_eq (by rw [Lobby.runTasks, hconnections]) ?_
    intro hws
    rw [Lobby.runTasks, h.connections_eq (hid.mpr hws), hconnections]

theorem runTasks (h : s.Tracks W S t) (ws : κ) (tasks : List (LobbyTask κ))
    (within : ∀ task ∈ tasks, task.Within W S ws) :
    (s.runTasks ws tasks).Tracks W S (follow W ws (·.runTasks ws tasks) t) := by
  induction tasks generalizing s t with
  | nil => exact h.setStatus .receiving (by simp [HandlerStatus.rest])
  | cons task rest ih =>
    obtain ⟨htask, hrest⟩ := List.forall_mem_cons.mp within
    cases task with
    | reply message => exact h.reply message hrest
    | deliver target message => exact h.send htask hrest
    | broadcast sessionId message => exact h.broadcast htask message hrest (ih h hrest)
    | broadcastRoster sessionId =>
      have hroster (hws : W ws) :
          t.manager.rosterUpdate sessionId = s.manager.rosterUpdate sessionId := by
        simp only [LobbyManager.rosterUpdate, LobbyManager.getRoster, LobbyManager.session,
          h.sessions sessionId (htask.mpr hws)]
      cases hupdate : s.manager.rosterUpdate sessionId with
      | error e =>
        refine (h.finish ws).of_eq (by rw [Lobby.runTasks, hupdate]) fun hws => ?_
        rw [Lobby.runTasks, hroster hws, hupdate]
      | ok message =>
        refine (h.broadcast htask message hrest (ih h hrest)).of_eq ?_ fun hws => ?_
        · simp only [Lobby.runTasks, hupdate]
        · simp only [Lobby.runTasks, hroster hws, hupdate]
    | startIfActive sessionId =>
      have hactive (hws : W ws) : t.manager.isActive sessionId = s.manager.isActive sessionId := by
        simp only [LobbyManager.isActive, h.sessions sessionId (htask.mpr hws)]
      by_cases hstart : s.manager.isActive sessionId = true
      · refine (h.reply (.gameStart sessionId) hrest).of_eq ?_ fun hws => ?_
        · rw [Lobby.runTasks, if_pos hstart]
        · rw [Lobby.runTasks, if_pos ((hactive hws).trans hstart)]
      · refine (ih h hrest).of_eq (by rw [Lobby.runTasks, if_neg hstart]) fun hws => ?_
        rw [Lobby.runTasks, if_neg (by rwa [hactive hws])]
    | forgetSession =>
      exact (ih (h.setSession ws none (by simp)) hrest).trans
    | dropSession sessionId =>
      have hdropped := (h.dropSession htask).record (e := .dropped sessionId) htask
      exact (ih hdropped hrest).trans.trans

theorem attempt (h : s.Tracks W S t) (hid : S sessionId ↔ W ws)
    (change : SessionRecord κ → SessionRecord κ)
    (connections : ∀ r : SessionRecord κ, ∀ w ∈ (change r).connections, w ∈ r.connections ∨ w = ws)
    (tasks : List (LobbyTask κ)) (within : ∀ task ∈ tasks, task.Within W S ws)
    (manager : LobbyManager κ → Except PyError (LobbyManager κ))
    (changes : ∀ m, manager m = do
      let r ← m.session sessionId
      .ok (m.put sessionId (change r))) :
    (s.attempt ws (manager s.manager) tasks).Tracks W S
      (follow W ws (fun t => t.attempt ws (manager t.manager) tasks) t) := by
  cases hr : s.manager.sessions.get? sessionId with
  | none =>
    have hmissing (m : LobbyManager κ) (hm : m.sessions.get? sessionId = none) :
        manager m = .error (.keyError sessionId) := by
      rw [changes, LobbyManager.session, hm]
      rfl
    refine (h.finish ws).of_eq (by simp only [Lobby.attempt, hmissing _ hr]) fun hws => ?_
    simp only [Lobby.attempt, hmissing _ ((h.sessions sessionId (hid.mpr hws)).trans hr)]
  | some r =>
    have hfound (m : LobbyManager κ) (hm : m.sessions.get? sessionId = some r) :
        manager m = .ok (m.put sessionId (change r)) := by
      rw [changes, LobbyManager.session, hm]
      rfl
    have hput := h.put hid (r := change r) fun w hw => by
      rcases connections r w hw with hold | rfl
      · exact h.found hr w hold
      · exact hid
    refine (hput.runTasks ws tasks within).trans.of_eq ?_ fun hws => ?_
    · simp only [Lobby.attempt, hfound _ hr]
    · simp only [Lobby.attempt, hfound _ ((h.sessions sessionId (hid.mpr hws)).trans hr)]

theorem addConnection (h : s.Tracks W S t) (hid : S sessionId ↔ W ws)
    (tasks : List (LobbyTask κ)) (within : ∀ task ∈ tasks, task.Within W S ws) :
    (s.attempt ws (s.manager.addConnection sessionId ws) tasks).Tracks W S
      (follow W ws (fun t => t.attempt ws (t.manager.addConnection sessionId ws) tasks) t) :=
  h.attempt hid (fun r => { r with connections := r.connections ++ [ws] }) (by simp) tasks within
    (·.addConnection sessionId ws) fun _ => rfl

/-! ## Messages -/

theorem onSessionCreate (h : s.Tracks W S t) {m : SessionCreate} {uuid : String}
    (hid : S uuid ↔ W ws) :
    (s.onSessionCreate ws m uuid).Tracks W S (follow W ws (·.onSessionCreate ws m uuid) t) := by
  have hcreated := h.put hid
    (r := { entries := [⟨playerIdFor 0, m.ip, m.udpPort, 0, .connected, true⟩]
            nextJoinIndex := 1 }) (by simp)
  have hnamed := (hcreated.setSession ws (some uuid) (by simpa using hid)).trans
  exact (hnamed.addConnection hid _ (by simp [LobbyTask.Within, hid])).trans

theorem onSessionJoin (h : s.Tracks W S t) {m : SessionJoin} (hid : S m.sessionId ↔ W ws) :
    (s.onSessionJoin ws m).Tracks W S (follow W ws (·.onSessionJoin ws m) t) := by
  have hnamed := h.setSession ws (some m.sessionId) (by simpa using hid)
  have hrefused (message : ServerMessage) :=
    (hnamed.runTasks ws [.reply message, .forgetSession]
      (by simp [LobbyTask.Within])).trans
  have hsessions (hws : W ws) := h.sessions m.sessionId (hid.mpr hws)
  by_cases hfull : s.manager.isFull m.sessionId m.rejoinJoinIndex = true
  · refine (hrefused (sessionFull m.sessionId)).of_eq (if_pos hfull) fun hws => if_pos ?_
    simpa only [Lobby.setSession, LobbyManager.isFull, hsessions hws] using hfull
  · have hroom (hws : W ws) : ¬ t.manager.isFull m.sessionId m.rejoinJoinIndex = true := by
      simpa only [LobbyManager.isFull, hsessions hws] using hfull
    have hjoin (m' : LobbyManager κ) :
        m'.joinSession m.sessionId m.playerId m.ip m.port m.rejoinJoinIndex =
          ((m'.sessions.get? m.sessionId).bind fun r =>
            r.join m.playerId m.ip m.port m.rejoinJoinIndex).map fun r =>
              (m'.put m.sessionId r.1, r.2) := by
      simp only [LobbyManager.joinSession, Option.bind_eq_bind]
      cases m'.sessions.get? m.sessionId with
      | none => rfl
      | some r => simp [Option.map_eq_bind]
    cases hjoined : (s.manager.sessions.get? m.sessionId).bind fun r =>
        r.join m.playerId m.ip m.port m.rejoinJoinIndex with
    | none =>
      refine (hrefused (slotUnavailable m.sessionId)).of_eq ?_ fun hws => ?_
      · simp only [Lobby.onSessionJoin, Lobby.setSession, if_neg hfull, hjoin, hjoined,
          Option.map_none]
      · simp only [Lobby.onSessionJoin, Lobby.setSession, if_neg (hroom hws), hjoin, hsessions hws,
          hjoined, Option.map_none]
    | some joined =>
      obtain ⟨r', joinIndex⟩ := joined
      obtain ⟨r, hr, hseat⟩ := Option.bind_eq_some_iff.mp hjoined
      have hput := hnamed.put (r := r') hid fun w hw => by
        rw [(SessionRecord.join_spec hseat).connections] at hw
        exact h.found hr w hw
      have haccepted := hput.record (e := .accepted ws m.sessionId joinIndex) Iff.rfl
      have hstarts := haccepted.addConnection hid
        [.reply (.sessionJoined joinIndex), .broadcastRoster m.sessionId,
          .startIfActive m.sessionId] (by simp [LobbyTask.Within, hid])
      refine hstarts.trans.trans.trans.of_eq ?_ fun hws => ?_
      · simp only [Lobby.onSessionJoin, Lobby.setSession, if_neg hfull, hjoin, hjoined,
          Option.map_some]
        rfl
      · simp only [Lobby.onSessionJoin, Lobby.setSession, if_neg (hroom hws), hjoin, hsessions hws,
          hjoined, Option.map_some]
        rfl

theorem onSessionRecreate (h : s.Tracks W S t) {m : SessionRecreate} (hid : S m.sessionId ↔ W ws) :
    (s.onSessionRecreate ws m).Tracks W S (follow W ws (·.onSessionRecreate ws m) t) := by
  have hnamed := h.setSession ws (some m.sessionId) (by simpa using hid)
  cases hroster : hostRoster m with
  | error e =>
    refine (hnamed.finish ws).trans.of_eq ?_ fun _ => ?_ <;>
      simp only [Lobby.onSessionRecreate, hroster]
  | ok roster =>
    have hregistered := hnamed.put hid
      (r := { entries := roster.getAllPlayers.map .ofRosterEntry
              isActive := true
              nextJoinIndex := m.nextJoinIndex
              reservedJoinIndices := m.reservedJoinIndices.toFinset }) (by simp)
    have hcreated := hregistered.addConnection hid
      [.reply (.sessionCreated m.sessionId 0)] (by simp [LobbyTask.Within])
    refine hcreated.trans.trans.of_eq ?_ fun _ => ?_ <;>
      (simp only [Lobby.onSessionRecreate, hroster]; rfl)

theorem onSessionLeave (h : s.Tracks W S t) {m : SessionLeave} (hid : S m.sessionId ↔ W ws) :
    (s.onSessionLeave ws m).Tracks W S (follow W ws (·.onSessionLeave ws m) t) := by
  have hsessions (hws : W ws) := h.sessions m.sessionId (hid.mpr hws)
  have hmem (m' : LobbyManager κ) :
      m'.hasSession m.sessionId = (m'.sessions.get? m.sessionId).isSome := by
    rw [LobbyManager.hasSession, Bool.eq_iff_iff, decide_eq_true_iff, ← not_iff_not,
      ← Dict.get?_eq_none_iff]
    simp
  cases hr : s.manager.sessions.get? m.sessionId with
  | none =>
    have hnothing := h.runTasks ws [] (by simp)
    refine hnothing.of_eq ?_ fun hws => ?_
    · simp [Lobby.onSessionLeave, hmem, hr]
    · simp [Lobby.onSessionLeave, hmem, hsessions hws, hr]
  | some r =>
    have hput := h.put (r := (r.leave m.joinIndex).1) hid fun w hw => by
      rw [SessionRecord.leave_connections] at hw
      exact h.found hr w hw
    have hruns := hput.runTasks ws (if (r.leave m.joinIndex).2 then
        [.broadcast m.sessionId (.sessionClosed m.sessionId), .dropSession m.sessionId]
      else [.broadcastRoster m.sessionId]) (by split <;> simp [LobbyTask.Within, hid])
    refine hruns.trans.of_eq ?_ fun hws => ?_
    · simp [Lobby.onSessionLeave, hmem, hr, LobbyManager.leaveSession]
    · simp [Lobby.onSessionLeave, hmem, hsessions hws, hr, LobbyManager.leaveSession]

theorem onInitialStateSync (h : s.Tracks W S t) (worldState : WorldState) :
    (s.onInitialStateSync ws worldState).Tracks W S
      (follow W ws (·.onInitialStateSync ws worldState) t) := by
  cases hsession : (s.handlers ws).sessionId with
  | none =>
    refine (h.runTasks ws [] (by simp)).of_eq ?_ fun hws => ?_
    · simp only [Lobby.onInitialStateSync, hsession]
    · simp only [Lobby.onInitialStateSync, h.handlers ws hws, hsession]
  | some sessionId =>
    have hid := h.parted.handlers ws sessionId hsession
    refine (h.runTasks ws [.broadcast sessionId (.initialStateSync worldState)]
      (by simp [LobbyTask.Within, hid])).of_eq ?_ fun hws => ?_
    · simp only [Lobby.onInitialStateSync, hsession]
    · simp only [Lobby.onInitialStateSync, h.handlers ws hws, hsession]

theorem onGameStart (h : s.Tracks W S t) (hid : S sessionId ↔ W ws) :
    (s.onGameStart ws sessionId).Tracks W S (follow W ws (·.onGameStart ws sessionId) t) :=
  h.attempt hid (fun r => { r with isActive := true }) (fun _ _ hw => .inl hw) _
    (by simp [LobbyTask.Within, hid]) (·.markActive sessionId) fun _ => rfl

theorem onMessage (h : s.Tracks W S t) {message : ClientMessage} {uuid : String}
    (apart : ∀ sessionId ∈ message.sessionId uuid, S sessionId ↔ W ws) :
    (s.onMessage ws message uuid).Tracks W S (follow W ws (·.onMessage ws message uuid) t) := by
  unfold Lobby.onMessage
  split
  · exact h.finish ws
  case h_2 message' hchecked =>
    obtain rfl := ClientMessage.checked_same hchecked
    cases message' with
    | sessionCreate m => exact h.onSessionCreate (apart uuid rfl)
    | sessionJoin m => exact h.onSessionJoin (apart m.sessionId rfl)
    | sessionRecreate m => exact h.onSessionRecreate (apart m.sessionId rfl)
    | sessionLeave m => exact h.onSessionLeave (apart m.sessionId rfl)
    | initialStateSync worldState => exact h.onInitialStateSync worldState
    | gameStart sessionId => exact h.onGameStart (apart sessionId rfl)
    | unknown | malformed => exact h.runTasks ws [] (by simp)

theorem step (h : s.Tracks W S t) {x : LobbyStep κ} (apart : x.KeepsApart W S) :
    (s.step x).Tracks W S (follow W x.ws (·.step x) t) := by
  have hidle (ws : κ) : s.Tracks W S (follow W ws (fun t => t) t) := by simpa [follow] using h
  have hstatus (ws : κ) (hws : W ws) : (t.handlers ws).status = (s.handlers ws).status := by
    rw [h.handlers ws hws]
  cases x with
  | receive ws message uuid =>
    cases hs : (s.handlers ws).status with
    | receiving =>
      refine (h.onMessage apart).of_eq (by simp only [Lobby.step, hs]) fun hws => ?_
      simp only [Lobby.step, hstatus ws hws, hs]
    | sending | ended =>
      refine (hidle ws).of_eq (by simp only [Lobby.step, hs]) fun hws => ?_
      simp only [Lobby.step, hstatus ws hws, hs]
  | resume ws raises =>
    cases hs : (s.handlers ws).status with
    | sending isDelivery rest =>
      by_cases hends : (raises && !isDelivery) = true
      · refine (h.finish ws).of_eq (by simp only [Lobby.step, hs, if_pos hends]) fun hws => ?_
        simp only [Lobby.step, hstatus ws hws, hs, if_pos hends]
      · have hrest : ∀ task ∈ rest, task.Within W S ws := by
          simpa [hs, HandlerStatus.rest] using h.parted.tasks ws
        refine (h.runTasks ws rest hrest).of_eq ?_ fun hws => ?_
        · simp only [Lobby.step, hs, if_neg hends]
        · simp only [Lobby.step, hstatus ws hws, hs, if_neg hends]
    | receiving | ended =>
      refine (hidle ws).of_eq (by simp only [Lobby.step, hs]) fun hws => ?_
      simp only [Lobby.step, hstatus ws hws, hs]
  | disconnect ws =>
    cases hs : (s.handlers ws).status with
    | receiving =>
      refine (h.finish ws).of_eq (by simp only [Lobby.step, hs]) fun hws => ?_
      simp only [Lobby.step, hstatus ws hws, hs]
    | sending | ended =>
      refine (hidle ws).of_eq (by simp only [Lobby.step, hs]) fun hws => ?_
      simp only [Lobby.step, hstatus ws hws, hs]

end Lobby.Tracks

namespace Lobby

variable {W : κ → Prop} {S : String → Prop} [DecidablePred W] [DecidablePred S]

theorem tracks_refl : ({} : Lobby κ).Tracks W S {} where
  parted := ⟨by simp, by simp [HandlerStatus.rest], fun _ _ hnone => nomatch hnone⟩
  sessions := fun _ _ => rfl
  handlers := fun _ _ => rfl
  log := rfl

variable [DecidableEq κ]

theorem run_tracks {steps : List (LobbyStep κ)} (apart : ∀ x ∈ steps, x.KeepsApart W S) :
    (run {} steps).Tracks W S (run {} (steps.filter fun x => W x.ws)) := by
  induction steps using List.reverseRecOn with
  | nil => exact tracks_refl
  | append_singleton steps x ih =>
    rw [List.forall_mem_append] at apart
    have hstep := (ih apart.1).step (apart.2 x List.mem_cons_self)
    rw [List.filter_append, run, run, List.foldl_append, List.foldl_append]
    by_cases hws : W x.ws
    · simpa [follow, hws, run] using hstep
    · simpa [follow, hws, run] using hstep

/-- However the handlers take turns, a room goes through the same, and its connections are sent the
same messages in the same order, if the steps of all connections of other rooms are left out. -/
theorem rooms_are_separate (steps : List (LobbyStep κ)) (apart : ∀ x ∈ steps, x.KeepsApart W S) :
    let alone := run {} (steps.filter fun x => W x.ws)
    (∀ sessionId, S sessionId →
      alone.manager.sessions.get? sessionId = (run {} steps).manager.sessions.get? sessionId) ∧
    (∀ ws, W ws → alone.handlers ws = (run {} steps).handlers ws) ∧
    alone.log = (run {} steps).log.filter fun e => e.Within W S := by
  intro alone
  have htracks := run_tracks apart
  exact ⟨htracks.sessions, htracks.handlers, htracks.log⟩

/-- A player joins the room `a` while the room `b` is opened and closed. -/
def twoRooms : List (LobbyStep ℕ) :=
  [.receive 0 (.sessionCreate ⟨"player1", "10.0.0.1", 50010⟩) "a",
    .receive 2 (.sessionCreate ⟨"player1", "10.0.0.3", 50010⟩) "b",
    .resume 0 false, .resume 2 false, .resume 0 false, .resume 2 false,
    .receive 1 (.sessionJoin ⟨"a", "player2", "10.0.0.2", 50011, none⟩) "",
    .receive 2 (.sessionLeave ⟨"b", 0⟩) "",
    .resume 1 false, .resume 2 false, .resume 1 false, .resume 1 false]

theorem twoRooms_are_separate :
    (run {} (twoRooms.filter fun x => x.ws < 2)).log =
        (run {} twoRooms).log.filter (fun e => e.Within (· < 2) (· = "a")) ∧
      .accepted 1 "a" 1 ∈ (run {} (twoRooms.filter fun x => x.ws < 2)).log ∧
      .dropped "b" ∈ (run {} twoRooms).log := by
  have hrooms := rooms_are_separate (W := (· < 2)) (S := (· = "a")) twoRooms
    (by simp [twoRooms, LobbyStep.KeepsApart, ClientMessage.sessionId])
  exact ⟨hrooms.2.2, by decide +kernel, by decide +kernel⟩

end Lobby

end DistributedSmb
