import DistributedSmb.Lobby.Service
import DistributedSmb.Lobby.Slots
import Mathlib.Logic.Relation

/-!
# Turns of the handlers

A view of the lobby has the manager, the tasks that each handler still has, and the log. A turn
begins with what a message does at once (`Opens`) and goes on with one task after the other
(`Does`). What both kinds of steps keep holds in every state of the lobby.
-/

namespace DistributedSmb

open Library

variable {κ : Type}

structure LobbyView (κ : Type) where
  manager : LobbyManager κ
  pending : κ → List (LobbyTask κ)
  log : List (LobbyEvent κ)

def HandlerStatus.rest : HandlerStatus κ → List (LobbyTask κ)
  | .sending _ rest => rest
  | .receiving | .ended => []

def Lobby.view (s : Lobby κ) : LobbyView κ where
  manager := s.manager
  pending ws := (s.handlers ws).status.rest
  log := s.log

namespace LobbyView

def note (v : LobbyView κ) (e : LobbyEvent κ) : LobbyView κ := { v with log := v.log ++ [e] }

def withManager (v : LobbyView κ) (manager : LobbyManager κ) : LobbyView κ :=
  { v with manager := manager }

@[simp] theorem note_manager (v : LobbyView κ) (e : LobbyEvent κ) :
    (v.note e).manager = v.manager := rfl
@[simp] theorem note_pending (v : LobbyView κ) (e : LobbyEvent κ) :
    (v.note e).pending = v.pending := rfl
@[simp] theorem note_log (v : LobbyView κ) (e : LobbyEvent κ) : (v.note e).log = v.log ++ [e] := rfl
@[simp] theorem withManager_manager (v : LobbyView κ) (m : LobbyManager κ) :
    (v.withManager m).manager = m := rfl
@[simp] theorem withManager_pending (v : LobbyView κ) (m : LobbyManager κ) :
    (v.withManager m).pending = v.pending := rfl
@[simp] theorem withManager_log (v : LobbyView κ) (m : LobbyManager κ) :
    (v.withManager m).log = v.log := rfl

variable [DecidableEq κ]

def todo (v : LobbyView κ) (ws : κ) (tasks : List (LobbyTask κ)) : LobbyView κ :=
  { v with pending := Function.update v.pending ws tasks }

@[simp] theorem todo_manager (v : LobbyView κ) (ws : κ) (tasks : List (LobbyTask κ)) :
    (v.todo ws tasks).manager = v.manager := rfl
@[simp] theorem todo_log (v : LobbyView κ) (ws : κ) (tasks : List (LobbyTask κ)) :
    (v.todo ws tasks).log = v.log := rfl
@[simp] theorem todo_pending_self (v : LobbyView κ) (ws : κ) (tasks : List (LobbyTask κ)) :
    (v.todo ws tasks).pending ws = tasks := Function.update_self _ _ _
theorem todo_pending_ne (v : LobbyView κ) {ws w : κ} (h : w ≠ ws) (tasks : List (LobbyTask κ)) :
    (v.todo ws tasks).pending w = v.pending w := Function.update_of_ne h _ _
@[simp] theorem todo_todo (v : LobbyView κ) (ws : κ) (tasks tasks' : List (LobbyTask κ)) :
    (v.todo ws tasks).todo ws tasks' = v.todo ws tasks' := by simp [todo]
/-! ## Tasks -/

/-- One thing that the handler of `ws` does between two messages. -/
inductive Does (ws : κ) (v : LobbyView κ) : LobbyView κ → Prop
  | reply {message rest} (next : v.pending ws = .reply message :: rest) :
    Does ws v ((v.note (.sent ws message)).todo ws rest)
  | deliver {target message rest} (next : v.pending ws = .deliver target message :: rest) :
    Does ws v ((v.note (.sent target message)).todo ws rest)
  | broadcast {sessionId message rest}
    (next : v.pending ws = .broadcast sessionId message :: rest) :
    Does ws v (v.todo ws ((v.manager.connections sessionId).map (.deliver · message) ++ rest))
  | broadcastRoster {sessionId message rest}
    (next : v.pending ws = .broadcastRoster sessionId :: rest)
    (roster : v.manager.rosterUpdate sessionId = .ok message) :
    Does ws v (v.todo ws ((v.manager.connections sessionId).map (.deliver · message) ++ rest))
  | start {sessionId rest} (next : v.pending ws = .startIfActive sessionId :: rest)
    (active : v.manager.isActive sessionId = true) :
    Does ws v (v.todo ws (.reply (.gameStart sessionId) :: rest))
  | skip {sessionId rest} (next : v.pending ws = .startIfActive sessionId :: rest) :
    Does ws v (v.todo ws rest)
  | forget {rest} (next : v.pending ws = .forgetSession :: rest) : Does ws v (v.todo ws rest)
  | drop {sessionId rest} (next : v.pending ws = .dropSession sessionId :: rest) :
    Does ws v (((v.withManager (v.manager.dropSession sessionId)).note (.dropped sessionId)).todo
      ws rest)
  | ends {manager}
    (left : manager = v.manager ∨ ∃ sessionId, manager = v.manager.removeConnection sessionId ws) :
    Does ws v (((v.withManager manager).note (.ended ws)).todo ws [])

end LobbyView

namespace Lobby

@[simp] theorem view_record (s : Lobby κ) (e : LobbyEvent κ) : (s.record e).view = s.view.note e :=
  rfl

variable [DecidableEq κ]

@[simp] theorem view_setStatus (s : Lobby κ) (ws : κ) (status : HandlerStatus κ) :
    (s.setStatus ws status).view = s.view.todo ws status.rest := by
  simp only [view, setStatus, LobbyView.todo, LobbyView.mk.injEq, true_and, and_true]
  funext w
  by_cases hw : w = ws
  · subst hw
    simp
  · simp [Function.update_of_ne hw]

@[simp] theorem view_setSession (s : Lobby κ) (ws : κ) (sessionId : Option String) :
    (s.setSession ws sessionId).view = s.view := by
  simp only [view, setSession, LobbyView.mk.injEq, true_and, and_true]
  funext w
  by_cases hw : w = ws
  · subst hw
    simp
  · simp [Function.update_of_ne hw]

theorem view_finish_eq (s : Lobby κ) (ws : κ) :
    (s.finish ws).view =
      ((s.view.withManager (s.finish ws).manager).note (.ended ws)).todo ws [] := by
  simp only [finish, view_record, view_setStatus, HandlerStatus.rest]
  rfl

@[simp] theorem view_send (s : Lobby κ) (ws target : κ) (message : ServerMessage)
    (isDelivery : Bool) (rest : List (LobbyTask κ)) :
    (s.send ws target message isDelivery rest).view =
      (s.view.note (.sent target message)).todo ws rest := by
  rw [send, view_setStatus, view_record, HandlerStatus.rest]

theorem view_finish (s : Lobby κ) (ws : κ) (tasks : List (LobbyTask κ)) :
    LobbyView.Does ws (s.view.todo ws tasks) (s.finish ws).view := by
  have hview : (s.finish ws).view = (((s.view.todo ws tasks).withManager (s.finish ws).manager).note
      (.ended ws)).todo ws [] := by
    rw [view_finish_eq]
    exact (LobbyView.todo_todo _ ws tasks []).symm
  rw [hview]
  apply LobbyView.Does.ends
  simp only [finish, record, setStatus, LobbyView.todo_manager]
  split
  case h_1 sessionId _ => exact .inr ⟨sessionId, rfl⟩
  case h_2 => exact .inl rfl

theorem view_reply (s : Lobby κ) (ws : κ) (message : ServerMessage) (rest : List (LobbyTask κ)) :
    LobbyView.Does ws (s.view.todo ws (.reply message :: rest)) (s.reply ws message rest).view := by
  unfold reply
  split
  · exact s.view_finish ws _
  case h_2 message' hchecked =>
    obtain ⟨_, -, hsame⟩ := Fallible.bind_eq_ok.mp hchecked
    obtain rfl : message = message' := by cases hsame; rfl
    have hdoes := LobbyView.Does.reply (s.view.todo_pending_self ws (.reply message :: rest))
    simpa [LobbyView.todo, LobbyView.note] using hdoes

theorem view_deliver (s : Lobby κ) (ws target : κ) (message : ServerMessage)
    (rest : List (LobbyTask κ)) :
    LobbyView.Does ws (s.view.todo ws (.deliver target message :: rest))
      (s.send ws target message true rest).view := by
  have hdoes := LobbyView.Does.deliver
    (s.view.todo_pending_self ws (.deliver target message :: rest))
  simpa [LobbyView.todo, LobbyView.note] using hdoes

/-- A turn is made of single tasks. -/
theorem runTasks_does (ws : κ) (tasks : List (LobbyTask κ)) (s : Lobby κ) :
    Relation.ReflTransGen (LobbyView.Does ws) (s.view.todo ws tasks)
      (s.runTasks ws tasks).view := by
  induction tasks generalizing s with
  | nil =>
    rw [runTasks, view_setStatus]
    exact .refl
  | cons task rest ih =>
    have hnext := s.view.todo_pending_self ws (task :: rest)
    cases task with
    | reply message => exact .single (s.view_reply ws message rest)
    | deliver target message => exact .single (s.view_deliver ws target message rest)
    | broadcast sessionId message =>
      have hdoes := LobbyView.Does.broadcast hnext
      rw [LobbyView.todo_todo, LobbyView.todo_manager] at hdoes
      refine .head hdoes ?_
      rw [runTasks]
      -- the first delivery is made at once
      change Relation.ReflTransGen _ (s.view.todo ws ((s.manager.connections _).map _ ++ rest)) _
      cases s.manager.connections sessionId with
      | nil => exact ih s
      | cons target targets => exact .single (s.view_deliver ws target message _)
    | broadcastRoster sessionId =>
      rw [runTasks]
      cases hroster : s.manager.rosterUpdate sessionId with
      | error e => exact .single (s.view_finish ws _)
      | ok message =>
        have hdoes := LobbyView.Does.broadcastRoster hnext hroster
        rw [LobbyView.todo_todo, LobbyView.todo_manager] at hdoes
        refine .head hdoes ?_
        change Relation.ReflTransGen _ (s.view.todo ws ((s.manager.connections _).map _ ++ rest)) _
        cases s.manager.connections sessionId with
        | nil => exact ih s
        | cons target targets => exact .single (s.view_deliver ws target message _)
    | startIfActive sessionId =>
      rw [runTasks]
      split
      case isTrue hactive =>
        have hdoes := LobbyView.Does.start hnext hactive
        rw [LobbyView.todo_todo] at hdoes
        exact .head hdoes (.single (s.view_reply ws (.gameStart sessionId) rest))
      case isFalse =>
        have hdoes := LobbyView.Does.skip hnext
        rw [LobbyView.todo_todo] at hdoes
        exact .head hdoes (ih s)
    | forgetSession =>
      have hdoes := LobbyView.Does.forget hnext
      rw [LobbyView.todo_todo] at hdoes
      have hrest := ih (s.setSession ws none)
      rw [view_setSession] at hrest
      exact .head hdoes hrest
    | dropSession sessionId =>
      have hdoes := LobbyView.Does.drop hnext
      have hrest := ih (({ s with manager := s.manager.dropSession sessionId } : Lobby κ).record
        (.dropped sessionId))
      simp only [LobbyView.todo, LobbyView.note, LobbyView.withManager] at hdoes
      exact .head (by simpa [view, record, LobbyView.todo] using hdoes) hrest

end Lobby

/-! ## Messages -/

/-- The host's entry of a new session. -/
def SlotEntry.ofHost (joinIndex : ℤ) (host : Ip) (udpPort : ℕ) : SlotEntry :=
  ⟨playerIdFor joinIndex, host, udpPort, joinIndex, .connected, true⟩

namespace LobbyManager

/-- What a message that passes its check does at once: the manager and the events after it, and the
tasks it leaves. -/
inductive Opens (m : LobbyManager κ) (ws : κ) :
    ClientMessage → String → LobbyManager κ → List (LobbyEvent κ) → List (LobbyTask κ) → Prop
  | create {msg : SessionCreate} {uuid} (address : ValidAddress msg.ip msg.udpPort) :
    Opens m ws (.sessionCreate msg) uuid
      (m.put uuid
        { entries := [.ofHost 0 msg.ip msg.udpPort]
          connections := [ws]
          nextJoinIndex := 1 })
      [] [.reply (.sessionCreated uuid 0), .broadcastRoster uuid]
  | join {msg : SessionJoin} {uuid r r' joinIndex} (found : m.sessions.get? msg.sessionId = some r)
    (address : ValidAddress msg.ip msg.port) (room : r.isFull msg.rejoinJoinIndex = false)
    (joined : r.join msg.playerId msg.ip msg.port msg.rejoinJoinIndex = some (r', joinIndex)) :
    Opens m ws (.sessionJoin msg) uuid
      (m.put msg.sessionId { r' with connections := r'.connections ++ [ws] })
      [.accepted ws msg.sessionId joinIndex]
      [.reply (.sessionJoined joinIndex), .broadcastRoster msg.sessionId,
        .startIfActive msg.sessionId]
  | refuse {msg : SessionJoin} {uuid reason} :
    Opens m ws (.sessionJoin msg) uuid m []
      [.reply (.sessionJoinRejected msg.sessionId reason), .forgetSession]
  | recreate {msg : SessionRecreate} {uuid} (address : ValidAddress msg.hostIp msg.hostUdpPort)
    (slot : IsSlot msg.hostJoinIndex) (reserved : ∀ i ∈ msg.reservedJoinIndices, IsSlot i)
    (unreserved : msg.hostJoinIndex ∉ msg.reservedJoinIndices) :
    Opens m ws (.sessionRecreate msg) uuid
      (m.put msg.sessionId
        { entries := [.ofHost msg.hostJoinIndex msg.hostIp msg.hostUdpPort]
          connections := [ws]
          isActive := true
          nextJoinIndex := msg.nextJoinIndex
          reservedJoinIndices := msg.reservedJoinIndices.toFinset })
      [] [.reply (.sessionCreated msg.sessionId 0)]
  | close {msg : SessionLeave} {uuid r} (found : m.sessions.get? msg.sessionId = some r)
    (host : (r.leave msg.joinIndex).2 = true) :
    Opens m ws (.sessionLeave msg) uuid (m.put msg.sessionId (r.leave msg.joinIndex).1) []
      [.broadcast msg.sessionId (.sessionClosed msg.sessionId), .dropSession msg.sessionId]
  | leave {msg : SessionLeave} {uuid r} (found : m.sessions.get? msg.sessionId = some r)
    (other : (r.leave msg.joinIndex).2 = false) :
    Opens m ws (.sessionLeave msg) uuid (m.put msg.sessionId (r.leave msg.joinIndex).1) []
      [.broadcastRoster msg.sessionId]
  | sync {worldState uuid} (sessionId : String) :
    Opens m ws (.initialStateSync worldState) uuid m []
      [.broadcast sessionId (.initialStateSync worldState)]
  | start {sessionId uuid r} (found : m.sessions.get? sessionId = some r) :
    Opens m ws (.gameStart sessionId) uuid (m.put sessionId { r with isActive := true }) []
      [.broadcast sessionId (.gameStart sessionId)]
  | idle {message uuid} : Opens m ws message uuid m [] []

theorem put_put (m : LobbyManager κ) (sessionId : String) (r r' : SessionRecord κ) :
    (m.put sessionId r).put sessionId r' = m.put sessionId r' := by simp [put]

theorem addConnection_put (m : LobbyManager κ) (sessionId : String) (r : SessionRecord κ) (ws : κ) :
    (m.put sessionId r).addConnection sessionId ws =
      .ok (m.put sessionId { r with connections := r.connections ++ [ws] }) := by
  have hsession : (m.put sessionId r).session sessionId = .ok r := by simp [session, put]
  rw [addConnection, hsession, Fallible.ok_bind, put_put]

end LobbyManager

/-- The roster of a recreated session is that of the new host's entry. -/
theorem Lobby.hostRoster_eq {m : SessionRecreate} (address : ValidAddress m.hostIp m.hostUdpPort)
    (slot : IsSlot m.hostJoinIndex) :
    ∃ roster, Lobby.hostRoster m = .ok roster ∧ roster.getAllPlayers.map SlotEntry.ofRosterEntry =
      [.ofHost m.hostJoinIndex m.hostIp m.hostUdpPort] := by
  have hvalid : (SlotEntry.ofHost m.hostJoinIndex m.hostIp m.hostUdpPort).Valid :=
    ⟨slot, rfl, address⟩
  have hentry := hvalid.toRosterEntry
  unfold SlotEntry.ofHost at hentry
  refine ⟨⟨[(SlotEntry.ofHost m.hostJoinIndex m.hostIp m.hostUdpPort).rosterEntry]⟩, ?_, ?_⟩
  · rw [Lobby.hostRoster, hentry, Fallible.ok_bind]
    rfl
  · simp [GlobalRoster.getAllPlayers, SlotEntry.ofRosterEntry, SlotEntry.rosterEntry,
      SlotEntry.ofHost, Int.toNat_of_nonneg slot.1]

namespace Lobby

variable [DecidableEq κ]

/-- A message ends the handler, or opens a turn. -/
inductive Turn (s : Lobby κ) (ws : κ) (message : ClientMessage) (uuid : String) : Lobby κ → Prop
  | ends {s' : Lobby κ} (same : s'.view = s.view) : Turn s ws message uuid (s'.finish ws)
  | opens {s' : Lobby κ} {manager events tasks}
    (opens : s.manager.Opens ws message uuid manager events tasks)
    (view : s'.view = ⟨manager, s.view.pending, s.log ++ events⟩) :
    Turn s ws message uuid (s'.runTasks ws tasks)

theorem onSessionCreate_turn (s : Lobby κ) (ws : κ) {m : SessionCreate} (uuid : String)
    (address : ValidAddress m.ip m.udpPort) :
    Turn s ws (.sessionCreate m) uuid (s.onSessionCreate ws m uuid) := by
  simp only [onSessionCreate, LobbyManager.createSession, LobbyManager.addConnection_put, attempt]
  refine .opens (.create address) ?_
  change (s.setSession ws uuid).view.withManager _ = _
  rw [view_setSession, List.append_nil]
  rfl

theorem onSessionJoin_turn (s : Lobby κ) (ws : κ) {m : SessionJoin} (uuid : String)
    (address : ValidAddress m.ip m.port) :
    Turn s ws (.sessionJoin m) uuid (s.onSessionJoin ws m) := by
  have hview : (s.setSession ws m.sessionId).view = ⟨s.manager, s.view.pending, s.log ++ []⟩ := by
    rw [view_setSession, List.append_nil]
    rfl
  simp only [onSessionJoin]
  split
  · exact .opens .refuse hview
  case isFalse hroom =>
    split
    · exact .opens .refuse hview
    case h_2 manager joinIndex hjoin =>
      obtain ⟨r, hfound, hjoin⟩ := Option.bind_eq_some_iff.mp hjoin
      obtain ⟨⟨r', i⟩, hjoined, heq⟩ := Option.bind_eq_some_iff.mp hjoin
      cases heq
      change s.manager.sessions.get? m.sessionId = some r at hfound
      have hopen : r.isFull m.rejoinJoinIndex = false := by
        simpa [setSession, LobbyManager.isFull, hfound] using hroom
      change Turn s ws (.sessionJoin m) uuid (attempt _ ws
        ((s.manager.put m.sessionId r').addConnection m.sessionId ws) _)
      rw [LobbyManager.addConnection_put]
      refine .opens (.join hfound address hopen hjoined) ?_
      change ((s.setSession ws m.sessionId).view.withManager _).note _ = _
      rw [view_setSession]
      rfl

/-- The record of a session that a promoted host has registered again. -/
def recreated (ws : κ) (m : SessionRecreate) : SessionRecord κ where
  entries := [.ofHost m.hostJoinIndex m.hostIp m.hostUdpPort]
  connections := [ws]
  isActive := true
  nextJoinIndex := m.nextJoinIndex
  reservedJoinIndices := m.reservedJoinIndices.toFinset

theorem onSessionRecreate_runs (s : Lobby κ) (ws : κ) {m : SessionRecreate}
    (address : ValidAddress m.hostIp m.hostUdpPort) (slot : IsSlot m.hostJoinIndex) :
    ∃ s' : Lobby κ, s'.view = ⟨s.manager.put m.sessionId (recreated ws m), s.view.pending, s.log⟩ ∧
      s.onSessionRecreate ws m = s'.runTasks ws [.reply (.sessionCreated m.sessionId 0)] := by
  obtain ⟨roster, hroster, hentries⟩ := hostRoster_eq address slot
  simp only [onSessionRecreate, hroster, LobbyManager.registerActiveSession, hentries,
    LobbyManager.addConnection_put, attempt]
  refine ⟨_, ?_, rfl⟩
  change (s.setSession ws m.sessionId).view.withManager _ = _
  rw [view_setSession]
  rfl

theorem onSessionRecreate_turn (s : Lobby κ) (ws : κ) {m : SessionRecreate} (uuid : String)
    (address : ValidAddress m.hostIp m.hostUdpPort) (slot : IsSlot m.hostJoinIndex)
    (reserved : ∀ i ∈ m.reservedJoinIndices, IsSlot i)
    (unreserved : m.hostJoinIndex ∉ m.reservedJoinIndices) :
    Turn s ws (.sessionRecreate m) uuid (s.onSessionRecreate ws m) := by
  obtain ⟨s', hview, hruns⟩ := s.onSessionRecreate_runs ws address slot
  rw [hruns]
  refine .opens (.recreate address slot reserved unreserved) ?_
  rw [hview, List.append_nil]
  rfl

theorem onSessionLeave_turn (s : Lobby κ) (ws : κ) (m : SessionLeave) (uuid : String) :
    Turn s ws (.sessionLeave m) uuid (s.onSessionLeave ws m) := by
  unfold onSessionLeave
  split
  case isTrue hsession =>
    have hmem : m.sessionId ∈ s.manager.sessions := by
      simpa [LobbyManager.hasSession] using hsession
    obtain ⟨r, hr⟩ := Dict.exists_of_mem hmem
    have hfound : s.manager.sessions.get? m.sessionId = some r := Dict.get?_eq_some_iff.mpr hr
    simp only [LobbyManager.leaveSession, hfound]
    split
    case isTrue hhost => exact .opens (.close hfound hhost) (by simp [view])
    case isFalse hother => exact .opens (.leave hfound (by simpa using hother)) (by simp [view])
  case isFalse => exact .opens .idle (by simp [view])

theorem onGameStart_turn (s : Lobby κ) (ws : κ) (sessionId uuid : String) :
    Turn s ws (.gameStart sessionId) uuid (s.onGameStart ws sessionId) := by
  unfold onGameStart LobbyManager.markActive LobbyManager.session
  cases hfound : s.manager.sessions.get? sessionId with
  | none => exact .ends rfl
  | some r => exact .opens (.start hfound) (by simp [view])

theorem onInitialStateSync_turn (s : Lobby κ) (ws : κ) (worldState : WorldState) (uuid : String) :
    Turn s ws (.initialStateSync worldState) uuid (s.onInitialStateSync ws worldState) := by
  unfold onInitialStateSync
  split
  case h_1 sessionId _ => exact .opens (.sync sessionId) (by simp [view])
  case h_2 => exact .opens .idle (by simp [view])

theorem onMessage_turn (s : Lobby κ) (ws : κ) (message : ClientMessage) (uuid : String) :
    Turn s ws message uuid (s.onMessage ws message uuid) := by
  unfold onMessage
  split
  · exact .ends rfl
  case h_2 message' hchecked =>
    cases message with
    | sessionCreate m =>
      obtain ⟨m', hm, heq⟩ := Fallible.bind_eq_ok.mp hchecked
      obtain ⟨rfl, address⟩ := SessionCreate.checked_spec hm
      cases heq
      exact s.onSessionCreate_turn ws uuid address
    | sessionJoin m =>
      obtain ⟨m', hm, heq⟩ := Fallible.bind_eq_ok.mp hchecked
      obtain ⟨rfl, address, -, -⟩ := SessionJoin.checked_spec hm
      cases heq
      exact s.onSessionJoin_turn ws uuid address
    | sessionRecreate m =>
      obtain ⟨m', hm, heq⟩ := Fallible.bind_eq_ok.mp hchecked
      obtain ⟨rfl, address, -, slot, reserved, unreserved⟩ := SessionRecreate.checked_spec hm
      cases heq
      exact s.onSessionRecreate_turn ws uuid address slot reserved unreserved
    | sessionLeave m =>
      obtain ⟨m', hm, heq⟩ := Fallible.bind_eq_ok.mp hchecked
      obtain rfl := SessionLeave.checked_spec hm
      cases heq
      exact s.onSessionLeave_turn ws m' uuid
    | initialStateSync worldState =>
      cases hchecked
      exact s.onInitialStateSync_turn ws worldState uuid
    | gameStart sessionId =>
      obtain ⟨_, -, heq⟩ := Fallible.bind_eq_ok.mp hchecked
      cases heq
      exact s.onGameStart_turn ws sessionId uuid
    | unknown =>
      cases hchecked
      exact .opens .idle (by simp [view])
    | malformed => cases hchecked

/-! ## Invariants -/

theorem runTasks_keeps {I : LobbyView κ → Prop} {ws : κ}
    (does : ∀ v v', LobbyView.Does ws v v' → I v → I v') (s : Lobby κ)
    {tasks : List (LobbyTask κ)} (h : I (s.view.todo ws tasks)) : I (s.runTasks ws tasks).view := by
  have hdoes := runTasks_does ws tasks s
  generalize (s.runTasks ws tasks).view = after at hdoes ⊢
  induction hdoes with
  | refl => exact h
  | tail _ hlast ih => exact does _ _ hlast ih

theorem onMessage_keeps {I : LobbyView κ → Prop}
    (does : ∀ ws v v', LobbyView.Does ws v v' → I v → I v')
    {s : Lobby κ} {ws : κ} {message : ClientMessage} {uuid : String}
    (opens : ∀ {manager events tasks}, message.checked = .ok message →
      s.manager.Opens ws message uuid manager events tasks →
      I (LobbyView.todo ⟨manager, s.view.pending, s.log ++ events⟩ ws tasks))
    (finish : ∀ s' : Lobby κ, s'.view = s.view → I (s'.finish ws).view) :
    I (s.onMessage ws message uuid).view := by
  have hturn := s.onMessage_turn ws message uuid
  cases hchecked : message.checked with
  | error e =>
    rw [onMessage, hchecked]
    exact finish s rfl
  | ok message' =>
    obtain rfl := ClientMessage.checked_same hchecked
    generalize s.onMessage ws message' uuid = after at hturn ⊢
    cases hturn with
    | ends same => exact finish _ same
    | opens hopens hview =>
      apply runTasks_keeps (does ws)
      rw [hview]
      exact opens hchecked hopens

/-- A step keeps what single tasks keep, if the message that opens a turn leads to it. -/
theorem step_keeps {I : LobbyView κ → Prop} (does : ∀ ws v v', LobbyView.Does ws v v' → I v → I v')
    {s : Lobby κ} {x : LobbyStep κ}
    (opens : ∀ {ws message uuid manager events tasks}, x = .receive ws message uuid →
      (s.handlers ws).status = .receiving → message.checked = .ok message →
      s.manager.Opens ws message uuid manager events tasks →
      I (LobbyView.todo ⟨manager, s.view.pending, s.log ++ events⟩ ws tasks))
    (h : I s.view) : I (s.step x).view := by
  have hfinish (ws : κ) (s' : Lobby κ) (same : s'.view = s.view) : I (s'.finish ws).view := by
    have hends := s'.view_finish ws (s'.view.pending ws)
    rw [LobbyView.todo, Function.update_eq_self] at hends
    exact does ws _ _ hends (same ▸ h)
  cases x with
  | receive ws message uuid =>
    cases hstatus : (s.handlers ws).status with
    | receiving =>
      simp only [step, hstatus]
      exact onMessage_keeps does (opens rfl hstatus) (hfinish ws)
    | sending isDelivery rest | ended => simpa only [step, hstatus] using h
  | resume ws raises =>
    cases hstatus : (s.handlers ws).status with
    | sending isDelivery rest =>
      simp only [step, hstatus]
      split
      · exact hfinish ws s rfl
      · apply runTasks_keeps (does ws)
        have hrest : s.view.pending ws = rest := by simp only [view, hstatus, HandlerStatus.rest]
        rwa [← hrest, LobbyView.todo, Function.update_eq_self]
    | receiving | ended => simpa only [step, hstatus] using h
  | disconnect ws =>
    cases hstatus : (s.handlers ws).status with
    | receiving =>
      simp only [step, hstatus]
      exact hfinish ws s rfl
    | sending isDelivery rest | ended => simpa only [step, hstatus] using h

end Lobby

end DistributedSmb
