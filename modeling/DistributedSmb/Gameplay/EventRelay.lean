import DistributedSmb.Gameplay.HostWorld
import DistributedSmb.Reconciliation.CatchUp

/-!
# What a host tells the relay

The relay hears of every event that changes the host's blocks, power-ups and gates, in the order in
which they happen. The lobby sees the environment as it is at the start of a frame.
-/

namespace DistributedSmb

open Library

/-! ## Messages -/

/-- The event that a message of the relay tells. -/
def WsMessage.event : WsMessage → Option GameEvent
  | blockDestroyed position => some (.blockDestroyed position)
  | powerUpCollected powerupId playerId => some (.powerUpCollected powerupId playerId)
  | gateStateChanged gateId newState => some (.gateStateChanged gateId newState)
  | playerDeath playerId enemyId => some (.playerDeath playerId enemyId)
  | levelReset => some .levelReset
  | session _ | rosterUpdate _ | initialStateSync _ | playerLeft _ | playerDisconnected _ |
    election _ => none

@[simp] theorem GameEvent.event_message (e : GameEvent) : e.message.event = some e := by
  cases e <;> rfl

/-- A message that plays no part in an election. -/
def WsMessage.InGame (m : WsMessage) : Prop := ∀ message, m ≠ .election message

theorem GameEvent.inGame_message (e : GameEvent) : e.message.InGame := by
  intro message
  cases e <;> exact WsMessage.noConfusion

namespace Outgoing

def relayed : Outgoing → Option WsMessage
  | relay message => some message
  | udp _ _ _ | lobby _ => none

def syncWorld : Outgoing → Option WorldState
  | lobby (.initialStateSync worldState) => some worldState
  | _ => none

def snapshot : Outgoing → Option WorldStateSnapshot
  | udp (.worldState snapshot) _ _ => some snapshot
  | _ => none

end Outgoing

namespace Node

/-- The events that the node has told the relay, and those that it is still going to. -/
def told (n : Node) : List GameEvent :=
  (n.outbox.filterMap Outgoing.relayed).filterMap WsMessage.event ++ n.engine.events

def syncWorlds (n : Node) : List WorldState := n.outbox.filterMap Outgoing.syncWorld

def RelaysGame (n : Node) : Prop := ∀ m ∈ n.outbox.filterMap Outgoing.relayed, m.InGame

/-- The events account for what has become of the environment, and the relay is told about them. -/
structure Tells (n n' : Node) (events : List GameEvent) : Prop where
  told : n'.told = n.told ++ events
  log : ∀ level, n'.engine.log = n.engine.log.replay level events
  indexed : n.engine.worldState.environment.Indexed → n'.engine.worldState.environment.Indexed
  setting : n'.engine.setting = n.engine.setting
  syncWorlds : n'.syncWorlds = n.syncWorlds
  relaysGame : n.RelaysGame → n'.RelaysGame

theorem Tells.refl (n : Node) : n.Tells n [] where
  told := (List.append_nil _).symm
  log _ := rfl
  indexed := id
  setting := rfl
  syncWorlds := rfl
  relaysGame := id

theorem Tells.trans {n n' n'' : Node} {events rest : List GameEvent} (h : n.Tells n' events)
    (h' : n'.Tells n'' rest) : n.Tells n'' (events ++ rest) where
  told := by rw [h'.told, h.told, List.append_assoc]
  log level := by
    rw [h'.log level, h.log level]
    exact List.foldl_append.symm
  indexed hn := h'.indexed (h.indexed hn)
  setting := h'.setting.trans h.setting
  syncWorlds := h'.syncWorlds.trans h.syncWorlds
  relaysGame hn := h'.relaysGame (h.relaysGame hn)

/-- Nothing happens in the environment, and the messages are about something else. -/
theorem tells_nothing {n n' : Node} {out : List Outgoing}
    (environment : n'.engine.worldState.environment = n.engine.worldState.environment)
    (queued : n'.engine.events = n.engine.events) (setting : n'.engine.setting = n.engine.setting)
    (outbox : n'.outbox = n.outbox ++ out)
    (aside : ∀ o ∈ out, o.syncWorld = none ∧
      ∀ m, o.relayed = some m → m.event = none ∧ m.InGame) : n.Tells n' [] := by
  have hworlds : out.filterMap Outgoing.syncWorld = [] :=
    List.filterMap_eq_nil_iff.mpr fun o ho => (aside o ho).1
  have hrelayed : ∀ m ∈ out.filterMap Outgoing.relayed, m.event = none ∧ m.InGame := by
    intro m hm
    obtain ⟨o, ho, hrelayed⟩ := List.mem_filterMap.mp hm
    exact (aside o ho).2 m hrelayed
  have hevents : (out.filterMap Outgoing.relayed).filterMap WsMessage.event = [] :=
    List.filterMap_eq_nil_iff.mpr fun m hm => (hrelayed m hm).1
  refine ⟨?_, fun level => ?_, fun hn => environment ▸ hn, setting, ?_, fun hn m hm => ?_⟩
  · simp [told, outbox, queued, hevents]
  · rw [GameEngine.log_congr environment]
    rfl
  · simp [Node.syncWorlds, outbox, hworlds]
  · rw [outbox, List.filterMap_append, List.mem_append] at hm
    exact hm.elim (hn m) fun hm => (hrelayed m hm).2

theorem evictAndAnnounce_tells {n n' : Node} {pid : PlayerId}
    (h : n.evictAndAnnounce pid = .ok n') : n.Tells n' [] := by
  rw [evictAndAnnounce_spec h]
  refine tells_nothing rfl rfl rfl rfl ?_
  simp [Outgoing.syncWorld, Outgoing.relayed, WsMessage.event, WsMessage.InGame]

/-- What a host tells the relay in a call, apart from the poll of the lobby. -/
theorem hostCall_tells {n n' : Node} {now : ℚ} {call : HostCall}
    (hn : n.engine.worldState.environment.Indexed)
    (later : ∀ message, call ≠ .checkForRejoiningPlayers message)
    (h : n.hostCall now call = .ok n') : ∃ events, n.Tells n' events := by
  cases call with
  | checkForRejoiningPlayers message => exact absurd rfl (later message)
  | playerDisconnected pid => exact ⟨[], evictAndAnnounce_tells h⟩
  | evictSilentPlayers =>
    exact ⟨[], Fallible.foldlM_rel (R := fun m m' => Tells m m' []) Tells.refl
      (fun h h' => h.trans h') (fun _ _ _ _ hstep => evictAndAnnounce_tells hstep) h⟩
  | remoteInput payload host port =>
    have hengine := (onRemoteInput_spec h).2.1
    obtain ⟨out, hout, hudp⟩ := onRemoteInput_outbox h
    refine ⟨[], tells_nothing (by rw [hengine]) (by rw [hengine]) (by rw [hengine]) hout ?_⟩
    intro o ho
    obtain ⟨message, rfl⟩ := hudp o ho
    simp [Outgoing.syncWorld, Outgoing.relayed]
  | advance localInput enemyCommands =>
    obtain ⟨engine, htick, h⟩ := Fallible.bind_eq_ok.mp h
    cases h
    obtain ⟨events, haccounts⟩ := GameEngine.tick_accounts hn htick
    refine ⟨events, ?_, haccounts.log, haccounts.indexed, haccounts.setting, rfl, id⟩
    simp [told, haccounts.emits.queued]
  | sendGameEvents =>
    obtain ⟨messages, hmessages, h⟩ := Fallible.bind_eq_ok.mp h
    cases h
    rw [mapM_eventToMessage hmessages]
    refine ⟨[], ?_, fun level => rfl, id, rfl, ?_, fun hn m hm => ?_⟩
    · simp [told, send, Outgoing.relayed, List.filterMap_map, Function.comp_def]
    · simp [syncWorlds, send, Outgoing.syncWorld, List.filterMap_map, Function.comp_def]
    · simp only [send, List.filterMap_append, List.mem_append] at hm
      refine hm.elim (hn m) fun hm => ?_
      obtain ⟨o, ho, hrelayed⟩ := List.mem_filterMap.mp hm
      obtain ⟨message, hmessage, rfl⟩ := List.mem_map.mp ho
      obtain ⟨e, -, rfl⟩ := List.mem_map.mp hmessage
      cases hrelayed
      exact e.inGame_message
  | sendWorldStateSnapshot =>
    cases h
    refine ⟨[], tells_nothing rfl rfl rfl rfl fun o ho => ?_⟩
    obtain ⟨e, -, rfl⟩ := List.mem_map.mp ho
    simp [Outgoing.syncWorld, Outgoing.relayed]
  | maybeBroadcastRoster =>
    obtain ⟨out, rfl, hrosters⟩ := maybeBroadcastRoster_spec h
    refine ⟨[], tells_nothing rfl rfl rfl rfl fun o ho => ?_⟩
    rw [hrosters o ho]
    simp [Outgoing.syncWorld, Outgoing.relayed, WsMessage.event, WsMessage.InGame]

/-- The environment, what is queued about it, and what the level fixes. -/
def scene (n : Node) : EnvironmentalState × List GameEvent × List Platform × Bool × ℤ × ℤ ×
    List SpawnPoint × Level :=
  (n.engine.worldState.environment, n.engine.events, n.engine.setting)

theorem rejoin_scene {n n' : Node} {entry : RosterEntry} {now : ℚ} {b : Bool}
    (h : n.rejoin entry now = .ok (n', b)) : n'.scene = n.scene := by
  simp only [rejoin] at h
  split at h
  · cases h; rfl
  split at h
  · cases h; rfl
  split at h
  · cases h; rfl
  obtain ⟨roster, -, h⟩ := Fallible.bind_eq_ok.mp h
  cases h
  simp only [restorePlayer]
  split
  · rfl
  · split <;> rfl

/-- A poll of the lobby tells the relay nothing, and shows the lobby the environment as it is. -/
theorem checkForRejoiningPlayers_scene {n n' : Node} {message : Option WsMessage} {now : ℚ}
    (h : n.checkForRejoiningPlayers message now = .ok n') : n'.scene = n.scene ∧
      n'.outbox.filterMap Outgoing.relayed = n.outbox.filterMap Outgoing.relayed ∧
      ∀ w ∈ n'.syncWorlds, w ∈ n.syncWorlds ∨ w = n'.engine.worldState := by
  have hscene : n'.scene = n.scene :=
    checkForRejoiningPlayers_keeps (P := fun m => m.scene = n.scene)
      (fun _ _ _ _ _ _ _ _ hm hrejoin => (rejoin_scene hrejoin).trans hm) (fun _ _ hm => hm) h rfl
  obtain ⟨out, hout, hworlds⟩ := checkForRejoiningPlayers_outbox h
  refine ⟨hscene, ?_, fun w hw => ?_⟩
  · have hlobby : out.filterMap Outgoing.relayed = [] :=
      List.filterMap_eq_nil_iff.mpr fun o ho => by rw [hworlds o ho]; rfl
    rw [hout, List.filterMap_append, hlobby, List.append_nil]
  · rw [syncWorlds, hout, List.filterMap_append, List.mem_append] at hw
    refine hw.imp_right fun hw => ?_
    obtain ⟨o, ho, hworld⟩ := List.mem_filterMap.mp hw
    rw [hworlds o ho] at hworld
    exact (Option.some.inj hworld).symm

/-! ## Answers to a roster -/

/-- The entry re-enters the game: nobody else has its slot, and it has another address than before
or there is a character to restore. -/
def Reenters (n : Node) (entry : RosterEntry) : Prop :=
  let existing := n.roster.getAllPlayers.find? fun e => e.joinIndex = entry.joinIndex
  entry.playerId ≠ n.localPlayerId ∧ (∀ e ∈ existing, e.playerId = entry.playerId) ∧
    ((∀ e ∈ existing, e.host = entry.host → e.udpPort ≠ entry.udpPort) ∨
      entry.joinIndex ∈ n.rejoinStates)

instance (n : Node) (entry : RosterEntry) : Decidable (n.Reenters entry) :=
  inferInstanceAs (Decidable (_ ∧ _))

/-- The flag tells whether the entry re-enters; if it does not, nothing happens. -/
theorem rejoin_reenters {n n' : Node} {entry : RosterEntry} {now : ℚ} {b : Bool}
    (h : n.rejoin entry now = .ok (n', b)) :
    b = true ∨ n' = n ∧ ¬ n.Reenters entry := by
  simp only [rejoin] at h
  unfold Reenters
  generalize n.roster.getAllPlayers.find? _ = existing at h ⊢
  split at h
  case isTrue hown =>
    cases h
    exact .inr ⟨rfl, fun hreenters => hreenters.1 hown⟩
  case isFalse =>
    split at h
    case isTrue hslot =>
      cases h
      obtain ⟨e, he, hne⟩ := (Option.any_eq_true _ _).mp hslot
      exact .inr ⟨rfl, fun hreenters => of_decide_eq_true hne (hreenters.2.1 e he)⟩
    case isFalse =>
      split at h
      case isTrue hsame =>
        cases h
        obtain ⟨e, he, haddress⟩ := (Option.any_eq_true _ _).mp hsame
        simp only [Bool.and_eq_true, decide_eq_true_eq, Option.isNone_iff_eq_none,
          Dict.get?_eq_none_iff] at haddress
        obtain ⟨⟨hhost, hport⟩, hnothing⟩ := haddress
        refine .inr ⟨rfl, fun hreenters => ?_⟩
        rcases hreenters.2.2 with hmoved | hkept
        · exact hmoved e he hhost hport
        · exact hnothing hkept
      case isFalse =>
        obtain ⟨roster, -, h⟩ := Fallible.bind_eq_ok.mp h
        cases h
        exact .inl rfl

theorem rejoinAll_reenters {n n' : Node} {entries : List RosterEntry} {now : ℚ} {b : Bool}
    (reenters : ∃ e ∈ entries, n.Reenters e) (h : n.rejoinAll entries now = .ok (n', b)) :
    b = true := by
  unfold rejoinAll at h
  generalize false = flag at h
  induction entries generalizing n flag with
  | nil =>
    obtain ⟨_, hmem, -⟩ := reenters
    cases hmem
  | cons entry rest ih =>
    rw [List.foldlM_cons] at h
    obtain ⟨⟨m, reached⟩, hentry, h⟩ := Fallible.bind_eq_ok.mp h
    obtain ⟨⟨m', reentered⟩, hrejoin, hentry⟩ := Fallible.bind_eq_ok.mp hentry
    cases hentry
    rcases rejoin_reenters hrejoin with rfl | ⟨rfl, hnot⟩
    -- the flag, once raised, stays
    · refine Fallible.foldlM_keeps (P := fun state : Node × Bool => state.2 = true)
        (fun state entry state' _ hstate hstep => ?_) h (Bool.or_true flag)
      obtain ⟨⟨m, reentered⟩, -, hstep⟩ := Fallible.bind_eq_ok.mp hstep
      cases hstep
      rw [hstate, Bool.true_or]
    · obtain ⟨e, he, hreenters⟩ := reenters
      rcases List.mem_cons.mp he with rfl | hlater
      · exact absurd hreenters hnot
      · exact ih ⟨e, hlater, hreenters⟩ _ h

/-- A host that lets somebody re-enter shows the lobby its world. -/
theorem checkForRejoiningPlayers_answers {n n' : Node} {roster : GlobalRoster} {now : ℚ}
    (reenters : ∃ e ∈ roster.players, n.Reenters e)
    (h : n.checkForRejoiningPlayers (some (.rosterUpdate roster)) now = .ok n') :
    n'.syncWorlds ≠ [] := by
  obtain ⟨⟨m, reentered⟩, hrejoin, h⟩ := Fallible.bind_eq_ok.mp h
  obtain ⟨e, he, hreenters⟩ := reenters
  obtain rfl := rejoinAll_reenters ⟨e, GlobalRoster.mem_getAllPlayers.mpr he, hreenters⟩ hrejoin
  cases h
  simp [syncWorlds, send, Outgoing.syncWorld]

/-! ## Frames -/

/-- What a host with an empty outbox tells in a frame. -/
structure TellsFrame (n n' : Node) (events : List GameEvent) : Prop where
  told : n'.told = n.engine.events ++ events
  log : ∀ level, n'.engine.log = n.engine.log.replay level events
  indexed : n'.engine.worldState.environment.Indexed
  setting : n'.engine.setting = n.engine.setting
  relaysGame : n'.RelaysGame
  worlds : ∀ w ∈ n'.syncWorlds, w.environment = n.engine.worldState.environment

/-- The poll of the lobby comes first, and the other calls of the frame send no worlds. -/
theorem processFrame_polls {n n' : Node} {f : FrameInput} (host : n.role = .host)
    (hn : n.engine.worldState.environment.Indexed) (h : n.processFrame f = .ok n') :
    ∃ m events, n.checkForRejoiningPlayers f.lobby.head? f.now = .ok m ∧ m.Tells n' events ∧
      n'.engine.worldState.environment.Indexed := by
  rw [processFrame, host] at h
  change ((⟨f.now, .host (.checkForRejoiningPlayers f.lobby.head?)⟩ : TimedCall) ::
    (f.hostCalls.tail.map fun c => ⟨f.now, .host c⟩)).foldlM step n = .ok n' at h
  rw [List.foldlM_cons] at h
  obtain ⟨m, hpoll, h⟩ := Fallible.bind_eq_ok.mp h
  have hm : m.engine.worldState.environment.Indexed :=
    (Prod.mk.inj (checkForRejoiningPlayers_scene hpoll).1).1 ▸ hn
  have hlater : ∀ call ∈ f.hostCalls.tail, ∀ message, call ≠ .checkForRejoiningPlayers message := by
    intro call hcall message
    simp only [FrameInput.hostCalls, List.cons_append, List.nil_append, List.tail_cons] at hcall
    rintro rfl
    simp at hcall
  have hkept := Fallible.foldlM_keeps (P := fun n'' : Node =>
      n''.engine.worldState.environment.Indexed ∧ ∃ events, m.Tells n'' events)
    (fun n₁ c n₂ hc hP hstep => by
      obtain ⟨call, hcall, rfl⟩ := List.mem_map.mp hc
      obtain ⟨rest, hrest⟩ := hostCall_tells hP.1 (hlater call hcall) hstep
      obtain ⟨events, hevents⟩ := hP.2
      exact ⟨hrest.indexed hP.1, events ++ rest, hevents.trans hrest⟩) h ⟨hm, [], .refl m⟩
  obtain ⟨hindexed, events, hevents⟩ := hkept
  exact ⟨m, events, hpoll, hevents, hindexed⟩

theorem processFrame_tells {n n' : Node} {f : FrameInput} (host : n.role = .host)
    (empty : n.outbox = []) (hn : n.engine.worldState.environment.Indexed)
    (h : n.processFrame f = .ok n') : ∃ events, n.TellsFrame n' events := by
  obtain ⟨m, events, hpoll, hevents, hindexed⟩ := processFrame_polls host hn h
  obtain ⟨hscene, hrelayed, hworlds⟩ := checkForRejoiningPlayers_scene hpoll
  obtain ⟨henvironment, hscene⟩ := Prod.mk.inj hscene
  obtain ⟨hqueued, hsetting⟩ := Prod.mk.inj hscene
  refine ⟨events, ?_, fun level => ?_, hindexed, hevents.setting.trans hsetting, ?_, ?_⟩
  · rw [hevents.told, told, hrelayed, hqueued, empty]
    rfl
  · rw [hevents.log level, GameEngine.log_congr henvironment]
  · refine hevents.relaysGame fun message hmessage => ?_
    rw [hrelayed, empty] at hmessage
    cases hmessage
  · intro w hw
    rw [hevents.syncWorlds] at hw
    rcases hworlds w hw with hold | rfl
    · rw [syncWorlds, empty] at hold
      cases hold
    · exact henvironment

/-- The lobby is shown a world in a frame that lets somebody re-enter. -/
theorem processFrame_answers {n n' : Node} {f : FrameInput} {roster : GlobalRoster}
    (host : n.role = .host) (hn : n.engine.worldState.environment.Indexed)
    (polled : f.lobby.head? = some (.rosterUpdate roster))
    (reenters : ∃ e ∈ roster.players, n.Reenters e) (h : n.processFrame f = .ok n') :
    n'.syncWorlds ≠ [] := by
  obtain ⟨m, events, hpoll, hevents, -⟩ := processFrame_polls host hn h
  rw [hevents.syncWorlds]
  exact checkForRejoiningPlayers_answers reenters (polled ▸ hpoll)

/-- A frame ends with nothing queued. -/
theorem processFrame_events {n n' : Node} {f : FrameInput} (host : n.role = .host)
    (h : n.processFrame f = .ok n') : n'.engine.events = [] := by
  rw [processFrame, host] at h
  simp only [run, FrameInput.calls, FrameInput.hostCalls, List.map_append, List.map_cons,
    List.map_nil, List.foldlM_append] at h
  obtain ⟨m, -, h⟩ := Fallible.bind_eq_ok.mp h
  simp only [List.foldlM_cons, List.foldlM_nil] at h
  obtain ⟨m₁, -, h⟩ := Fallible.bind_eq_ok.mp h
  obtain ⟨m₂, hevents, h⟩ := Fallible.bind_eq_ok.mp h
  obtain ⟨m₃, hsnapshot, h⟩ := Fallible.bind_eq_ok.mp h
  rw [bind_pure] at h
  obtain ⟨messages, -, hevents⟩ := Fallible.bind_eq_ok.mp hevents
  cases hevents
  cases hsnapshot
  obtain ⟨out, rfl, -⟩ := maybeBroadcastRoster_spec h
  rfl

end Node

end DistributedSmb
