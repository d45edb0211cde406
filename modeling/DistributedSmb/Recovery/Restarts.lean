import DistributedSmb.Gameplay.RunningSession
import DistributedSmb.Recovery.Metadata

/-!
# Crashes and restarts

A process that enters a run stores its session, its slot and its peers in a file of its directory,
and deletes the file when it leaves. One that crashes leaves it behind; the next process of that
directory finds its session by it, and asks the lobby for its old slot. Every process here has a
directory of its own.
-/

namespace DistributedSmb

open Library Fallible

variable {ι κ : Type}

/-! ## The file -/

/-- What `_write_session_metadata` writes. -/
def Node.sessionMetadata (n : Node) : SessionMetadata where
  sessionId := n.sessionId
  localPlayerId := n.localPlayerId
  peers := n.peers.map fun e => ⟨e.playerId, e.host, e.joinIndex⟩
  joinIndex := some n.joinIndex

/-- The session and its host, if one was found, and whether the file was deleted. -/
structure RecoveryAttempt where
  found : Option (Ip × String) := none
  deletes : Bool := false
  deriving DecidableEq

section
variable (text : DocumentText) (py : Numerals) (json : JsonText) (runtime : Runtime)

/-- `_try_recover_session`. The recovery screen can be closed at any time; if the probe raises, then
only its thread ends, and the screen stays until it is closed. -/
def tryRecoverSession (file : StoredFile) (localIp : Ip) (closed : Bool)
    (replies : CachedPeer → Option ByteArray) : Except PyError RecoveryAttempt := do
  match ← readSessionMetadata text py file with
  | none => .ok {}
  | some metadata => do
    let _ ← metadata.cachedRoster
    if closed then .ok {}
    else
      let answered := metadata.peers.map replies
      match findCurrentHost json runtime metadata.sessionId localIp answered with
      | .error _ => .ok {}
      | .ok none => .ok { deletes := true }
      | .ok (some hostIp) => .ok { found := some (hostIp, metadata.sessionId) }

/-- What `main` gives a client that is started for this session: a player id, and the slot of the
session's file. -/
def resumedPlayer (file : StoredFile) (sessionId : String) :
    Except PyError (PlayerId × Option ℤ) := do
  let metadata ← if sessionId = "" then .ok none else readSessionMetadata text py file
  match metadata.filter fun m => m.sessionId = sessionId with
  | some m => .ok (if m.joinIndex.isSome then m.localPlayerId else playerIdFor 1, m.joinIndex)
  | none => .ok (playerIdFor 1, none)

/-- The message of `_client_lobby_phase`. -/
def joinRequest (file : StoredFile) (sessionId : String) (localIp : Ip) (port : ℕ) :
    Except PyError SessionJoin := do
  let (playerId, rejoinJoinIndex) ← resumedPlayer text py file sessionId
  SessionJoin.checked ⟨sessionId, playerId, localIp, port, rejoinJoinIndex⟩

end

/-! ## What a lobby answers -/

/-- The slots that are given away are slots, and a new session gives its host the first. -/
def ServerMessage.Seats : ServerMessage → Prop
  | sessionCreated _ joinIndex => joinIndex = 0
  | sessionJoined joinIndex => IsSlot joinIndex
  | _ => True

def LobbyTask.Seats : LobbyTask κ → Prop
  | reply message | deliver _ message | broadcast _ message => message.Seats
  | broadcastRoster _ | startIfActive _ | forgetSession | dropSession _ => True

/-- What a lobby sends, or is about to send. -/
structure LobbyView.Seats (v : LobbyView κ) : Prop where
  pending : ∀ ws, ∀ task ∈ v.pending ws, task.Seats
  sent : ∀ ws message, .sent ws message ∈ v.log → message.Seats

namespace SessionRecord

theorem join_isSlot {r r' : SessionRecord κ} {playerId : PlayerId} {host : Ip} {udpPort : ℕ}
    {rejoinJoinIndex : Option ℤ} {joinIndex : ℤ} (asked : ∀ i ∈ rejoinJoinIndex, IsSlot i)
    (h : r.join playerId host udpPort rejoinJoinIndex = some (r', joinIndex)) :
    IsSlot joinIndex := by
  unfold join at h
  split at h
  case h_1 i =>
    have hslot := asked i rfl
    split at h
    · split at h
      · cases h
      · cases h; exact hslot
    · split at h
      · cases h
      · cases h; exact hslot
  case h_2 =>
    split at h
    · cases h
    · split at h
      · cases h
      case h_2 i hfree =>
        cases h
        exact mem_allSlots.mp (List.mem_of_find?_eq_some hfree)

end SessionRecord

namespace LobbyView.Seats

variable {v : LobbyView κ} (h : v.Seats)
include h

theorem note {e : LobbyEvent κ} (seats : ∀ ws message, e = .sent ws message → message.Seats) :
    (v.note e).Seats where
  pending := h.pending
  sent := by
    intro ws message hsent
    rcases List.mem_append.mp hsent with hold | hnew
    · exact h.sent ws message hold
    · exact seats ws message (List.mem_singleton.mp hnew).symm

theorem withManager (manager : LobbyManager κ) : (v.withManager manager).Seats :=
  ⟨h.pending, h.sent⟩

theorem rest {ws : κ} {task : LobbyTask κ} {rest : List (LobbyTask κ)}
    (next : v.pending ws = task :: rest) : task.Seats ∧ ∀ task ∈ rest, task.Seats := by
  have htasks := h.pending ws
  rw [next] at htasks
  exact List.forall_mem_cons.mp htasks

variable [DecidableEq κ]

theorem todo {ws : κ} {tasks : List (LobbyTask κ)} (seats : ∀ task ∈ tasks, task.Seats) :
    (v.todo ws tasks).Seats where
  pending := by
    intro w task htask
    by_cases hw : w = ws
    · subst hw
      rw [todo_pending_self] at htask
      exact seats task htask
    · rw [todo_pending_ne v hw] at htask
      exact h.pending w task htask
  sent := h.sent

/-- The deliveries of a broadcast come before the rest. -/
theorem deliveries {ws : κ} {sessionId : String} {message : ServerMessage}
    {rest : List (LobbyTask κ)} (hmessage : message.Seats) (hrest : ∀ task ∈ rest, task.Seats) :
    (v.todo ws ((v.manager.connections sessionId).map (.deliver · message) ++ rest)).Seats := by
  refine h.todo fun task htask => ?_
  rcases List.mem_append.mp htask with hnew | hold
  · obtain ⟨w, -, rfl⟩ := List.mem_map.mp hnew
    exact hmessage
  · exact hrest task hold

theorem does {ws : κ} {v' : LobbyView κ} (does : Does ws v v') : v'.Seats := by
  cases does with
  | reply next | deliver next =>
    obtain ⟨hmessage, hrest⟩ := h.rest next
    refine (h.note fun w m heq => ?_).todo hrest
    cases heq
    exact hmessage
  | broadcast next => exact h.deliveries (h.rest next).1 (h.rest next).2
  | broadcastRoster next roster =>
    obtain ⟨_, -, hmessage⟩ := bind_eq_ok.mp roster
    obtain ⟨_, -, hmessage⟩ := bind_eq_ok.mp hmessage
    cases hmessage
    exact h.deliveries trivial (h.rest next).2
  | start next _ => exact h.todo (List.forall_mem_cons.mpr ⟨trivial, (h.rest next).2⟩)
  | skip next | forget next => exact h.todo (h.rest next).2
  | drop next => exact ((h.withManager _).note (by simp)).todo (h.rest next).2
  | ends left => exact ((h.withManager _).note (by simp)).todo (by simp)

theorem opens {ws : κ} {message : ClientMessage} {uuid : String} {manager : LobbyManager κ}
    {events : List (LobbyEvent κ)} {tasks : List (LobbyTask κ)}
    (checked : message.checked = .ok message)
    (opens : v.manager.Opens ws message uuid manager events tasks) :
    (LobbyView.todo ⟨manager, v.pending, v.log ++ events⟩ ws tasks).Seats := by
  have hseats : ∀ task ∈ tasks, task.Seats := by
    cases opens with
    | join found address room joined =>
      obtain ⟨m, hm, heq⟩ := bind_eq_ok.mp checked
      cases heq
      obtain ⟨-, -, -, hasked⟩ := SessionJoin.checked_spec hm
      have hslot := SessionRecord.join_isSlot (fun i hi => (hasked i hi).1) joined
      simpa [LobbyTask.Seats, ServerMessage.Seats] using hslot
    | _ => simp [LobbyTask.Seats, ServerMessage.Seats]
  have hevents : ∀ w m, LobbyEvent.sent w m ∉ events := by cases opens <;> simp
  have hlogged : LobbyView.Seats ⟨manager, v.pending, v.log ++ events⟩ :=
    ⟨h.pending, fun w m hsent =>
      h.sent w m ((List.mem_append.mp hsent).resolve_right (hevents w m))⟩
  exact hlogged.todo hseats

end LobbyView.Seats

theorem Lobby.run_seats [DecidableEq κ] (steps : List (LobbyStep κ)) :
    (Lobby.run {} steps).view.Seats :=
  foldl_keeps (P := fun s : Lobby κ => s.view.Seats)
    (fun _ _ _ hs => Lobby.step_keeps (fun _ _ _ does hv => hv.does does)
      (fun _ _ hchecked hopens => hs.opens hchecked hopens) hs)
    ⟨fun _ _ hnone => (nomatch hnone), fun _ _ hnone => nomatch hnone⟩

/-! ## Processes in the game -/

namespace Node

/-- The node has its own slot, and characters of slots only. -/
structure Seated (n : Node) : Prop where
  slot : n.joinIndex < maxPlayers
  name : n.localPlayerId = playerIdFor n.joinIndex
  saved : ∀ i ∈ n.rejoinStates, i < maxPlayers

theorem Seated.knowsSlots {n : Node} (h : n.Seated) (sound : n.Sound) : n.KnowsSlots :=
  ⟨sound.session, sound.address, h.slot, h.name, sound.roster.slots, h.saved⟩

theorem KnowsSlots.seated {n : Node} (h : n.KnowsSlots) : n.Seated := ⟨h.own, h.ownName, h.saved⟩

theorem Deeds.identity {n m : Node} (h : Deeds n m) : m.identity = n.identity := by
  induction h with
  | refl => rfl
  | tail _ last ih =>
    rw [← ih]
    obtain ⟨d, hdoes⟩ := last
    cases hdoes with
    | elsewhere same => exact congrArg (fun s => s.2.2) same
    | evict | learn => rfl
    | rejoin slot named rejoined =>
      simp only [rejoin] at rejoined
      split at rejoined
      · cases rejoined; rfl
      · split at rejoined
        · cases rejoined; rfl
        · split at rejoined
          · cases rejoined; rfl
          · obtain ⟨roster, -, rejoined⟩ := bind_eq_ok.mp rejoined
            cases rejoined
            rfl

end Node

theorem Call.Named.namesSlots {c : TimedCall} (h : c.call.Named) : c.NamesSlots := by
  obtain ⟨now, call⟩ := c
  unfold TimedCall.NamesSlots
  split
  case h_1 roster hcall =>
    cases hcall
    exact GlobalRoster.Named.slots h
  case h_2 roster hcall =>
    cases hcall
    exact GlobalRoster.Named.slots (h _ rfl)
  case h_3 => trivial

namespace Node

/-- A frame keeps who the process is, and its slots. -/
theorem Seated.processFrame {n n' : Node} (h : n.Seated) (sound : n.Sound) {found : FrameInput}
    (named : found.Named) (frame : n.processFrame found = .ok n') :
    n'.Seated ∧ n'.identity = n.identity := by
  have hknown := h.knowsSlots sound
  have hdeeds := run_deeds hknown (fun c hc => (named.calls n.role c hc).namesSlots) frame
  exact ⟨(hknown.deeds hdeeds).seated, hdeeds.identity⟩

/-! ### Lobby phases -/

/-- Who the process is, and the characters that it has saved. -/
def seat (n : Node) : (PlayerId × Ip × String × ℕ) × Dict ℕ Player := (n.identity, n.rejoinStates)

theorem Seated.of_seat {n m : Node} (h : n.Seated) (same : m.seat = n.seat) : m.Seated := by
  simp only [seat, identity, Prod.mk.injEq] at same
  obtain ⟨⟨hname, -, -, hslot⟩, hsaved⟩ := same
  exact ⟨hslot ▸ h.slot, by rw [hname, hslot, h.name], hsaved ▸ h.saved⟩

@[simp] theorem rebuildWorldFromRoster_seat (n : Node) (now : ℚ) (lobbyHost : Ip) :
    (n.rebuildWorldFromRoster now lobbyHost).seat = n.seat := rfl

@[simp] theorem adoptRoster_seat (n : Node) (message : ServerMessage) :
    (n.adoptRoster message).seat = n.seat := by
  cases message <;> rfl

theorem foldl_adoptRoster_seat (n : Node) (messages : List ServerMessage) :
    (messages.foldl adoptRoster n).seat = n.seat :=
  foldl_keeps (P := fun m : Node => m.seat = n.seat)
    (fun m message _ hm => (adoptRoster_seat m message).trans hm) rfl

theorem awaitGameStart_seat {n started : Node} {messages drained : List ServerMessage}
    (returns : n.awaitGameStart messages = some (started, drained)) : started.seat = n.seat := by
  induction messages generalizing n with
  | nil => cases returns
  | cons message rest ih =>
    cases message with
    | sessionJoinRejected => cases returns
    | gameStart => cases returns; rfl
    | _ => exact (ih returns).trans (adoptRoster_seat n _)

theorem awaitRestart_seat {n started : Node} {messages : List ServerMessage}
    (returns : n.awaitRestart messages = some started) : started.seat = n.seat := by
  induction messages generalizing n with
  | nil => cases returns
  | cons message rest ih =>
    cases message with
    | sessionClosed => cases returns
    | gameStart => cases returns; rfl
    | _ => exact (ih returns).trans (adoptRoster_seat n _)

/-- A new run changes neither. -/
theorem replayPhase_seat {n n' : Node} {waiting starting : List ServerMessage} {now : ℚ}
    {lobbyHost : Ip} (returns : n.replayPhase waiting starting now lobbyHost = some n') :
    n'.seat = n.seat := by
  unfold replayPhase at returns
  split at returns
  · simp only [replayLobbyPhase] at returns
    split at returns
    · cases returns
    · obtain ⟨⟨started, drained⟩, hstarted, rfl⟩ := Option.map_eq_some_iff.mp returns
      calc _ = (drained.foldl adoptRoster started).seat := rfl
        _ = started.seat := foldl_adoptRoster_seat started drained
        _ = (waiting.foldl adoptRoster n).seat := awaitGameStart_seat hstarted
        _ = n.seat := foldl_adoptRoster_seat n waiting
  · obtain ⟨started, hstarted, rfl⟩ := Option.map_eq_some_iff.mp returns
    calc _ = started.seat := rfl
      _ = n.seat := awaitRestart_seat hstarted

theorem awaitSessionCreated_seated {n created : Node} {messages rest : List ServerMessage}
    (name : n.localPlayerId = hostPlayerId) (saved : n.rejoinStates = ∅)
    (seats : ∀ m ∈ messages, m.Seats)
    (returns : n.awaitSessionCreated messages = some (created, rest)) : created.Seated := by
  induction messages generalizing n with
  | nil => cases returns
  | cons message rest' ih =>
    rw [List.forall_mem_cons] at seats
    have hother (message : ServerMessage)
        (returns : (n.adoptRoster message).awaitSessionCreated rest' = some (created, rest)) :
        created.Seated := by
      have hsame := adoptRoster_seat n message
      simp only [seat, identity, Prod.mk.injEq] at hsame
      exact ih (hsame.1.1.trans name) (hsame.2.trans saved) seats.2 returns
    cases message with
    | sessionJoinRejected => cases returns
    | sessionCreated sessionId joinIndex =>
      obtain rfl : joinIndex = 0 := seats.1
      cases returns
      refine ⟨show 0 < maxPlayers by decide, ?_, by simp [saved]⟩
      change n.localPlayerId = playerIdFor (0 : ℕ)
      rw [name]
      rfl
    | _ => exact hother _ returns

theorem hostLobbyPhase_seated {level : Level} {localIp : Ip} {n' : Node}
    {waiting starting : List ServerMessage} (seats : ∀ m ∈ waiting, m.Seats) {now : ℚ}
    {lobbyHost : Ip}
    (returns : (bootstrap level .host localIp).hostLobbyPhase waiting starting now lobbyHost =
      some n') : n'.Seated := by
  obtain ⟨⟨created, rest⟩, hcreated, hrest⟩ := Option.bind_eq_some_iff.mp returns
  have hseated := awaitSessionCreated_seated rfl rfl seats hcreated
  dsimp only at hrest
  split at hrest
  · cases hrest
  · obtain ⟨⟨started, drained⟩, hstarted, rfl⟩ := Option.map_eq_some_iff.mp hrest
    refine hseated.of_seat ?_
    calc _ = (drained.foldl adoptRoster started).seat := rfl
      _ = started.seat := foldl_adoptRoster_seat started drained
      _ = (rest.foldl adoptRoster created).seat := awaitGameStart_seat hstarted
      _ = created.seat := foldl_adoptRoster_seat created rest

/-- A client in the lobby. It has its slot when its join is acknowledged. -/
structure LobbyClientSeated (c : LobbyClient) : Prop where
  saved : c.node.rejoinStates = ∅
  seated : c.progress = .waiting ∨ c.progress = .started → c.node.Seated

theorem LobbyClientSeated.poll {c : LobbyClient} (h : LobbyClientSeated c) (sessionId : String)
    {m : ServerMessage} (seats : m.Seats) : LobbyClientSeated (c.poll sessionId m) := by
  have hadopt (roster : GlobalRoster) : LobbyClientSeated (c.adopt roster) :=
    ⟨h.saved, fun hin => (h.seated hin).of_seat rfl⟩
  have hleft {progress : LobbyProgress} (ended : ¬ (progress = .waiting ∨ progress = .started)) :
      LobbyClientSeated { c with progress := progress } := ⟨h.saved, fun hin => absurd hin ended⟩
  cases hprogress : c.progress with
  | joining =>
    rw [LobbyClient.poll, hprogress]
    cases m with
    | rosterUpdate roster => exact hadopt roster
    | sessionJoinRejected _ reason => exact hleft (by simp)
    | sessionJoined joinIndex =>
      obtain ⟨hnonneg, hlt⟩ : IsSlot joinIndex := seats
      refine ⟨h.saved, fun _ => ⟨?_, ?_, ?_⟩⟩
      · change joinIndex.toNat < maxPlayers
        omega
      · change playerIdFor joinIndex = playerIdFor (joinIndex.toNat : ℕ)
        rw [Int.toNat_of_nonneg hnonneg]
      · simp [LobbyClient.pollLobby, h.saved]
    | _ => exact h
  | waiting =>
    rw [LobbyClient.poll, hprogress]
    have hseated := h.seated (.inl hprogress)
    cases m with
    | rosterUpdate roster => exact hadopt roster
    | gameStart started => exact ⟨h.saved, fun _ => ⟨hseated.slot, hseated.name, hseated.saved⟩⟩
    | sessionClosed _ => exact hleft (by simp)
    | _ => exact h
  | _ =>
    rw [LobbyClient.poll, hprogress]
    exact h

/-- The same client, or one that has been given another player id and slot and has not joined. -/
def LobbyClientResembles (c c' : LobbyClient) : Prop :=
  c' = c ∨ (¬ (c.progress = .waiting ∨ c.progress = .started) ∧ c'.progress = c.progress ∧
    ∃ playerId joinIndex,
      c'.node = { c.node with localPlayerId := playerId, joinIndex := joinIndex })

theorem LobbyClientResembles.poll {c c' : LobbyClient} (h : LobbyClientResembles c c')
    (sessionId : String) (m : ServerMessage) :
    LobbyClientResembles (c.poll sessionId m) (c'.poll sessionId m) := by
  obtain rfl | ⟨houtside, hprogress, playerId, joinIndex, hnode⟩ := h
  · exact .inl rfl
  obtain ⟨node, progress⟩ := c
  obtain ⟨node', progress'⟩ := c'
  dsimp only at houtside hprogress hnode
  subst hprogress hnode
  cases progress' with
  | joining =>
    cases m with
    | sessionJoined i => exact .inl rfl
    | sessionJoinRejected _ reason => exact .inr ⟨by simp [LobbyClient.poll, LobbyClient.pollLobby],
        rfl, playerId, joinIndex, rfl⟩
    | _ => exact .inr ⟨houtside, rfl, playerId, joinIndex, rfl⟩
  | waiting | started => exact absurd (by simp) houtside
  | _ => exact .inr ⟨houtside, rfl, playerId, joinIndex, rfl⟩

/-- What `main` has given a client is overwritten when its join is acknowledged, so the phase
returns with the same node without it. -/
theorem clientLobbyPhase_resumed (n : Node) (playerId : PlayerId) (joinIndex : ℕ)
    (sessionId : String) (waiting : List ServerMessage) (now : ℚ) (lobbyHost : Ip) :
    ({ n with localPlayerId := playerId, joinIndex := joinIndex } : Node).clientLobbyPhase sessionId
      waiting now lobbyHost = n.clientLobbyPhase sessionId waiting now lobbyHost := by
  have hpolled (c c' : LobbyClient) (h : LobbyClientResembles c c') :
      LobbyClientResembles (waiting.foldl (LobbyClient.poll sessionId) c)
        (waiting.foldl (LobbyClient.poll sessionId) c') := by
    induction waiting generalizing c c' with
    | nil => exact h
    | cons m rest ih => exact ih _ _ (h.poll sessionId m)
  have hgiven := hpolled { node := n }
    { node := { n with localPlayerId := playerId, joinIndex := joinIndex } }
    (.inr ⟨by simp, rfl, playerId, joinIndex, rfl⟩)
  simp only [Node.clientLobbyPhase]
  obtain heq | ⟨houtside, hprogress, -⟩ := hgiven
  · rw [heq]
  · rw [hprogress]
    cases hended : (waiting.foldl (LobbyClient.poll sessionId) { node := n }).progress <;>
      simp_all

/-- Whoever has entered the game has a slot, and the player id that belongs to it. -/
theorem lobbyPhase_seated {level : Level} {role : PlayerRole} {localIp : Ip} {n' : Node}
    {sessionId : String} {waiting starting : List ServerMessage} (seats : ∀ m ∈ waiting, m.Seats)
    {now : ℚ} {lobbyHost : Ip}
    (returns : (bootstrap level role localIp).lobbyPhase sessionId waiting starting now lobbyHost =
      some n') : n'.Seated := by
  cases role with
  | host => exact hostLobbyPhase_seated seats returns
  | client =>
    change Node.clientLobbyPhase _ sessionId waiting now lobbyHost = some n' at returns
    have hpolled : LobbyClientSeated
        (waiting.foldl (LobbyClient.poll sessionId) { node := bootstrap level .client localIp }) :=
      foldl_keeps (P := LobbyClientSeated) (fun c m hm hc => hc.poll sessionId (seats m hm))
        ⟨rfl, fun hprogress => by rcases hprogress with h | h <;> cases h⟩
    simp only [Node.clientLobbyPhase] at returns
    split at returns
    case h_1 hstarted =>
      cases returns
      exact (hpolled.seated (.inr hstarted)).of_seat rfl
    case h_2 => cases returns

end Node

/-! ## What is stored -/

/-- The document names a session, a slot with the player that it belongs to, and peers that can be
shown. -/
structure SessionMetadata.Usable (m : SessionMetadata) : Prop where
  session : m.sessionId ≠ ""
  slot : ∃ i, m.joinIndex = some i ∧ IsSlot i ∧ m.localPlayerId = playerIdFor i
  peers : CachedPeer.Usable m.peers

/-- The document names the session, the player and the slot of this node. -/
def SessionMetadata.Names (m : SessionMetadata) (n : Node) : Prop :=
  m.sessionId = n.sessionId ∧ m.localPlayerId = n.localPlayerId ∧
    m.joinIndex = some (n.joinIndex : ℤ)

theorem SessionMetadata.Names.of_identity {m : SessionMetadata} {n n' : Node} (h : m.Names n)
    (same : n'.identity = n.identity) : m.Names n' := by
  simp only [Node.identity, Prod.mk.injEq] at same
  obtain ⟨hname, -, hsession, hslot⟩ := same
  exact ⟨h.1.trans hsession.symm, h.2.1.trans hname.symm, by rw [h.2.2, hslot]⟩

theorem Node.sessionMetadata_names (n : Node) : n.sessionMetadata.Names n := ⟨rfl, rfl, rfl⟩

theorem Node.Seated.isSlot {n : Node} (h : n.Seated) : IsSlot n.joinIndex :=
  ⟨Int.natCast_nonneg _, Int.ofNat_lt.mpr h.slot⟩

theorem Node.sessionMetadata_usable {n : Node} (seated : n.Seated) (sound : n.Sound) :
    n.sessionMetadata.Usable where
  session := sound.session
  slot := ⟨n.joinIndex, rfl, seated.isSlot, seated.name⟩
  peers := by
    have hpeers : ∀ e ∈ n.peers, e ∈ n.roster.players := fun e he => (mem_peers.mp he).1
    refine ⟨fun p hp => ?_, ?_⟩
    · obtain ⟨e, he, rfl⟩ := List.mem_map.mp hp
      have hnamed := sound.roster.entries e (hpeers e he)
      exact ⟨hnamed.id, hnamed.host, Int.natCast_nonneg _⟩
    · have hindices : n.sessionMetadata.peers.map CachedPeer.joinIndex =
          (n.peers.map RosterEntry.joinIndex).map Int.ofNat := by
        simp [Node.sessionMetadata, Function.comp_def]
      rw [hindices]
      have hall : (n.roster.getAllPlayers.map RosterEntry.joinIndex).Nodup :=
        ((List.perm_insertionSort _ _).map _).nodup_iff.mpr sound.roster.distinct
      exact (hall.sublist (List.filter_sublist.map _)).map Int.ofNat_injective

section
variable {text : DocumentText} {py : Numerals} {json : JsonText} {runtime : Runtime}
  {m : SessionMetadata}

/-- A document that the text keeps is read back as it was written. -/
theorem SessionMetadata.Usable.read (h : m.Usable) (lossless : text.Lossless m.asdict) :
    readSessionMetadata text py (writeSessionMetadata text m) = .ok (some m) := by
  obtain ⟨i, hindex, hslot, hname⟩ := h.slot
  have hparse : SessionMetadata.parse py m.asdict = .ok (some m) :=
    parse_eq_some_iff.mpr (describes_asdict hindex hslot hname)
  rw [writeSessionMetadata, readSessionMetadata, text.load_toUTF8, lossless, ok_bind, hparse]

/-- Recovery raises nothing, whatever is answered. -/
theorem SessionMetadata.Usable.recovers (h : m.Usable) (lossless : text.Lossless m.asdict)
    (localIp : Ip) (closed : Bool) (replies : CachedPeer → Option ByteArray) :
    ∃ attempt, tryRecoverSession text py json runtime (writeSessionMetadata text m) localIp closed
      replies = .ok attempt := by
  obtain ⟨roster, hroster⟩ := exists_cachedRoster_iff.mpr h.peers
  simp only [tryRecoverSession, h.read lossless, ok_bind, hroster]
  split
  · exact ⟨_, rfl⟩
  · split <;> exact ⟨_, rfl⟩

/-- What recovery returns with, if the replies up to the first that names the host are readable. -/
def SessionMetadata.recovery (m : SessionMetadata) (json : JsonText) (runtime : Runtime)
    (replies : CachedPeer → Option ByteArray) : RecoveryAttempt :=
  match (m.peers.map replies).findSome? (hostNamed json runtime m.sessionId) with
  | some hostIp => { found := some (hostIp, m.sessionId) }
  | none => { deletes := true }

theorem SessionMetadata.Usable.finds (h : m.Usable) (lossless : text.Lossless m.asdict)
    {localIp : Ip} (address : localIp ≠ "") {replies : CachedPeer → Option ByteArray}
    (readable : UpToFirst (fun reply => hostNamed json runtime m.sessionId reply = none)
      (ReplyReadable json runtime) (m.peers.map replies)) :
    tryRecoverSession text py json runtime (writeSessionMetadata text m) localIp false replies =
      .ok (m.recovery json runtime replies) := by
  obtain ⟨roster, hroster⟩ := exists_cachedRoster_iff.mpr h.peers
  have hprobe := findCurrentHost_eq_iff.mpr ⟨fun _ => ⟨h.session, address⟩, readable⟩
  simp only [tryRecoverSession, h.read lossless, ok_bind, hroster, hprobe, SessionMetadata.recovery]
  cases (m.peers.map replies).findSome? (hostNamed json runtime m.sessionId) <;> rfl

/-- A client that is started for the session asks for the slot, and its request passes its check. -/
theorem SessionMetadata.Usable.joins (h : m.Usable) (lossless : text.Lossless m.asdict)
    {localIp : Ip} {port : ℕ} (address : ValidAddress localIp port) :
    joinRequest text py (writeSessionMetadata text m) m.sessionId localIp port =
      .ok ⟨m.sessionId, m.localPlayerId, localIp, port, m.joinIndex⟩ := by
  obtain ⟨i, hindex, hslot, hname⟩ := h.slot
  have hresumed : resumedPlayer text py (writeSessionMetadata text m) m.sessionId =
      .ok (m.localPlayerId, some i) := by
    simp [resumedPlayer, if_neg h.session, h.read lossless, ok_bind, Option.filter, hindex]
  have hplayer : m.localPlayerId ≠ "" := hname ▸ playerIdFor_ne_empty i
  have hport : requireLobbyPort port = .ok () := by
    rw [requireLobbyPort, requirePort, if_pos address.2]
  simp only [joinRequest, hresumed, ok_bind, hindex, SessionJoin.checked,
    requireText_succeeds _ hplayer, hport, requireText_succeeds _ h.session,
    requireText_succeeds _ address.1, requireSlot, require, if_pos hslot, if_pos hname]

end

/-! ## Crashes -/

/-- The processes of a session, and the document that is stored in the directory of each. -/
structure CrashingSession (ι : Type) where
  session : RunningSession ι := {}
  stored : ι → Option SessionMetadata := fun _ => none

/-- A step of the session; a process leaves it on purpose; a new process looks for the session of
its directory. -/
inductive CrashingStep (ι : Type) where
  | play (x : SessionStep ι)
  | leave (i : ι)
  | recover (i : ι) (localIp : Ip) (closed : Bool) (replies : CachedPeer → Option ByteArray)

def SessionStep.process : SessionStep ι → ι
  | enter i .. | replay i .. | frame i _ | sendRaises i .. | crash i => i

/-- The step ends the process and leaves its directory as it is. -/
def SessionStep.Ends (i : ι) : SessionStep ι → Prop
  | crash j | sendRaises j .. => j = i
  | enter .. | replay .. | frame .. => False

def CrashingStep.process : CrashingStep ι → ι
  | play x => x.process
  | leave i | recover i .. => i

namespace CrashingSession

def file (text : DocumentText) (s : CrashingSession ι) (i : ι) : StoredFile :=
  match s.stored i with
  | some m => writeSessionMetadata text m
  | none => .missing

/-- A lobby phase writes the document when it returns, and deletes it when it is given up. -/
def writes (s : CrashingSession ι) (session : RunningSession ι) :
    SessionStep ι → Option (ι × Option SessionMetadata)
  | .enter i .. => some (i, (session.nodes i).map Node.sessionMetadata)
  | .replay i .. => (s.session.nodes i).map fun _ => (i, (session.nodes i).map Node.sessionMetadata)
  | .frame .. | .sendRaises .. | .crash _ => none

variable [DecidableEq ι]

def store (s : CrashingSession ι) (i : ι) (m : Option SessionMetadata) : CrashingSession ι :=
  { s with stored := Function.update s.stored i m }

@[simp] theorem store_session (s : CrashingSession ι) (i : ι) (m : Option SessionMetadata) :
    (s.store i m).session = s.session := rfl
@[simp] theorem store_stored_self (s : CrashingSession ι) (i : ι) (m : Option SessionMetadata) :
    (s.store i m).stored i = m := Function.update_self _ _ _
theorem store_stored_ne (s : CrashingSession ι) {i j : ι} (h : j ≠ i) (m : Option SessionMetadata) :
    (s.store i m).stored j = s.stored j := Function.update_of_ne h _ _

def step (text : DocumentText) (py : Numerals) (json : JsonText) (runtime : Runtime) (level : Level)
    (s : CrashingSession ι) : CrashingStep ι → Except PyError (CrashingSession ι)
  | .play x => do
    let session ← s.session.step level x
    let played := { s with session := session }
    match s.writes session x with
    | some (i, m) => .ok (played.store i m)
    | none => .ok played
  | .leave i => .ok ({ s with session := s.session.withNode i none }.store i none)
  | .recover i localIp closed replies =>
    match s.session.nodes i with
    | some _ => .ok s
    | none => do
      let attempt ← tryRecoverSession text py json runtime (s.file text i) localIp closed replies
      .ok (if attempt.deletes then s.store i none else s)

def run (text : DocumentText) (py : Numerals) (json : JsonText) (runtime : Runtime) (level : Level)
    (s : CrashingSession ι) (steps : List (CrashingStep ι)) : Except PyError (CrashingSession ι) :=
  steps.foldlM (step text py json runtime level) s

/-! ### Runs -/

/-- Some lobby has sent this message to somebody. -/
def SentByLobby (κ : Type) [DecidableEq κ] (message : ServerMessage) : Prop :=
  ∃ (steps : List (LobbyStep κ)) (ws : κ), .sent ws message ∈ (Lobby.run {} steps).log

theorem SentByLobby.seats [DecidableEq κ] {message : ServerMessage} (h : SentByLobby κ message) :
    message.Seats := by
  obtain ⟨steps, ws, hsent⟩ := h
  exact (Lobby.run_seats steps).sent ws message hsent

/-- What a process polls in its first lobby phase is a lobby's. -/
def Greeted (κ : Type) [DecidableEq κ] : SessionStep ι → Prop
  | .enter _ _ _ _ waiting _ _ _ => ∀ m ∈ waiting, SentByLobby κ m
  | .replay .. | .frame .. | .sendRaises .. | .crash _ => True

/-- The documents that are stored are kept by their text. -/
def Possible (κ : Type) [DecidableEq κ] (text : DocumentText) (json : JsonText) (runtime : Runtime)
    (s : CrashingSession ι) : CrashingStep ι → Prop
  | .play x => s.session.Possible κ json runtime x ∧ Greeted κ x
  | .leave _ => True
  | .recover i .. => ∀ m ∈ s.stored i, text.Lossless m.asdict

/-- Every process in the game has its slot, and is named by what is stored in its directory. -/
structure Kept (s : CrashingSession ι) : Prop where
  sound : s.session.Sound
  seated : ∀ i, ∀ n ∈ s.session.nodes i, n.Seated
  usable : ∀ i, ∀ m ∈ s.stored i, m.Usable
  named : ∀ i, ∀ n ∈ s.session.nodes i, ∃ m ∈ s.stored i, m.Names n

omit [DecidableEq ι] in
theorem kept_empty : ({} : CrashingSession ι).Kept where
  sound := ⟨fun _ _ hnone => (nomatch hnone), fun _ hnone => nomatch hnone⟩
  seated := fun _ _ hnone => nomatch hnone
  usable := fun _ _ hnone => nomatch hnone
  named := fun _ _ hnone => nomatch hnone

/-- A frame of one process leaves the others alone. -/
theorem frame_others {s s' : RunningSession ι} {i j : ι} (other : j ≠ i) {found : FrameInput}
    (h : s.frame i found = .ok s') : s'.nodes j = s.nodes j := by
  unfold RunningSession.frame at h
  split at h
  · cases h; rfl
  · obtain ⟨n', -, h⟩ := bind_eq_ok.mp h
    cases h
    exact Function.update_of_ne other _ _

theorem play_others {level : Level} {s s' : RunningSession ι} {x : SessionStep ι} {j : ι}
    (other : j ≠ x.process) (h : s.step level x = .ok s') : s'.nodes j = s.nodes j := by
  cases x with
  | enter | replay | crash => cases h; exact Function.update_of_ne other _ _
  | frame i found => exact frame_others other h
  | sendRaises i found gone =>
    obtain ⟨after, hframe, h⟩ := bind_eq_ok.mp h
    cases h
    exact (Function.update_of_ne other _ _).trans (frame_others other hframe)

theorem processFrame_of_frame {s s' : RunningSession ι} {i : ι} {found : FrameInput} {n' : Node}
    (h : s.frame i found = .ok s') (hn' : n' ∈ s'.nodes i) :
    ∃ n ∈ s.nodes i, n.processFrame found = .ok n' := by
  unfold RunningSession.frame at h
  split at h
  case h_1 hnone =>
    cases h
    rw [hnone] at hn'
    cases hn'
  case h_2 n hn =>
    obtain ⟨m, hframe, h⟩ := bind_eq_ok.mp h
    cases h
    simp only [RunningSession.withNode, Function.update_self] at hn'
    cases hn'
    exact ⟨n, hn, hframe⟩

namespace Kept

variable {s : CrashingSession ι} (h : s.Kept)
include h

/-- A process enters the game, with its document, or is outside. -/
theorem puts (i : ι) {session : RunningSession ι} (sound : session.Sound)
    (others : ∀ j ≠ i, session.nodes j = s.session.nodes j)
    (seated : ∀ n ∈ session.nodes i, n.Seated) :
    (({ s with session := session } : CrashingSession ι).store i
      ((session.nodes i).map Node.sessionMetadata)).Kept where
  sound := sound
  seated := by
    intro j n hn
    by_cases hj : j = i
    · subst hj
      exact seated n hn
    · exact h.seated j n (others j hj ▸ hn)
  usable := by
    intro j m hm
    by_cases hj : j = i
    · subst hj
      rw [store_stored_self] at hm
      obtain ⟨n, hn, rfl⟩ := Option.map_eq_some_iff.mp hm
      exact Node.sessionMetadata_usable (seated n hn) (sound.nodes j n hn)
    · rw [store_stored_ne _ hj] at hm
      exact h.usable j m hm
  named := by
    intro j n hn
    by_cases hj : j = i
    · subst hj
      refine ⟨n.sessionMetadata, ?_, n.sessionMetadata_names⟩
      rw [store_stored_self]
      exact Option.map_eq_some_iff.mpr ⟨n, hn, rfl⟩
    · rw [store_stored_ne _ hj]
      exact h.named j n (others j hj ▸ hn)

/-- A process goes on under its name. -/
theorem goes (i : ι) {session : RunningSession ι} (sound : session.Sound)
    (others : ∀ j ≠ i, session.nodes j = s.session.nodes j)
    (goes : ∀ n' ∈ session.nodes i, ∃ n ∈ s.session.nodes i, n'.Seated ∧ n'.identity = n.identity) :
    ({ s with session := session } : CrashingSession ι).Kept where
  sound := sound
  seated := by
    intro j n' hn'
    by_cases hj : j = i
    · subst hj
      obtain ⟨n, -, hseated, -⟩ := goes n' hn'
      exact hseated
    · exact h.seated j n' (others j hj ▸ hn')
  usable := h.usable
  named := by
    intro j n' hn'
    by_cases hj : j = i
    · subst hj
      obtain ⟨n, hn, -, hsame⟩ := goes n' hn'
      obtain ⟨m, hm, hnames⟩ := h.named j n hn
      exact ⟨m, hm, hnames.of_identity hsame⟩
    · exact h.named j n' (others j hj ▸ hn')

/-- The document of a process that is not in the game is deleted. -/
theorem deletes {i : ι} (outside : s.session.nodes i = none) : (s.store i none).Kept := by
  have hputs := h.puts i h.sound (fun _ _ => rfl) fun n hn => h.seated i n hn
  rwa [outside] at hputs

variable [DecidableEq κ] {text : DocumentText} {py : Numerals} {json : JsonText} {runtime : Runtime}
  {level : Level}

theorem play (named : level.Named) {x : SessionStep ι}
    (possible : s.session.Possible κ json runtime x) (greeted : Greeted κ x) :
    Achieves Kept (s.step text py json runtime level (.play x)) := by
  obtain ⟨session, hstep, hsound⟩ := h.sound.step named possible
  have hothers (j : ι) (hj : j ≠ x.process) : session.nodes j = s.session.nodes j :=
    play_others hj hstep
  have hstep' := hstep
  simp only [step, hstep, ok_bind]
  cases x with
  | enter i role localIp sessionId waiting starting now lobbyHost =>
    cases hstep'
    refine achieves_ok (h.puts i hsound hothers fun n hn => ?_)
    simp only [RunningSession.withNode, Function.update_self] at hn
    exact Node.lobbyPhase_seated (fun m hm => (greeted m hm).seats) hn
  | replay i waiting starting now lobbyHost =>
    cases hstep'
    cases hbefore : s.session.nodes i with
    | none =>
      rw [hbefore] at hsound hothers
      simp only [writes, hbefore, Option.map_none]
      refine achieves_ok (h.goes i hsound hothers fun n hn => ?_)
      simp [RunningSession.withNode] at hn
    | some before =>
      rw [hbefore] at hsound hothers
      simp only [writes, hbefore, Option.map_some]
      refine achieves_ok (h.puts i hsound hothers fun n hn => ?_)
      simp only [RunningSession.withNode, Function.update_self, Option.bind_some] at hn
      exact (h.seated i before hbefore).of_seat (Node.replayPhase_seat hn)
  | frame i found =>
    refine achieves_ok (h.goes i hsound hothers fun m hm => ?_)
    obtain ⟨n, hn, hframe⟩ := processFrame_of_frame hstep' hm
    exact ⟨n, hn, (h.seated i n hn).processFrame (h.sound.nodes i n hn) (h.sound.finds possible)
      hframe⟩
  | sendRaises i found gone =>
    obtain ⟨after, hframe, hstep'⟩ := bind_eq_ok.mp hstep'
    cases hstep'
    refine achieves_ok (h.goes i hsound hothers fun n hn => ?_)
    simp [RunningSession.withNode] at hn
  | crash i =>
    cases hstep'
    refine achieves_ok (h.goes i hsound hothers fun n hn => ?_)
    simp [RunningSession.withNode] at hn

theorem step (named : level.Named) {x : CrashingStep ι}
    (possible : s.Possible κ text json runtime x) :
    Achieves Kept (s.step text py json runtime level x) := by
  cases x with
  | play x => exact h.play named possible.1 possible.2
  | leave i =>
    have hout := h.goes i (h.sound.withNode i (n := none) fun _ hnone => nomatch hnone)
      (fun j hj => Function.update_of_ne hj _ _) fun n hn => by
        simp [RunningSession.withNode] at hn
    exact achieves_ok (hout.deletes (Function.update_self _ _ _))
  | recover i localIp closed replies =>
    simp only [CrashingSession.step]
    split
    · exact achieves_ok h
    case h_2 outside =>
      obtain ⟨attempt, hattempt⟩ : ∃ attempt, tryRecoverSession text py json runtime (s.file text i)
          localIp closed replies = .ok attempt := by
        unfold file
        split
        case h_1 m hm => exact (h.usable i m hm).recovers (possible m hm) localIp closed replies
        case h_2 => exact ⟨{}, rfl⟩
      rw [hattempt]
      refine achieves_ok ?_
      split
      · exact h.deletes outside
      · exact h

end Kept

variable [DecidableEq κ] {text : DocumentText} {py : Numerals} {json : JsonText} {runtime : Runtime}
  {level : Level}

theorem run_kept (named : level.Named) {steps : List (CrashingStep ι)}
    (possible : Along (step text py json runtime level) (Possible κ text json runtime) {} steps) :
    Achieves Kept (run text py json runtime level {} steps) :=
  possible.achieves (fun _ _ hs hx => hs.step named hx) kept_empty

/-- A process and its directory are left alone by the steps of the others. -/
theorem step_others {s s' : CrashingSession ι} {x : CrashingStep ι} {i : ι} (other : x.process ≠ i)
    (h : s.step text py json runtime level x = .ok s') :
    s'.stored i = s.stored i ∧ s'.session.nodes i = s.session.nodes i := by
  cases x with
  | play x =>
    obtain ⟨session, hsession, h⟩ := bind_eq_ok.mp h
    have hnodes : session.nodes i = s.session.nodes i := play_others (Ne.symm other) hsession
    have hwriter : ∀ w ∈ s.writes session x, w.1 = x.process := by
      cases x <;> simp [writes, SessionStep.process]
    split at h
    case h_1 j m hwrites =>
      cases h
      obtain rfl : j = x.process := hwriter (j, m) hwrites
      exact ⟨store_stored_ne _ (Ne.symm other) m, hnodes⟩
    case h_2 =>
      cases h
      exact ⟨rfl, hnodes⟩
  | leave j =>
    cases h
    exact ⟨store_stored_ne _ (Ne.symm other) _, Function.update_of_ne (Ne.symm other) _ _⟩
  | recover j localIp closed replies =>
    simp only [step] at h
    split at h
    · cases h
      exact ⟨rfl, rfl⟩
    · obtain ⟨attempt, -, h⟩ := bind_eq_ok.mp h
      cases h
      split
      · exact ⟨store_stored_ne _ (Ne.symm other) _, rfl⟩
      · exact ⟨rfl, rfl⟩

/-- A process that ends leaves its directory as it was. -/
theorem step_ends {s s' : CrashingSession ι} {x : SessionStep ι} {i : ι} (ends : x.Ends i)
    (h : s.step text py json runtime level (.play x) = .ok s') :
    s'.stored i = s.stored i ∧ s'.session.nodes i = none := by
  obtain ⟨session, hsession, h⟩ := bind_eq_ok.mp h
  cases x with
  | crash j =>
    obtain rfl : j = i := ends
    cases hsession
    cases h
    exact ⟨rfl, Function.update_self _ _ _⟩
  | sendRaises j found gone =>
    obtain rfl : j = i := ends
    obtain ⟨after, -, hsession⟩ := bind_eq_ok.mp hsession
    cases hsession
    cases h
    exact ⟨rfl, Function.update_self _ _ _⟩
  | _ => exact ends.elim

/-- What a new process does with the file of a process that crashed as this node: it finds the
session of the node if a peer that answers names a host, it asks the lobby for the node's slot, and
a lobby gives it that slot if it is reserved there, and refuses it otherwise. -/
structure Resumes (κ : Type) [DecidableEq κ] (text : DocumentText) (py : Numerals) (json : JsonText)
    (runtime : Runtime) (n : Node) (peers : List CachedPeer) (file : StoredFile) : Prop where
  finds : ∀ localIp ≠ "", ∀ replies : CachedPeer → Option ByteArray,
    UpToFirst (fun reply => hostNamed json runtime n.sessionId reply = none)
      (ReplyReadable json runtime) (peers.map replies) →
    tryRecoverSession text py json runtime file localIp false replies =
      .ok (match (peers.map replies).findSome? (hostNamed json runtime n.sessionId) with
        | some hostIp => { found := some (hostIp, n.sessionId) }
        | none => { deletes := true })
  joins : ∀ localIp port, ValidAddress localIp port →
    joinRequest text py file n.sessionId localIp port =
      .ok ⟨n.sessionId, n.localPlayerId, localIp, port, some (n.joinIndex : ℤ)⟩
  answered : ∀ localIp port, ValidAddress localIp port → ∀ (steps : List (LobbyStep κ)) (ws : κ)
    (uuid : String), ((Lobby.run {} steps).handlers ws).status = .receiving →
    let reserved := ∃ r ∈ (Lobby.run {} steps).manager.sessions.get? n.sessionId,
      (n.joinIndex : ℤ) ∈ r.reservedJoinIndices
    let answer := (Lobby.run {} steps).step (.receive ws (.sessionJoin
      ⟨n.sessionId, n.localPlayerId, localIp, port, some (n.joinIndex : ℤ)⟩) uuid)
    (reserved → answer.log = (Lobby.run {} steps).log ++
      [.accepted ws n.sessionId n.joinIndex, .sent ws (.sessionJoined n.joinIndex)]) ∧
    (¬ reserved → ∃ reason, answer.log = (Lobby.run {} steps).log ++
      [.sent ws (.sessionJoinRejected n.sessionId reason)])

/-- A process that crashes, in a frame or between two, leaves a document behind, and whatever the
others go through afterwards, the next process of its directory comes back for the session and the
slot that it had. -/
theorem crashed_process_resumes (named : level.Named) {before later : List (CrashingStep ι)}
    {x : SessionStep ι} {i : ι} (ends : x.Ends i)
    (possible : Along (step text py json runtime level) (Possible κ text json runtime) {}
      (before ++ .play x :: later))
    (others : ∀ x ∈ later, x.process ≠ i) {s : CrashingSession ι}
    (reached : run text py json runtime level {} before = .ok s) {n : Node}
    (playing : s.session.nodes i = some n) (lossless : ∀ m ∈ s.stored i, text.Lossless m.asdict) :
    ∃ s' peers, run text py json runtime level {} (before ++ .play x :: later) = .ok s' ∧
      s'.session.nodes i = none ∧ Resumes κ text py json runtime n peers (s'.file text i) := by
  obtain ⟨s', hrun, -⟩ := run_kept named possible
  obtain ⟨hearlier, hlater⟩ := (along_append reached).mp possible
  obtain ⟨s₀, hs₀, hkept⟩ := run_kept named hearlier
  obtain rfl : s₀ = s := Except.ok.inj (hs₀.symm.trans reached)
  obtain ⟨m, hm, hnames⟩ := hkept.named i n playing
  have hafter : run text py json runtime level s₀ (.play x :: later) = .ok s' := by
    rw [run, List.foldlM_append] at hrun
    obtain ⟨s₁, hs₁, hafter⟩ := bind_eq_ok.mp hrun
    obtain rfl : s₁ = s₀ := Except.ok.inj (hs₁.symm.trans reached)
    exact hafter
  rw [run, List.foldlM_cons] at hafter
  obtain ⟨crashed, hcrash, hafter⟩ := bind_eq_ok.mp hafter
  obtain ⟨hstored, hgone⟩ := step_ends ends hcrash
  -- the others leave the document as it is
  have hleft : s'.stored i = some m ∧ s'.session.nodes i = none :=
    foldlM_keeps (P := fun s : CrashingSession ι => s.stored i = some m ∧ s.session.nodes i = none)
      (fun _ x _ hx hs hstep => by
        obtain ⟨hstored, hnodes⟩ := step_others (others x hx) hstep
        exact ⟨hstored.trans hs.1, hnodes.trans hs.2⟩)
      hafter ⟨hstored.trans hm, hgone⟩
  refine ⟨s', m.peers, hrun, hleft.2, ?_⟩
  have hfile : s'.file text i = writeSessionMetadata text m := by simp only [file, hleft.1]
  have husable := hkept.usable i m hm
  have hlossless := lossless m hm
  rw [hfile]
  obtain ⟨hsession, hplayer, hslot⟩ := hnames
  have hjoins (localIp : Ip) (port : ℕ) (haddress : ValidAddress localIp port) :
      joinRequest text py (writeSessionMetadata text m) n.sessionId localIp port =
        .ok ⟨n.sessionId, n.localPlayerId, localIp, port, some (n.joinIndex : ℤ)⟩ := by
    rw [← hsession, husable.joins hlossless haddress, hplayer, hslot]
  refine ⟨fun localIp haddress replies hreadable => ?_, hjoins,
    fun localIp port haddress steps ws uuid ready => ?_⟩
  · rw [← hsession] at hreadable ⊢
    exact husable.finds hlossless haddress hreadable
  · obtain ⟨⟨playerId, rejoinJoinIndex⟩, -, hchecked⟩ :=
      bind_eq_ok.mp (hjoins localIp port haddress)
    cases (SessionJoin.checked_spec hchecked).1
    exact Lobby.step_rejoin (Lobby.run_slotsHold steps) ready hchecked rfl uuid

/-! ### A guest that crashes -/

def roomGuest : SessionMetadata := ⟨"room", "player2", [⟨"player1", "10.0.0.1", 0⟩], some 1⟩

def roomHost : SessionMetadata := ⟨"room", "player1", [⟨"player2", "10.0.0.2", 1⟩], some 0⟩

def roomGuestText : String :=
  "\x7b\"session_id\": \"room\", \"local_player_id\": \"player2\", \"peers\": " ++
    "[\x7b\"player_id\": \"player1\", \"ip\": \"10.0.0.1\", \"join_index\": 0\x7d], " ++
    "\"join_index\": 1\x7d"

def roomHostText : String :=
  "\x7b\"session_id\": \"room\", \"local_player_id\": \"player1\", \"peers\": " ++
    "[\x7b\"player_id\": \"player2\", \"ip\": \"10.0.0.2\", \"join_index\": 1\x7d], " ++
    "\"join_index\": 0\x7d"

/-- The texts of these two documents. -/
def roomText : DocumentText where
  dumps
    | .dict (_ :: ("local_player_id", .str "player1") :: _) => roomHostText
    | _ => roomGuestText
  loads string := .ok (if string = roomHostText then roomHost.asdict else roomGuest.asdict)
  loads_error _ _ h := by cases h

theorem roomGuest_lossless : roomText.Lossless roomGuest.asdict := rfl

/-- The guest of a running game has entered it, and crashes. -/
def guestPlays : List (CrashingStep ℕ) :=
  [.play (.enter 0 .host "10.0.0.1" ""
      [.sessionCreated "room" 0, .rosterUpdate RunningSession.guestRoom] [.gameStart "room"] 0
      "10.0.0.1"),
    .play (.enter 1 .client "10.0.0.2" "room"
      [.sessionJoined 1, .rosterUpdate RunningSession.guestRoom, .gameStart "room"] [] 0
      "10.0.0.1"),
    .play (.frame 0 { now := 1 }), .play (.frame 1 { now := 1 })]

def guestCrashes : List (CrashingStep ℕ) :=
  guestPlays ++ [.play (.crash 1), .play (.frame 0 { now := 2 })]

/-- The next process of the guest's directory finds the host, and joins again. -/
def guestReturns : List (CrashingStep ℕ) :=
  guestCrashes ++
    [.recover 1 "10.0.0.2" false fun _ => some hostResponseText.toUTF8,
      .play (.enter 1 .client "10.0.0.2" "room"
        [.sessionJoined 1, .rosterUpdate RunningSession.guestRoom, .gameStart "room"] [] 3
        "10.0.0.1")]

theorem roomMessage_sent {m : ServerMessage} (hm : m ∈ [.sessionCreated "room" 0, .sessionJoined 1,
      .rosterUpdate RunningSession.guestRoom, .gameStart "room"]) :
    RunningSession.Polled LobbyPeer m ∧ SentByLobby LobbyPeer m := by
  have hsent : ∃ ws, .sent ws m ∈ (Lobby.run {} startedRoom).log := by
    simp only [List.mem_cons, List.not_mem_nil, or_false] at hm
    rcases hm with rfl | rfl | rfl | rfl
    · exact ⟨.host, by decide +kernel⟩
    · exact ⟨.guest, by decide +kernel⟩
    · exact ⟨.host, by decide +kernel⟩
    · exact ⟨.host, by decide +kernel⟩
  have hchecked : m.validate = .ok () := by
    simp only [List.mem_cons, List.not_mem_nil, or_false] at hm
    rcases hm with rfl | rfl | rfl | rfl <;> rfl
  obtain ⟨ws, hsent⟩ := hsent
  refine ⟨⟨hchecked, ?_⟩, startedRoom, ws, hsent⟩
  rintro roster rfl
  exact ⟨startedRoom, ws, hsent⟩

theorem idleFrame_finds (s : RunningSession ℕ) (now : ℚ) :
    s.Finds LobbyPeer probeTexts strictRuntime { now := now } :=
  ⟨List.forall_mem_nil _, List.forall_mem_nil _, List.forall_mem_nil _,
    fun _ hnone => (nomatch hnone), List.forall_mem_nil _⟩

theorem guestCrashes_possible : Along (step roomText asciiNumerals probeTexts strictRuntime {})
    (Possible LobbyPeer roomText probeTexts strictRuntime) {} guestCrashes := by
  have hpolled {m : ServerMessage} (hm : m ∈ [.sessionCreated "room" 0, .sessionJoined 1,
      .rosterUpdate RunningSession.guestRoom, .gameStart "room"]) := roomMessage_sent hm
  refine ⟨⟨⟨by decide, nofun, fun m hm => (hpolled ?_).1⟩, fun m hm => (hpolled ?_).2⟩,
    fun s _ => ?_⟩
  · simp only [List.cons_append, List.nil_append, List.mem_cons] at hm ⊢
    tauto
  · simp only [List.mem_cons] at hm ⊢
    tauto
  refine ⟨⟨⟨by decide, fun _ => by decide, fun m hm => (hpolled ?_).1⟩, fun m hm => (hpolled ?_).2⟩,
    fun s _ => ?_⟩
  · simp only [List.append_nil, List.mem_cons] at hm ⊢
    tauto
  · simp only [List.mem_cons] at hm ⊢
    tauto
  exact ⟨⟨idleFrame_finds _ 1, trivial⟩, fun s _ => ⟨⟨idleFrame_finds _ 1, trivial⟩, fun s _ =>
    ⟨⟨trivial, trivial⟩, fun s _ => ⟨⟨idleFrame_finds _ 2, trivial⟩, fun _ _ => trivial⟩⟩⟩⟩

theorem guestPlays_reached : ∃ s n,
    run roomText asciiNumerals probeTexts strictRuntime {} {} guestPlays = .ok s ∧
      s.session.nodes 1 = some n ∧ s.stored 1 = some roomGuest ∧ n.sessionId = "room" ∧
      n.localPlayerId = "player2" ∧ n.joinIndex = 1 := by
  obtain ⟨s, hs, hreached⟩ := exists_of_okAnd
    (x := run roomText asciiNumerals probeTexts strictRuntime {} {} guestPlays)
    (p := fun s => s.stored 1 = some roomGuest ∧ (s.session.nodes 1).any fun n =>
      n.sessionId = "room" ∧ n.localPlayerId = "player2" ∧ n.joinIndex = 1) (by decide +kernel)
  obtain ⟨hstored, hnode⟩ := of_decide_eq_true hreached
  obtain ⟨n, hn, hn'⟩ := (Option.any_eq_true _ _).mp hnode
  obtain ⟨hsession, hname, hslot⟩ := of_decide_eq_true hn'
  exact ⟨s, n, hs, hn, hstored, hsession, hname, hslot⟩

/-- It asks for the slot that the guest had, and gets it from a lobby that has reserved it. -/
theorem guest_resumes : ∃ s,
    run roomText asciiNumerals probeTexts strictRuntime {} {} guestCrashes = .ok s ∧
      joinRequest roomText asciiNumerals (s.file roomText 1) "room" "10.0.0.2" 50011 =
        .ok ⟨"room", "player2", "10.0.0.2", 50011, some 1⟩ ∧
      ((Lobby.run {} reopenRoom).step
          (.receive .guest (.sessionJoin ⟨"room", "player2", "10.0.0.2", 50011, some 1⟩) "")).log =
        (Lobby.run {} reopenRoom).log ++
          [.accepted .guest "room" 1, .sent .guest (.sessionJoined 1)] := by
  obtain ⟨s, n, hs, hn, hstored, hsession, hname, hslot⟩ := guestPlays_reached
  obtain ⟨s', peers, hs', -, hresumes⟩ := crashed_process_resumes (κ := LobbyPeer)
    (x := .crash 1) (i := 1) Level.named_empty rfl
    guestCrashes_possible (by simp [CrashingStep.process, SessionStep.process]) hs hn fun m hm => by
      obtain rfl : roomGuest = m := Option.some.inj (hstored.symm.trans hm)
      exact roomGuest_lossless
  have address : ValidAddress "10.0.0.2" 50011 := ⟨by decide, by decide⟩
  have hjoins := hresumes.joins "10.0.0.2" 50011 address
  have hanswered := hresumes.answered "10.0.0.2" 50011 address reopenRoom .guest "" rfl
  rw [hsession, hname, hslot] at hjoins hanswered
  have reserved : ∃ r ∈ (Lobby.run {} reopenRoom).manager.sessions.get? "room",
      (1 : ℤ) ∈ r.reservedJoinIndices := by decide +kernel
  exact ⟨s', hs', hjoins, hanswered.1 reserved⟩

end CrashingSession

end DistributedSmb
