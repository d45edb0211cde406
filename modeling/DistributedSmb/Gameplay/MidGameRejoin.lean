import DistributedSmb.Gameplay.RejoinSession

/-!
# The environment of a client that rejoins

A rejoining client takes the host's world from a state sync, and what has happened since from the
relay. It has the host's environment if the loops of its lobby phase do not swallow the sync, and if
what happened before it was connected to the relay shows in the world that it takes.
-/

namespace DistributedSmb

open Library

variable {κ : Type}

theorem ServerMessage.world_eq_none {message : ServerMessage} (h : message.world = none)
    (w : WorldState) : message ≠ .initialStateSync w := by
  rintro rfl
  cases h

theorem LobbyClient.poll_node (c : LobbyClient) (sessionId : String)
    (message : ServerMessage) : (c.poll sessionId message).node.role = c.node.role ∧
      (c.poll sessionId message).node.engine = c.node.engine := by
  unfold LobbyClient.poll
  split
  · cases message <;> exact ⟨rfl, rfl⟩
  · cases message <;> exact ⟨rfl, rfl⟩
  · exact ⟨rfl, rfl⟩
  · exact ⟨rfl, rfl⟩
  · exact ⟨rfl, rfl⟩

theorem Node.rebuildWorldFromRoster_scene (n : Node) (now : ℚ) (lobbyHost : Ip) :
    (n.rebuildWorldFromRoster now lobbyHost).scene = n.scene :=
  Fallible.foldl_keeps
    (P := fun g : GameEngine => (g.worldState.environment, g.events, g.setting) = n.scene)
    (f := fun (g : GameEngine) (e : RosterEntry) =>
      g.spawnPlayer e.playerId (g.spawnPositionFor e.joinIndex) e.joinIndex)
    (fun _ _ _ hg => hg) rfl

namespace RejoinSession

variable [DecidableEq κ] (p : RejoinPeers κ)

/-! ## The invariant -/

/-- The client shows an environment that turns into the host's with the messages that the client
has not read yet, and its own events on top. -/
def Follows (level : Level) (s : RejoinSession κ) : Prop :=
  ∃ k ∈ s.heard, ∃ l : EnvLog, s.client.node.engine.log = l.replay level s.own ∧
    .levelReset ∉ s.own ∧ l.replay level (events (s.told.drop k)) = s.host.engine.log

/-- A world for the client is on its way, or it has taken one. -/
def Reaches (level : Level) (s : RejoinSession κ) : Prop :=
  s.toLobby ≠ [] ∨ s.lobby.view.Brings p.host p.client s.clientPolled ∨ s.Follows level

structure HostSide (level : Level) (first : EnvLog) (s : RejoinSession κ) : Prop where
  role : s.host.role = .host
  outbox : s.host.outbox = []
  queued : s.host.engine.events = []
  indexed : s.host.engine.worldState.environment.Indexed
  sameLevel : s.host.engine.level = level
  log : s.host.engine.log = first.replay level (events s.told)
  inGame : ∀ m ∈ s.told, m.InGame
  syncs : ∀ q ∈ s.syncs, q.2 ≤ s.told.length ∧ q.1.environment.Indexed ∧
    q.1.log = first.replay level (events (s.told.take q.2))

structure Transit (s : RejoinSession κ) : Prop where
  sent : ∀ w ∈ s.toLobby, w ∈ s.syncs.map Prod.fst
  lobby : s.lobby.view.Forwards p.client p.join.sessionId (· ∈ s.syncs.map Prod.fst)
  serves : s.lobby.Serves p.host p.join.sessionId
  relayed : s.relayed ≤ s.told.length
  heard : ∀ k ∈ s.heard, k ≤ s.told.length
  polled : s.clientPolled ≤ (inbox s.lobby.log p.client).length
  joined : s.announced = true → ∃ i, .accepted p.client p.join.sessionId i ∈ s.lobby.log

/-- As long as the client is not a host itself. -/
structure ClientSide (level : Level) (s : RejoinSession κ) : Prop where
  sameLevel : s.client.node.engine.level = level
  indexed : s.client.node.engine.worldState.environment.Indexed
  reaches : s.announced = true → .ended p.client ∉ s.lobby.log → s.Reaches p level

structure Inv (level : Level) (first : EnvLog) (s : RejoinSession κ) : Prop where
  host : s.HostSide level first
  transit : s.Transit p
  client : s.client.node.role = .client → s.ClientSide p level

variable {p} {level : Level} {first : EnvLog} {s s' : RejoinSession κ}

omit [DecidableEq κ] in
theorem HostSide.congr (h : s.HostSide level first) (host : s'.host = s.host)
    (told : s'.told = s.told) (syncs : s'.syncs = s.syncs) : s'.HostSide level first := by
  obtain ⟨role, outbox, queued, indexed, sameLevel, log, inGame, hsyncs⟩ := h
  rw [← host] at role outbox queued indexed sameLevel log
  rw [← told] at log inGame hsyncs
  rw [← syncs] at hsyncs
  exact ⟨role, outbox, queued, indexed, sameLevel, log, inGame, hsyncs⟩

omit [DecidableEq κ] in
theorem events_append (messages more : List WsMessage) :
    events (messages ++ more) = events messages ++ events more := List.filterMap_append

theorem start_inv (start : s.Start p level) : s.Inv p level s.host.engine.log := by
  obtain ⟨hsent, htold, hrelayed, hsyncs⟩ := start.nothingSent
  obtain ⟨hheard, hpolled, hannounced, -⟩ := start.nothingReceived
  refine ⟨?_, ?_, fun _ => ?_⟩
  · refine ⟨start.host, start.idle.1, start.idle.2, start.hostIndexed, start.levels.1, ?_, ?_, ?_⟩
    · rw [htold]
      rfl
    · simp [htold]
    · simp [hsyncs]
  · refine ⟨by simp [hsent], ?_, start.serves, by simp [hrelayed], by simp [hheard],
      by simp [hpolled], by simp [hannounced]⟩
    have hforwards : s.lobby.view.Forwards p.client p.join.sessionId fun _ => False :=
      ⟨start.tasks, fun _ hw => absurd hw (start.stranger.unsent _),
        fun other hmem => absurd hmem (start.stranger.unlisted other),
        fun i haccepted => absurd haccepted (start.unjoined i)⟩
    exact hforwards.mono fun _ hnone => hnone.elim
  · exact ⟨start.levels.2, start.clientIndexed, by simp [hannounced]⟩

/-! ### A frame of the host -/

omit [DecidableEq κ] in
theorem HostSide.tells (h : s.HostSide level first) {f : FrameInput} {host : Node}
    (hframe : s.host.processFrame f = .ok host) :
    s.host.TellsFrame host (events (host.outbox.filterMap Outgoing.relayed)) := by
  obtain ⟨events', htells⟩ := Node.processFrame_tells h.role h.outbox h.indexed hframe
  have htold := htells.told
  rw [Node.told, Node.processFrame_events h.role hframe, List.append_nil, h.queued,
    List.nil_append] at htold
  change events _ = events' at htold
  exact htold.symm ▸ htells

theorem hostFrame_hostSide (h : s.HostSide level first) {f : FrameInput} {polls : Bool}
    (hstep : s.hostFrame p f polls = .ok s') : s'.HostSide level first := by
  obtain ⟨host, hframe, hstep⟩ := Fallible.bind_eq_ok.mp hstep
  cases hstep
  have htells := h.tells hframe
  have hqueued := Node.processFrame_events h.role hframe
  refine ⟨?_, rfl, hqueued, htells.indexed, ?_, ?_, ?_, ?_⟩
  · have hstanding := Node.processFrame_standing h.role hframe
    exact (congrArg (fun s => s.2.2.2.2.1) hstanding).trans h.role
  · exact (GameEngine.level_of_setting htells.setting).trans h.sameLevel
  · change host.engine.log = _
    rw [htells.log level, h.log, events_append]
    exact List.foldl_append.symm
  · intro m hm
    rcases List.mem_append.mp hm with hold | hnew
    · exact h.inGame m hold
    · exact htells.relaysGame m hnew
  · intro q hq
    rcases List.mem_append.mp hq with hold | hnew
    · obtain ⟨hle, hindexed, hworld⟩ := h.syncs q hold
      refine ⟨hle.trans (by simp), hindexed, ?_⟩
      rw [hworld, List.take_append_of_le_length hle]
    · obtain ⟨w, hw, rfl⟩ := List.mem_map.mp hnew
      have henvironment := htells.worlds w hw
      refine ⟨by simp, henvironment ▸ h.indexed, ?_⟩
      rw [List.take_left, ← h.log, WorldState.log, henvironment]
      rfl

/-- The roster that announces the client comes after its join. -/
theorem accepted_of_announcement {roster : GlobalRoster} (h : roster ∈ s.announcement p) :
    ∃ i, .accepted p.client p.join.sessionId i ∈ s.lobby.log := by
  obtain ⟨hroster, hlater⟩ := Option.filter_eq_some_iff.mp h
  obtain ⟨message, hnext, -⟩ := Option.bind_eq_some_iff.mp hroster
  simp only [Bool.and_eq_true, decide_eq_true_eq] at hlater
  have hpolled : s.hostPolled < (inbox s.lobby.log p.host).length :=
    (List.getElem?_eq_some_iff.mp hnext).1
  by_contra hnone
  have hall : (s.lobby.log.takeWhile fun e => !e.isAcceptance p.client p.join.sessionId) =
      s.lobby.log := by
    refine List.takeWhile_eq_self_iff.mpr fun e he => ?_
    cases e with
    | accepted target session i =>
      simp only [LobbyEvent.isAcceptance, Bool.not_eq_true', Bool.and_eq_false_iff,
        decide_eq_false_iff_not]
      by_contra hboth
      simp only [not_or, not_not] at hboth
      obtain ⟨rfl, rfl⟩ := hboth
      exact hnone ⟨i, he⟩
    | sent | dropped | ended => rfl
  have hmark := hlater.1
  rw [hostJoinMark, hall] at hmark
  omega

theorem hostFrame_inv (h : s.Inv p level first) {f : FrameInput} {polls : Bool}
    (timely : s.Timely p (.hostFrame f polls)) (hstep : s.hostFrame p f polls = .ok s') :
    s'.Inv p level first := by
  have hhost := hostFrame_hostSide h.host hstep
  obtain ⟨host, hframe, hstep⟩ := Fallible.bind_eq_ok.mp hstep
  cases hstep
  have htells := h.host.tells hframe
  have htransit := h.transit
  refine ⟨hhost, ?_, fun hrole => ?_⟩
  · refine ⟨?_, ?_, htransit.serves, ?_, ?_, htransit.polled, ?_⟩
    · intro w hw
      simp only [List.map_append, List.map_map, List.mem_append]
      refine (List.mem_append.mp hw).imp (htransit.sent w) fun hnew => ?_
      exact List.mem_map.mpr ⟨w, hnew, rfl⟩
    · refine htransit.lobby.mono fun w hw => ?_
      rw [List.map_append]
      exact List.mem_append_left _ hw
    · exact htransit.relayed.trans (by simp)
    · exact fun k hk => (htransit.heard k hk).trans (by simp)
    · intro hannounced
      simp only [Bool.or_eq_true, Bool.and_eq_true] at hannounced
      rcases hannounced with hold | ⟨-, hnew⟩
      · exact htransit.joined hold
      · obtain ⟨roster, hroster⟩ := Option.isSome_iff_exists.mp hnew
        exact accepted_of_announcement (s := s) hroster
  · obtain ⟨hlevel, hindexed, hreaches⟩ := h.client hrole
    refine ⟨hlevel, hindexed, fun hannounced hopen => ?_⟩
    by_cases hold : s.announced = true
    · rcases hreaches hold hopen with hsent | hbrings | ⟨k, hk, l, hclient, hnoReset, hl⟩
      · exact .inl fun hnil => hsent (List.append_eq_nil_iff.mp hnil).1
      · exact .inr (.inl hbrings)
      · refine .inr (.inr ⟨k, hk, l, hclient, hnoReset, ?_⟩)
        change l.replay level (events (List.drop k (s.told ++ _))) = host.engine.log
        rw [List.drop_append_of_le_length (htransit.heard k hk), events_append, htells.log level,
          ← hl]
        exact List.foldl_append
    -- the frame polls the announcement
    · simp only [hold, Bool.false_or, Bool.and_eq_true] at hannounced
      obtain ⟨rfl, hsome⟩ := hannounced
      obtain ⟨roster, hroster⟩ := Option.isSome_iff_exists.mp hsome
      obtain ⟨hpolled, -⟩ := Option.filter_eq_some_iff.mp hroster
      obtain ⟨message, hnext, hmessage⟩ := Option.bind_eq_some_iff.mp hpolled
      obtain rfl : message = .rosterUpdate roster := by
        cases message with
        | rosterUpdate => exact congrArg _ (Option.some.inj hmessage)
        | _ => cases hmessage
      have hworlds := Node.processFrame_answers h.host.role h.host.indexed (by rw [hnext]; rfl)
        (timely rfl (by simpa using hold) roster hroster) hframe
      exact .inl fun hnil => hworlds (List.append_eq_nil_iff.mp hnil).2

/-! ### Steps of the lobby -/

theorem lobby_transit (h : s.Transit p) {x : LobbyStep κ}
    (forwards : (s.lobby.step x).view.Forwards p.client p.join.sessionId
      (· ∈ s.syncs.map Prod.fst))
    (serves : (s.lobby.step x).Serves p.host p.join.sessionId) :
    ({ s with lobby := s.lobby.step x } : RejoinSession κ).Transit p := by
  obtain ⟨more, hlog⟩ := s.lobby.step_log x
  refine ⟨h.sent, forwards, serves, h.relayed, h.heard, ?_, fun hannounced => ?_⟩
  · change s.clientPolled ≤ (inbox (s.lobby.step x).log p.client).length
    rw [hlog, inbox_append, List.length_append]
    exact Nat.le_add_right_of_le h.polled
  · obtain ⟨i, hi⟩ := h.joined hannounced
    exact ⟨i, hlog ▸ List.mem_append_left more hi⟩

theorem lobby_inv (h : s.Inv p level first) {x : LobbyStep κ}
    (continues : s.lobby.Continues p.host p.client p.join x) :
    ({ s with lobby := s.lobby.step x } : RejoinSession κ).Inv p level first := by
  have hother := continues.isFrom
  obtain ⟨more, hlog⟩ := s.lobby.step_log x
  refine ⟨h.host.congr rfl rfl rfl, ?_, fun hrole => ?_⟩
  · exact lobby_transit h.transit (Lobby.step_forwards h.transit.lobby continues)
      (Lobby.step_serves h.transit.serves hother)
  · obtain ⟨hlevel, hindexed, hreaches⟩ := h.client hrole
    refine ⟨hlevel, hindexed, fun hannounced hopen => ?_⟩
    rcases hreaches hannounced fun hended => hopen (hlog ▸ List.mem_append_left more hended) with
      hsent | hbrings | hfollows
    · exact .inl hsent
    · exact .inr (.inl (Lobby.step_brings hother hbrings))
    · exact .inr (.inr hfollows)

theorem syncArrives_inv (h : s.Inv p level first) : (s.syncArrives p).Inv p level first := by
  unfold syncArrives
  split
  case h_1 w rest hsent hready =>
    have hknown : w ∈ s.syncs.map Prod.fst := h.transit.sent w (hsent ▸ List.mem_cons_self)
    have hserves := h.transit.serves
    obtain ⟨more, hlog⟩ := s.lobby.step_log (.receive p.host (.initialStateSync w) "")
    have htransit := lobby_transit h.transit
      (Lobby.sync_forwards h.transit.lobby (w := w) "" fun _ => hknown)
      (Lobby.sync_serves hserves w "")
    refine ⟨h.host.congr rfl rfl rfl, ?_, fun hrole => ?_⟩
    · refine ⟨fun w' hw' => h.transit.sent w' (hsent ▸ List.mem_cons_of_mem _ hw'), htransit.lobby,
        htransit.serves, htransit.relayed, htransit.heard, htransit.polled, htransit.joined⟩
    · obtain ⟨hlevel, hindexed, -⟩ := h.client hrole
      refine ⟨hlevel, hindexed, fun hannounced hopen => .inr (.inl ?_)⟩
      obtain ⟨i, hi⟩ := h.transit.joined hannounced
      have hconnected := h.transit.lobby.connected i hi fun hended =>
        hopen (hlog ▸ List.mem_append_left more hended)
      exact Lobby.sync_brings h.transit.polled hready hserves.session hconnected
  case h_2 => exact h

/-! ### What the client receives -/

theorem relay_inv (h : s.Inv p level first) :
    ({ s with relayed := min (s.relayed + 1) s.told.length } : RejoinSession κ).Inv p level
      first := by
  refine ⟨h.host.congr rfl rfl rfl, ?_, fun hrole => ?_⟩
  · exact ⟨h.transit.sent, h.transit.lobby, h.transit.serves, min_le_right _ _, h.transit.heard,
      h.transit.polled, h.transit.joined⟩
  · obtain ⟨hlevel, hindexed, hreaches⟩ := h.client hrole
    exact ⟨hlevel, hindexed, hreaches⟩

/-- A message of the lobby that tells the client nothing about the environment. -/
theorem aside_inv (h : s.Inv p level first) {message : ServerMessage} {client : LobbyClient}
    (next : s.nextForClient p = some message)
    (noWorld : s.announced = true → message.world = none)
    (role : client.node.role = s.client.node.role)
    (engine : client.node.engine = s.client.node.engine) :
    ({ s with client := client, clientPolled := s.clientPolled + 1 } : RejoinSession κ).Inv p level
      first := by
  refine ⟨h.host.congr rfl rfl rfl, ?_, fun hrole => ?_⟩
  · exact ⟨h.transit.sent, h.transit.lobby, h.transit.serves, h.transit.relayed, h.transit.heard,
      (List.getElem?_eq_some_iff.mp next).1, h.transit.joined⟩
  · obtain ⟨hlevel, hindexed, hreaches⟩ := h.client (role ▸ hrole)
    refine ⟨engine ▸ hlevel, engine ▸ hindexed, fun hannounced hopen => ?_⟩
    rcases hreaches hannounced hopen with hsent | hbrings | ⟨k, hk, l, hclient, hrest⟩
    · exact .inl hsent
    · exact .inr (.inl (hbrings.next next (ServerMessage.world_eq_none (noWorld hannounced))))
    · exact .inr (.inr ⟨k, hk, l, engine ▸ hclient, hrest⟩)

theorem poll_inv (h : s.Inv p level first) (timely : s.Timely p .poll) :
    (s.poll p).Inv p level first := by
  unfold poll
  split
  case h_1 message hprogress hnext | h_2 message hprogress hnext =>
    obtain ⟨hrole, hengine⟩ := s.client.poll_node p.join.sessionId message
    refine aside_inv h hnext (fun hannounced => ?_) hrole hengine
    have hdrops := timely hannounced
    simpa only [dropsWorld, hprogress, hnext, Option.bind_some] using hdrops
  case h_3 => exact h

theorem connect_inv (h : s.Inv p level first) (now : ℚ) :
    (s.connect p now).Inv p level first := by
  unfold connect
  split
  case h_1 hprogress hheard =>
    have hscene := s.client.node.rebuildWorldFromRoster_scene now p.lobbyHost
    obtain ⟨henvironment, hscene⟩ := Prod.mk.inj hscene
    obtain ⟨-, hsetting⟩ := Prod.mk.inj hscene
    refine ⟨h.host.congr rfl rfl rfl, ?_, fun hrole => ?_⟩
    · refine ⟨h.transit.sent, h.transit.lobby, h.transit.serves, h.transit.relayed, ?_,
        h.transit.polled, h.transit.joined⟩
      rintro k ⟨⟩
      exact h.transit.relayed
    · obtain ⟨hlevel, hindexed, hreaches⟩ := h.client hrole
      refine ⟨(GameEngine.level_of_setting hsetting).trans hlevel,
        henvironment ▸ hindexed, fun hannounced hopen => ?_⟩
      rcases hreaches hannounced hopen with hsent | hbrings | ⟨k, hk, -⟩
      · exact .inl hsent
      · exact .inr (.inl hbrings)
      -- it was not connected yet
      · rw [hheard] at hk
        cases hk
  case h_2 => exact h

omit [DecidableEq κ] in
/-- A world that misses nothing catches up with the host. -/
theorem HostSide.catches_up (h : s.HostSide level first) {k : ℕ} {w : WorldState}
    (misses : s.MissesNothing k w) :
    w.log.replay level (events (s.told.drop k)) = s.host.engine.log := by
  obtain ⟨⟨w', sent⟩, hq, rfl, settled⟩ := misses
  obtain ⟨hle, -, hworld⟩ := h.syncs _ hq
  rw [h.log]
  rcases le_total sent k with hlate | hearly
  -- what the client has read since then is settled in the world
  · have hsplit : s.told.drop sent = (s.told.take k).drop sent ++ s.told.drop k := by
      rw [← List.drop_append_of_le_length (by simpa using ⟨hlate, hle⟩), List.take_append_drop]
    rw [← EnvLog.replay_missed level settled, ← events_append, ← hsplit, hworld]
    conv_rhs => rw [← List.take_append_drop sent s.told, events_append]
    exact List.foldl_append.symm
  -- the client reads again what the world shows already
  · have hsplit : events s.told = events (s.told.take k) ++ events (s.told.drop k) := by
      rw [← events_append, List.take_append_drop]
    have hsaved : events (s.told.take sent) =
        (events (s.told.take k) ++ events (s.told.drop k)).take
          (events (s.told.take sent)).length := by
      rw [← hsplit]
      conv_rhs => rw [← List.take_append_drop sent s.told, events_append]
      rw [List.take_append_drop, List.take_left]
    have hold : (events (s.told.take k)).length ≤ (events (s.told.take sent)).length := by
      have hearlier : s.told.take sent = s.told.take k ++ (s.told.take sent).drop k := by
        conv_lhs => rw [← List.take_append_drop k (s.told.take sent)]
        rw [List.take_take, min_eq_left hearly]
      rw [hearlier, events_append, List.length_append]
      exact Nat.le_add_right _ _
    rw [hworld, hsaved, hsplit]
    exact (EnvLog.overwriting level).catch_up first _ _ hold

theorem drainLobby_inv (h : s.Inv p level first) (timely : s.Timely p .drainLobby) :
    (s.drainLobby p).Inv p level first := by
  unfold drainLobby
  split
  case h_2 => exact h
  case h_1 k message hheard hnext =>
    by_cases hworld : ∃ w, message = .initialStateSync w
    swap
    · have hnone : message.world = none := by
        cases message with
        | initialStateSync w => exact absurd ⟨w, rfl⟩ hworld
        | _ => rfl
      have hsame : s.client.node.onLobbyMessage message.toWs = s.client.node := by
        cases message with
        | initialStateSync w => exact absurd ⟨w, rfl⟩ hworld
        | _ => rfl
      rw [hnone, hsame]
      exact aside_inv h hnext (fun _ => hnone) rfl rfl
    obtain ⟨w, rfl⟩ := hworld
    have hknown : w ∈ s.syncs.map Prod.fst :=
      h.transit.lobby.received w (mem_inbox.mp (List.mem_of_getElem? hnext))
    obtain ⟨q, hq, rfl⟩ := List.mem_map.mp hknown
    refine ⟨h.host.congr rfl rfl rfl, ?_, fun hrole => ?_⟩
    · exact ⟨h.transit.sent, h.transit.lobby, h.transit.serves, h.transit.relayed, h.transit.heard,
        (List.getElem?_eq_some_iff.mp hnext).1, h.transit.joined⟩
    · obtain ⟨hlevel, -, -⟩ := h.client hrole
      refine ⟨hlevel, (h.host.syncs q hq).2.1, fun hannounced _ => .inr (.inr ?_)⟩
      have hmisses := timely hannounced k hheard q.1 (by rw [hnext]; rfl)
      exact ⟨k, hheard, q.1.log, rfl, List.not_mem_nil,
        h.host.catches_up hmisses⟩

/-! ### The relay, and the client's own calls -/

theorem hear_inv (h : s.Inv p level first)
    (distinct : (level.blocks.map DestructibleBlock.position).Nodup)
    {now : ℚ} (hstep : s.hear now = .ok s') : s'.Inv p level first := by
  unfold hear at hstep
  split at hstep
  case h_1 => cases hstep; exact h
  case h_2 k hheard =>
  split at hstep
  case h_1 => cases hstep; exact h
  case h_2 message hnext =>
  obtain ⟨node, hevent, hstep⟩ := Fallible.bind_eq_ok.mp hstep
  cases hstep
  obtain ⟨hlt, hget⟩ := List.getElem?_eq_some_iff.mp hnext
  rw [List.length_take, lt_min_iff] at hlt
  rw [List.getElem_take] at hget
  have hgame := h.host.inGame message (hget ▸ List.getElem_mem hlt.2)
  refine ⟨h.host.congr rfl rfl rfl, ?_, fun hrole => ?_⟩
  · refine ⟨h.transit.sent, h.transit.lobby, h.transit.serves, h.transit.relayed, ?_,
      h.transit.polled, h.transit.joined⟩
    rintro _ ⟨⟩
    exact hlt.2
  have hdrop : s.told.drop k = message :: s.told.drop (k + 1) := by
    rw [List.drop_eq_getElem_cons hlt.2, hget]
  change node.role = .client at hrole
  cases hmessage : message.event with
  | none =>
    obtain ⟨hsame, hscene⟩ := Node.onGameEvent_scene hgame hmessage hevent
    obtain ⟨hlevel, hindexed, hreaches⟩ := h.client (hsame ▸ hrole)
    obtain ⟨henvironment, hscene⟩ := Prod.mk.inj hscene
    obtain ⟨-, hsetting⟩ := Prod.mk.inj hscene
    refine ⟨(GameEngine.level_of_setting hsetting).trans hlevel,
      henvironment ▸ hindexed, fun hannounced hopen => ?_⟩
    refine (hreaches hannounced hopen).imp_right (Or.imp_right ?_)
    rintro ⟨k', hk, l, hclient, hnoReset, hl⟩
    obtain rfl : k = k' := Option.some.inj (hheard.symm.trans hk)
    have hown : (s.own.filter fun e => !(none : Option GameEvent).any (·.Hides e)) = s.own := by
      simp
    refine ⟨k + 1, rfl, l, ?_, ?_, ?_⟩
    · rw [hown, ← hclient]
      exact GameEngine.log_congr henvironment
    · rwa [hown]
    · rw [← hl, hdrop]
      change _ = l.replay level (List.filterMap WsMessage.event (message :: s.told.drop (k + 1)))
      rw [List.filterMap_cons_none hmessage]
      rfl
  | some e =>
    obtain rfl := WsMessage.eq_message hmessage
    obtain ⟨hsame, hengine⟩ := Node.onGameEvent_message hevent
    obtain ⟨hlevel, hindexed, hreaches⟩ := h.client (hsame ▸ hrole)
    refine ⟨?_, ?_, fun hannounced hopen => ?_⟩
    · change node.engine.level = level
      rw [hengine]
      exact (GameEngine.level_of_setting
        (GameEngine.applyMessage_setting _ _)).trans hlevel
    · change node.engine.worldState.environment.Indexed
      rw [hengine]
      exact GameEngine.applyMessage_indexed (hlevel ▸ distinct) hindexed e
    refine (hreaches hannounced hopen).imp_right (Or.imp_right ?_)
    rintro ⟨k', hk, l, hclient, hnoReset, hl⟩
    obtain rfl : k = k' := Option.some.inj (hheard.symm.trans hk)
    have hlog : node.engine.log = s.client.node.engine.log.step level e := by
      rw [hengine]
      exact LogState.applyMessage_log hindexed.addressed hlevel e
    refine ⟨k + 1, rfl, l.step level e, ?_, ?_, ?_⟩
    · change node.engine.log = _
      rw [hlog, hclient, EnvLog.step_replay level hnoReset]
      simp
    · exact fun hmem => hnoReset (List.mem_of_mem_filter hmem)
    · rw [← hl, hdrop]
      change _ = l.replay level (List.filterMap WsMessage.event (e.message :: s.told.drop (k + 1)))
      rw [List.filterMap_cons_some hmessage]
      rfl

theorem clientCall_inv (h : s.Inv p level first) {now : ℚ} {call : ClientCall} (own : call.IsOwn)
    (hstep : s.clientCall now call = .ok s') : s'.Inv p level first := by
  unfold clientCall at hstep
  split at hstep
  case h_1 => cases hstep; exact h
  case h_2 k hheard =>
  obtain ⟨node, hcall, hstep⟩ := Fallible.bind_eq_ok.mp hstep
  cases hstep
  refine ⟨h.host.congr rfl rfl rfl, ?_, fun hrole => ?_⟩
  · exact ⟨h.transit.sent, h.transit.lobby, h.transit.serves, h.transit.relayed, h.transit.heard,
      h.transit.polled, h.transit.joined⟩
  · change node.role = .client at hrole
    have hclient : s.client.node.role = .client := by
      rcases Node.clientCall_role own hcall with hhost | hsame
      · rw [hrole] at hhost
        cases hhost
      · exact hsame ▸ hrole
    obtain ⟨hlevel, hindexed, hreaches⟩ := h.client hclient
    rcases Node.clientCall_predicts own hindexed hcall with hhost | ⟨events', hpredicts⟩
    · rw [hrole] at hhost
      cases hhost
    refine ⟨(GameEngine.level_of_setting hpredicts.setting).trans hlevel,
      hpredicts.indexed, fun hannounced hopen => ?_⟩
    refine (hreaches hannounced hopen).imp_right (Or.imp_right ?_)
    rintro ⟨k', hk, l, hlog, hnoReset, hl⟩
    refine ⟨k', hk, l, ?_, ?_, hl⟩
    · change node.engine.log = _
      rw [hpredicts.log level, hlog, hpredicts.queued]
      exact List.foldl_append.symm
    · rw [hpredicts.queued, List.mem_append]
      exact not_or.mpr ⟨hnoReset, hpredicts.noReset⟩

/-! ### Runs -/

theorem step_inv (h : s.Inv p level first)
    (distinct : (level.blocks.map DestructibleBlock.position).Nodup) {x : RejoinStep κ}
    (ordinary : s.Ordinary p x) (timely : s.Timely p x) (hstep : s.step p x = .ok s') :
    s'.Inv p level first := by
  cases x with
  | hostFrame f polls => exact hostFrame_inv h timely hstep
  | syncArrives => cases hstep; exact syncArrives_inv h
  | lobby x => cases hstep; exact lobby_inv h ordinary
  | relay => cases hstep; exact relay_inv h
  | poll => cases hstep; exact poll_inv h timely
  | connect now => cases hstep; exact connect_inv h now
  | drainLobby => cases hstep; exact drainLobby_inv h timely
  | hear now => exact hear_inv h distinct hstep
  | client now call => exact clientCall_inv h ordinary hstep

theorem run_inv (start : s.Start p level) {steps : List (RejoinStep κ)}
    (along : Fallible.Along (step p) (fun s x => s.Ordinary p x ∧ s.Timely p x) s steps)
    (hrun : s.run p steps = .ok s') : s'.Inv p level s.host.engine.log :=
  Fallible.foldlM_keeps_along (P := fun s' : RejoinSession κ => s'.Inv p level s.host.engine.log)
    (fun _ _ _ _ hx hs hstep => step_inv hs start.distinctBlocks hx.1 hx.2 hstep) along hrun
    (start_inv start)

/-- Where everything has arrived, the client shows the host's environment with its own events on
top. -/
theorem Inv.complete (h : s.Inv p level first) (complete : s.Complete p) :
    s.client.node.engine.log = s.host.engine.log.replay level s.own ∧ .levelReset ∉ s.own := by
  obtain ⟨hhostOpen, hclientOpen⟩ := complete.opened
  obtain ⟨-, -, hreaches⟩ := h.client complete.client
  rcases hreaches complete.announced hclientOpen with hsent | hbrings | ⟨k, hk, l, hlog, hno, hl⟩
  · exact absurd complete.sent hsent
  · rcases hbrings.world with ⟨w, hw⟩ | ⟨w, hw⟩ | hended
    · have hnil : (inbox s.lobby.log p.client).drop s.clientPolled = [] := by
        rw [complete.polled, List.drop_length]
      change _ ∈ (inbox s.lobby.log p.client).drop s.clientPolled at hw
      rw [hnil] at hw
      cases hw
    · exact absurd hw (complete.delivered _ _)
    · exact absurd hended hhostOpen
  · rw [complete.heard] at hk
    cases hk
    rw [List.drop_length] at hl
    change l = s.host.engine.log at hl
    exact ⟨hl ▸ hlog, hno⟩

end RejoinSession

/-! ## The former host comes back -/

/-- A floor, and a block far above it. -/
def brickLevel : Level where
  platforms := [⟨0, 313, 1000, 50⟩]
  blocks := [{ x := 500, y := 100 }]
  spawnPoints := [⟨100, 238⟩, ⟨150, 238⟩]

def brickEngine (broken : Bool) : GameEngine where
  worldState :=
    { environment := { destructibleBlocks := [{ x := 500, y := 100, destroyed := broken }] } }
  platforms := brickLevel.platforms
  worldWidth := 1000
  worldHeight := 600
  spawnPoints := brickLevel.spawnPoints
  level := brickLevel

theorem brickEngine_indexed (broken : Bool) :
    (brickEngine broken).worldState.environment.Indexed where
  addressed := ⟨List.nodup_singleton _, fun _ he => nomatch he⟩
  keyed := fun _ he => nomatch he

/-- The second player has taken over, and its world has the block broken. -/
def takenOver : Node where
  engine := brickEngine true
  roster := ⟨[⟨"player2", "10.0.0.2", hostUdpPort, 1, .connected, true⟩]⟩
  sessionId := "session"
  localIp := "10.0.0.2"
  role := .host
  localPlayerId := "player2"
  remoteHost := "10.0.0.1"
  joinIndex := 1

/-- The first player has been started again. -/
def startedAgain : Node where
  engine := { brickEngine false with isAuthoritative := false }
  roster := {}
  sessionId := ""
  localIp := "10.0.0.1"
  localPlayerId := "player1"
  remoteHost := "10.0.0.2"

def formerHostPeers : RejoinPeers LobbyPeer where
  host := .host
  client := .guest
  join := ⟨"session", "player1", "10.0.0.1", 50010, some 0⟩
  lobbyHost := "10.0.0.2"

def formerHostAway : RejoinSession LobbyPeer where
  host := takenOver
  lobby := Lobby.run {}
    [.receive .host (.sessionRecreate ⟨"session", 3, "10.0.0.2", hostUdpPort, 1, [0, 2]⟩) "",
      .resume .host false]
  client := { node := startedAgain }
  hostPolled := 1

theorem formerHostAway_start : formerHostAway.Start formerHostPeers brickLevel := by
  have hlog : formerHostAway.lobby.log = [.sent .host (.sessionCreated "session" 0)] := by
    decide +kernel
  have hidle (handler : LobbyPeer) : formerHostAway.lobby.view.pending handler = [] := by
    cases handler <;> decide +kernel
  refine
    { host := rfl
      idle := ⟨rfl, rfl⟩
      levels := ⟨rfl, rfl⟩
      distinctBlocks := List.nodup_singleton _
      hostIndexed := brickEngine_indexed true
      clientIndexed := brickEngine_indexed false
      serves := ⟨by decide +kernel, ?_⟩
      stranger := Lobby.run_stranger (by decide) (Lobby.empty_stranger _)
      unjoined := by simp [hlog]
      tasks := by simp [hidle]
      nothingSent := ⟨rfl, rfl, rfl, rfl⟩
      nothingReceived := ⟨rfl, rfl, rfl, rfl⟩ }
  have hrest : (formerHostAway.lobby.handlers .host).status.rest = [] := hidle .host
  intro task htask
  rw [show formerHostPeers.host = LobbyPeer.host from rfl, hrest] at htask
  cases htask

namespace RejoinSession

theorem complete_of_check {p : RejoinPeers LobbyPeer} {s : RejoinSession LobbyPeer}
    (h : s.client.node.role = .client ∧ s.announced = true ∧ s.toLobby = [] ∧
      (∀ handler ∈ [LobbyPeer.host, .guest, .latecomer], s.lobby.view.pending handler = []) ∧
      s.clientPolled = (inbox s.lobby.log p.client).length ∧ s.heard = some s.told.length ∧
      .ended p.host ∉ s.lobby.log ∧ .ended p.client ∉ s.lobby.log) : s.Complete p := by
  obtain ⟨hclient, hannounced, hsent, hidle, hpolled, hheard, hopen⟩ := h
  refine ⟨hclient, hannounced, hsent, fun handler message => ?_, hpolled, hheard, hopen⟩
  have hpending : s.lobby.view.pending handler = [] := hidle handler (by cases handler <;> simp)
  rw [hpending]
  exact List.not_mem_nil

/-- The world is sent after the former host has started to play. -/
def syncInGame : List (RejoinStep LobbyPeer) :=
  [.lobby (.receive .guest (.sessionJoin formerHostPeers.join) ""),
    .lobby (.resume .guest false), .lobby (.resume .guest false), .lobby (.resume .guest false),
    .lobby (.resume .guest false), .poll, .poll, .poll, .connect 1,
    .hostFrame { now := 1 } true, .syncArrives, .lobby (.resume .host false),
    .lobby (.resume .host false), .drainLobby]

/-- The lobby is still sending rosters when the world arrives: the world overtakes them on its way
to the former host, whose lobby phase drops it. -/
def syncInLobby : List (RejoinStep LobbyPeer) :=
  [.lobby (.receive .guest (.sessionJoin formerHostPeers.join) ""),
    .lobby (.resume .guest false), .hostFrame { now := 1 } true, .syncArrives,
    .lobby (.resume .host false), .lobby (.resume .host false), .lobby (.resume .guest false),
    .lobby (.resume .guest false), .lobby (.resume .guest false), .poll, .poll, .poll, .poll,
    .connect 1]

end RejoinSession

end DistributedSmb
