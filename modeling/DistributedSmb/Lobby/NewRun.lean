import DistributedSmb.Election.RejoinSlots
import DistributedSmb.Lobby.Rosters

/-!
# A new run

`replay_lobby_phase` of `application/lobby/coordinator.py`, as a host goes through it. Each roster
that the host polls replaces the one it has. After a migration the lobby lists only the host and the
players that have been admitted since, while the host's own roster still has the players that went
on playing.
-/

namespace DistributedSmb

open Library

/-- The rosters among some messages of the lobby. -/
def polledRosters (messages : List ServerMessage) : List GlobalRoster :=
  messages.filterMap fun
    | .rosterUpdate roster => some roster
    | _ => none

theorem mem_polledRosters {messages : List ServerMessage} {roster : GlobalRoster} :
    roster ∈ polledRosters messages ↔ .rosterUpdate roster ∈ messages := by
  simp only [polledRosters, List.mem_filterMap]
  constructor
  · rintro ⟨message, hmessage, hroster⟩
    split at hroster
    · cases hroster
      exact hmessage
    · cases hroster
  · exact fun h => ⟨_, h, rfl⟩

namespace Node

/-- A loop that keeps the roster up to date. -/
def adoptRoster (n : Node) : ServerMessage → Node
  | .rosterUpdate roster => { n with roster := roster }
  | _ => n

/-- `_poll_lobby(GameStart)`, and the messages that it leaves. -/
def awaitGameStart (n : Node) : List ServerMessage → Option (Node × List ServerMessage)
  | [] => none
  | .sessionJoinRejected _ _ :: _ => none
  | .gameStart _ :: rest => some (n, rest)
  | message :: rest => (n.adoptRoster message).awaitGameStart rest

/-- The node that the phase returns with. It polls some messages until the start is requested and
its roster lists anybody, and some more until the lobby has announced the start. -/
def replayLobbyPhase (n : Node) (waiting starting : List ServerMessage) (now : ℚ) (lobbyHost : Ip) :
    Option Node :=
  let waited := waiting.foldl adoptRoster n
  if waited.roster.players = [] then none
  else
    (waited.awaitGameStart starting).map fun (started, drained) =>
      let drained := drained.foldl adoptRoster started
      { drained with engine := drained.engine.resetForNewRun }.rebuildWorldFromRoster now lobbyHost

/-- What is polled last decides. -/
theorem foldl_adoptRoster_roster (n : Node) (messages : List ServerMessage) :
    (messages.foldl adoptRoster n).roster = (polledRosters messages).getLastD n.roster := by
  induction messages generalizing n with
  | nil => rfl
  | cons message rest ih =>
    rw [List.foldl_cons, ih]
    cases message with
    | rosterUpdate roster =>
      cases hrest : polledRosters rest <;> simp_all [polledRosters, adoptRoster, List.getLastD]
    | sessionCreated | sessionJoined | sessionJoinRejected | sessionClosed | gameStart |
        initialStateSync => rfl

/-- The wait goes on like the loops around it. -/
theorem awaitGameStart_roster {n started : Node} {messages drained : List ServerMessage}
    (h : n.awaitGameStart messages = some (started, drained)) :
    (drained.foldl adoptRoster started).roster = (messages.foldl adoptRoster n).roster := by
  induction messages generalizing n with
  | nil => cases h
  | cons message rest ih =>
    cases message with
    | sessionJoinRejected => cases h
    | gameStart => cases h; rfl
    | sessionCreated | sessionJoined | rosterUpdate | sessionClosed | initialStateSync => exact ih h

/-- The roster is the last one that was polled in the phase, or the one that the host had before,
and the world has exactly its players. -/
theorem replayLobbyPhase_spec {n n' : Node} {waiting starting : List ServerMessage} {now : ℚ}
    {lobbyHost : Ip} (h : n.replayLobbyPhase waiting starting now lobbyHost = some n') :
    n'.roster = (polledRosters (waiting ++ starting)).getLastD n.roster ∧
      ∀ pid, pid ∈ n'.engine.worldState.characters ↔ ∃ e ∈ n'.roster.players, e.playerId = pid := by
  simp only [replayLobbyPhase] at h
  split at h
  · cases h
  · obtain ⟨⟨started, drained⟩, hstarted, rfl⟩ := Option.map_eq_some_iff.mp h
    refine ⟨?_, fun pid => mem_rebuildWorldFromRoster⟩
    rw [rebuildWorldFromRoster_roster, ← foldl_adoptRoster_roster, List.foldl_append]
    exact awaitGameStart_roster hstarted

end Node

variable {κ : Type} [DecidableEq κ]

/-- A promoted host has registered its session again over a connection of its own, and some time
later it is in the lobby phase of a new run. -/
structure NewRun (κ : Type) [DecidableEq κ] where
  earlier : List (LobbyStep κ)
  ws : κ
  message : SessionRecreate
  later : List (LobbyStep κ)
  host : Node
  waiting : List ServerMessage
  starting : List ServerMessage
  fresh : ∀ x ∈ earlier, x.isFrom ws = false
  ready : ((Lobby.run {} earlier).handlers ws).status = .receiving
  checked : message.checked = .ok message
  onward : ∀ x ∈ later, x.registers message.sessionId = false ∧ x.enters ws = false
  known : host.KnowsSlots
  polled : ∀ m ∈ waiting ++ starting, .sent ws m ∈
    ((Lobby.run {} earlier).afterRecreate ws message "").since
      (((Lobby.run {} earlier).afterRecreate ws message "").run later)

namespace NewRun

/-- The lobby when the session has been registered again. -/
def registered (r : NewRun κ) : Lobby κ := (Lobby.run {} r.earlier).afterRecreate r.ws r.message ""

/-- A player of the host's roster that does not leave the session. -/
def Remains (r : NewRun κ) (e : RosterEntry) : Prop :=
  e ∈ r.host.roster.players ∧ ∀ x ∈ r.later, x.leaves r.message.sessionId e.joinIndex = false

/-- By this step of the lobby, the player of the slot has been admitted, unless it is the host. -/
def AdmittedBy (r : NewRun κ) (built : List (LobbyStep κ)) (i : ℤ) : Prop :=
  i = r.message.hostJoinIndex ∨
    ∃ w, .accepted w r.message.sessionId i ∈ r.registered.since (r.registered.run built)

/-- Every player that remains is in the roster of the new run. -/
def LosesNobody (r : NewRun κ) (n' : Node) : Prop :=
  ∀ e, r.Remains e → ∃ e' ∈ n'.roster.players, e'.playerId = e.playerId

/-- The session's roster has a player that remains if and only if the player has been admitted. -/
theorem roster_lists_iff (r : NewRun κ) {built : List (LobbyStep κ)} (early : built <+: r.later)
    {roster : GlobalRoster}
    (h : (r.registered.run built).manager.getRoster r.message.sessionId = .ok roster)
    {e : RosterEntry} (remains : r.Remains e) :
    (∃ e' ∈ roster.players, e'.playerId = e.playerId) ↔ r.AdmittedBy built e.joinIndex := by
  obtain ⟨record, hfound, hroster⟩ := LobbyManager.getRoster_eq_ok h
  have inOrder : record.SlotsInOrder := by
    have hall := Lobby.run_slotsHold
      (r.earlier ++ .receive r.ws (.sessionRecreate r.message) "" :: built)
    rw [Lobby.run, List.foldl_append, List.foldl_cons] at hall
    exact hall _ record hfound
  have hlists := Lobby.lists_iff_admitted (i := e.joinIndex) r.ready r.checked
    (fun x hx => (r.onward x (early.subset hx)).1)
    (fun x hx => remains.2 x (early.subset hx)) hfound
  refine Iff.trans ?_ hlists
  obtain ⟨hslot, hname⟩ := r.known.listed e remains.1
  have hnames := inOrder.namesSlots hroster
  rw [inOrder.getRoster] at hroster
  cases hroster
  constructor
  · rintro ⟨e', he', hsame⟩
    obtain ⟨hslot', hname'⟩ := hnames e' he'
    obtain ⟨entry, hentry, rfl⟩ := List.mem_map.mp he'
    have hindex := playerIdFor_injective hslot' hslot (by rw [← hname', ← hname, hsame])
    refine ⟨entry, hentry, ?_⟩
    rw [← hindex]
    exact (Int.toNat_of_nonneg (inOrder.valid entry hentry).slot.1).symm
  · rintro ⟨entry, hentry, hindex⟩
    refine ⟨entry.rosterEntry, List.mem_map_of_mem hentry, ?_⟩
    rw [hname, ← hindex]
    exact (inOrder.valid entry hentry).named

/-- A new run loses nobody if and only if the host polls no roster in the phase, or the last one
that it polls was built when every player that remains had been admitted to the session. -/
theorem losesNobody_iff (r : NewRun κ) {n' : Node} {now : ℚ} {lobbyHost : Ip}
    (returns : r.host.replayLobbyPhase r.waiting r.starting now lobbyHost = some n') :
    r.LosesNobody n' ↔ ∀ roster, (polledRosters (r.waiting ++ r.starting)).getLast? = some roster →
      ∃ built, built <+: r.later ∧
        (r.registered.run built).manager.getRoster r.message.sessionId = .ok roster ∧
        ∀ e, r.Remains e → r.AdmittedBy built e.joinIndex := by
  obtain ⟨hroster, -⟩ := Node.replayLobbyPhase_spec returns
  rw [List.getLastD_eq_getLast?] at hroster
  cases hlast : (polledRosters (r.waiting ++ r.starting)).getLast? with
  | none =>
    rw [hlast, Option.getD_none] at hroster
    simp only [LosesNobody, hroster, reduceCtorEq, false_implies, implies_true, iff_true]
    exact fun e remains => ⟨e, remains.1, rfl⟩
  | some last =>
    rw [hlast, Option.getD_some] at hroster
    simp only [LosesNobody, hroster, Option.some.injEq, forall_eq']
    constructor
    · intro hkept
      have hpolled := r.polled _ (mem_polledRosters.mp (List.mem_of_getLast? hlast))
      obtain ⟨built, early, hbuilt⟩ := Lobby.roster_was_shown r.ready r.checked
        (Lobby.run_prompt r.earlier fun _ _ h => nomatch h)
        (Lobby.run_stranger r.fresh (Lobby.empty_stranger r.ws))
        (fun x hx => (r.onward x hx).2) hpolled
      exact ⟨built, early, hbuilt, fun e remains =>
        (r.roster_lists_iff early hbuilt remains).mp (hkept e remains)⟩
    · rintro ⟨built, early, hbuilt, hadmitted⟩ e remains
      exact (r.roster_lists_iff early hbuilt remains).mpr (hadmitted e remains)

end NewRun

/-! ### Three players -/

def thirdSurvivor : RosterEntry := ⟨"player3", "10.0.0.3", 50012, 2, .connected, false⟩

/-- The second of three players, with what the host has broadcast last. -/
def secondOfThree : Node :=
  { Node.clientOf ⟨[firstHost, secondPlayer, thirdSurvivor]⟩ secondPlayer "10.0.0.1" with
    envStateBuffer := some (.update ⟨hostAlive.sequenceNumber, hostAlive⟩) }

theorem secondOfThree_knowsSlots : secondOfThree.KnowsSlots where
  session := show "session" ≠ "" by decide
  address := show "10.0.0.2" ≠ "" by decide
  own := show 1 < maxPlayers by decide
  ownName := show "player2" = playerIdFor (1 : ℕ) by decide
  listed := show GlobalRoster.NamesSlots ⟨[firstHost, secondPlayer, thirdSurvivor]⟩ by decide
  saved i hi := absurd hi (Dict.not_mem_empty i)

/-- It registers the session again when it has been promoted. -/
def secondRecreates : SessionRecreate := ⟨"session", 3, "10.0.0.2", hostUdpPort, 1, [0, 2]⟩

theorem secondOfThree_promoted : ∃ n, secondOfThree.promoteToHost 2 = .ok n ∧ n.KnowsSlots ∧
    n.sessionRecreate = .ok secondRecreates ∧ n.roster.players =
      [{ secondPlayer with isHost := true }, thirdSurvivor] := by
  obtain ⟨n, hn, hcheck⟩ := Fallible.exists_of_okAnd (x := secondOfThree.promoteToHost 2)
    (p := fun n => decide (n.sessionRecreate = .ok secondRecreates ∧ n.roster.players =
      [{ secondPlayer with isHost := true }, thirdSurvivor])) (by decide +kernel)
  exact ⟨n, hn, secondOfThree_knowsSlots.deeds (Node.promoteToHost_deeds hn),
    of_decide_eq_true hcheck⟩

/-- Somebody joins, and the host starts the new run. -/
def joinAndStart (join : SessionJoin) : List (LobbyStep LobbyPeer) :=
  [.resume .host false, .receive .guest (.sessionJoin join) "", .resume .guest false,
    .receive .host (.gameStart "session") "", .resume .host false]

def secondsLobby : Lobby LobbyPeer := (Lobby.run {} []).afterRecreate .host secondRecreates ""

/-- The host polls the roster that follows from the join. -/
def runAfter (join : SessionJoin) (roster : GlobalRoster) (n : Node) (known : n.KnowsSlots)
    (sent : ∀ m ∈ [.rosterUpdate roster] ++ [.gameStart "session"],
      .sent .host m ∈ secondsLobby.since (secondsLobby.run (joinAndStart join))) :
    NewRun LobbyPeer where
  earlier := []
  ws := .host
  message := secondRecreates
  later := joinAndStart join
  host := n
  waiting := [.rosterUpdate roster]
  starting := [.gameStart "session"]
  fresh := by simp
  ready := by decide +kernel
  checked := by decide +kernel
  onward := by simp [joinAndStart, LobbyStep.registers, LobbyStep.enters, ClientMessage.enters]
  known := known
  polled := sent

/-- The roster of the session when this player has joined. -/
def rosterWith (e : RosterEntry) : GlobalRoster :=
  ⟨[{ secondPlayer with
    udpPort := hostUdpPort
    isHost := true }, e]⟩

def survivorJoins : SessionJoin := ⟨"session", "player3", "10.0.0.3", 50012, some 2⟩

theorem survivor_that_joins_is_kept : ∃ (r : NewRun LobbyPeer) (n' : Node),
    secondOfThree.promoteToHost 2 = .ok r.host ∧ r.host.sessionRecreate = .ok r.message ∧
      r.host.replayLobbyPhase r.waiting r.starting 9 "10.0.0.2" = some n' ∧ r.LosesNobody n' := by
  obtain ⟨n, hn, known, hmessage, hplayers⟩ := secondOfThree_promoted
  have hbuilt : (secondsLobby.run (joinAndStart survivorJoins)).manager.getRoster "session" =
      .ok (rosterWith thirdSurvivor) := by decide +kernel
  have hadmitted : .accepted .guest "session" 2 ∈
      secondsLobby.since (secondsLobby.run (joinAndStart survivorJoins)) := by decide +kernel
  let r := runAfter survivorJoins (rosterWith thirdSurvivor) n known (by decide +kernel)
  obtain ⟨n', hreturns⟩ :
      ∃ n', r.host.replayLobbyPhase r.waiting r.starting 9 "10.0.0.2" = some n' :=
    ⟨_, rfl⟩
  refine ⟨r, n', hn, hmessage, hreturns, (r.losesNobody_iff hreturns).mpr fun roster hroster => ?_⟩
  obtain rfl : rosterWith thirdSurvivor = roster := Option.some.inj hroster
  refine ⟨r.later, List.prefix_rfl, hbuilt, fun e remains => ?_⟩
  have hentry : e ∈ [{ secondPlayer with isHost := true }, thirdSurvivor] := hplayers ▸ remains.1
  rcases List.mem_cons.mp hentry with rfl | hthird
  · exact .inl rfl
  · obtain rfl := List.mem_singleton.mp hthird
    exact .inr ⟨.guest, hadmitted⟩

def newcomerJoins : SessionJoin := ⟨"session", "player", "10.0.0.9", 50019, none⟩

def newcomer : RosterEntry := ⟨"player4", "10.0.0.9", 50019, 3, .connected, false⟩

/-- A newcomer joins while the third player goes on playing, and the new run begins without it. -/
theorem survivor_is_lost : ∃ (r : NewRun LobbyPeer) (n' : Node),
    secondOfThree.promoteToHost 2 = .ok r.host ∧ r.host.sessionRecreate = .ok r.message ∧
      r.host.replayLobbyPhase r.waiting r.starting 9 "10.0.0.2" = some n' ∧
      r.Remains thirdSurvivor ∧ thirdSurvivor.playerId ∉ n'.engine.worldState.characters ∧
      ¬ r.LosesNobody n' := by
  obtain ⟨n, hn, known, hmessage, hplayers⟩ := secondOfThree_promoted
  have hstays : ∀ x ∈ joinAndStart newcomerJoins, x.leaves "session" 2 = false := by decide
  have hmissing : ¬ ∃ e ∈ (rosterWith newcomer).players, e.playerId = thirdSurvivor.playerId := by
    decide
  let r := runAfter newcomerJoins (rosterWith newcomer) n known (by decide +kernel)
  have hremains : r.Remains thirdSurvivor := by
    refine ⟨?_, hstays⟩
    change thirdSurvivor ∈ n.roster.players
    simp [hplayers]
  obtain ⟨n', hreturns⟩ :
      ∃ n', r.host.replayLobbyPhase r.waiting r.starting 9 "10.0.0.2" = some n' :=
    ⟨_, rfl⟩
  obtain ⟨hroster, hworld⟩ := Node.replayLobbyPhase_spec hreturns
  have hlast : n'.roster = rosterWith newcomer := hroster
  rw [← hlast] at hmissing
  exact ⟨r, n', hn, hmessage, hreturns, hremains, fun h => hmissing ((hworld _).mp h),
    fun hkept => hmissing (hkept _ hremains)⟩

end DistributedSmb
