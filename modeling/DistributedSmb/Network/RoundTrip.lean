import DistributedSmb.Network.Serializer

/-!
# The wire round trip

Every message that satisfies the checks of its dataclass and of its schema is read back as it was
written, kind by kind.
-/

namespace DistributedSmb

open Library

def ValidPort (port : ℕ) : Prop := 1024 ≤ port ∧ port ≤ 65535

/-- The constraints that the schema of each kind declares. A world state, which has no schema, is
made of objects that came out of their constructors. -/
def WsPayload.InSchema : WsPayload → Prop
  | sessionCreate m => m.playerId ≠ "" ∧ m.ip ≠ "" ∧ ValidPort m.udpPort
  | sessionCreated sessionId joinIndex => sessionId ≠ "" ∧ 0 ≤ joinIndex
  | sessionJoin m =>
    m.sessionId ≠ "" ∧ m.playerId ≠ "" ∧ m.ip ≠ "" ∧ ValidPort m.port ∧
      ∀ i ∈ m.rejoinJoinIndex, IsSlot i
  | sessionJoined joinIndex => 0 ≤ joinIndex
  | sessionRecreate m =>
    m.sessionId ≠ "" ∧ 0 ≤ m.nextJoinIndex ∧ m.hostIp ≠ "" ∧ ValidPort m.hostUdpPort ∧
      IsSlot m.hostJoinIndex ∧ m.reservedJoinIndices.length ≤ maxPlayers
  | sessionClosed sessionId => sessionId ≠ ""
  | sessionLeave m => m.sessionId ≠ "" ∧ 0 ≤ m.joinIndex
  | sessionJoinRejected sessionId reason => sessionId ≠ "" ∧ reason ≠ ""
  | rosterUpdate roster =>
    ∀ e ∈ roster.players, e.playerId ≠ "" ∧ e.host ≠ "" ∧ ValidPort e.udpPort
  | gameStart sessionId => sessionId ≠ ""
  | powerUpCollected powerupId playerId => powerupId ≠ "" ∧ playerId ≠ ""
  | gateStateChanged gateId newState => gateId ≠ "" ∧ newState ≠ ""
  | playerLeft playerId => playerId ≠ ""
  | playerDeath playerId enemyId => playerId ≠ "" ∧ enemyId ≠ ""
  | playerDisconnected playerId => playerId ≠ ""
  | newHostClaim m => m.claimerIp ≠ "" ∧ m.sessionId ≠ ""
  | electionAck m => m.fromIp ≠ "" ∧ m.sessionId ≠ ""
  | reconnectionAck m =>
    m.newHostIp ≠ "" ∧ ValidPort m.udpPort ∧ ValidPort m.gameEventsPort ∧ m.sessionId ≠ ""
  | initialStateSync w => w.Constructed
  | blockDestroyed _ | levelReset => True

def UdpMessage.InSchema : UdpMessage → Prop
  | playerInput m => m.playerId ≠ ""
  | worldState m => m.worldState.Constructed
  | hostDiscoveryProbe m => m.sessionId ≠ "" ∧ m.requesterIp ≠ ""
  | hostIdentityResponse m => m.sessionId ≠ "" ∧ m.hostIp ≠ ""
  | election (.newHostClaim m) => (WsPayload.newHostClaim m).InSchema
  | election (.electionAck m) => (WsPayload.electionAck m).InSchema
  | election (.reconnectionAck m) => (WsPayload.reconnectionAck m).InSchema

/-! ## World states -/

theorem decodeWorldState_toDict (order : SetOrder) {w : WorldState} (hw : w.Constructed) :
    ∃ raw, decodeWorldState (w.toDict order) = .ok raw ∧ raw.typed = some w := by
  have h := w.represents_toDict order
  obtain ⟨env, henvironment, henv⟩ := h.environment
  have hnormalized : w.environment.Represents order (normalizedEnvironment
      (.arr (w.environment.destructibleBlocks.map DestructibleBlock.asdict))
      (.ofDict (w.environment.powerUps.mapValues ExclusivePowerUp.asdict))
      (.ofDict (w.environment.cooperativeGates.mapValues (CooperativeGate.asdict order)))
      (.ofDict (w.environment.enemies.mapValues Enemy.asdict))) := by
    constructor <;> simp [normalizedEnvironment, Dict.get?_mk_cons]
  simp only [decodeWorldState, Dict.getD, henvironment, dictGet, Option.getD_some,
    Json.dict?_ofDict, henv.destructibleBlocks, henv.powerUps, henv.enemies, henv.cooperativeGates,
    Fallible.ok_bind]
  exact (h.set_environment hnormalized).fromDict hw

theorem InputState.signature_call_asdict (i : InputState) :
    ∃ a, i.asdict.dict? = some a ∧ InputState.signature.call (.ofDict a) = .ok a ∧
      InputState.typed a = i := by
  refine ⟨_, InputState.signature.dict?_asdict rfl, Signature.call_asdict rfl, ?_⟩
  simp [InputState.typed, Dict.getD]

/-! ## Rosters -/

/-- What the schema of an entry yields. -/
def RosterEntry.fields (e : RosterEntry) : String × Ip × ℕ × ℕ × String × Bool :=
  (e.playerId, e.host, e.udpPort, e.joinIndex, e.status.value, e.isHost)

theorem connectionStatusOf_value (s : ConnectionStatus) : connectionStatusOf s.value = .ok s := by
  cases s <;> rfl

theorem rosterUpdateSchema_asdict (py : Runtime) {roster : GlobalRoster} {rest : Dict String Json}
    (h : (WsPayload.rosterUpdate roster).InSchema)
    (hroster : rest.get? "roster" = some roster.asdict)
    (htype : rest.get? "message_type" = some (.str MessageType.rosterUpdate.value)) :
    rosterUpdateSchema py rest = some (roster.players.map RosterEntry.fields) := by
  have hentry : ∀ e ∈ roster.players,
      e.asdict.dict?.bind (rosterEntrySchema py) = some e.fields := by
    intro e he
    obtain ⟨hplayer, hhost, hport⟩ := h e he
    simp [RosterEntry.asdict, rosterEntrySchema, RosterEntry.fields, Dict.field, hplayer, hhost,
      py.port_num hport]
  rw [rosterUpdateSchema, withType, Dict.fieldD_eq htype, Json.str?_str, Option.bind_eq_bind,
    Option.bind_some, Dict.field_eq hroster, GlobalRoster.asdict, Json.dict?_obj (by simp),
    Option.bind_some, rosterSchema, Dict.field, Dict.get?_mk_cons, if_pos rfl, Option.bind_some]
  exact Json.list?_arr_map hentry

theorem addEntry_fields {roster : GlobalRoster} {e : RosterEntry} (hplayer : e.playerId ≠ "")
    (hhost : e.host ≠ "") (hport : ValidPort e.udpPort)
    (hnew : ∀ e' ∈ roster.players, e'.joinIndex ≠ e.joinIndex) :
    addEntry roster e.fields = .ok ⟨roster.players ++ [e]⟩ := by
  have hpost : e.postInit = .ok () := by
    rw [RosterEntry.postInit, if_neg hplayer, if_neg hhost, if_neg]
    exact not_not_intro hport
  rw [RosterEntry.fields, addEntry, connectionStatusOf_value, Fallible.ok_bind]
  change (e.postInit >>= fun _ => roster.addPlayer e) = _
  rw [hpost, Fallible.ok_bind]
  exact GlobalRoster.addPlayer_succeeds hnew

/-- Adding the entries one by one rebuilds the roster. -/
theorem foldlM_addEntry {entries : List RosterEntry} {roster : GlobalRoster}
    (hvalid : ∀ e ∈ entries, e.playerId ≠ "" ∧ e.host ≠ "" ∧ ValidPort e.udpPort)
    (hnodup : ((roster.players ++ entries).map RosterEntry.joinIndex).Nodup) :
    (entries.map RosterEntry.fields).foldlM addEntry roster = .ok ⟨roster.players ++ entries⟩ := by
  induction entries generalizing roster with
  | nil => simp [pure, Except.pure]
  | cons e entries ih =>
    obtain ⟨⟨hplayer, hhost, hport⟩, hrest⟩ := List.forall_mem_cons.mp hvalid
    have hnew : ∀ e' ∈ roster.players, e'.joinIndex ≠ e.joinIndex := by
      intro e' he' heq
      rw [List.map_append, List.nodup_append] at hnodup
      exact hnodup.2.2 _ (List.mem_map_of_mem he') _ (by simp) heq
    have hadd := addEntry_fields hplayer hhost hport hnew
    rw [List.map_cons, List.foldlM_cons, hadd, Fallible.ok_bind, ih hrest (by simpa using hnodup)]
    simp

/-! ## Kind by kind -/

section
variable (py : Runtime) (order : SetOrder)

theorem decodeWsMessage_encodeWsMessage {m : WsPayload} (hschema : m.InSchema)
    (hpost : m.postInit = .ok ()) :
    decodeWsMessage py (encodeWsMessage order m) = .ok (some m) := by
  cases m with
  | sessionCreate m =>
    obtain ⟨hplayer, hip, hport⟩ := hschema
    simp [decodeWsMessage, encodeWsMessage, decodeWs, MessageType.of, withType, validated, built,
      hpost, sessionCreateSchema, hplayer, hip, py.port_num hport]
  | sessionCreated sessionId joinIndex =>
    obtain ⟨hsession, hjoin⟩ := hschema
    simp [decodeWsMessage, encodeWsMessage, decodeWs, MessageType.of, withType, validated, built,
      hpost, sessionCreatedSchema, hsession, hjoin]
  | sessionJoin m =>
    obtain ⟨hsession, hplayer, hip, hport, hrejoin⟩ := hschema
    simp [decodeWsMessage, encodeWsMessage, decodeWs, MessageType.of, withType, validated, built,
      hpost, sessionJoinSchema, hsession, hplayer, hip, py.port_num hport, py.optionalSlot_ofOption
      hrejoin]
  | sessionJoined joinIndex =>
    simp [decodeWsMessage, encodeWsMessage, decodeWs, MessageType.of, withType, validated, built,
      hpost, sessionJoinedSchema, py.atLeastZero_num hschema]
  | sessionRecreate m =>
    obtain ⟨hsession, hnext, hip, hport, hslot, hlength⟩ := hschema
    simp [decodeWsMessage, encodeWsMessage, decodeWs, MessageType.of, withType, validated, built,
      hpost, sessionRecreateSchema, hsession, hnext, hip, py.port_num hport, hslot,
      py.intList_map (p := (· ≤ maxPlayers)) hlength]
  | sessionClosed sessionId =>
    simp [decodeWsMessage, encodeWsMessage, decodeWs, MessageType.of, withType, validated, built,
      hpost, sessionClosedSchema, nonEmpty_str hschema]
  | sessionLeave m =>
    obtain ⟨hsession, hjoin⟩ := hschema
    simp [decodeWsMessage, encodeWsMessage, decodeWs, MessageType.of, withType, validated, built,
      hpost, sessionLeaveSchema, hsession, hjoin]
  | sessionJoinRejected sessionId reason =>
    obtain ⟨hsession, hreason⟩ := hschema
    simp [decodeWsMessage, encodeWsMessage, decodeWs, MessageType.of, withType, validated, built,
      hpost, sessionJoinRejectedSchema, hsession, hreason]
  | gameStart sessionId =>
    simp [decodeWsMessage, encodeWsMessage, decodeWs, MessageType.of, withType, validated, built,
      hpost, gameStartSchema, nonEmpty_str hschema]
  | blockDestroyed position =>
    simp [decodeWsMessage, encodeWsMessage, decodeWs, MessageType.of, withType, validated, built,
      hpost, blockDestroyedMessageSchema, py.intList_pair, blockDestroyedAt]
  | powerUpCollected powerupId playerId =>
    obtain ⟨hpowerup, hplayer⟩ := hschema
    simp [decodeWsMessage, encodeWsMessage, decodeWs, MessageType.of, withType, validated, built,
      hpost, powerUpCollectedMessageSchema, hpowerup, hplayer]
  | gateStateChanged gateId newState =>
    obtain ⟨hgate, hstate⟩ := hschema
    simp [decodeWsMessage, encodeWsMessage, decodeWs, MessageType.of, withType, validated, built,
      hpost, gateStateChangedMessageSchema, hgate, hstate]
  | playerLeft playerId =>
    simp [decodeWsMessage, encodeWsMessage, decodeWs, MessageType.of, withType, validated, built,
      hpost, playerLeftSchema, nonEmpty_str hschema]
  | playerDeath playerId enemyId =>
    obtain ⟨hplayer, henemy⟩ := hschema
    simp [decodeWsMessage, encodeWsMessage, decodeWs, MessageType.of, withType, validated, built,
      hpost, playerDeathMessageSchema, hplayer, henemy]
  | playerDisconnected playerId =>
    simp [decodeWsMessage, encodeWsMessage, decodeWs, MessageType.of, withType, validated, built,
      hpost, playerDisconnectedSchema, nonEmpty_str hschema]
  | levelReset =>
    simp [decodeWsMessage, encodeWsMessage, decodeWs, MessageType.of, withType, validated, built,
      hpost, levelResetMessageSchema]
  | newHostClaim m =>
    obtain ⟨hip, hsession⟩ := hschema
    simp [decodeWsMessage, encodeWsMessage, decodeWs, MessageType.of, withType, validated, built,
      hpost, newHostClaimSchema, NewHostClaim.asdict, hip, hsession]
  | electionAck m =>
    obtain ⟨hip, hsession⟩ := hschema
    simp [decodeWsMessage, encodeWsMessage, decodeWs, MessageType.of, withType, validated, built,
      hpost, electionAckSchema, ElectionAck.asdict, hip, hsession]
  | reconnectionAck m =>
    obtain ⟨hip, hudp, hevents, hsession⟩ := hschema
    simp [decodeWsMessage, encodeWsMessage, decodeWs, MessageType.of, withType, validated, built,
      hpost, reconnectionAckSchema, ReconnectionAck.asdict, hip, py.port_num hudp, py.port_num
      hevents, hsession]
  | rosterUpdate roster =>
    have hnodup : (roster.players.map RosterEntry.joinIndex).Nodup := by
      by_contra hdup
      rw [WsPayload.postInit, WsMessage.validate, if_neg hdup] at hpost
      cases hpost
    have hentries : (roster.players.map RosterEntry.fields).foldlM addEntry {} = .ok roster :=
      foldlM_addEntry hschema (by simpa using hnodup)
    rw [decodeWsMessage, encodeWsMessage, Json.dict?_obj (by simp)]
    simp [decodeWs, MessageType.of, rosterUpdateSchema_asdict py hschema, validated, hentries,
      built, hpost]
  | initialStateSync w =>
    obtain ⟨raw, hraw, htyped⟩ := decodeWorldState_toDict order hschema
    simp [decodeWsMessage, encodeWsMessage, decodeWs, MessageType.of, withType, validated,
      initialStateSyncSchema, hraw, htyped]

theorem decodeMessage_encodeMessage {m : UdpMessage} (hschema : m.InSchema)
    (hpost : m.postInit = .ok ()) :
    decodeMessage py (encodeMessage order m) = .ok (some m) := by
  cases m with
  | playerInput m =>
    obtain ⟨a, hdict, hcall, htyped⟩ := m.inputState.signature_call_asdict
    simp [decodeMessage, encodeMessage, decodeUdp, MessageType.of, withType, validated,
      playerInputSchema, nonEmpty_str hschema, hdict, hcall, htyped, builtUdp, hpost]
  | worldState m =>
    obtain ⟨raw, hraw, htyped⟩ := decodeWorldState_toDict order hschema
    simp [decodeMessage, encodeMessage, decodeUdp, MessageType.of, withType, validated,
      worldStateSchema, hraw, htyped]
  | hostDiscoveryProbe m =>
    obtain ⟨hsession, hip⟩ := hschema
    simp [decodeMessage, encodeMessage, decodeUdp, MessageType.of, withType, validated,
      hostDiscoveryProbeSchema, hsession, hip, builtUdp, hpost]
  | hostIdentityResponse m =>
    obtain ⟨hsession, hip⟩ := hschema
    simp [decodeMessage, encodeMessage, decodeUdp, MessageType.of, withType, validated,
      hostIdentityResponseSchema, hsession, hip, builtUdp, hpost]
  | election m =>
    cases m with
    | newHostClaim m =>
      obtain ⟨hip, hsession⟩ := hschema
      simp [decodeMessage, encodeMessage, NewHostClaim.asdict, decodeUdp, MessageType.of, withType,
        validated, newHostClaimSchema, hip, hsession, builtUdp, hpost]
    | electionAck m =>
      obtain ⟨hip, hsession⟩ := hschema
      simp [decodeMessage, encodeMessage, ElectionAck.asdict, decodeUdp, MessageType.of, withType,
        validated, electionAckSchema, hip, hsession, builtUdp, hpost]
    | reconnectionAck m =>
      obtain ⟨hip, hudp, hevents, hsession⟩ := hschema
      simp [decodeMessage, encodeMessage, ReconnectionAck.asdict, decodeUdp, MessageType.of,
        withType, validated, reconnectionAckSchema, hip, py.port_num hudp, py.port_num hevents,
        hsession, builtUdp, hpost]

end

/-! ## Through the wire -/

theorem message_survives (text : JsonText) (py : Runtime) (order : SetOrder)
    {m : UdpMessage} (hschema : m.InSchema) (hpost : m.postInit = .ok ())
    (hlossless : text.Lossless (encodeMessage order m)) :
    text.decodeMessage py (text.encodeMessage order m) = .ok (some m) := by
  rw [JsonText.decodeMessage, JsonText.encodeMessage, JsonText.decode_toUTF8, hlossless,
    Fallible.ok_bind]
  exact decodeMessage_encodeMessage py order hschema hpost

/-- Every message of every kind survives the wire, and every world state its dictionary. -/
theorem wire_round_trip (text : JsonText) (py : Runtime) (order : SetOrder) :
    (∀ m : WsPayload, m.InSchema → m.postInit = .ok () →
      text.Lossless (encodeWsMessage order m) →
      text.receiveWs py (text.sendWs order m) = .ok (some m)) ∧
    (∀ m : UdpMessage, m.InSchema → m.postInit = .ok () →
      text.Lossless (encodeMessage order m) →
      text.decodeMessage py (text.encodeMessage order m) = .ok (some m)) ∧
    ∀ w : WorldState, w.Constructed →
      ∃ raw, WorldState.fromDict (w.toDict order) = .ok raw ∧ raw.typed = some w := by
  refine ⟨?_, fun m => message_survives text py order,
    fun w => WorldState.fromDict_toDict order⟩
  intro m hschema hpost hlossless
  rw [JsonText.receiveWs, JsonText.sendWs, hlossless, Fallible.ok_bind]
  exact decodeWsMessage_encodeWsMessage py order hschema hpost

/-! ## An instance -/

def recreateMessage : WsPayload := .sessionRecreate ⟨"s", 3, "10.0.0.2", 50002, 1, [0, 2]⟩

def inputMessage : UdpMessage := .playerInput ⟨"player2", 7, { jump := true }⟩

def recreateText : JsonText :=
  textOf
    ("\x7b\"session_id\": \"s\", \"next_join_index\": 3, \"host_ip\": \"10.0.0.2\", " ++
      "\"host_udp_port\": 50002, \"host_join_index\": 1, \"reserved_join_indices\": [0, 2], " ++
      "\"message_type\": \"session_recreate\"\x7d")
    (encodeWsMessage sortedOrder recreateMessage)

def inputText : JsonText :=
  textOf
    ("\x7b\"player_id\": \"player2\", \"sequence_number\": 7, \"input_state\": " ++
      "\x7b\"left\": false, \"right\": false, \"jump\": true, \"down\": false\x7d, " ++
      "\"message_type\": \"player_input\"\x7d")
    (encodeMessage sortedOrder inputMessage)

def heldGate : CooperativeGate where
  x := 3
  y := 4
  gateId := "gate-1"
  contributions := {"player2", "player1"}

def leftGoomba : Enemy :=
  Enemy.make ⟨"goomba-1", 10, 20, 51, 51, -50, 0, 90, none, .goomba⟩

def guardedWorld : WorldState where
  sequenceNumber := 12
  characters := Dict.ofList [("player1", { playerId := "player1", x := 64, y := 1 / 2 })]
  environment :=
    { enemies := Dict.ofList [("goomba-1", leftGoomba)]
      cooperativeGates := Dict.ofList [("gate-1", heldGate)] }
  respawnTimers := Dict.ofList [("player2", 5 / 4)]

theorem wire_round_trip_examples :
    recreateText.receiveWs strictRuntime (recreateText.sendWs sortedOrder recreateMessage) =
      .ok (some recreateMessage) ∧
    inputText.decodeMessage strictRuntime (inputText.encodeMessage sortedOrder inputMessage) =
      .ok (some inputMessage) ∧
    ∃ raw, WorldState.fromDict (guardedWorld.toDict sortedOrder) = .ok raw ∧
      raw.typed = some guardedWorld := by
  refine ⟨?_, ?_, ?_⟩
  · refine (wire_round_trip recreateText strictRuntime sortedOrder).1 recreateMessage ?_ rfl rfl
    simp [recreateMessage, WsPayload.InSchema, ValidPort, IsSlot, maxPlayers]
  · refine (wire_round_trip inputText strictRuntime sortedOrder).2.1 inputMessage ?_ rfl rfl
    simp [inputMessage, UdpMessage.InSchema]
  · refine (wire_round_trip inputText strictRuntime sortedOrder).2.2 guardedWorld ?_
    simp [guardedWorld, leftGoomba, WorldState.Constructed, Enemy.make, Dict.ofList, Dict.set]

end DistributedSmb
