import DistributedSmb.Election.Mixin

/-!
# Client frames

`gameplay/client.py` and the receiving half of `gameplay/events.py`. A frame is a fixed sequence of
calls; a call that reads the wall clock reads it once, as `now`. The reply of the recovery prober
is an input of the call that asks for it.
-/

namespace DistributedSmb

open Library

namespace Node

/-! ## Host failure detection -/

def ensureElectionComponents (n : Node) : Node :=
  match n.election.coordinator with
  | some _ => n
  | none =>
    let joinIndex :=
      ((n.roster.getPlayer n.localPlayerId).map RosterEntry.joinIndex).getD n.joinIndex
    { n with
      joinIndex := joinIndex
      envStateBuffer := some {}
      election :=
        { n.election with
          coordinator := some { joinIndex := joinIndex, myIp := n.localIp }
          timeoutWatcher := some {} } }

def resendHostVerifyProbe (n : Node) (now : ℚ) : Except PyError Node := do
  let probe ← HostDiscoveryProbe.checked ⟨n.sessionId, n.localIp⟩
  let n := { n with
    election := { n.election with hostVerifyNextProbe := now + hostVerifyResendIntervalS } }
  .ok (n.send [.udp (.hostDiscoveryProbe probe) n.remoteHost n.remotePort])

def withHostVerifyDeadline (n : Node) (deadline : ℚ) : Node :=
  { n with election := { n.election with hostVerifyDeadline := deadline } }

def sendHostVerifyProbe (n : Node) (now : ℚ) : Except PyError Node :=
  (n.withHostVerifyDeadline (now + hostVerifyTimeoutS)).resendHostVerifyProbe now

def startElection (n : Node) (coordinator : ElectionCoordinator) (now : ℚ) : Node :=
  { n with
    election :=
      { n.election with
        hostVerifyDeadline := 0
        electionTriggered := true
        coordinator :=
          some ((coordinator.startElection n.knownClientPeers).setElectionTimer now) } }

def tickHostVerify (n : Node) (coordinator : ElectionCoordinator) (watcher : HostTimeoutWatcher)
    (now : ℚ) : Except PyError Node :=
  if !watcher.tick now then .ok (n.withHostVerifyDeadline 0)
  else if now ≥ n.election.hostVerifyDeadline then .ok (n.startElection coordinator now)
  else if now ≥ n.election.hostVerifyNextProbe then n.resendHostVerifyProbe now
  else .ok n

def onHostIdentityResponse (n : Node) (msg : HostIdentityResponse) (now : ℚ) : Node :=
  if n.election.hostVerifyDeadline = 0 then n
  else if msg.sessionId ≠ n.sessionId then n
  else
    { n with
      election :=
        { n.election with
          hostVerifyDeadline := 0
          timeoutWatcher := n.election.timeoutWatcher.map fun w => w.reset now } }

/-! ## Reconnection -/

/-- Blocks, power-ups and gates of the buffered snapshot, which all survivors share. -/
def resyncEnvironmentFromBuffer (n : Node) : Node :=
  match n.bufferedSnapshot with
  | none => n
  | some last =>
    let w := n.engine.worldState
    let environment : EnvironmentalState :=
      { last.worldState.environment with enemies := w.environment.enemies }
    { n with engine := { n.engine with worldState := { w with environment := environment } } }

/-- Evict the crashed host and flag the first entry at the new host's address. -/
def repointRosterAt (n : Node) (newHostIp : Ip) : Node :=
  let n := n.evictHost
  match n.roster.getAllPlayers.find? fun e => e.host = newHostIp with
  | some newHost => n.promoteInRoster newHost.playerId
  | none => n

def resetElectionState (n : Node) : Node :=
  { n with
    election :=
      { n.election with
        electionTriggered := false
        pendingElectionAcks := []
        electionClaimDeadline := 0
        coordinator := none
        timeoutWatcher := some {}
        hostVerifyDeadline := 0 } }

def recalibratePredictionLead (n : Node) : Node :=
  { n with
    predictionLeadBaseline := 0
    predictionLeadCalibrationRemaining := predictionLeadCalibrationFrames
    visualCorrectionOffset := (0, 0) }

def reconnectTo (n : Node) (ack : ReconnectionAck) : Node :=
  { n with
    election := { n.election with reconnected := true }
    remoteHost := ack.newHostIp
    remotePort := ack.udpPort }

/-- The new host's sequence can be lower than the last one seen. -/
def forgetSnapshotSequence (n : Node) : Node := { n with lastSnapshotSequence := 0 }

/-- `reconnected` is set here and cleared nowhere. -/
def onReconnectionAck (n : Node) (ack : ReconnectionAck) : Node :=
  if n.election.reconnected || n.election.promotionDone then n
  else
    let n := (n.reconnectTo ack).resyncEnvironmentFromBuffer.forgetSnapshotSequence
    (n.repointRosterAt ack.newHostIp).resetElectionState.recalibratePredictionLead

/-- `foundIp` is what the prober hears from the followed host. -/
def tickReconnectionFallback (n : Node) (foundIp : Option Ip) (now : ℚ) : Except PyError Node :=
  if n.election.reconnected || n.election.followingHostIp.isNone then .ok n
  else if now - n.election.followingSince < reconnectionFallbackTimeoutS then .ok n
  else
    match foundIp with
    | none => .ok { n with election := { n.election with followingSince := now } }
    | some ip => do
      let ack ← ReconnectionAck.checked ⟨ip, hostUdpPort, gameEventWsPort, n.sessionId⟩
      let n := { n with
        election := { n.election with followingSince := now, followingHostIp := none } }
      .ok (n.onReconnectionAck ack)

/-- A suspicion is verified before it becomes an election. -/
def tickHostTimeout (n : Node) (coordinator : ElectionCoordinator) (watcher : HostTimeoutWatcher)
    (now : ℚ) : Except PyError Node :=
  if n.election.hostVerifyDeadline = 0 then
    if !n.election.electionTriggered && watcher.tick now then n.sendHostVerifyProbe now else .ok n
  else n.tickHostVerify coordinator watcher now

/-- One tick of the election timer, with the claim if it fires. -/
def tickCoordinator (n : Node) (now : ℚ) : Except PyError Node :=
  match n.election.coordinator with
  | none => .ok n
  | some coordinator => do
    let (coordinator, event) ← coordinator.tick now
    let n := { n with election := { n.election with coordinator := some coordinator } }
    match event with
    | some (.selfElected _) => n.onSelfElected now
    | _ => .ok n

def tickElectionState (n : Node) (foundIp : Option Ip) (now : ℚ) : Except PyError Node :=
  match n.election.coordinator, n.election.timeoutWatcher with
  | some coordinator, some watcher => do
    let n ← n.tickHostTimeout coordinator watcher now
    if n.election.electionTriggered then do
      let n ← n.tickCoordinator now
      let n ← n.tickClaimDeadline now
      n.tickReconnectionFallback foundIp now
    else .ok n
  | _, _ => .ok n

/-! ## Synchronisation -/

def onLobbyMessage (n : Node) : WsMessage → Node
  | .initialStateSync w =>
    { n with
      engine := { n.engine with worldState := w }
      lastSnapshotSequence := w.sequenceNumber
      envStateBuffer := n.envStateBuffer.map fun b => { b with timersShared := false } }
  | _ => n

def sendInputPacket (n : Node) (localInput : InputState) : Except PyError Node := do
  let sequenceNumber := n.inputSequenceNumber + 1
  let packet ← PlayerInputPacket.checked ⟨n.localPlayerId, sequenceNumber, localInput⟩
  let n := { n with inputSequenceNumber := sequenceNumber }
  .ok (n.send [.udp (.playerInput packet) n.remoteHost n.remotePort])

def predictTick (localInput : InputState) (sentAt now : ℚ) (n : Node) : Except PyError Node := do
  let p ← n.prediction.predictTick localInput tickInterval sentAt now
  .ok (n.withPrediction p)

/-- A pending drift correction skips the tick or doubles it. -/
def runPredictedTicks (n : Node) (localInput : InputState) (sentAt now : ℚ) :
    Except PyError Node :=
  let ticks := (1 + n.pendingTickAdjustment).toNat
  (List.replicate ticks ()).foldlM (fun n _ => n.predictTick localInput sentAt now)
    { n with pendingTickAdjustment := 0 }

def clearEvents (n : Node) : Node := { n with engine := { n.engine with events := [] } }

/-- A snapshot that is not newer than the last one is dropped. -/
def onSnapshot (n : Node) (snapshot : WorldStateSnapshot) (now : ℚ) : Except PyError Node :=
  if snapshot.sequenceNumber ≤ n.lastSnapshotSequence then .ok n
  else do
    let p ← n.prediction.reconcile snapshot now
    .ok { n.withPrediction p with
      lastSnapshotSequence := snapshot.sequenceNumber
      envStateBuffer := n.envStateBuffer.map fun _ => .update snapshot
      election :=
        { n.election with
          timeoutWatcher := n.election.timeoutWatcher.map fun w => w.reset now } }

def onElectionMessage (n : Node) (now : ℚ) : ElectionMessage → Except PyError Node
  | .newHostClaim claim => n.onNewHostClaim claim now
  | .electionAck ack => n.onElectionAck ack now
  | .reconnectionAck ack => .ok (n.onReconnectionAck ack)

/-- One datagram of `_drain_snapshot_packets`; an undecodable one raises. -/
def onDatagram (n : Node) (payload : Except PyError UdpMessage) (now : ℚ) :
    Except PyError Node := do
  match ← payload with
  | .election message => n.onElectionMessage now message
  | .hostIdentityResponse response => .ok (n.onHostIdentityResponse response now)
  | .worldState snapshot => n.onSnapshot snapshot now
  | .playerInput _ | .hostDiscoveryProbe _ => .ok n

/-- A reset clears the respawn timers in place, also those of a snapshot that shares them. -/
def clearSharedTimers (n : Node) : Node :=
  let clear (snapshot : WorldStateSnapshot) : WorldStateSnapshot :=
    { snapshot with worldState := { snapshot.worldState with respawnTimers := ∅ } }
  { n with
    envStateBuffer := n.envStateBuffer.map fun b =>
      if b.timersShared then { b with last := b.last.map clear } else b }

def applyToEngine (n : Node) (message : WsMessage) : Node :=
  { n with engine := n.engine.applyMessage message }

/-- One message of `_drain_game_events`. A departure that names this very node is ignored. -/
def onGameEvent (n : Node) (now : ℚ) : WsMessage → Except PyError Node
  | .playerLeft pid => .ok (if pid = n.localPlayerId then n else n.evictPlayer pid)
  | .rosterUpdate roster => n.mergeRoster roster
  | .election message => n.onElectionMessage now message
  | .levelReset => .ok ((n.applyToEngine .levelReset).clearSharedTimers)
  | message => .ok (n.applyToEngine message)

/-- The baseline is the calibrated lead, which a drift correction never moves. -/
def adjustPredictionLead (n : Node) : Node :=
  let pending : ℚ := n.prediction.pendingCount
  let baseline := n.predictionLeadBaseline
  let deviation := pending - baseline
  let n :=
    if deviation > predictionLeadDriftTolerance then { n with pendingTickAdjustment := -1 }
    else if deviation < -predictionLeadDriftTolerance then { n with pendingTickAdjustment := 1 }
    else if n.predictionLeadCalibrationRemaining > 0 then
      { n with
        predictionLeadBaseline := baseline + (pending - baseline) * predictionLeadEwmaAlpha }
    else n
  { n with predictionLeadCalibrationRemaining := n.predictionLeadCalibrationRemaining - 1 }

end Node

/-! ## Frames -/

/-- The calls of `_process_client_frame`, with what each reads from outside. -/
inductive ClientCall where
  | ensureElectionComponents
  | lobbyMessage (message : WsMessage)
  | sendInputPacket (localInput : InputState)
  | runPredictedTicks (localInput : InputState) (sentAt : ℚ)
  | clearEvents
  | datagram (payload : Except PyError UdpMessage)
  | gameEvent (message : WsMessage)
  | tickElectionState (foundIp : Option Ip)
  | adjustPredictionLead

namespace Node

def clientCall (n : Node) (now : ℚ) : ClientCall → Except PyError Node
  | .ensureElectionComponents => .ok n.ensureElectionComponents
  | .lobbyMessage message => .ok (n.onLobbyMessage message)
  | .sendInputPacket localInput => n.sendInputPacket localInput
  | .runPredictedTicks localInput sentAt => n.runPredictedTicks localInput sentAt now
  | .clearEvents => .ok n.clearEvents
  | .datagram payload => n.onDatagram payload now
  | .gameEvent message => n.onGameEvent now message
  | .tickElectionState foundIp => n.tickElectionState foundIp now
  | .adjustPredictionLead => .ok n.adjustPredictionLead

end Node

end DistributedSmb
