import DistributedSmb.Shared.Messages

/-!
# Election components

The staggered timer of `election/coordinator.py`, the host failure detector and the buffer of the
last snapshot. Python's `None` and the sentinel `0.0` of a deadline are kept as in the source.
-/

namespace DistributedSmb

inductive ElectionState where
  | idle | electionPending | claimed | follower
  deriving DecidableEq, Repr

inductive ElectionEvent where
  | selfElected (myIp : Ip)
  | followingHost (claimerIp : Ip) (claimerJoinIndex : ℕ)
  deriving DecidableEq, Repr

structure ElectionCoordinator where
  joinIndex : ℕ
  myIp : Ip
  timeoutBaseS : ℚ := tElectionBaseS
  timeoutDeltaS : ℚ := tElectionDeltaS
  state : ElectionState := .idle
  currentHostIp : Option Ip := none
  currentHostJoinIndex : Option ℕ := none
  knownPeers : List Ip := []
  electionTimerExpiry : Option ℚ := none
  deriving DecidableEq, Repr

namespace ElectionCoordinator

def startElection (c : ElectionCoordinator) (knownPeers : List Ip) : ElectionCoordinator :=
  { c with
    state := .electionPending
    knownPeers := knownPeers
    currentHostIp := none
    currentHostJoinIndex := none }

def setElectionTimer (c : ElectionCoordinator) (currentTime : ℚ) : ElectionCoordinator :=
  { c with
    electionTimerExpiry := some (currentTime + (c.timeoutBaseS + c.joinIndex * c.timeoutDeltaS)) }

def timerNotSet : PyError :=
  .valueError
    "election_timer_expiry must be set before calling tick()
                    in ELECTION_PENDING state"

def tick (c : ElectionCoordinator) (currentTime : ℚ) :
    Except PyError (ElectionCoordinator × Option ElectionEvent) :=
  if c.state = .electionPending then
    match c.electionTimerExpiry with
    | none => .error timerNotSet
    | some expiry =>
      if currentTime ≥ expiry then .ok ({ c with state := .claimed }, some (.selfElected c.myIp))
      else .ok (c, none)
  else .ok (c, none)

/-- Only a claimer with a lower join index is followed. -/
def onNewHostClaim (c : ElectionCoordinator) (claimerJoinIndex : ℕ) (claimerIp : Ip) :
    ElectionCoordinator × Option ElectionEvent :=
  if claimerJoinIndex ≥ c.joinIndex then (c, none)
  else
    ({ c with
        state := .follower
        currentHostIp := some claimerIp
        currentHostJoinIndex := some claimerJoinIndex
        electionTimerExpiry := none },
      some (.followingHost claimerIp claimerJoinIndex))

/-- What a tick can do: elect itself out of a pending election, or nothing. -/
theorem tick_cases {c c' : ElectionCoordinator} {now : ℚ} {event : Option ElectionEvent}
    (h : c.tick now = .ok (c', event)) :
    (c' = c ∧ event = none) ∨
      (c.state = .electionPending ∧ c' = { c with state := .claimed } ∧
        event = some (.selfElected c.myIp)) := by
  unfold tick at h
  split at h
  case isTrue pending =>
    split at h
    · cases h
    · split at h <;> cases h
      · exact .inr ⟨pending, rfl, rfl⟩
      · exact .inl ⟨rfl, rfl⟩
  case isFalse => cases h; exact .inl ⟨rfl, rfl⟩

end ElectionCoordinator

structure HostTimeoutWatcher where
  timeoutS : ℚ := hostTimeoutS
  lastSnapshotTime : Option ℚ := none
  deriving DecidableEq, Repr

namespace HostTimeoutWatcher

def reset (w : HostTimeoutWatcher) (timestamp : ℚ) : HostTimeoutWatcher :=
  { w with lastSnapshotTime := some timestamp }

/-- A host that never sent a snapshot does not time out. -/
def tick (w : HostTimeoutWatcher) (currentTime : ℚ) : Bool :=
  match w.lastSnapshotTime with
  | none => false
  | some last => currentTime - last > w.timeoutS

end HostTimeoutWatcher

/-- The buffered snapshot and the engine that adopted it share one dictionary of respawn timers
until one of them is replaced. -/
structure EnvironmentalStateBuffer where
  last : Option WorldStateSnapshot := none
  timersShared : Bool := false
  deriving DecidableEq

def EnvironmentalStateBuffer.update (snapshot : WorldStateSnapshot) : EnvironmentalStateBuffer :=
  { last := some snapshot, timersShared := true }

end DistributedSmb
